import Direlera.Sync.CachedGameSync

/-!
# The startup delay layer

`DelayedGameSync n` resolves inputs up front, answers a player's first calls by
zero frames while it saves their inputs, then flushes the saved inputs one per
call, and afterwards passes inputs on.
-/

namespace Direlera.Sync

open Direlera.Library

/-- Per-player startup delay buffers in front of the combiner. -/
structure DelayedGameSync (n : Nat) where
  inner : CachedGameSync n
  inputCaches : Fin n → InputCache
  queues : Fin n → List Bytes
  warmupSent : Fin n → Nat
  totalDelays : Fin n → Nat
  frameSize : Nat

/-- A call on the engine; player ids arrive unchecked. -/
inductive Call where
  | input (playerId : Nat) (message : ClientInput)
  | drop (playerId : Nat)
deriving DecidableEq, Repr

namespace DelayedGameSync

variable {n : Nat}

/-- `DelayedGameSync::with_player_delays`; the asserted length is the type. -/
def withPlayerDelays (inner : CachedGameSync n) (totalDelays : Fin n → Nat) :
    DelayedGameSync n where
  inner := inner
  inputCaches := fun _ => .new
  queues := fun _ => []
  warmupSent := fun _ => 0
  totalDelays := totalDelays
  frameSize := 0

/-- Learn the frame size from the first nonempty input. -/
def learnFrameSize (delayed : DelayedGameSync n) (bytes : Bytes) : DelayedGameSync n :=
  if delayed.frameSize = 0 ∧ bytes ≠ [] then { delayed with frameSize := bytes.length }
  else delayed

/-- `process_client_input` after the input was resolved to `bytes`. -/
def processResolved (delayed : DelayedGameSync n) (player : Fin n) (bytes : Bytes) :
    Except GameSyncError (CallReport n) × DelayedGameSync n :=
  let sized := delayed.learnFrameSize bytes
  if sized.warmupSent player < sized.totalDelays player then
    -- startup warmup: save the real input, return a zero frame
    let zero := List.replicate (n * sized.frameSize) (0 : UInt8)
    let ((response, _, _), inner) := sized.inner.makeCachedOutput player zero
    (.ok ⟨[⟨player, response⟩], false, none⟩,
      { sized with
        inner
        queues := Function.update sized.queues player (sized.queues player ++ [bytes])
        warmupSent := Function.update sized.warmupSent player (sized.warmupSent player + 1) })
  else
    match sized.queues player with
    | due :: rest =>
        -- catch-up: flush a saved input and drop the current packet
        let (result, inner) := sized.inner.processClientInput player (.gameData due)
        (result, { sized with inner, queues := Function.update sized.queues player rest })
    | [] =>
        let (result, inner) := sized.inner.processClientInput player (.gameData bytes)
        (result, { sized with inner })

/-- `DelayedGameSync::process_client_input`. -/
def processClientInput (delayed : DelayedGameSync n) (playerId : Nat) (input : ClientInput) :
    Except GameSyncError (CallReport n) × DelayedGameSync n :=
  if inRange : playerId < n then
    let (resolved, inputCaches) := resolveInput delayed.inputCaches ⟨playerId, inRange⟩ input
    match resolved with
    | .error error => (.error error, { delayed with inputCaches })
    | .ok bytes => processResolved { delayed with inputCaches } ⟨playerId, inRange⟩ bytes
  else (.error (.invalidPlayerId playerId n), delayed)

/-- `DelayedGameSync::mark_player_dropped`; buffered inputs of the player are moot. -/
def markPlayerDropped (delayed : DelayedGameSync n) (playerId : Nat) :
    Except GameSyncError (List (CachedPlayerOutput n)) × DelayedGameSync n :=
  let queues :=
    if inRange : playerId < n then Function.update delayed.queues ⟨playerId, inRange⟩ []
    else delayed.queues
  let (result, inner) := delayed.inner.markPlayerDropped playerId
  (result, { delayed with inner, queues })

/-- `DelayedGameSync::is_player_dropped`. -/
def isPlayerDropped (delayed : DelayedGameSync n) (playerId : Nat) : Bool :=
  delayed.inner.sync.isPlayerDropped playerId

/-- `DelayedGameSync::all_players_dropped`. -/
def allPlayersDropped (delayed : DelayedGameSync n) : Bool :=
  delayed.inner.sync.allPlayersDropped

/-- The engine as a machine which answers calls by its responses. -/
def machine (n : Nat) : Transducer (DelayedGameSync n) Call
    (Except GameSyncError (List (CachedPlayerOutput n))) where
  step delayed call :=
    match call with
    | .input playerId message =>
        let (result, next) := delayed.processClientInput playerId message
        (result.map CallReport.outputs, next)
    | .drop playerId => delayed.markPlayerDropped playerId

/-- A fresh engine: a combiner with the given player delays and cache setting
behind the given warmups. -/
def start (playerDelays warmups : Fin n → Nat) (disableOutputCache : Bool) : DelayedGameSync n :=
  withPlayerDelays ((CachedGameSync.new playerDelays).withOutputCacheDisabled disableOutputCache)
    warmups

end DelayedGameSync

end Direlera.Sync
