import Direlera.Sync.DelayedGameSync
import Direlera.Library.Faults

/-!
# The engine over vectors

The three layers once more, with the vectors of the source as lists. Every index into one
of them is checked and faults past its end, as a loop does which the source would not leave.
A call which returns has neither.
-/

namespace Direlera.Sync.Vectors

open Direlera.Library

/-- An output and the slot it is for. -/
structure PlayerOutput where
  playerId : Nat
  output : Bytes
deriving DecidableEq, Repr

/-- A response and the slot it is for. -/
structure CachedPlayerOutput where
  playerId : Nat
  response : ServerResponse
deriving DecidableEq, Repr

/-- What a successful input reports. -/
structure CallReport where
  outputs : List CachedPlayerOutput
  cacheOverflowed : Bool
  milestone : Option Nat
deriving DecidableEq, Repr

/-! ## The combiner -/

/-- `SimplestGameSync`. -/
structure SimplestGameSync where
  playerInput : List (List OneInput)
  senderBuffer : List (List OneInput)
  playerDelays : List Nat
  droppedPlayers : List Bool
  gameDataSize : Nat
deriving DecidableEq, Repr

/-- The sending loop of one buffer. -/
def sendBlocksWithin (requireLen : Nat) : Nat → List OneInput → Option (List Bytes × List OneInput)
  | 0, buffer => if requireLen ≤ buffer.length then none else some ([], buffer)
  | bound + 1, buffer =>
      if requireLen ≤ buffer.length then do
        let (outputs, rest) ← sendBlocksWithin requireLen bound (buffer.drop requireLen)
        some ((buffer.take requireLen).flatten :: outputs, rest)
      else some ([], buffer)

/-- It runs at most as often as the buffer has entries. -/
def sendBlocks (requireLen : Nat) (buffer : List OneInput) : Option (List Bytes × List OneInput) :=
  sendBlocksWithin requireLen buffer.length buffer

namespace SimplestGameSync

/-- `SimplestGameSync::new`. -/
def new (playerDelays : List Nat) : SimplestGameSync where
  playerInput := List.replicate playerDelays.length []
  senderBuffer := List.replicate playerDelays.length []
  playerDelays := playerDelays
  droppedPlayers := List.replicate playerDelays.length false
  gameDataSize := 0

/-- A player has input or is dropped. -/
def contributes (sync : SimplestGameSync) (entry : List OneInput × Nat) : Option Bool :=
  match entry.1 with
  | [] => sync.droppedPlayers[entry.2]?
  | _ :: _ => some true

/-- The guard of the draining loop. -/
def readyToDrain (sync : SimplestGameSync) : Option Bool := do
  let allReady ← sync.playerInput.zipIdx.allM sync.contributes
  some (allReady && sync.playerInput.any fun buffer => !buffer.isEmpty)

/-- Take an input from a queue; an absent input of a dropped player is zeros. -/
def takeInput (sync : SimplestGameSync) (entry : List OneInput × Nat) :
    Option (Option OneInput × List OneInput) :=
  match entry.1 with
  | input :: left => some (some input, left)
  | [] => do
      let dropped ← sync.droppedPlayers[entry.2]?
      some (if dropped then some (List.replicate sync.gameDataSize 0) else none, [])

/-- Take one input of each player. -/
def extractInputs (sync : SimplestGameSync) : Option (List OneInput × List (List OneInput)) := do
  let taken ← sync.playerInput.zipIdx.mapM sync.takeInput
  some (taken.filterMap Prod.fst, taken.map Prod.snd)

/-- Extend a send buffer, and send its whole blocks. -/
def sendTo (sync : SimplestGameSync) (extracted : List OneInput) (entry : List OneInput × Nat) :
    Option (List PlayerOutput × List OneInput) := do
  let delay ← sync.playerDelays[entry.2]?
  let (outputs, left) ← sendBlocks (delay * sync.playerDelays.length) (entry.1 ++ extracted)
  some (outputs.map fun output => ⟨entry.2, output⟩, left)

/-- Extend the send buffers, and send the whole blocks of each. -/
def sendReady (sync : SimplestGameSync) (extracted : List OneInput) :
    Option (List PlayerOutput × List (List OneInput)) := do
  let sent ← sync.senderBuffer.zipIdx.mapM (sync.sendTo extracted)
  some (sent.flatMap Prod.fst, sent.map Prod.snd)

/-- The body of the draining loop. -/
def drainRound (sync : SimplestGameSync) : Option (List PlayerOutput × SimplestGameSync) := do
  let (extracted, playerInput) ← sync.extractInputs
  let (outputs, senderBuffer) ← sync.sendReady extracted
  some (outputs, { sync with playerInput, senderBuffer })

/-- The draining loop. -/
def drainWithin : Nat → SimplestGameSync → Option (List PlayerOutput × SimplestGameSync)
  | 0, sync => do
      let ready ← sync.readyToDrain
      if ready then none else some ([], sync)
  | bound + 1, sync => do
      let ready ← sync.readyToDrain
      if ready then
        let (outputs, next) ← sync.drainRound
        let (later, last) ← drainWithin bound next
        some (outputs ++ later, last)
      else some ([], sync)

/-- `SimplestGameSync::drain_ready_inputs`; it runs at most as often as there are inputs. -/
def drainReadyInputs (sync : SimplestGameSync) : Option (List PlayerOutput × SimplestGameSync) :=
  drainWithin (sync.playerInput.map List.length).sum sync

/-- The queueing half of `process_client_input`. -/
def queueInput (sync : SimplestGameSync) (playerId : Nat) (input : Bytes) :
    Option SimplestGameSync := do
  let delay ← sync.playerDelays[playerId]?
  if 0 < delay ∧ input ≠ [] then
    let chunkSize := input.length / delay
    if 0 < chunkSize then
      let queued ← sync.playerInput[playerId]?
      let playerInput ← writeAt sync.playerInput playerId (queued ++ chunks chunkSize input)
      let gameDataSize := if sync.gameDataSize = 0 then chunkSize else sync.gameDataSize
      some { sync with playerInput, gameDataSize }
    else some sync
  else some sync

/-- `SimplestGameSync::process_client_input`. -/
def processClientInput (sync : SimplestGameSync) (playerId : Nat) (input : Bytes) :
    Option (Except GameSyncError (List PlayerOutput) × SimplestGameSync) :=
  if sync.playerInput.length ≤ playerId then
    some (.error (.invalidPlayerId playerId sync.playerInput.length), sync)
  else do
    let dropped ← sync.droppedPlayers[playerId]?
    if dropped then some (.ok [], sync)
    else
      let queued ← sync.queueInput playerId input
      let (results, drained) ← queued.drainReadyInputs
      some (.ok results, drained)

/-- `SimplestGameSync::mark_player_dropped`. -/
def markPlayerDropped (sync : SimplestGameSync) (playerId : Nat) :
    Option (Except GameSyncError (List PlayerOutput) × SimplestGameSync) :=
  if sync.droppedPlayers.length ≤ playerId then
    some (.error (.invalidPlayerId playerId sync.droppedPlayers.length), sync)
  else do
    let droppedPlayers ← writeAt sync.droppedPlayers playerId true
    let (results, drained) ← drainReadyInputs { sync with droppedPlayers }
    some (.ok results, drained)

end SimplestGameSync

/-! ## The cache layer -/

/-- Resolve a message of a player against its input cache. -/
def resolveInput (caches : List InputCache) (playerId : Nat) :
    ClientInput → Option (Except GameSyncError Bytes × List InputCache)
  | .gameData data => do
      let cache ← caches[playerId]?
      let pushed ← writeAt caches playerId (cache.push data).1
      some (.ok data, pushed)
  | .gameCache position => do
      let cache ← caches[playerId]?
      match cache.get position with
      | some bytes => some (.ok bytes, caches)
      | none => some (.error (.cachePositionNotFound playerId position), caches)

/-- `CachedGameSync`. -/
structure CachedGameSync where
  sync : SimplestGameSync
  inputCaches : List InputCache
  outputCaches : List InputCache
  disableOutputCache : Bool

namespace CachedGameSync

/-- `CachedGameSync::new`. -/
def new (playerDelays : List Nat) : CachedGameSync where
  sync := .new playerDelays
  inputCaches := List.replicate playerDelays.length .new
  outputCaches := List.replicate playerDelays.length .new
  disableOutputCache := false

/-- `CachedGameSync::with_output_cache_disabled`. -/
def withOutputCacheDisabled (cached : CachedGameSync) (disabled : Bool) : CachedGameSync :=
  { cached with disableOutputCache := disabled }

/-- `CachedGameSync::player_count`. -/
def playerCount (cached : CachedGameSync) : Nat := cached.sync.playerDelays.length

/-- `CachedGameSync::make_cached_output`. -/
def makeCachedOutput (cached : CachedGameSync) (playerId : Nat) (output : Bytes) :
    Option ((ServerResponse × Bool × Option Nat) × CachedGameSync) :=
  if cached.disableOutputCache then some ((.gameData output, false, none), cached)
  else do
    let cache ← cached.outputCaches[playerId]?
    match cache.find output with
    | some position => some ((.gameCache position, false, none), cached)
    | none => do
        let before := cache.len
        let (pushed, overflowed) := cache.push output
        let after := pushed.len
        let outputCaches ← writeAt cached.outputCaches playerId pushed
        let milestone := if before / 64 ≠ after / 64 then some after else none
        some ((.gameData output, overflowed, milestone), { cached with outputCaches })

/-- The loop which converts the outputs of the combiner to responses. -/
def cacheOutputs (cached : CachedGameSync) :
    List PlayerOutput → Option (CallReport × CachedGameSync)
  | [] => some (⟨[], false, none⟩, cached)
  | raw :: rest => do
      let ((response, overflowed, crossed), next) ← cached.makeCachedOutput raw.playerId raw.output
      let (later, last) ← next.cacheOutputs rest
      some (⟨⟨raw.playerId, response⟩ :: later.outputs, overflowed || later.cacheOverflowed,
        later.milestone <|> crossed⟩, last)

/-- `CachedGameSync::process_client_input`. -/
def processClientInput (cached : CachedGameSync) (playerId : Nat) (input : ClientInput) :
    Option (Except GameSyncError CallReport × CachedGameSync) :=
  if cached.playerCount ≤ playerId then
    some (.error (.invalidPlayerId playerId cached.playerCount), cached)
  else do
    let (resolved, inputCaches) ← resolveInput cached.inputCaches playerId input
    match resolved with
    | .error error => some (.error error, { cached with inputCaches })
    | .ok data => do
        let (result, sync) ← cached.sync.processClientInput playerId data
        match result with
        | .error error => some (.error error, { cached with inputCaches, sync })
        | .ok raws => do
            let (report, last) ← cacheOutputs { cached with inputCaches, sync } raws
            some (.ok report, last)

/-- `CachedGameSync::mark_player_dropped`. -/
def markPlayerDropped (cached : CachedGameSync) (playerId : Nat) :
    Option (Except GameSyncError (List CachedPlayerOutput) × CachedGameSync) := do
  let (result, sync) ← cached.sync.markPlayerDropped playerId
  match result with
  | .error error => some (.error error, { cached with sync })
  | .ok raws => do
      let (report, last) ← cacheOutputs { cached with sync } raws
      some (.ok report.outputs, last)

end CachedGameSync

/-! ## The startup layer -/

/-- `DelayedGameSync`. -/
structure DelayedGameSync where
  inner : CachedGameSync
  inputCaches : List InputCache
  queues : List (List Bytes)
  warmupSent : List Nat
  totalDelays : List Nat
  frameSize : Nat
  playerCount : Nat

namespace DelayedGameSync

/-- `DelayedGameSync::with_player_delays`, which asserts the number of delays. -/
def withPlayerDelays (inner : CachedGameSync) (totalDelays : List Nat) : Option DelayedGameSync :=
  if totalDelays.length = inner.playerCount then
    some {
      inner
      inputCaches := List.replicate inner.playerCount .new
      queues := List.replicate inner.playerCount []
      warmupSent := List.replicate inner.playerCount 0
      totalDelays
      frameSize := 0
      playerCount := inner.playerCount }
  else none

/-- Learn the frame size from the first nonempty input. -/
def learnFrameSize (delayed : DelayedGameSync) (bytes : Bytes) : DelayedGameSync :=
  if delayed.frameSize = 0 ∧ bytes ≠ [] then { delayed with frameSize := bytes.length }
  else delayed

/-- `process_client_input` after the input was resolved to `bytes`. -/
def processResolved (delayed : DelayedGameSync) (playerId : Nat) (bytes : Bytes) :
    Option (Except GameSyncError CallReport × DelayedGameSync) := do
  let sized := delayed.learnFrameSize bytes
  let totalDelay ← sized.totalDelays[playerId]?
  let sent ← sized.warmupSent[playerId]?
  let saved ← sized.queues[playerId]?
  if sent < totalDelay then
    let queues ← writeAt sized.queues playerId (saved ++ [bytes])
    let warmupSent ← writeAt sized.warmupSent playerId (sent + 1)
    let zero := List.replicate (sized.playerCount * sized.frameSize) (0 : UInt8)
    let ((response, _, _), inner) ← sized.inner.makeCachedOutput playerId zero
    some (.ok ⟨[⟨playerId, response⟩], false, none⟩, { sized with inner, queues, warmupSent })
  else
    match saved with
    | due :: rest => do
        let queues ← writeAt sized.queues playerId rest
        let (result, inner) ← sized.inner.processClientInput playerId (.gameData due)
        some (result, { sized with inner, queues })
    | [] => do
        let (result, inner) ← sized.inner.processClientInput playerId (.gameData bytes)
        some (result, { sized with inner })

/-- `DelayedGameSync::process_client_input`. -/
def processClientInput (delayed : DelayedGameSync) (playerId : Nat) (input : ClientInput) :
    Option (Except GameSyncError CallReport × DelayedGameSync) :=
  if delayed.playerCount ≤ playerId then
    some (.error (.invalidPlayerId playerId delayed.playerCount), delayed)
  else do
    let (resolved, inputCaches) ← resolveInput delayed.inputCaches playerId input
    match resolved with
    | .error error => some (.error error, { delayed with inputCaches })
    | .ok bytes => processResolved { delayed with inputCaches } playerId bytes

/-- `DelayedGameSync::mark_player_dropped`. -/
def markPlayerDropped (delayed : DelayedGameSync) (playerId : Nat) :
    Option (Except GameSyncError (List CachedPlayerOutput) × DelayedGameSync) := do
  let queues ←
    if playerId < delayed.playerCount then writeAt delayed.queues playerId []
    else some delayed.queues
  let (result, inner) ← delayed.inner.markPlayerDropped playerId
  some (result, { delayed with inner, queues })

/-- The engine as a machine which answers calls by its responses. -/
def machine : FaultingMachine DelayedGameSync Call
    (Except GameSyncError (List CachedPlayerOutput)) where
  step delayed call :=
    match call with
    | .input playerId message => do
        let (result, next) ← delayed.processClientInput playerId message
        some (result.map CallReport.outputs, next)
    | .drop playerId => delayed.markPlayerDropped playerId

/-- The errors of a call: a player out of range, or a cache position not below the number of
entries of its player's input cache. -/
inductive Fails (delayed : DelayedGameSync) : Call → GameSyncError → Prop
  | input {playerId : Nat} (message : ClientInput) (outOfRange : delayed.playerCount ≤ playerId) :
      Fails delayed (.input playerId message) (.invalidPlayerId playerId delayed.playerCount)
  | position {playerId : Nat} {position : UInt8} {cache : InputCache}
      (inRange : playerId < delayed.playerCount)
      (own : delayed.inputCaches[playerId]? = some cache) (absent : cache.len ≤ position.toNat) :
      Fails delayed (.input playerId (.gameCache position))
        (.cachePositionNotFound playerId position)
  | drop {playerId : Nat} (outOfRange : delayed.playerCount ≤ playerId) :
      Fails delayed (.drop playerId) (.invalidPlayerId playerId delayed.playerCount)

end DelayedGameSync

end Direlera.Sync.Vectors
