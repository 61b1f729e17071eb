import Direlera.Sync.SimplestGameSync

/-!
# The cache layer around the combiner

`CachedGameSync n` resolves cached inputs before the combiner and replaces
outputs which a player already holds by their position in its output cache.
-/

namespace Direlera.Sync

open Direlera.Library

/-- Output for a player with cache support. -/
structure CachedPlayerOutput (n : Nat) where
  playerId : Fin n
  response : ServerResponse
deriving DecidableEq, Repr

/-- What a successful call reports: the responses, whether an output cache
overflowed, and the last 64-entry boundary crossed. -/
structure CallReport (n : Nat) where
  outputs : List (CachedPlayerOutput n)
  cacheOverflowed : Bool
  milestone : Option Nat
deriving DecidableEq, Repr

variable {n : Nat}

/-- Resolve a message of a player against its input cache; literal data is
mirrored into the cache first. -/
def resolveInput (caches : Fin n → InputCache) (player : Fin n) :
    ClientInput → Except GameSyncError Bytes × (Fin n → InputCache)
  | .gameData data => (.ok data, Function.update caches player ((caches player).push data).1)
  | .gameCache position =>
      match (caches player).get position with
      | some bytes => (.ok bytes, caches)
      | none => (.error (.cachePositionNotFound player position), caches)

/-- Wrapper layer that adds `GameCache` support to `SimplestGameSync`. -/
structure CachedGameSync (n : Nat) where
  sync : SimplestGameSync n
  inputCaches : Fin n → InputCache
  outputCaches : Fin n → InputCache
  disableOutputCache : Bool

namespace CachedGameSync

/-- `CachedGameSync::new`. -/
def new (playerDelays : Fin n → Nat) : CachedGameSync n where
  sync := .new playerDelays
  inputCaches := fun _ => .new
  outputCaches := fun _ => .new
  disableOutputCache := false

/-- `CachedGameSync::with_output_cache_disabled`. -/
def withOutputCacheDisabled (cached : CachedGameSync n) (disabled : Bool) : CachedGameSync n :=
  { cached with disableOutputCache := disabled }

/-- `CachedGameSync::make_cached_output`: the response, whether the player's
output cache evicted, and the boundary it crossed. -/
def makeCachedOutput (cached : CachedGameSync n) (player : Fin n) (output : Bytes) :
    (ServerResponse × Bool × Option Nat) × CachedGameSync n :=
  if cached.disableOutputCache then ((.gameData output, false, none), cached)
  else
    match (cached.outputCaches player).find output with
    | some position => ((.gameCache position, false, none), cached)
    | none =>
        let before := (cached.outputCaches player).len
        let (pushed, overflowed) := (cached.outputCaches player).push output
        let after := pushed.len
        let milestone := if before / 64 ≠ after / 64 then some after else none
        ((.gameData output, overflowed, milestone),
          { cached with outputCaches := Function.update cached.outputCaches player pushed })

/-- The loop which converts the outputs of the combiner to responses. -/
def cacheOutputs (cached : CachedGameSync n) :
    List (PlayerOutput n) → CallReport n × CachedGameSync n
  | [] => (⟨[], false, none⟩, cached)
  | raw :: rest =>
      let ((response, overflowed, crossed), next) := cached.makeCachedOutput raw.playerId raw.output
      let (later, last) := next.cacheOutputs rest
      (⟨⟨raw.playerId, response⟩ :: later.outputs, overflowed || later.cacheOverflowed,
        later.milestone <|> crossed⟩, last)

/-- `CachedGameSync::process_client_input`. -/
def processClientInput (cached : CachedGameSync n) (playerId : Nat) (input : ClientInput) :
    Except GameSyncError (CallReport n) × CachedGameSync n :=
  if inRange : playerId < n then
    let (resolved, inputCaches) := resolveInput cached.inputCaches ⟨playerId, inRange⟩ input
    match resolved with
    | .error error => (.error error, { cached with inputCaches })
    | .ok data =>
        match cached.sync.processClientInput playerId data with
        | (.error error, sync) => (.error error, { cached with inputCaches, sync })
        | (.ok raws, sync) =>
            let (report, last) := cacheOutputs { cached with inputCaches, sync } raws
            (.ok report, last)
  else (.error (.invalidPlayerId playerId n), cached)

/-- `CachedGameSync::mark_player_dropped`. -/
def markPlayerDropped (cached : CachedGameSync n) (playerId : Nat) :
    Except GameSyncError (List (CachedPlayerOutput n)) × CachedGameSync n :=
  match cached.sync.markPlayerDropped playerId with
  | (.error error, sync) => (.error error, { cached with sync })
  | (.ok raws, sync) =>
      let (report, last) := cacheOutputs { cached with sync } raws
      (.ok report.outputs, last)

end CachedGameSync

end Direlera.Sync
