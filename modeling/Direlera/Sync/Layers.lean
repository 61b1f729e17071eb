import Direlera.Sync.PlainPath

/-!
# What each layer makes of the next

The cache layer resolves an input, has the combiner process it and converts the answer.
The startup layer resolves an input in caches of its own, and then warms up, flushes a
saved input or passes the input on.
-/

namespace Direlera.Sync

open Direlera.Library

variable {n : Nat}

namespace CachedGameSync

/-- Replace the input caches. -/
def withInputCaches (cached : CachedGameSync n) (inputCaches : Fin n → InputCache) :
    CachedGameSync n :=
  { cached with inputCaches }

/-- What the cache layer makes of an answer of the combiner. -/
def convert (cached : CachedGameSync n) :
    Except GameSyncError (List (PlayerOutput n)) × SimplestGameSync n →
      Except GameSyncError (CallReport n) × CachedGameSync n
  | (.error error, sync) => (.error error, { cached with sync })
  | (.ok raws, sync) =>
      (.ok (cacheOutputs { cached with sync } raws).1, (cacheOutputs { cached with sync } raws).2)

/-- The part of `process_client_input` after the input was resolved. -/
def combine (cached : CachedGameSync n) (player : Fin n) (data : Bytes) :
    Except GameSyncError (CallReport n) × CachedGameSync n :=
  cached.convert (cached.sync.processClientInput player data)

/-- A resolved message is combined, and an unresolved one fails. -/
theorem processClientInput_resolved (cached : CachedGameSync n) (player : Fin n)
    (message : ClientInput) :
    cached.processClientInput player message =
      match resolveInput cached.inputCaches player message with
      | (.error error, inputCaches) => (.error error, cached.withInputCaches inputCaches)
      | (.ok data, inputCaches) => (cached.withInputCaches inputCaches).combine player data := by
  simp only [processClientInput, player.isLt, dif_pos]
  cases resolveInput cached.inputCaches player message with
  | mk resolved inputCaches =>
      cases resolved with
      | error error => rfl
      | ok data =>
          change _ = CachedGameSync.convert _ (cached.sync.processClientInput player data)
          dsimp only
          cases cached.sync.processClientInput player data with
          | mk result sync => cases result <;> rfl

/-- Record a literal input of a player. -/
def record (cached : CachedGameSync n) (player : Fin n) (data : Bytes) : CachedGameSync n :=
  cached.withInputCaches
    (Function.update cached.inputCaches player ((cached.inputCaches player).push data).1)

/-- A literal input is recorded and combined. -/
theorem processClientInput_literal (cached : CachedGameSync n) (player : Fin n) (data : Bytes) :
    cached.processClientInput player (.gameData data) =
      (cached.record player data).combine player data := by
  rw [processClientInput_resolved]
  rfl

theorem markPlayerDropped_eq_convert (cached : CachedGameSync n) (playerId : Nat) :
    cached.markPlayerDropped playerId =
      ((cached.convert (cached.sync.markPlayerDropped playerId)).1.map CallReport.outputs,
        (cached.convert (cached.sync.markPlayerDropped playerId)).2) := by
  unfold markPlayerDropped
  cases cached.sync.markPlayerDropped playerId with
  | mk result sync => cases result <;> rfl

/-- The conversion loop does not look at the input caches. -/
theorem cacheOutputs_withInputCaches (cached : CachedGameSync n)
    (inputCaches : Fin n → InputCache) (raws : List (PlayerOutput n)) :
    (cached.withInputCaches inputCaches).cacheOutputs raws =
      ((cached.cacheOutputs raws).1, (cached.cacheOutputs raws).2.withInputCaches inputCaches) := by
  induction raws generalizing cached with
  | nil => rfl
  | cons raw rest ih =>
      have made : (cached.withInputCaches inputCaches).makeCachedOutput raw.playerId raw.output =
          ((cached.makeCachedOutput raw.playerId raw.output).1,
            (cached.makeCachedOutput raw.playerId raw.output).2.withInputCaches inputCaches) := by
        unfold makeCachedOutput
        cases disabled : cached.disableOutputCache with
        | true => simp [withInputCaches, disabled]
        | false =>
            cases found : (cached.outputCaches raw.playerId).find raw.output with
            | some position => simp [withInputCaches, disabled, found]
            | none => simp [withInputCaches, disabled, found]
      simp only [cacheOutputs, made, ih]

/-- Neither does what is made of an answer of the combiner. -/
theorem convert_withInputCaches (cached : CachedGameSync n) (inputCaches : Fin n → InputCache)
    (answer : Except GameSyncError (List (PlayerOutput n)) × SimplestGameSync n) :
    (cached.withInputCaches inputCaches).convert answer =
      ((cached.convert answer).1, (cached.convert answer).2.withInputCaches inputCaches) := by
  obtain ⟨result, sync⟩ := answer
  cases result with
  | error error => rfl
  | ok raws =>
      have converted := cacheOutputs_withInputCaches { cached with sync } inputCaches raws
      exact congrArg (fun outcome : CallReport n × CachedGameSync n =>
        ((Except.ok outcome.1 : Except GameSyncError (CallReport n)), outcome.2)) converted

/-- The conversion keeps the combiner as it answered. -/
@[simp] theorem sync_convert (cached : CachedGameSync n)
    (answer : Except GameSyncError (List (PlayerOutput n)) × SimplestGameSync n) :
    (cached.convert answer).2.sync = answer.2 := by
  obtain ⟨result, sync⟩ := answer
  cases result with
  | error error => rfl
  | ok raws => exact congrArg CachedGameSync.sync (cacheOutputs_withOutput { cached with sync } raws)

@[simp] theorem sync_makeCachedOutput (cached : CachedGameSync n) (player : Fin n)
    (output : Bytes) : (cached.makeCachedOutput player output).2.sync = cached.sync := by
  unfold makeCachedOutput
  split
  · rfl
  · split <;> rfl

end CachedGameSync

namespace DelayedGameSync

/-- A resolved message is treated as its bytes, and an unresolved one fails. -/
theorem processClientInput_resolved (delayed : DelayedGameSync n) (player : Fin n)
    (message : ClientInput) :
    delayed.processClientInput player message =
      match resolveInput delayed.inputCaches player message with
      | (.error error, inputCaches) => (.error error, { delayed with inputCaches })
      | (.ok bytes, inputCaches) => { delayed with inputCaches }.processResolved player bytes := by
  simp only [processClientInput, player.isLt, dif_pos]
  cases resolveInput delayed.inputCaches player message with
  | mk resolved inputCaches => cases resolved <;> rfl

variable {delayed : DelayedGameSync n} {player : Fin n}

/-- Warming up answers the player by one frame and saves its input. -/
theorem processResolved_warming (warm : delayed.warmupSent player < delayed.totalDelays player)
    (bytes : Bytes) :
    let zero := List.replicate (n * (delayed.learnFrameSize bytes).frameSize) (0 : UInt8)
    delayed.processResolved player bytes =
      (.ok ⟨[⟨player, (delayed.inner.makeCachedOutput player zero).1.1⟩], false, none⟩,
        { delayed.learnFrameSize bytes with
          inner := (delayed.inner.makeCachedOutput player zero).2
          queues := Function.update delayed.queues player (delayed.queues player ++ [bytes])
          warmupSent :=
            Function.update delayed.warmupSent player (delayed.warmupSent player + 1) }) := by
  simp only [processResolved, learnFrameSize_inner, learnFrameSize_totalDelays,
    learnFrameSize_warmupSent, learnFrameSize_queues, warm, if_true]

/-- A flush has the wrapped layer record a saved input and combine it. -/
theorem processResolved_flushing (warmed : delayed.totalDelays player ≤ delayed.warmupSent player)
    {due : Bytes} {rest : List Bytes} (saved : delayed.queues player = due :: rest)
    (bytes : Bytes) :
    delayed.processResolved player bytes =
      (((delayed.inner.record player due).combine player due).1,
        { delayed.learnFrameSize bytes with
          inner := ((delayed.inner.record player due).combine player due).2
          queues := Function.update delayed.queues player rest }) := by
  simp only [processResolved, learnFrameSize_inner, learnFrameSize_totalDelays,
    learnFrameSize_warmupSent, learnFrameSize_queues, Nat.not_lt.mpr warmed, saved, if_false,
    CachedGameSync.processClientInput_literal]

/-- Without warmup and saved inputs the wrapped layer records the bytes and combines them. -/
theorem processResolved_passing (warmed : delayed.totalDelays player ≤ delayed.warmupSent player)
    (nothing : delayed.queues player = []) (bytes : Bytes) :
    delayed.processResolved player bytes =
      (((delayed.inner.record player bytes).combine player bytes).1,
        { delayed.learnFrameSize bytes with
          inner := ((delayed.inner.record player bytes).combine player bytes).2 }) := by
  simp only [processResolved, learnFrameSize_inner, learnFrameSize_totalDelays,
    learnFrameSize_warmupSent, learnFrameSize_queues, Nat.not_lt.mpr warmed, nothing, if_false,
    CachedGameSync.processClientInput_literal]

/-- The combiner after an input is as it was, or has processed some bytes of its player. -/
theorem sync_processResolved (delayed : DelayedGameSync n) (player : Fin n) (bytes : Bytes) :
    (delayed.processResolved player bytes).2.inner.sync = delayed.inner.sync ∨
      ∃ data, (delayed.processResolved player bytes).2.inner.sync =
        (delayed.inner.sync.processClientInput player data).2 := by
  rcases Nat.lt_or_ge (delayed.warmupSent player) (delayed.totalDelays player) with warm | warmed
  · left
    rw [processResolved_warming warm]
    exact CachedGameSync.sync_makeCachedOutput ..
  · right
    cases saved : delayed.queues player with
    | cons due rest =>
        rw [processResolved_flushing warmed saved]
        exact ⟨due, CachedGameSync.sync_convert ..⟩
    | nil =>
        rw [processResolved_passing warmed saved]
        exact ⟨bytes, CachedGameSync.sync_convert ..⟩

end DelayedGameSync

end Direlera.Sync
