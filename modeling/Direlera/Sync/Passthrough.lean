import Direlera.Sync.Layers

/-!
# Startup delays of 0

The startup layer with all warmups 0 answers every call as the cache layer does which it
wraps. Both resolve cached inputs, each in a cache of its own: `Mirrors` relates the
outer caches of the one to the caches of the other.
-/

namespace Direlera.Sync

open Direlera.Library

variable {n : Nat}

/-- What a call returns, in full. -/
inductive Answer (n : Nat) where
  | input (result : Except GameSyncError (CallReport n))
  | drop (result : Except GameSyncError (List (CachedPlayerOutput n)))
deriving DecidableEq

namespace CachedGameSync

/-- The cache layer as a machine which answers calls. -/
def machine (n : Nat) : Transducer (CachedGameSync n) Call (Answer n) where
  step cached call :=
    match call with
    | .input playerId message =>
        let (result, next) := cached.processClientInput playerId message
        (.input result, next)
    | .drop playerId =>
        let (result, next) := cached.markPlayerDropped playerId
        (.drop result, next)

end CachedGameSync

namespace DelayedGameSync

/-- The startup layer as a machine which answers calls in full. -/
def reportingMachine (n : Nat) : Transducer (DelayedGameSync n) Call (Answer n) where
  step delayed call :=
    match call with
    | .input playerId message =>
        let (result, next) := delayed.processClientInput playerId message
        (.input result, next)
    | .drop playerId =>
        let (result, next) := delayed.markPlayerDropped playerId
        (.drop result, next)

/-- A startup layer which never warms up stands for the cache layer with its own caches. -/
structure Mirrors (delayed : DelayedGameSync n) (cached : CachedGameSync n) : Prop where
  cold : ∀ i, delayed.totalDelays i = 0
  queues : ∀ i, delayed.queues i = []
  caches : delayed.inputCaches = cached.inputCaches
  inner : cached = delayed.inner.withInputCaches delayed.inputCaches

namespace Mirrors

variable {delayed : DelayedGameSync n} {cached : CachedGameSync n}

/-- Both layers make the same of an answer of the combiner, whatever is in their caches. -/
theorem convert (mirrors : delayed.Mirrors cached) (inner outer : Fin n → InputCache)
    (answer : Except GameSyncError (List (PlayerOutput n)) × SimplestGameSync n) :
    (cached.withInputCaches outer).convert answer =
      (((delayed.inner.withInputCaches inner).convert answer).1,
        ((delayed.inner.withInputCaches inner).convert answer).2.withInputCaches outer) := by
  rw [← CachedGameSync.convert_withInputCaches, mirrors.inner]
  rfl

/-- An input is answered alike. -/
theorem input (mirrors : delayed.Mirrors cached) (playerId : Nat) (message : ClientInput) :
    (delayed.processClientInput playerId message).1 = (cached.processClientInput playerId message).1 ∧
      (delayed.processClientInput playerId message).2.Mirrors
        (cached.processClientInput playerId message).2 := by
  by_cases inRange : playerId < n
  · have resolved := cached.processClientInput_resolved ⟨playerId, inRange⟩ message
    simp only at resolved
    simp only [processClientInput, inRange, dif_pos, resolved, mirrors.caches]
    cases resolveInput cached.inputCaches ⟨playerId, inRange⟩ message with
    | mk result inputCaches =>
        cases result with
        | error error => exact ⟨rfl, mirrors.cold, mirrors.queues, rfl, by rw [mirrors.inner]; rfl⟩
        | ok bytes =>
            have resolved := @processResolved_passing n { delayed with inputCaches }
              ⟨playerId, inRange⟩ (by simp [mirrors.cold]) (mirrors.queues _) bytes
            let inner := (delayed.inner.record ⟨playerId, inRange⟩ bytes).inputCaches
            have converted := mirrors.convert inner inputCaches
              (delayed.inner.sync.processClientInput playerId bytes)
            have combined : (cached.withInputCaches inputCaches).combine ⟨playerId, inRange⟩ bytes =
                (cached.withInputCaches inputCaches).convert
                  (delayed.inner.sync.processClientInput playerId bytes) := by
              rw [mirrors.inner]
              rfl
            simp only [resolved, combined, converted]
            refine ⟨rfl, ?_, ?_, ?_, ?_⟩
            · simpa using mirrors.cold
            · simpa using mirrors.queues
            · simp only [learnFrameSize_inputCaches]
              rfl
            · simp only [learnFrameSize_inputCaches]
              rfl
  · rw [processClientInput, CachedGameSync.processClientInput, dif_neg inRange, dif_neg inRange]
    exact ⟨rfl, mirrors⟩

/-- A drop is answered alike. -/
theorem drop (mirrors : delayed.Mirrors cached) (playerId : Nat) :
    (delayed.markPlayerDropped playerId).1 = (cached.markPlayerDropped playerId).1 ∧
      (delayed.markPlayerDropped playerId).2.Mirrors (cached.markPlayerDropped playerId).2 := by
  have converted := mirrors.convert delayed.inner.inputCaches cached.inputCaches
    (delayed.inner.sync.markPlayerDropped playerId)
  have marked : cached.markPlayerDropped playerId =
      (((cached.withInputCaches cached.inputCaches).convert
        (delayed.inner.sync.markPlayerDropped playerId)).1.map CallReport.outputs,
        ((cached.withInputCaches cached.inputCaches).convert
          (delayed.inner.sync.markPlayerDropped playerId)).2) := by
    rw [CachedGameSync.markPlayerDropped_eq_convert, mirrors.inner]
    rfl
  have cleared : ∀ i, (delayed.markPlayerDropped playerId).2.queues i = [] := by
    intro i
    simp only [markPlayerDropped]
    split
    next inRange =>
      by_cases same : i = ⟨playerId, inRange⟩
      · simp [same]
      · rw [Function.update_of_ne same, mirrors.queues]
    next => exact mirrors.queues i
  rw [marked, converted]
  refine ⟨?_, mirrors.cold, cleared, mirrors.caches, ?_⟩
  · exact congrArg Prod.fst (delayed.inner.markPlayerDropped_eq_convert playerId)
  · rw [← mirrors.caches]
    exact congrArg (fun outcome : Except GameSyncError (List (CachedPlayerOutput n)) ×
      CachedGameSync n => outcome.2.withInputCaches delayed.inputCaches)
      (delayed.inner.markPlayerDropped_eq_convert playerId).symm

end Mirrors

/-- A fresh startup layer which never warms up stands for the layer it wraps. -/
theorem mirrors_start (playerDelays : Fin n → Nat) (disableOutputCache : Bool) :
    (start playerDelays (fun _ => 0) disableOutputCache).Mirrors
      ((CachedGameSync.new playerDelays).withOutputCacheDisabled disableOutputCache) :=
  ⟨fun _ => rfl, fun _ => rfl, rfl, rfl⟩

/-- Startup delays of 0 are a transparent passthrough: call for call the wrapped layer
returns the same. -/
theorem outputs_passthrough (playerDelays : Fin n → Nat) (disableOutputCache : Bool)
    (calls : List Call) :
    (reportingMachine n).outputs (start playerDelays (fun _ => 0) disableOutputCache) calls =
      (CachedGameSync.machine n).outputs
        ((CachedGameSync.new playerDelays).withOutputCacheDisabled disableOutputCache) calls := by
  refine (reportingMachine n).outputs_eq_of_simulation Mirrors ?_
    (mirrors_start playerDelays disableOutputCache) calls
  intro delayed cached call mirrors
  cases call with
  | input playerId message =>
      obtain ⟨same, next⟩ := mirrors.input playerId message
      exact ⟨congrArg Answer.input same, next⟩
  | drop playerId =>
      obtain ⟨same, next⟩ := mirrors.drop playerId
      exact ⟨congrArg Answer.drop same, next⟩

end DelayedGameSync

end Direlera.Sync
