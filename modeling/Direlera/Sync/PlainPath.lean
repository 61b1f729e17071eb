import Direlera.Sync.DelayedGameSync

/-!
# The plain path under the output caches

`plainStep` is one call on the delayed engine without its output caches: the
combined outputs as bytes, and the state apart from these caches.
`step_eq_plainStep` says that the engine is the plain step followed by the
conversion loop, and `cacheOutputs_player` that this loop is the mirrored-window
sender run on each player's own outputs.
-/

namespace Direlera.Sync

open Direlera.Library Direlera.Library.MirroredWindow

variable {n : Nat}

/-- The input cache is a sender of the mirrored-window protocol. -/
def InputCache.sender : Sender InputCache Bytes 256 where
  window := InputCache.slots
  locate cache data := (cache.find data).map UInt8.toNat
  keep cache data := (cache.push data).1
  located := by
    intro cache data position found
    obtain ⟨pos, at_, rfl⟩ := Option.map_eq_some_iff.mp found
    exact InputCache.get_of_find at_
  kept := fun cache data => InputCache.push_slots cache data

/-- A response as a token of the protocol. -/
def ServerResponse.token : ServerResponse → Token Bytes
  | .gameData data => .literal data
  | .gameCache position => .reference position.toNat

theorem ServerResponse.token_injective : Function.Injective ServerResponse.token := by
  intro left right same
  cases left with
  | gameData data =>
      cases right with
      | gameData other => simpa [token] using same
      | gameCache position => simp [token] at same
  | gameCache position =>
      cases right with
      | gameData other => simp [token] at same
      | gameCache other => simpa [token, UInt8.toNat_inj] using same

/-- The responses addressed to one player, in order. -/
def responsesFor (player : Fin n) (outputs : List (CachedPlayerOutput n)) : List ServerResponse :=
  (outputs.filter fun output => output.playerId = player).map CachedPlayerOutput.response

@[simp] theorem responsesFor_append (player : Fin n) (first second : List (CachedPlayerOutput n)) :
    responsesFor player (first ++ second) =
      responsesFor player first ++ responsesFor player second := by
  simp [responsesFor]

namespace CachedGameSync

/-- With the cache enabled one output is one protocol step on its player's cache. -/
theorem makeCachedOutput_enabled {cached : CachedGameSync n}
    (enabled : cached.disableOutputCache = false) (player : Fin n) (output : Bytes) :
    (cached.makeCachedOutput player output).1.1.token =
        (InputCache.sender.encode (cached.outputCaches player) output).1 ∧
      (cached.makeCachedOutput player output).2 =
        { cached with
          outputCaches := Function.update cached.outputCaches player
            (InputCache.sender.encode (cached.outputCaches player) output).2 } := by
  obtain ⟨sync, inputCaches, outputCaches, disableOutputCache⟩ := cached
  simp only at enabled
  subst enabled
  unfold makeCachedOutput Sender.encode
  simp only
  cases found : (outputCaches player).find output with
  | none => simp [InputCache.sender, found, ServerResponse.token]
  | some position => simp [InputCache.sender, found, ServerResponse.token]

theorem makeCachedOutput_disabled {cached : CachedGameSync n}
    (disabled : cached.disableOutputCache = true) (player : Fin n) (output : Bytes) :
    cached.makeCachedOutput player output = ((.gameData output, false, none), cached) := by
  simp [makeCachedOutput, disabled]

/-- Replace the output caches and their setting. -/
def withOutput (cached : CachedGameSync n) (outputCaches : Fin n → InputCache)
    (disableOutputCache : Bool) : CachedGameSync n :=
  { cached with outputCaches, disableOutputCache }

/-- The conversion loop touches nothing but the output caches. -/
theorem cacheOutputs_withOutput (cached : CachedGameSync n) (raws : List (PlayerOutput n)) :
    (cached.cacheOutputs raws).2 =
      cached.withOutput (cached.cacheOutputs raws).2.outputCaches cached.disableOutputCache := by
  induction raws generalizing cached with
  | nil => rfl
  | cons raw rest ih =>
      simp only [cacheOutputs]
      rw [ih]
      unfold makeCachedOutput
      split
      · rfl
      · split <;> rfl

/-- Every output becomes one response with the same addressee. -/
theorem cacheOutputs_playerIds (cached : CachedGameSync n) (raws : List (PlayerOutput n)) :
    (cached.cacheOutputs raws).1.outputs.map CachedPlayerOutput.playerId =
      raws.map PlayerOutput.playerId := by
  induction raws generalizing cached with
  | nil => rfl
  | cons raw rest ih => simp [cacheOutputs, ih]

theorem cacheOutputs_disabled {cached : CachedGameSync n}
    (disabled : cached.disableOutputCache = true) (raws : List (PlayerOutput n)) :
    (cached.cacheOutputs raws).1.outputs =
        raws.map (fun raw => ⟨raw.playerId, .gameData raw.output⟩) ∧
      (cached.cacheOutputs raws).2 = cached := by
  induction raws with
  | nil => exact ⟨rfl, rfl⟩
  | cons raw rest ih => simp [cacheOutputs, makeCachedOutput_disabled disabled, ih]

/-- The conversion loop encodes each player's outputs over its own cache. -/
theorem cacheOutputs_player {cached : CachedGameSync n}
    (enabled : cached.disableOutputCache = false) (player : Fin n) (raws : List (PlayerOutput n)) :
    (responsesFor player (cached.cacheOutputs raws).1.outputs).map ServerResponse.token =
        (InputCache.sender.encodeAll (cached.outputCaches player)
          (SimplestGameSync.outputsFor player raws)).1 ∧
      (cached.cacheOutputs raws).2.outputCaches player =
        (InputCache.sender.encodeAll (cached.outputCaches player)
          (SimplestGameSync.outputsFor player raws)).2 := by
  induction raws generalizing cached with
  | nil => exact ⟨rfl, rfl⟩
  | cons raw rest ih =>
      obtain ⟨token, next⟩ := makeCachedOutput_enabled enabled raw.playerId raw.output
      have enabledNext :
          (cached.makeCachedOutput raw.playerId raw.output).2.disableOutputCache = false := by
        rw [next]
        exact enabled
      obtain ⟨tokens, caches⟩ := ih enabledNext
      simp only [cacheOutputs]
      rw [caches]
      by_cases mine : raw.playerId = player
      · subst mine
        simp only [responsesFor, SimplestGameSync.outputsFor, List.filter_cons, decide_true,
          if_true, List.map_cons, Sender.encodeAll, token] at tokens ⊢
        rw [tokens, next]
        simp
      · simp only [responsesFor, SimplestGameSync.outputsFor, List.filter_cons, mine, decide_false,
          Bool.false_eq_true, if_false] at tokens ⊢
        rw [tokens, next]
        simp [Function.update_of_ne (Ne.symm mine)]

end CachedGameSync

namespace DelayedGameSync

/-- Replace the output caches of the inner layer and their setting. -/
def withOutput (delayed : DelayedGameSync n) (outputCaches : Fin n → InputCache)
    (disableOutputCache : Bool) : DelayedGameSync n :=
  { delayed with inner := delayed.inner.withOutput outputCaches disableOutputCache }

/-- The inner layer is fed `bytes` by `player`; its input cache records them. -/
def plainFeed (delayed : DelayedGameSync n) (player : Fin n) (bytes : Bytes) :
    Except GameSyncError (List (PlayerOutput n)) × DelayedGameSync n :=
  let (result, sync) := delayed.inner.sync.processClientInput player bytes
  (result, { delayed with
    inner := { delayed.inner with
      sync
      inputCaches := Function.update delayed.inner.inputCaches player
        ((delayed.inner.inputCaches player).push bytes).1 } })

/-- The startup layer's treatment of a resolved input, without output caches. -/
def plainResolved (delayed : DelayedGameSync n) (player : Fin n) (bytes : Bytes) :
    Except GameSyncError (List (PlayerOutput n)) × DelayedGameSync n :=
  let sized := delayed.learnFrameSize bytes
  if sized.warmupSent player < sized.totalDelays player then
    (.ok [⟨player, List.replicate (n * sized.frameSize) 0⟩],
      { sized with
        queues := Function.update sized.queues player (sized.queues player ++ [bytes])
        warmupSent := Function.update sized.warmupSent player (sized.warmupSent player + 1) })
  else
    match sized.queues player with
    | due :: rest =>
        { sized with queues := Function.update sized.queues player rest }.plainFeed player due
    | [] => sized.plainFeed player bytes

/-- The three phases of a player: warmup, catch-up and steady. -/
theorem plainResolved_cases (delayed : DelayedGameSync n) (player : Fin n) (bytes : Bytes) :
    let sized := delayed.learnFrameSize bytes
    (sized.warmupSent player < sized.totalDelays player ∧
      delayed.plainResolved player bytes =
        (.ok [⟨player, List.replicate (n * sized.frameSize) 0⟩],
          { sized with
            queues := Function.update sized.queues player (sized.queues player ++ [bytes])
            warmupSent :=
              Function.update sized.warmupSent player (sized.warmupSent player + 1) })) ∨
    (sized.totalDelays player ≤ sized.warmupSent player ∧
      ∃ due rest, sized.queues player = due :: rest ∧
        delayed.plainResolved player bytes =
          { sized with queues := Function.update sized.queues player rest }.plainFeed player due) ∨
    (sized.totalDelays player ≤ sized.warmupSent player ∧ sized.queues player = [] ∧
      delayed.plainResolved player bytes = sized.plainFeed player bytes) := by
  intro sized
  rcases Nat.lt_or_ge (sized.warmupSent player) (sized.totalDelays player) with warm | warmed
  · exact .inl ⟨warm, if_pos warm⟩
  · have skipped : delayed.plainResolved player bytes =
        match sized.queues player with
        | due :: rest =>
            { sized with queues := Function.update sized.queues player rest }.plainFeed player due
        | [] => sized.plainFeed player bytes := if_neg (Nat.not_lt.mpr warmed)
    rw [skipped]
    cases queued : sized.queues player with
    | cons due rest => exact .inr (.inl ⟨warmed, due, rest, rfl, rfl⟩)
    | nil => exact .inr (.inr ⟨warmed, rfl, rfl⟩)

@[simp] theorem learnFrameSize_inner (delayed : DelayedGameSync n) (bytes : Bytes) :
    (delayed.learnFrameSize bytes).inner = delayed.inner := by
  unfold learnFrameSize
  split <;> rfl

@[simp] theorem learnFrameSize_inputCaches (delayed : DelayedGameSync n) (bytes : Bytes) :
    (delayed.learnFrameSize bytes).inputCaches = delayed.inputCaches := by
  unfold learnFrameSize
  split <;> rfl

@[simp] theorem learnFrameSize_queues (delayed : DelayedGameSync n) (bytes : Bytes) :
    (delayed.learnFrameSize bytes).queues = delayed.queues := by
  unfold learnFrameSize
  split <;> rfl

@[simp] theorem learnFrameSize_warmupSent (delayed : DelayedGameSync n) (bytes : Bytes) :
    (delayed.learnFrameSize bytes).warmupSent = delayed.warmupSent := by
  unfold learnFrameSize
  split <;> rfl

@[simp] theorem learnFrameSize_totalDelays (delayed : DelayedGameSync n) (bytes : Bytes) :
    (delayed.learnFrameSize bytes).totalDelays = delayed.totalDelays := by
  unfold learnFrameSize
  split <;> rfl

/-- One call on the delayed engine, without output caches. -/
def plainStep (delayed : DelayedGameSync n) :
    Call → Except GameSyncError (List (PlayerOutput n)) × DelayedGameSync n
  | .input playerId message =>
      if inRange : playerId < n then
        match resolveInput delayed.inputCaches ⟨playerId, inRange⟩ message with
        | (.error error, inputCaches) => (.error error, { delayed with inputCaches })
        | (.ok bytes, inputCaches) =>
            plainResolved { delayed with inputCaches } ⟨playerId, inRange⟩ bytes
      else (.error (.invalidPlayerId playerId n), delayed)
  | .drop playerId =>
      let (result, sync) := delayed.inner.sync.markPlayerDropped playerId
      (result, { delayed with
        inner := { delayed.inner with sync }
        queues :=
          if inRange : playerId < n then Function.update delayed.queues ⟨playerId, inRange⟩ []
          else delayed.queues })

/-- The conversion loop after a plain step. -/
def cacheResult (outcome : Except GameSyncError (List (PlayerOutput n)) × DelayedGameSync n) :
    Except GameSyncError (List (CachedPlayerOutput n)) × DelayedGameSync n :=
  match outcome with
  | (.ok raws, staged) =>
      (.ok (staged.inner.cacheOutputs raws).1.outputs,
        { staged with inner := (staged.inner.cacheOutputs raws).2 })
  | (.error error, staged) => (.error error, staged)

/-- Feeding the inner layer is a plain feed followed by the conversion loop. -/
theorem processClientInput_inner (delayed : DelayedGameSync n) (player : Fin n) (bytes : Bytes) :
    ((delayed.inner.processClientInput player (.gameData bytes)).1.map CallReport.outputs,
        { delayed with
          inner := (delayed.inner.processClientInput player (.gameData bytes)).2 }) =
      cacheResult (delayed.plainFeed player bytes) := by
  unfold CachedGameSync.processClientInput plainFeed
  simp only [player.isLt, dif_pos, resolveInput]
  cases delayed.inner.sync.processClientInput player bytes with
  | mk result sync =>
      cases result with
      | error error => rfl
      | ok raws =>
          rfl

/-- Handling a resolved input is the plain treatment followed by the conversion loop. -/
theorem processResolved_eq (delayed : DelayedGameSync n) (player : Fin n) (bytes : Bytes) :
    ((delayed.processResolved player bytes).1.map CallReport.outputs,
        (delayed.processResolved player bytes).2) =
      cacheResult (delayed.plainResolved player bytes) := by
  unfold processResolved plainResolved
  generalize delayed.learnFrameSize bytes = sized
  by_cases warm : sized.warmupSent player < sized.totalDelays player
  · simp only [warm, if_true]
    rfl
  · simp only [warm, if_false]
    cases queued : sized.queues player with
    | nil => exact processClientInput_inner sized player bytes
    | cons due rest =>
        exact processClientInput_inner
          { sized with queues := Function.update sized.queues player rest } player due

/-- Every call is the plain step followed by the conversion loop. -/
theorem step_eq_plainStep (delayed : DelayedGameSync n) (call : Call) :
    (machine n).step delayed call = cacheResult (delayed.plainStep call) := by
  cases call with
  | drop playerId =>
      simp only [machine, markPlayerDropped, CachedGameSync.markPlayerDropped, plainStep]
      cases delayed.inner.sync.markPlayerDropped playerId with
      | mk result sync =>
          cases result with
          | error error => rfl
          | ok raws =>
              rfl
  | input playerId message =>
      simp only [machine, processClientInput, plainStep]
      by_cases inRange : playerId < n
      · simp only [inRange, dif_pos]
        cases resolveInput delayed.inputCaches ⟨playerId, inRange⟩ message with
        | mk resolved inputCaches =>
            cases resolved with
            | error error => rfl
            | ok bytes => exact processResolved_eq { delayed with inputCaches } _ bytes
      · simp only [inRange, dif_neg, not_false_eq_true]
        rfl

/-! ## Runs -/

/-- The engine without its output caches as a machine. -/
def plainMachine (n : Nat) : Transducer (DelayedGameSync n) Call
    (Except GameSyncError (List (PlayerOutput n))) where
  step := plainStep

theorem learnFrameSize_withOutput (delayed : DelayedGameSync n)
    (outputCaches : Fin n → InputCache) (disableOutputCache : Bool) (bytes : Bytes) :
    (delayed.withOutput outputCaches disableOutputCache).learnFrameSize bytes =
      (delayed.learnFrameSize bytes).withOutput outputCaches disableOutputCache := by
  have sameSize : (delayed.withOutput outputCaches disableOutputCache).frameSize =
      delayed.frameSize := rfl
  simp only [learnFrameSize, sameSize]
  split <;> rfl

theorem plainResolved_withOutput (delayed : DelayedGameSync n)
    (outputCaches : Fin n → InputCache) (disableOutputCache : Bool) (player : Fin n)
    (bytes : Bytes) :
    (delayed.withOutput outputCaches disableOutputCache).plainResolved player bytes =
      ((delayed.plainResolved player bytes).1,
        (delayed.plainResolved player bytes).2.withOutput outputCaches disableOutputCache) := by
  unfold plainResolved
  rw [learnFrameSize_withOutput]
  generalize delayed.learnFrameSize bytes = sized
  by_cases warm : sized.warmupSent player < sized.totalDelays player
  · have warmToo : (sized.withOutput outputCaches disableOutputCache).warmupSent player <
        (sized.withOutput outputCaches disableOutputCache).totalDelays player := warm
    simp only [warm, warmToo, if_true]
    rfl
  · have warmToo : ¬ (sized.withOutput outputCaches disableOutputCache).warmupSent player <
        (sized.withOutput outputCaches disableOutputCache).totalDelays player := warm
    have sameQueues : (sized.withOutput outputCaches disableOutputCache).queues = sized.queues := rfl
    simp only [warm, warmToo, if_false, sameQueues]
    cases sized.queues player <;> rfl

/-- The plain step neither reads nor changes the output caches and their setting. -/
theorem plainStep_withOutput (delayed : DelayedGameSync n) (outputCaches : Fin n → InputCache)
    (disableOutputCache : Bool) (call : Call) :
    (delayed.withOutput outputCaches disableOutputCache).plainStep call =
      ((delayed.plainStep call).1,
        (delayed.plainStep call).2.withOutput outputCaches disableOutputCache) := by
  cases call with
  | drop playerId => rfl
  | input playerId message =>
      have sameCaches : (delayed.withOutput outputCaches disableOutputCache).inputCaches =
          delayed.inputCaches := rfl
      simp only [plainStep, sameCaches]
      by_cases inRange : playerId < n
      · simp only [inRange, dif_pos]
        cases resolveInput delayed.inputCaches ⟨playerId, inRange⟩ message with
        | mk resolved inputCaches =>
            cases resolved with
            | error error => rfl
            | ok bytes =>
                exact plainResolved_withOutput { delayed with inputCaches } _ _ _ _
      · simp only [inRange, dif_neg, not_false_eq_true]

/-- The output caches after every player's outputs were encoded in order. -/
def encodedCaches (caches : Fin n → InputCache) (raws : List (PlayerOutput n)) :
    Fin n → InputCache :=
  fun player => (InputCache.sender.encodeAll (caches player)
    (SimplestGameSync.outputsFor player raws)).2

theorem encodedCaches_append (caches : Fin n → InputCache)
    (first second : List (PlayerOutput n)) :
    encodedCaches caches (first ++ second) =
      encodedCaches (encodedCaches caches first) second := by
  funext player
  simp [encodedCaches, Sender.encodeAll_append]

/-- Addressees of the outputs a call returned, or its error. -/
def addressees (result : Except GameSyncError (List (CachedPlayerOutput n))) :
    Except GameSyncError (List (Fin n)) :=
  result.map (List.map CachedPlayerOutput.playerId)

/-- With the caches enabled a call is the plain step, encoded for each player. -/
theorem step_enabled (plain : DelayedGameSync n) (caches : Fin n → InputCache) (call : Call) :
    addressees ((machine n).step (plain.withOutput caches false) call).1 =
        (plain.plainStep call).1.map (List.map PlayerOutput.playerId) ∧
      ((machine n).step (plain.withOutput caches false) call).2 =
        (plain.plainStep call).2.withOutput
          (encodedCaches caches (SimplestGameSync.returned (plain.plainStep call).1)) false ∧
      ∀ player, (responsesFor player (SimplestGameSync.returned
            ((machine n).step (plain.withOutput caches false) call).1)).map ServerResponse.token =
        (InputCache.sender.encodeAll (caches player) (SimplestGameSync.outputsFor player
          (SimplestGameSync.returned (plain.plainStep call).1))).1 := by
  rw [step_eq_plainStep, plainStep_withOutput]
  cases plain.plainStep call with
  | mk result staged =>
      cases result with
      | error error => exact ⟨rfl, rfl, fun _ => rfl⟩
      | ok raws =>
          have enabled : (staged.withOutput caches false).inner.disableOutputCache = false := rfl
          have encoded := fun player => CachedGameSync.cacheOutputs_player enabled player raws
          refine ⟨?_, ?_, fun player => (encoded player).1⟩
          · simp only [cacheResult, addressees, Except.map, Except.ok.injEq]
            exact CachedGameSync.cacheOutputs_playerIds _ raws
          · simp only [cacheResult, SimplestGameSync.returned]
            rw [CachedGameSync.cacheOutputs_withOutput, enabled]
            have caches : ((staged.withOutput caches false).inner.cacheOutputs raws).2.outputCaches =
                encodedCaches caches raws := funext fun player => (encoded player).2
            rw [caches]
            rfl

/-- With the caches disabled a call is the plain step, sent literally. -/
theorem step_disabled (plain : DelayedGameSync n) (caches : Fin n → InputCache) (call : Call) :
    (machine n).step (plain.withOutput caches true) call =
      ((plain.plainStep call).1.map (List.map fun raw => ⟨raw.playerId, .gameData raw.output⟩),
        (plain.plainStep call).2.withOutput caches true) := by
  rw [step_eq_plainStep, plainStep_withOutput]
  cases plain.plainStep call with
  | mk result staged =>
      cases result with
      | error error => rfl
      | ok raws =>
          have disabled : (staged.withOutput caches true).inner.disableOutputCache = true := rfl
          obtain ⟨outputs, unchanged⟩ := CachedGameSync.cacheOutputs_disabled disabled raws
          simp only [cacheResult, outputs, unchanged]
          rfl

/-- With the caches enabled a run is the plain run, encoded for each player. -/
theorem run_enabled (plain : DelayedGameSync n) (caches : Fin n → InputCache)
    (calls : List Call) :
    ((machine n).outputs (plain.withOutput caches false) calls).map addressees =
        ((plainMachine n).outputs plain calls).map
          (Except.map (List.map PlayerOutput.playerId)) ∧
      (machine n).final (plain.withOutput caches false) calls =
        ((plainMachine n).final plain calls).withOutput (encodedCaches caches
          (((plainMachine n).outputs plain calls).flatMap SimplestGameSync.returned)) false ∧
      ∀ player, (responsesFor player (((machine n).outputs (plain.withOutput caches false)
            calls).flatMap SimplestGameSync.returned)).map ServerResponse.token =
        (InputCache.sender.encodeAll (caches player) (SimplestGameSync.outputsFor player
          (((plainMachine n).outputs plain calls).flatMap SimplestGameSync.returned))).1 := by
  induction calls generalizing plain caches with
  | nil => exact ⟨rfl, rfl, fun _ => rfl⟩
  | cons call rest ih =>
      obtain ⟨shape, state, tokens⟩ := step_enabled plain caches call
      obtain ⟨shapes, final, allTokens⟩ := ih (plain.plainStep call).2
        (encodedCaches caches (SimplestGameSync.returned (plain.plainStep call).1))
      simp only [Transducer.outputs_cons, Transducer.final_cons, List.map_cons,
        List.flatMap_cons, state]
      refine ⟨?_, ?_, fun player => ?_⟩
      · rw [shape, shapes]
        rfl
      · rw [final, ← encodedCaches_append]
        rfl
      · rw [responsesFor_append, List.map_append, tokens, allTokens,
          SimplestGameSync.outputsFor_append, Sender.encodeAll_append]
        rfl

/-- With the caches disabled a run is the plain run, sent literally. -/
theorem run_disabled (plain : DelayedGameSync n) (caches : Fin n → InputCache)
    (calls : List Call) :
    (machine n).outputs (plain.withOutput caches true) calls =
        ((plainMachine n).outputs plain calls).map
          (Except.map (List.map fun raw => ⟨raw.playerId, .gameData raw.output⟩)) ∧
      (machine n).final (plain.withOutput caches true) calls =
        ((plainMachine n).final plain calls).withOutput caches true := by
  induction calls generalizing plain with
  | nil => exact ⟨rfl, rfl⟩
  | cons call rest ih =>
      obtain ⟨outputs, final⟩ := ih (plain.plainStep call).2
      rw [Transducer.outputs_cons, Transducer.final_cons, step_disabled]
      exact ⟨congrArg _ outputs, final⟩

end DelayedGameSync

end Direlera.Sync
