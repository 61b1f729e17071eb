import Direlera.Sync.StartupSchedule

/-!
# Network order between players does not matter

Without drops the whole engine is a function of the players' own message sequences:
the input caches and resolved inputs (`mirror`), the startup layer (`Scheduled`), the
streams of the combiner and, with them, every response. Only the chunk size learned by
the combiner may depend on who arrives first, and no merged frame is padded with it.
-/

namespace Direlera.Sync.DelayedGameSync

open Direlera.Library Direlera.Library.Lockstep SimplestGameSync

variable {n : Nat}

/-! ## One player's messages -/

/-- The input cache of one player as a machine which resolves its messages. -/
def mirror (player : Fin n) : Transducer InputCache ClientInput (Except GameSyncError Bytes) where
  step cache
    | .gameData data => (.ok data, (cache.push data).1)
    | .gameCache position =>
        match cache.get position with
        | some bytes => (.ok bytes, cache)
        | none => (.error (.cachePositionNotFound player position), cache)

/-- Resolving a message is a step of its player's mirror. -/
theorem resolveInput_eq_mirror (caches : Fin n → InputCache) (player : Fin n)
    (message : ClientInput) :
    resolveInput caches player message =
      (((mirror player).step (caches player) message).1,
        Function.update caches player ((mirror player).step (caches player) message).2) := by
  cases message with
  | gameData data => rfl
  | gameCache position =>
      simp only [resolveInput, mirror]
      cases (caches player).get position with
      | some bytes => simp
      | none => simp

/-- A player's resolutions and input cache depend on its own messages only. -/
theorem run_mirror (player : Fin n) (delayed : DelayedGameSync n) (calls : List Call) :
    resolutions player delayed calls =
        (mirror player).outputs (delayed.inputCaches player) (messagesOf player calls) ∧
      ((machine n).final delayed calls).inputCaches player =
        (mirror player).final (delayed.inputCaches player) (messagesOf player calls) := by
  induction calls generalizing delayed with
  | nil => exact ⟨rfl, rfl⟩
  | cons call rest ih =>
      obtain ⟨later, final⟩ := ih ((machine n).step delayed call).2
      have next := congrFun (step_inputCaches delayed call) player
      rw [Transducer.final_cons, final]
      cases call with
      | drop playerId =>
          rw [next] at later ⊢
          exact ⟨later, rfl⟩
      | input playerId message =>
          simp only [messagesOf, resolutions]
          by_cases mine : playerId = player
          · subst mine
            simp only [player.isLt, dif_pos, Fin.eta, resolveInput_eq_mirror,
              Function.update_self] at next
            rw [if_pos rfl, if_pos rfl, later, next, Transducer.outputs_cons,
              Transducer.final_cons, resolveInput_eq_mirror]
            exact ⟨rfl, rfl⟩
          · have same : ((machine n).step delayed (.input playerId message)).2.inputCaches player =
                delayed.inputCaches player := by
              rw [next]
              by_cases inRange : playerId < n
              · have different : player ≠ ⟨playerId, inRange⟩ :=
                  fun equal => mine (by simp [equal])
                simp only [inRange, dif_pos, resolveInput_other different]
              · simp only [inRange, dif_neg, not_false_eq_true]
            rw [if_neg mine, if_neg mine, later, same]
            exact ⟨rfl, rfl⟩

/-- An accepted input is one which the engine resolved. -/
theorem mem_resolutions_of_accepted {delayed : DelayedGameSync n} {calls : List Call}
    {player : Fin n} {bytes : Bytes} (member : SyncOp.input player bytes ∈ delayed.acceptedOps calls) :
    .ok bytes ∈ resolutions player delayed calls := by
  induction calls generalizing delayed with
  | nil => simp [acceptedOps] at member
  | cons call rest ih =>
      rw [acceptedOps, List.mem_append] at member
      cases call with
      | drop playerId =>
          refine ih (member.resolve_left fun here => ?_)
          simp only [accepted] at here
          split at here <;> simp at here
      | input playerId message =>
          simp only [resolutions]
          rcases member with here | later
          · simp only [accepted] at here
            split at here
            next inRange =>
              cases resolved : (resolveInput delayed.inputCaches ⟨playerId, inRange⟩ message).1 with
              | error error => simp [resolved] at here
              | ok data =>
                  obtain ⟨rfl, rfl⟩ : player = ⟨playerId, inRange⟩ ∧ bytes = data := by
                    simpa [resolved] using here
                  simp [resolved]
            next => simp at here
          · split
            · exact List.mem_cons_of_mem _ (ih later)
            · exact ih later

/-! ## The combiner -/

/-- A frame which every stream provides needs no padding. -/
theorem frame_of_provided {pad pad' : OneInput} {streams : Fin n → List OneInput} {index : Nat}
    (provided : ∀ slot, index < (streams slot).length) :
    frame pad streams index = frame pad' streams index := by
  refine List.map_congr_left fun slot _ => ?_
  rw [List.getElem?_eq_getElem (provided slot)]
  rfl

/-- Without drops, runs with equal streams leave equal queues and buffers and return
equal outputs to every player. -/
theorem combiner_of_equal_streams {delays : Fin n → Nat} (positive : ∀ i, 1 ≤ delays i)
    {first second : List (SyncOp n)} (firstOpen : ∀ player, SyncOp.drop player ∉ first)
    (secondOpen : ∀ player, SyncOp.drop player ∉ second)
    (sameInputs : ∀ player, inputsBeforeDrop player first = inputsBeforeDrop player second) :
    (∀ player, outputsFor player (combined delays first) =
        outputsFor player (combined delays second)) ∧
      ((SimplestGameSync.machine n).final (.new delays) first).playerInput =
        ((SimplestGameSync.machine n).final (.new delays) second).playerInput ∧
      ((SimplestGameSync.machine n).final (.new delays) first).senderBuffer =
        ((SimplestGameSync.machine n).final (.new delays) second).senderBuffer := by
  have left := agrees_run positive first
  have right := agrees_run positive second
  have streams : chunkStream delays first = chunkStream delays second := by
    funext player
    rw [chunkStream, chunkStream, sameInputs]
  have closedFirst : droppedIn first = fun _ => false := by
    funext player
    simp [droppedIn, firstOpen]
  have closedSecond : droppedIn second = fun _ => false := by
    funext player
    simp [droppedIn, secondOpen]
  have frames : completedFrames delays first = completedFrames delays second := by
    rw [completedFrames, completedFrames, streams, closedFirst, closedSecond]
  have provided : ∀ index, index < completedFrames delays second →
      ∀ slot, index < (chunkStream delays second slot).length := by
    intro index before slot
    refine Nat.lt_of_lt_of_le before (completed_le_length _ ?_)
    rw [closedSecond]
  have sameFrames : ∀ index, index < completedFrames delays second →
      frame (List.replicate (firstChunkSize delays first) 0) (chunkStream delays first) index =
        frame (List.replicate (firstChunkSize delays second) 0) (chunkStream delays second)
          index := by
    intro index before
    rw [streams]
    exact frame_of_provided (provided index before)
  have moved : Merged (List.replicate (firstChunkSize delays second) 0)
      (chunkStream delays second) (completedFrames delays first) (combined delays first)
      ((SimplestGameSync.machine n).final (.new delays) first) :=
    left.merged.restream (fun index before => (sameFrames index (frames ▸ before)).symm)
      (streams ▸ left.merged.queues) rfl rfl
  have sent := moved.sent
  have buffers := moved.buffers
  rw [frames, left.sameDelays] at sent buffers
  have sentToo := right.merged.sent
  have buffersToo := right.merged.buffers
  rw [right.sameDelays] at sentToo buffersToo
  refine ⟨fun player => (sent player).trans (sentToo player).symm, funext fun player => ?_,
    funext fun player => (buffers player).trans (buffersToo player).symm⟩
  rw [moved.queues, right.merged.queues, frames]

/-! ## Whole runs -/

section Runs

variable {delays warmups : Fin n → Nat}

/-- The payloads of a run without drops whose inputs all have one length. -/
theorem payloads_of_uniform (positive : ∀ i, 1 ≤ delays i) {disableOutputCache : Bool}
    {calls : List Call} {size : Nat}
    (noDrops : ∀ playerId, Call.drop playerId ∉ calls)
    (uniform : ∀ player bytes,
      .ok bytes ∈ resolutions player (start delays warmups disableOutputCache) calls →
        bytes.length = size)
    (player : Fin n) :
    payloads player (start delays warmups false) calls =
      List.replicate (min (warmups player)
          (resolvedInputs player (start delays warmups disableOutputCache) calls).length)
        (List.replicate (n * size) 0) ++
      outputsFor player (combined delays ((start delays warmups false).fedOps
        ((start delays warmups disableOutputCache).acceptedOps calls))) := by
  obtain ⟨outputs, scheduled, streams⟩ :=
    scheduled_calls positive warmups disableOutputCache calls
  obtain ⟨sizes, count, learned, stream⟩ :=
    (scheduled.players player (drop_not_mem_acceptedOps (noDrops player))).stream
  have same : sizes = List.replicate sizes.length size := by
    refine List.eq_replicate_of_mem fun length member => ?_
    obtain ⟨sender, bytes, sent, rfl⟩ := learned length member
    exact uniform sender bytes (mem_resolutions_of_accepted sent)
  rw [streams, stream, same, List.map_replicate, count, resolvedInputs_eq (noDrops player)]

/-- With equal payloads a player receives equal responses and its output caches agree. -/
theorem received_of_equal_payloads (disableOutputCache : Bool) {first second : List Call}
    (samePayloads : ∀ player, payloads player (start delays warmups false) first =
      payloads player (start delays warmups false) second) :
    (∀ player,
      received player ((machine n).outputs (start delays warmups disableOutputCache) first) =
        received player ((machine n).outputs (start delays warmups disableOutputCache) second)) ∧
      ((machine n).final (start delays warmups disableOutputCache) first).inner.outputCaches =
        ((machine n).final (start delays warmups disableOutputCache) second).inner.outputCaches := by
  cases disableOutputCache with
  | true =>
      refine ⟨fun player => ?_, ?_⟩
      · rw [received_disabled, received_disabled, samePayloads]
      · have final := fun calls =>
          (run_disabled (start delays warmups false) (fun _ => .new) calls).2
        rw [start_withOutput, final, final]
        rfl
  | false =>
      refine ⟨fun player => ?_, ?_⟩
      · apply List.map_injective_iff.mpr ServerResponse.token_injective
        rw [received_enabled, received_enabled, samePayloads]
      · have final := fun calls =>
          (run_enabled (start delays warmups false) (fun _ => .new) calls).2.1
        rw [start_withOutput, final, final]
        funext player
        exact congrArg (fun values => (InputCache.sender.encodeAll .new values).2)
          (samePayloads player)

/-- Network order between players does not matter: two runs in which every player sends
the same messages give every player the same responses and end in equal startup queues,
warmup counters, input queues, send buffers and input and output caches. -/
theorem order_independence (positive : ∀ i, 1 ≤ delays i) (disableOutputCache : Bool)
    {first second : List Call} (size : Nat)
    (firstNoDrops : ∀ playerId, Call.drop playerId ∉ first)
    (secondNoDrops : ∀ playerId, Call.drop playerId ∉ second)
    (sameMessages : ∀ player : Fin n, messagesOf player first = messagesOf player second)
    (uniform : ∀ player bytes,
      .ok bytes ∈ resolutions player (start delays warmups disableOutputCache) first →
        bytes.length = size) :
    let fresh := start delays warmups disableOutputCache
    let left := (machine n).final fresh first
    let right := (machine n).final fresh second
    (∀ player, received player ((machine n).outputs fresh first) =
        received player ((machine n).outputs fresh second)) ∧
      left.queues = right.queues ∧ left.warmupSent = right.warmupSent ∧
      left.inner.sync.playerInput = right.inner.sync.playerInput ∧
      left.inner.sync.senderBuffer = right.inner.sync.senderBuffer ∧
      left.inputCaches = right.inputCaches ∧ left.inner.inputCaches = right.inner.inputCaches ∧
      left.inner.outputCaches = right.inner.outputCaches := by
  intro fresh left right
  have mirrored := fun (disabled : Bool) player calls =>
    run_mirror player (start delays warmups disabled) calls
  have sameResolutions : ∀ player,
      resolutions player fresh first = resolutions player fresh second := by
    intro player
    rw [(mirrored _ player first).1, (mirrored _ player second).1, sameMessages]
  have sameInputs : ∀ player, resolvedInputs player fresh first =
      resolvedInputs player fresh second := by
    intro player
    rw [resolvedInputs, resolvedInputs, sameResolutions]
  have firstOpen : ∀ player, SyncOp.drop player ∉ fresh.acceptedOps first :=
    fun player => drop_not_mem_acceptedOps (firstNoDrops player)
  have secondOpen : ∀ player, SyncOp.drop player ∉ fresh.acceptedOps second :=
    fun player => drop_not_mem_acceptedOps (secondNoDrops player)
  have sameAccepted : ∀ player, inputsBeforeDrop player (fresh.acceptedOps first) =
      inputsBeforeDrop player (fresh.acceptedOps second) := by
    intro player
    rw [← resolvedInputs_eq (firstNoDrops player), ← resolvedInputs_eq (secondNoDrops player),
      sameInputs]
  obtain ⟨_, leftScheduled, _⟩ := scheduled_calls positive warmups disableOutputCache first
  obtain ⟨_, rightScheduled, _⟩ := scheduled_calls positive warmups disableOutputCache second
  have leftPlayer := fun player => leftScheduled.players player (firstOpen player)
  have rightPlayer := fun player => rightScheduled.players player (secondOpen player)
  obtain ⟨sameCombined, samePlayerInput, sameSenderBuffer⟩ :=
    combiner_of_equal_streams positive (fun player => (leftPlayer player).isOpen)
      (fun player => (rightPlayer player).isOpen) fun player => by
        rw [(leftPlayer player).feed, (rightPlayer player).feed, sameAccepted]
  have samePayloads : ∀ player, payloads player (start delays warmups false) first =
      payloads player (start delays warmups false) second := by
    intro player
    have uniformToo : ∀ player bytes,
        .ok bytes ∈ resolutions player fresh second → bytes.length = size := by
      intro player bytes member
      exact uniform player bytes (sameResolutions player ▸ member)
    rw [payloads_of_uniform positive firstNoDrops uniform,
      payloads_of_uniform positive secondNoDrops uniformToo, sameInputs, sameCombined]
  obtain ⟨sameReceived, sameOutputCaches⟩ :=
    received_of_equal_payloads disableOutputCache samePayloads
  refine ⟨sameReceived, funext fun player => ?_, funext fun player => ?_, ?_, ?_,
    funext fun player => ?_, funext fun player => ?_, sameOutputCaches⟩
  · rw [(leftPlayer player).queue, (rightPlayer player).queue, sameAccepted]
  · rw [(leftPlayer player).warmup, (rightPlayer player).warmup, sameAccepted]
  · rw [leftScheduled.sync, rightScheduled.sync, samePlayerInput]
  · rw [leftScheduled.sync, rightScheduled.sync, sameSenderBuffer]
  · rw [(mirrored _ player first).2, (mirrored _ player second).2, sameMessages]
  · rw [(leftPlayer player).pushed, (rightPlayer player).pushed, sameAccepted]


/-- Two players answered in either order: both receive the same frame. -/
theorem order_independence_two_players :
    received (0 : Fin 2) ((machine 2).outputs (start (fun _ => 1) (fun _ => 0) false)
        [.input 0 (.gameData [1]), .input 1 (.gameData [2])]) =
      received 0 ((machine 2).outputs (start (fun _ => 1) (fun _ => 0) false)
        [.input 1 (.gameData [2]), .input 0 (.gameData [1])]) := by
  have resolved : ∀ player : Fin 2, resolutions player (start (fun _ => 1) (fun _ => 0) false)
      [.input 0 (.gameData [1]), .input 1 (.gameData [2])] = [.ok [player.val.toUInt8 + 1]] :=
    Fin.forall_fin_two.mpr ⟨rfl, rfl⟩
  refine (order_independence (by decide) false 1 (by simp) (by simp) (by decide)
    (fun player bytes member => ?_)).1 0
  rw [resolved, List.mem_singleton, Except.ok.injEq] at member
  simp [member]

end Runs

end Direlera.Sync.DelayedGameSync
