import Direlera.Sync.RoundShape

/-!
# The width of frames

Whatever is true of the lengths of all literal inputs is true of all inputs which are saved,
queued or cached, and of the two sizes which the layers learn on their own. A frame consists
of one input of such a length for each player: when all literal inputs have one length, every
response decodes to that width for each player.
-/

namespace Direlera.Sync

open Direlera.Library

variable {n size : Nat} {fits : Nat → Prop}

/-- A literal input of a call has the given length. -/
def Call.OfSize (size : Nat) : Call → Prop
  | .input _ (.gameData data) => data.length = size
  | _ => True

/-- A literal input of a call has a fitting length. -/
def Call.Fits (fits : Nat → Prop) : Call → Prop
  | .input _ (.gameData data) => fits data.length
  | _ => True

theorem Call.fits_of_ofSize {call : Call} (ofSize : call.OfSize size) :
    call.Fits fun length => length = size := by
  cases call with
  | drop playerId => trivial
  | input playerId message =>
      cases message with
      | gameData data => exact ofSize
      | gameCache position => trivial

/-- One input of a fitting length for each player. -/
def Framed (n : Nat) (fits : Nat → Prop) (frame : Bytes) : Prop :=
  ∃ inputs : List Bytes, inputs.length = n ∧ (∀ input ∈ inputs, fits input.length) ∧
    frame = inputs.flatten

theorem Framed.length_eq {frame : Bytes} (framed : Framed n (fun length => length = size) frame) :
    frame.length = n * size := by
  obtain ⟨inputs, rfl, widths, rfl⟩ := framed
  rw [List.length_flatten, List.map_congr_left widths, List.map_const', List.sum_replicate,
    smul_eq_mul]

theorem Framed.length_le {most : Nat} {frame : Bytes}
    (framed : Framed n (fun length => length ≤ most) frame) : frame.length ≤ n * most := by
  obtain ⟨inputs, rfl, widths, rfl⟩ := framed
  rw [List.length_flatten]
  have bound := List.sum_le_card_nsmul (inputs.map List.length) most
    (List.forall_mem_map.mpr widths)
  rwa [List.length_map, smul_eq_mul] at bound

/-- A frame of zeros. -/
theorem framed_zeros (known : fits size) : Framed n fits (List.replicate (n * size) 0) := by
  refine ⟨List.replicate n (List.replicate size 0), List.length_replicate, ?_, ?_⟩
  · intro input member
    rw [List.eq_of_mem_replicate member, List.length_replicate]
    exact known
  · rw [List.flatten_replicate_replicate]

namespace SimplestGameSync

/-- Queued inputs all have fitting lengths, and one is learned before anything is queued. -/
structure Sized (fits : Nat → Prop) (sync : SimplestGameSync n) : Prop where
  paced : sync.Paced
  inputs : ∀ i, ∀ input ∈ sync.playerInput i, fits input.length
  learned : (∃ i, sync.playerInput i ≠ []) → fits sync.gameDataSize
  sized : sync.gameDataSize = 0 ∨ fits sync.gameDataSize

namespace Sized

variable {sync : SimplestGameSync n}

/-- A round is as wide as the players need, padding included. -/
theorem drainRound (known : sync.Sized fits) (ready : sync.readyToDrain = true) :
    (∀ raw ∈ sync.drainRound.1, Framed n fits raw.output) ∧ sync.drainRound.2.Sized fits := by
  obtain ⟨-, someone⟩ := readyToDrain_iff.mp ready
  have learned := known.learned someone
  have widths : ∀ input ∈ sync.extractInputs, fits input.length := by
    intro input extracted
    obtain ⟨slot, -, took⟩ := List.mem_filterMap.mp extracted
    cases queued : sync.playerInput slot with
    | cons first later =>
        obtain rfl : first = input := by simpa [queued] using took
        exact known.inputs slot first (by simp [queued])
    | nil =>
        have padded : List.replicate sync.gameDataSize (0 : UInt8) = input := by
          simp only [queued] at took
          split at took
          · exact Option.some.inj took
          · cases took
        rw [← padded, List.length_replicate]
        exact learned
  constructor
  · intro raw returned
    obtain ⟨pid, -, emitted⟩ := List.mem_flatMap.mp returned
    obtain ⟨output, sent, rfl⟩ := List.mem_map.mp emitted
    dsimp only at sent ⊢
    rw [known.paced.delays, known.paced.sent, Nat.one_mul, List.nil_append,
      sendBlocks_of_eq pid.pos (length_extractInputs ready)] at sent
    exact ⟨sync.extractInputs, length_extractInputs ready, widths, List.mem_singleton.mp sent⟩
  · refine ⟨(known.paced.drainRound ready).2, ?_, fun _ => learned, .inr learned⟩
    intro i input queued
    exact known.inputs i input (List.mem_of_mem_tail queued)

/-- Draining returns whole frames only. -/
theorem drainReadyInputs (known : sync.Sized fits) :
    (∀ raw ∈ sync.drainReadyInputs.1, Framed n fits raw.output) ∧
      sync.drainReadyInputs.2.Sized fits := by
  refine (sync.drainReadyInputs_induction (fun outputs state =>
    (∀ raw ∈ outputs, Framed n fits raw.output) ∧ state.Sized fits) ⟨by simp, known⟩ ?_).1
  rintro outputs state ⟨widths, knownNow⟩ ready
  obtain ⟨round, next⟩ := knownNow.drainRound ready
  refine ⟨?_, next⟩
  intro raw returned
  rcases List.mem_append.mp returned with earlier | now
  · exact widths raw earlier
  · exact round raw now

/-- Queueing learns the length of the input, unless it is empty. -/
theorem queueInput (known : sync.Sized fits) (player : Fin n) {input : Bytes}
    (width : fits input.length) : (sync.queueInput player input).Sized fits := by
  have queued : sync.queueInput player input = if input = [] then sync else { sync with
      gameDataSize := if sync.gameDataSize = 0 then input.length else sync.gameDataSize
      playerInput :=
        Function.update sync.playerInput player (sync.playerInput player ++ [input]) } := by
    split
    next empty => simp [SimplestGameSync.queueInput, empty]
    next nonempty =>
      simp only [SimplestGameSync.queueInput, known.paced.delays, Nat.div_one,
        List.length_pos_iff.mpr nonempty, chunks_length nonempty, Nat.one_pos, nonempty, ne_eq,
        not_false_eq_true, and_self, if_true]
  rw [queued]
  split
  · exact known
  have learned : fits (if sync.gameDataSize = 0 then input.length else sync.gameDataSize) := by
    split
    next => exact width
    next sized => exact known.sized.resolve_left sized
  refine ⟨⟨known.paced.delays, known.paced.sent⟩, ?_, fun _ => learned, .inr learned⟩
  intro slot entry mem
  by_cases sender : slot = player
  · subst sender
    simp only [Function.update_self, List.mem_append, List.mem_singleton] at mem
    rcases mem with before | rfl
    · exact known.inputs slot entry before
    · exact width
  · dsimp only at mem
    rw [Function.update_of_ne sender] at mem
    exact known.inputs slot entry mem

/-- An input of a fitting length is answered by whole frames. -/
theorem processClientInput (known : sync.Sized fits) (playerId : Nat) {input : Bytes}
    (width : fits input.length) :
    (∀ raw ∈ returned (sync.processClientInput playerId input).1, Framed n fits raw.output) ∧
      (sync.processClientInput playerId input).2.Sized fits := by
  unfold SimplestGameSync.processClientInput
  split
  · split
    · exact ⟨by simp [returned], known⟩
    · exact (known.queueInput _ width).drainReadyInputs
  · exact ⟨by simp [returned], known⟩

/-- So is a drop. -/
theorem markPlayerDropped (known : sync.Sized fits) (playerId : Nat) :
    (∀ raw ∈ returned (sync.markPlayerDropped playerId).1, Framed n fits raw.output) ∧
      (sync.markPlayerDropped playerId).2.Sized fits := by
  unfold SimplestGameSync.markPlayerDropped
  split
  · refine drainReadyInputs ⟨⟨?_, ?_⟩, ?_, ?_, ?_⟩
    · exact known.paced.delays
    · exact known.paced.sent
    · exact known.inputs
    · exact known.learned
    · exact known.sized
  · exact ⟨by simp [returned], known⟩

end Sized

end SimplestGameSync

namespace DelayedGameSync

open MirroredWindow

/-- Saved, queued and cached inputs all have fitting lengths, as has what was learned. -/
structure Sized (fits : Nat → Prop) (delayed : DelayedGameSync n) : Prop where
  combiner : delayed.inner.sync.Sized fits
  cached : ∀ i, ∀ bytes ∈ (delayed.inputCaches i).slots, fits bytes.length
  saved : ∀ i, ∀ bytes ∈ delayed.queues i, fits bytes.length
  sized : delayed.frameSize = 0 ∨ fits delayed.frameSize

/-- A message of a fitting length resolves to bytes of such a length. -/
theorem resolveInput_fits {caches : Fin n → InputCache}
    (cached : ∀ i, ∀ bytes ∈ (caches i).slots, fits bytes.length) (player : Fin n)
    {message : ClientInput} (width : (Call.input player message).Fits fits) :
    (∀ bytes, (resolveInput caches player message).1 = .ok bytes → fits bytes.length) ∧
      ∀ i, ∀ bytes ∈ ((resolveInput caches player message).2 i).slots, fits bytes.length := by
  cases message with
  | gameData data =>
      refine ⟨fun bytes resolved => Except.ok.inj resolved ▸ width, fun i bytes mem => ?_⟩
      by_cases sender : i = player
      · subst sender
        simp only [resolveInput, Function.update_self, InputCache.push_slots] at mem
        exact forall_mem_pushBounded (cached i) width bytes mem
      · rw [resolveInput_other sender] at mem
        exact cached i bytes mem
  | gameCache position =>
      simp only [resolveInput]
      cases found : (caches player).get position with
      | none => exact ⟨by simp, cached⟩
      | some held =>
          refine ⟨fun bytes resolved => ?_, cached⟩
          obtain rfl : held = bytes := Except.ok.inj resolved
          exact cached player held (List.mem_of_getElem? found)

namespace Sized

variable {delayed : DelayedGameSync n}

/-- The frame size is learned before it is used. -/
theorem learnFrameSize (known : delayed.Sized fits) {bytes : Bytes} (width : fits bytes.length) :
    (delayed.learnFrameSize bytes).Sized fits ∧ fits (delayed.learnFrameSize bytes).frameSize := by
  unfold DelayedGameSync.learnFrameSize
  split
  next => exact ⟨⟨known.combiner, known.cached, known.saved, .inr width⟩, width⟩
  next old =>
    refine ⟨known, ?_⟩
    by_cases fresh : delayed.frameSize = 0
    · -- nothing was learned from an empty input
      have empty : bytes = [] := by
        by_contra nonempty
        exact old ⟨fresh, nonempty⟩
      rw [empty] at width
      rwa [fresh]
    · exact known.sized.resolve_left fresh

/-- Feeding the combiner. -/
theorem plainFeed (known : delayed.Sized fits) (player : Fin n) {bytes : Bytes}
    (width : fits bytes.length) :
    (∀ raw ∈ SimplestGameSync.returned (delayed.plainFeed player bytes).1,
        Framed n fits raw.output) ∧
      (delayed.plainFeed player bytes).2.Sized fits := by
  obtain ⟨widths, next⟩ := known.combiner.processClientInput player width
  exact ⟨widths, next, known.cached, known.saved, known.sized⟩

/-- A resolved input is answered by whole frames, in each phase. -/
theorem plainResolved (known : delayed.Sized fits) (player : Fin n) {bytes : Bytes}
    (width : fits bytes.length) :
    (∀ raw ∈ SimplestGameSync.returned (delayed.plainResolved player bytes).1,
        Framed n fits raw.output) ∧
      (delayed.plainResolved player bytes).2.Sized fits := by
  obtain ⟨sized, learned⟩ := known.learnFrameSize width
  have update : ∀ {saved : List Bytes}, (∀ entry ∈ saved, fits entry.length) → ∀ i,
      ∀ entry ∈ Function.update (delayed.learnFrameSize bytes).queues player saved i,
        fits entry.length := by
    intro saved widths i
    by_cases sender : i = player
    · subst sender
      rwa [Function.update_self]
    · rw [Function.update_of_ne sender]
      exact sized.saved i
  rcases delayed.plainResolved_cases player bytes with
    ⟨-, warming⟩ | ⟨-, due, rest, queued, flushing⟩ | ⟨-, -, passing⟩
  · rw [warming]
    constructor
    · intro raw returned
      rw [List.mem_singleton.mp returned]
      exact framed_zeros learned
    · have growing : ∀ entry ∈ (delayed.learnFrameSize bytes).queues player ++ [bytes],
          fits entry.length := by
        intro entry mem
        rcases List.mem_append.mp mem with before | new
        · exact sized.saved player entry before
        · exact List.mem_singleton.mp new ▸ width
      exact ⟨sized.combiner, sized.cached, update growing, sized.sized⟩
  · rw [flushing]
    have widths : ∀ entry ∈ due :: rest, fits entry.length := queued ▸ sized.saved player
    have shrunk : Sized fits { delayed.learnFrameSize bytes with
        queues := Function.update (delayed.learnFrameSize bytes).queues player rest } :=
      ⟨sized.combiner, sized.cached,
        update fun entry mem => widths entry (List.mem_cons_of_mem due mem), sized.sized⟩
    exact shrunk.plainFeed player (widths due List.mem_cons_self)
  · rw [passing]
    exact sized.plainFeed player width

/-- Every call is answered by whole frames. -/
theorem plainStep (known : delayed.Sized fits) {call : Call} (width : call.Fits fits) :
    (∀ raw ∈ SimplestGameSync.returned (delayed.plainStep call).1, Framed n fits raw.output) ∧
      (delayed.plainStep call).2.Sized fits := by
  cases call with
  | input playerId message =>
      by_cases inRange : playerId < n
      · have resolves := resolveInput_fits known.cached ⟨playerId, inRange⟩ width
        simp only [DelayedGameSync.plainStep, inRange, dif_pos]
        cases result : resolveInput delayed.inputCaches ⟨playerId, inRange⟩ message with
        | mk resolved inputCaches =>
            rw [result] at resolves
            have recorded : Sized fits { delayed with inputCaches } :=
              ⟨known.combiner, resolves.2, known.saved, known.sized⟩
            cases resolved with
            | error error => exact ⟨by simp [SimplestGameSync.returned], recorded⟩
            | ok bytes => exact recorded.plainResolved _ (resolves.1 bytes rfl)
      · simp only [DelayedGameSync.plainStep, inRange, dif_neg, not_false_eq_true]
        exact ⟨by simp [SimplestGameSync.returned], known⟩
  | drop playerId =>
      obtain ⟨widths, next⟩ := known.combiner.markPlayerDropped playerId
      refine ⟨widths, next, known.cached, ?_, known.sized⟩
      intro i bytes mem
      simp only [DelayedGameSync.plainStep] at mem
      split at mem
      · by_cases leaver : i = ⟨playerId, ‹_›⟩
        · rw [leaver, Function.update_self] at mem
          cases mem
        · rw [Function.update_of_ne leaver] at mem
          exact known.saved i bytes mem
      · exact known.saved i bytes mem

/-- A fresh engine with delays of 1 holds nothing. -/
theorem start (warmups : Fin n → Nat) (disableOutputCache : Bool) :
    (start (fun _ => 1) warmups disableOutputCache).Sized fits where
  combiner := {
    paced := ⟨fun _ => rfl, fun _ => rfl⟩
    inputs := fun _ _ queued => absurd queued List.not_mem_nil
    learned := fun queued => queued.elim fun _ nonempty => absurd rfl nonempty
    sized := .inl rfl }
  cached := fun _ _ held => absurd held List.not_mem_nil
  saved := fun _ _ held => absurd held List.not_mem_nil
  sized := .inl rfl

/-- The outputs of a run are whole frames. -/
theorem plainOutputs {calls : List Call} (widths : ∀ call ∈ calls, call.Fits fits)
    (known : delayed.Sized fits) :
    ∀ raw ∈ ((plainMachine n).outputs delayed calls).flatMap SimplestGameSync.returned,
      Framed n fits raw.output := by
  induction calls generalizing delayed with
  | nil => simp
  | cons call rest ih =>
      obtain ⟨frames, next⟩ := known.plainStep (widths call List.mem_cons_self)
      intro raw returned
      rw [Transducer.outputs_cons, List.flatMap_cons] at returned
      rcases List.mem_append.mp returned with now | later
      · exact frames raw now
      · exact ih (fun call mem => widths call (List.mem_cons_of_mem _ mem)) next raw later

end Sized

/-- Every response of a run decodes to one fitting input for each player. -/
theorem decoded_framed (warmups : Fin n → Nat) (disableOutputCache : Bool) {calls : List Call}
    (widths : ∀ call ∈ calls, call.Fits fits) (player : Fin n) :
    ∀ decoded ∈ client.outputs [] (received player
        ((machine n).outputs (start (fun _ => 1) warmups disableOutputCache) calls)),
      ∃ frame, decoded = some frame ∧ Framed n fits frame := by
  intro decoded mem
  rw [client_outputs_received] at mem
  obtain ⟨frame, sent, rfl⟩ := List.mem_map.mp mem
  obtain ⟨raw, returned, rfl⟩ := List.mem_map.mp sent
  exact ⟨raw.output, rfl,
    Sized.plainOutputs widths (.start warmups false) raw (List.mem_of_mem_filter returned)⟩

/-- When all literal inputs have one length, every response of a run decodes to that length for
each player. -/
theorem decoded_width (warmups : Fin n → Nat) (disableOutputCache : Bool)
    {calls : List Call} (ofSize : ∀ call ∈ calls, call.OfSize size) (player : Fin n) :
    ∀ decoded ∈ client.outputs [] (received player
        ((machine n).outputs (start (fun _ => 1) warmups disableOutputCache) calls)),
      ∃ frame, decoded = some frame ∧ frame.length = n * size := by
  intro decoded mem
  obtain ⟨frame, rfl, framed⟩ := decoded_framed warmups disableOutputCache
    (fun call member => Call.fits_of_ofSize (ofSize call member)) player decoded mem
  exact ⟨frame, rfl, framed.length_eq⟩

/-- Two warming players send one byte each, the second drops, the first repeats itself. -/
theorem decoded_width_two_players :
    let calls := [.input 0 (.gameData [7]), .input 1 (.gameData [8]), .drop 1,
      .input 0 (.gameCache 0)]
    (∀ call ∈ calls, Call.OfSize 1 call) ∧
      ∀ decoded ∈ client.outputs [] (received (0 : Fin 2)
          ((machine 2).outputs (start (fun _ => 1) (fun _ => 1) false) calls)),
        ∃ frame, decoded = some frame ∧ frame.length = 2 * 1 := by
  intro calls
  have ofSize : ∀ call ∈ calls, Call.OfSize 1 call := by simp [calls, Call.OfSize]
  exact ⟨ofSize, decoded_width (fun _ => 1) false ofSize 0⟩

end DelayedGameSync

end Direlera.Sync
