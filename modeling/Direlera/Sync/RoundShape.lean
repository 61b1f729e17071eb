import Direlera.Sync.StartupLayer

/-!
# Who a call answers

With delay 1 a combined round answers every slot once, in order, and leaves the send
buffers empty. `Settled` is what then holds between calls; under it an input answers
nobody, its own warming player, or every slot by one round, and a drop releases whole
rounds.
-/

namespace Direlera.Sync

open Direlera.Library

variable {n : Nat}

namespace SimplestGameSync

/-- Delays 1 and empty send buffers. -/
structure Paced (sync : SimplestGameSync n) : Prop where
  delays : ∀ i, sync.playerDelays i = 1
  sent : ∀ i, sync.senderBuffer i = []

theorem length_extractInputs {sync : SimplestGameSync n} (ready : sync.readyToDrain = true) :
    sync.extractInputs.length = n := by
  obtain ⟨contributes, _⟩ := readyToDrain_iff.mp ready
  refine (List.filterMap_length_eq_length.mpr fun slot _ => ?_).trans List.length_finRange
  cases queued : sync.playerInput slot with
  | cons input later => rfl
  | nil =>
      have dropped := (contributes slot).resolve_left (by simp [queued])
      simp [dropped]

/-- A round answers every slot once. -/
theorem Paced.drainRound {sync : SimplestGameSync n} (paced : sync.Paced)
    (ready : sync.readyToDrain = true) :
    sync.drainRound.1.map PlayerOutput.playerId = List.finRange n ∧ sync.drainRound.2.Paced := by
  obtain ⟨_, someone, _⟩ := readyToDrain_iff.mp ready
  have positive : 0 < n := someone.pos
  have released : ∀ i, sendBlocks (sync.playerDelays i * n)
      (sync.senderBuffer i ++ sync.extractInputs) = ([sync.extractInputs.flatten], []) := by
    intro i
    rw [paced.delays, paced.sent, Nat.one_mul, List.nil_append]
    exact sendBlocks_of_eq positive (length_extractInputs ready)
  constructor
  · simp only [SimplestGameSync.drainRound, released, List.map_cons, List.map_nil,
      List.flatMap_singleton', List.map_flatMap]
  · exact ⟨paced.delays, fun i => by simp only [SimplestGameSync.drainRound, released]⟩

/-- Slots of `rounds` whole rounds. -/
def roundSlots (n rounds : Nat) : List (Fin n) := (List.replicate rounds (List.finRange n)).flatten

@[simp] theorem roundSlots_zero : roundSlots n 0 = [] := rfl

@[simp] theorem roundSlots_one : roundSlots n 1 = List.finRange n := by simp [roundSlots]

/-- What draining released and left. -/
structure Drained (sync : SimplestGameSync n) (rounds : Nat) (outputs : List (PlayerOutput n))
    (next : SimplestGameSync n) : Prop where
  slots : outputs.map PlayerOutput.playerId = roundSlots n rounds
  paced : next.Paced
  dropped : next.droppedPlayers = sync.droppedPlayers
  queues : ∀ i, next.playerInput i = (sync.playerInput i).drop rounds

theorem Paced.drained {sync : SimplestGameSync n} (paced : sync.Paced) :
    ∃ rounds, Drained sync rounds sync.drainReadyInputs.1 sync.drainReadyInputs.2 ∧
      sync.drainReadyInputs.2.readyToDrain = false ∧ (0 < rounds ↔ sync.readyToDrain = true) := by
  have general := sync.drainReadyInputs_induction (fun outputs state =>
    ∃ rounds, Drained sync rounds outputs state ∧ (0 < rounds → sync.readyToDrain = true) ∧
      (rounds = 0 → state = sync)) ⟨0, ⟨rfl, paced, rfl, fun _ => rfl⟩, by simp, fun _ => rfl⟩ ?_
  · obtain ⟨⟨rounds, drained, began, stayed⟩, idle⟩ := general
    refine ⟨rounds, drained, idle, began, ?_⟩
    intro ready
    by_contra none
    have same := stayed (Nat.eq_zero_of_not_pos none)
    rw [same, ready] at idle
    exact Bool.noConfusion idle
  · rintro outputs state ⟨rounds, drained, began, stayed⟩ ready
    obtain ⟨slots, pacedNext⟩ := drained.paced.drainRound ready
    have whole : (outputs ++ state.drainRound.1).map PlayerOutput.playerId =
        roundSlots n (rounds + 1) := by
      rw [List.map_append, drained.slots, slots, roundSlots, roundSlots, List.replicate_succ',
        List.flatten_concat]
    have begun : sync.readyToDrain = true := by
      cases rounds with
      | zero => rwa [stayed rfl] at ready
      | succ rounds => exact began (Nat.succ_pos rounds)
    refine ⟨rounds + 1, ⟨whole, pacedNext, drained.dropped, ?_⟩, fun _ => begun, by simp⟩
    intro i
    rw [drainRound_playerInput, drained.queues, List.tail_drop]

/-- An operation lets the combiner complete a round. -/
def completesRound (sync : SimplestGameSync n) : SyncOp n → Bool
  | .input player bytes =>
      !sync.droppedPlayers player && (sync.queueInput player bytes).readyToDrain
  | .drop player =>
      ({ sync with
        droppedPlayers := Function.update sync.droppedPlayers player true }).readyToDrain

/-- What an operation on a paced combiner answers and leaves. -/
structure OpShape (sync : SimplestGameSync n) (op : SyncOp n) (rounds : Nat)
    (outputs : List (PlayerOutput n)) (next : SimplestGameSync n) : Prop where
  slots : outputs.map PlayerOutput.playerId = roundSlots n rounds
  completes : 0 < rounds ↔ sync.completesRound op = true
  once : ∀ player bytes, op = .input player bytes → rounds ≤ 1
  paced : next.Paced
  idle : next.readyToDrain = false
  dropped : ∀ i, next.droppedPlayers i = (sync.droppedPlayers i || decide (op = .drop i))
  keeps : ∀ i, sync.playerInput i = [] → (∀ bytes, op ≠ .input i bytes) → next.playerInput i = []
  clears : ∀ player bytes, op = .input player bytes → 0 < rounds → next.playerInput player = []

/-- The queue of whoever completes a round was empty before. -/
theorem exhausts_of_ready {sync queued : SimplestGameSync n} (idle : sync.readyToDrain = false)
    {player : Fin n} (others : ∀ i, i ≠ player → queued.playerInput i = sync.playerInput i)
    (sameDropped : queued.droppedPlayers = sync.droppedPlayers) (ready : queued.readyToDrain = true) :
    sync.playerInput player = [] := by
  by_contra waiting
  obtain ⟨contributes, _⟩ := readyToDrain_iff.mp ready
  have already : sync.readyToDrain = true := by
    refine readyToDrain_iff.mpr ⟨fun i => ?_, player, waiting⟩
    by_cases same : i = player
    · exact .inl (same ▸ waiting)
    · have here := contributes i
      rwa [others i same, sameDropped] at here
  rw [already] at idle
  exact Bool.noConfusion idle

/-- Nothing is ready while someone is missing. -/
theorem not_ready_of_missing {sync : SimplestGameSync n} {player : Fin n}
    (empty : sync.playerInput player = []) (isOpen : sync.droppedPlayers player = false) :
    sync.readyToDrain = false := by
  rw [Bool.eq_false_iff]
  intro ready
  have contributes := (readyToDrain_iff.mp ready).1 player
  simp [empty, isOpen] at contributes

theorem length_inputChunks_one (bytes : Bytes) : (inputChunks 1 bytes).length ≤ 1 := by
  cases bytes with
  | nil => simp [inputChunks]
  | cons byte rest => simp [inputChunks_one]

/-- An input completes at most one round, which uses it up. -/
theorem Paced.input {sync : SimplestGameSync n} (paced : sync.Paced)
    (idle : sync.readyToDrain = false) (player : Fin n) (bytes : Bytes) :
    ∃ rounds outputs next, sync.processClientInput player bytes = (.ok outputs, next) ∧
      OpShape sync (.input player bytes) rounds outputs next := by
  cases dropped : sync.droppedPlayers player with
  | true =>
      refine ⟨0, [], sync, by simp [SimplestGameSync.processClientInput, dropped], ⟨rfl, ?_, by simp, paced,
        idle, by simp, fun i empty _ => empty, by simp⟩⟩
      simp [SimplestGameSync.completesRound, dropped]
  | false =>
      have queued := queueInput_eq (by simp [paced.delays] : 0 < sync.playerDelays player) bytes
      rw [paced.delays] at queued
      have pacedQueued : (sync.queueInput player bytes).Paced := by
        rw [queued]
        exact ⟨paced.delays, paced.sent⟩
      have droppedQueued := queueInput_droppedPlayers sync player bytes
      have own : (sync.queueInput player bytes).playerInput player =
          sync.playerInput player ++ inputChunks 1 bytes := by
        rw [queued]
        exact Function.update_self ..
      have others : ∀ i, i ≠ player →
          (sync.queueInput player bytes).playerInput i = sync.playerInput i :=
        fun i different => queueInput_playerInput_of_ne different bytes
      have step : sync.processClientInput player bytes =
          (.ok (sync.queueInput player bytes).drainReadyInputs.1,
            (sync.queueInput player bytes).drainReadyInputs.2) := by
        simp [SimplestGameSync.processClientInput, dropped]
      rw [drainReadyInputs_unfold] at step
      by_cases ready : (sync.queueInput player bytes).readyToDrain = true
      · -- the player was the last one missing, so its queue holds this input alone
        have completed := exhausts_of_ready idle others droppedQueued ready
        have emptied : (sync.queueInput player bytes).drainRound.2.playerInput player = [] := by
          rw [drainRound_playerInput, own, completed, List.nil_append]
          exact List.eq_nil_of_length_eq_zero (by
            rw [List.length_tail]
            have short := length_inputChunks_one bytes
            omega)
        have stopped : (sync.queueInput player bytes).drainRound.2.readyToDrain = false := by
          refine not_ready_of_missing emptied ?_
          rw [drainRound_droppedPlayers, droppedQueued, dropped]
        obtain ⟨slots, pacedNext⟩ := pacedQueued.drainRound ready
        rw [if_pos ready, drainReadyInputs_unfold, if_neg (by simp [stopped]), List.append_nil] at step
        refine ⟨1, _, _, step, ⟨by rw [slots, roundSlots_one], ?_, by simp, pacedNext, stopped, ?_,
          ?_, ?_⟩⟩
        · simp [completesRound, dropped, ready]
        · intro i
          simp
        · intro i empty different
          have other : i ≠ player := fun same => different bytes (by rw [same])
          rw [drainRound_playerInput, others i other, empty, List.tail_nil]
        · rintro _ _ ⟨rfl, rfl⟩ _
          exact emptied
      · rw [if_neg ready] at step
        refine ⟨0, _, _, step, ⟨rfl, ?_, by simp, pacedQueued, by simpa using ready, ?_, ?_, by simp⟩⟩
        · simp [completesRound, ready]
        · intro i
          simp
        · intro i empty different
          have other : i ≠ player := fun same => different bytes (by rw [same])
          rw [others i other, empty]

/-- A drop releases whole rounds. -/
theorem Paced.drop {sync : SimplestGameSync n} (paced : sync.Paced) (player : Fin n) :
    ∃ rounds outputs next, sync.markPlayerDropped player = (.ok outputs, next) ∧
      OpShape sync (.drop player) rounds outputs next := by
  have marked : ({ sync with
      droppedPlayers := Function.update sync.droppedPlayers player true }).Paced :=
    ⟨paced.delays, paced.sent⟩
  obtain ⟨rounds, drained, idle, began⟩ := marked.drained
  refine ⟨rounds, _, _, by simp [SimplestGameSync.markPlayerDropped], ⟨drained.slots, began, by simp, drained.paced, idle,
    ?_, ?_, by simp⟩⟩
  · intro i
    rw [drained.dropped]
    by_cases same : i = player
    · simp [same]
    · simp [same, Ne.symm same]
  · intro i empty _
    rw [drained.queues]
    simp [empty]

end SimplestGameSync

namespace DelayedGameSync

open SimplestGameSync

/-- What holds of a started engine between calls: delays 1, nothing left to drain, and a
warming player which is not dropped has fed nothing. -/
structure Settled (delayed : DelayedGameSync n) : Prop where
  paced : delayed.inner.sync.Paced
  idle : delayed.inner.sync.readyToDrain = false
  warming : ∀ i, delayed.inner.sync.droppedPlayers i = false →
    delayed.warmupSent i < delayed.totalDelays i → delayed.inner.sync.playerInput i = []

/-- The player whom a call answers by a warmup frame. -/
def warmsUp (delayed : DelayedGameSync n) (call : Call) : Option (Fin n) :=
  match delayed.accepted call with
  | some (.input player _) =>
      if delayed.warmupSent player < delayed.totalDelays player then some player else none
  | _ => none

/-- A call lets the combiner complete a round. -/
def completesRound (delayed : DelayedGameSync n) (call : Call) : Bool :=
  match (delayed.accepted call).bind delayed.fed with
  | some op => delayed.inner.sync.completesRound op
  | none => false

/-- The slots which a call answers. -/
def answeredSlots (delayed : DelayedGameSync n) (call : Call) (rounds : Nat) : List (Fin n) :=
  match delayed.warmsUp call with
  | some player => [player]
  | none => roundSlots n rounds

/-- A call which completes a round belongs to a game with players, and nobody warms up. -/
theorem warmsUp_of_completes {delayed : DelayedGameSync n} {call : Call}
    (completes : delayed.completesRound call = true) : delayed.warmsUp call = none ∧ 0 < n := by
  cases accepts : delayed.accepted call with
  | none => simp [completesRound, accepts] at completes
  | some op =>
      cases op with
      | drop player => exact ⟨by simp [warmsUp, accepts], player.pos⟩
      | input player bytes =>
          refine ⟨?_, player.pos⟩
          by_cases warm : delayed.warmupSent player < delayed.totalDelays player
          · simp [completesRound, accepts, fed, warm] at completes
          · simp [warmsUp, accepts, warm]

/-- What a call on a settled engine answers and leaves. -/
structure CallShape (delayed : DelayedGameSync n) (call : Call) (rounds : Nat)
    (answered : List (Fin n)) (next : DelayedGameSync n) : Prop where
  slots : answered = delayed.answeredSlots call rounds
  completes : 0 < rounds ↔ delayed.completesRound call = true
  once : ∀ player message, call = .input player message → rounds ≤ 1
  settled : next.Settled
  dropped : ∀ i, next.inner.sync.droppedPlayers i =
    (delayed.inner.sync.droppedPlayers i || decide (call = .drop i))
  keeps : ∀ i : Fin n, delayed.inner.sync.playerInput i = [] →
    (∀ message, call ≠ .input i message) → next.inner.sync.playerInput i = []
  clears : ∀ (player : Fin n) message, call = .input player message →
    delayed.inner.sync.droppedPlayers player = false → answered ≠ [] →
      next.inner.sync.playerInput player = []
  warmed : ∀ i, next.warmupSent i < next.totalDelays i →
    delayed.warmupSent i < delayed.totalDelays i

theorem start_settled (warmups : Fin n → Nat) (disableOutputCache : Bool) :
    (start (fun _ => 1) warmups disableOutputCache).Settled where
  paced := ⟨fun _ => rfl, fun _ => rfl⟩
  idle := by
    rw [Bool.eq_false_iff]
    intro ready
    obtain ⟨_, player, waiting⟩ := readyToDrain_iff.mp ready
    exact waiting rfl
  warming := fun _ _ _ => rfl

/-- A failed call changes nothing but the input caches. -/
theorem callShape_of_rejected {delayed : DelayedGameSync n} (settled : delayed.Settled)
    {call : Call} (rejected : delayed.accepted call = none)
    (inputCaches : Fin n → InputCache) :
    CallShape delayed call 0 [] (delayed.withInputCaches inputCaches) where
  slots := by simp [answeredSlots, warmsUp, rejected]
  completes := by simp [completesRound, rejected]
  once := by simp
  settled := ⟨settled.paced, settled.idle, settled.warming⟩
  dropped := by
    intro i
    have different : call ≠ .drop i := by
      rintro rfl
      simp [accepted] at rejected
    simp [different, withInputCaches]
  keeps := fun i empty _ => empty
  clears := fun _ _ _ _ answered => absurd rfl answered
  warmed := fun _ => id

/-- The fed operation is the call, up to the bytes of an input. -/
def Forwards (call : Call) : SyncOp n → Prop
  | .input player _ => ∃ message, call = .input player message
  | .drop player => call = .drop player

theorem Forwards.drop_iff {call : Call} {op : SyncOp n} (forwards : Forwards call op) (i : Fin n) :
    op = .drop i ↔ call = .drop i := by
  cases op with
  | drop player =>
      rw [show call = .drop player from forwards]
      simp [Fin.ext_iff]
  | input player bytes =>
      obtain ⟨message, rfl⟩ := forwards
      simp

theorem Forwards.input {call : Call} {op : SyncOp n} (forwards : Forwards call op) {player : Fin n}
    {message : ClientInput} (input : call = .input player message) :
    ∃ bytes, op = .input player bytes := by
  cases op with
  | drop dropped =>
      rw [show call = .drop dropped from forwards] at input
      exact Call.noConfusion input
  | input sender bytes =>
      obtain ⟨other, same⟩ := forwards
      rw [same] at input
      obtain ⟨samePlayer, _⟩ := Call.input.inj input
      exact ⟨bytes, by rw [Fin.ext samePlayer]⟩

/-- A call which feeds the combiner has the shape of the fed operation. -/
theorem callShape_of_fed {delayed next : DelayedGameSync n} (settled : delayed.Settled)
    {call : Call} {op fedOp : SyncOp n} (accepts : delayed.accepted call = some op)
    (fedBy : delayed.fed op = some fedOp) (forwards : Forwards call fedOp)
    (unwarmed : ∀ player bytes, fedOp = .input player bytes →
      delayed.totalDelays player ≤ delayed.warmupSent player)
    (quiet : delayed.warmsUp call = none)
    {rounds : Nat} {outputs : List (PlayerOutput n)}
    (shape : OpShape delayed.inner.sync fedOp rounds outputs next.inner.sync)
    (sameSent : next.warmupSent = delayed.warmupSent)
    (sameTotals : next.totalDelays = delayed.totalDelays) :
    CallShape delayed call rounds (outputs.map PlayerOutput.playerId) next where
  slots := by
    rw [answeredSlots, quiet]
    exact shape.slots
  completes := by
    rw [completesRound, accepts, Option.bind_some, fedBy]
    exact shape.completes
  once := by
    intro player message input
    by_cases inRange : player < n
    · obtain ⟨bytes, same⟩ := forwards.input (show call = .input (⟨player, inRange⟩ : Fin n) message from input)
      exact shape.once _ bytes same
    · rw [input, accepted, dif_neg inRange] at accepts
      exact absurd accepts (by simp)
  settled := by
    refine ⟨shape.paced, shape.idle, ?_⟩
    intro i isOpen warm
    rw [sameSent, sameTotals] at warm
    have wasOpen : delayed.inner.sync.droppedPlayers i = false := by
      rw [shape.dropped] at isOpen
      simp only [Bool.or_eq_false_iff] at isOpen
      exact isOpen.1
    refine shape.keeps i (settled.warming i wasOpen warm) ?_
    intro bytes same
    have warmed := unwarmed i bytes same
    omega
  dropped := by
    intro i
    rw [shape.dropped]
    simp only [forwards.drop_iff]
  keeps := by
    intro i empty different
    refine shape.keeps i empty ?_
    rintro bytes rfl
    obtain ⟨message, same⟩ := forwards
    exact different message same
  clears := by
    intro player message input _ answered
    obtain ⟨bytes, same⟩ := forwards.input input
    refine shape.clears player bytes same (Nat.pos_of_ne_zero ?_)
    rintro rfl
    exact answered shape.slots
  warmed := by
    intro i warm
    rwa [sameSent, sameTotals] at warm

theorem accepted_input {delayed : DelayedGameSync n} {call : Call} {player : Fin n} {bytes : Bytes}
    (accepts : delayed.accepted call = some (.input player bytes)) :
    ∃ message, call = .input player message := by
  cases call with
  | drop playerId => simp only [accepted] at accepts; split at accepts <;> simp at accepts
  | input playerId message =>
      simp only [accepted] at accepts
      split at accepts
      · split at accepts
        · simp only [Option.some.injEq, SyncOp.input.injEq] at accepts
          exact ⟨message, by rw [← accepts.1]⟩
        · simp at accepts
      · simp at accepts

/-- Only the player of an input warms up. -/
theorem warmsUp_eq_some {delayed : DelayedGameSync n} {call : Call} {player : Fin n}
    (warms : delayed.warmsUp call = some player) : ∃ message, call = .input player message := by
  cases accepts : delayed.accepted call with
  | none => simp [warmsUp, accepts] at warms
  | some op =>
      cases op with
      | drop other => simp [warmsUp, accepts] at warms
      | input other bytes =>
          have same : other = player := by
            simp only [warmsUp, accepts] at warms
            split at warms
            · exact Option.some.inj warms
            · simp at warms
          exact accepted_input (same ▸ accepts)

theorem warming_of_warmsUp {delayed : DelayedGameSync n} {call : Call} {player : Fin n}
    (warms : delayed.warmsUp call = some player) :
    delayed.warmupSent player < delayed.totalDelays player := by
  cases accepts : delayed.accepted call with
  | none => simp [warmsUp, accepts] at warms
  | some op =>
      cases op with
      | drop other => simp [warmsUp, accepts] at warms
      | input other bytes =>
          simp only [warmsUp, accepts] at warms
          split at warms
          next warm =>
            obtain rfl := Option.some.inj warms
            exact warm
          next => simp at warms

theorem accepted_drop {delayed : DelayedGameSync n} {call : Call} {player : Fin n}
    (accepts : delayed.accepted call = some (.drop player)) : call = .drop player := by
  cases call with
  | drop playerId =>
      simp only [accepted] at accepts
      split at accepts
      · simp only [Option.some.injEq, SyncOp.drop.injEq] at accepts
        rw [← accepts]
      · simp at accepts
  | input playerId message =>
      simp only [accepted] at accepts
      split at accepts
      · split at accepts <;> simp at accepts
      · simp at accepts

theorem le_update_succ (counts : Fin n → Nat) (player i : Fin n) :
    counts i ≤ Function.update counts player (counts player + 1) i := by
  by_cases same : i = player
  · simp [same]
  · simp [same]

/-- A warmup call answers its player alone. -/
theorem callShape_of_warmup {delayed next : DelayedGameSync n} (settled : delayed.Settled)
    {call : Call} {player : Fin n} {bytes : Bytes} {message : ClientInput}
    (accepts : delayed.accepted call = some (.input player bytes))
    (warm : delayed.warmupSent player < delayed.totalDelays player)
    (silent : delayed.fed (.input player bytes) = none) (sameCall : call = .input player message)
    (sameSync : next.inner.sync = delayed.inner.sync)
    (sameTotals : next.totalDelays = delayed.totalDelays)
    (sent : next.warmupSent =
      Function.update delayed.warmupSent player (delayed.warmupSent player + 1)) :
    CallShape delayed call 0 [player] next where
  slots := by simp [answeredSlots, warmsUp, accepts, warm]
  completes := by simp [completesRound, accepts, silent]
  once := by simp
  settled := by
    refine ⟨sameSync ▸ settled.paced, sameSync ▸ settled.idle, ?_⟩
    intro i isOpen here
    rw [sameSync] at isOpen ⊢
    rw [sent, sameTotals] at here
    exact settled.warming i isOpen (Nat.lt_of_le_of_lt (le_update_succ delayed.warmupSent player i) here)
  dropped := by simp [sameSync, sameCall]
  keeps := by
    intro i empty _
    rw [sameSync, empty]
  clears := by
    intro sender other same isOpen _
    rw [sameCall] at same
    obtain ⟨samePlayer, _⟩ := Call.input.inj same
    rw [sameSync]
    rw [← Fin.ext samePlayer] at isOpen ⊢
    exact settled.warming player isOpen warm
  warmed := by
    intro i here
    rw [sent, sameTotals] at here
    exact Nat.lt_of_le_of_lt (le_update_succ delayed.warmupSent player i) here

/-- The plain step has the shape of its call. -/
theorem Settled.plainStep {delayed : DelayedGameSync n} (settled : delayed.Settled) (call : Call) :
    ∃ rounds, CallShape delayed call rounds
      ((returned (delayed.plainStep call).1).map PlayerOutput.playerId)
      (delayed.plainStep call).2 := by
  have step := plainStep_accepted delayed call
  cases accepts : delayed.accepted call with
  | none =>
      rw [accepts] at step
      obtain ⟨error, inputCaches, step⟩ := step
      rw [step]
      exact ⟨0, callShape_of_rejected settled accepts inputCaches⟩
  | some op =>
      rw [accepts] at step
      obtain ⟨inputCaches, step⟩ := step
      rw [step]
      cases op with
      | drop player =>
          have sameCall := accepted_drop accepts
          obtain ⟨rounds, outputs, next, marked, shape⟩ := settled.paced.drop player
          refine ⟨rounds, ?_⟩
          have result : delayed.startupStep (.drop player) =
              (.ok outputs, (delayed.startupStep (.drop player)).2) := by
            simp [startupStep, DelayedGameSync.plainStep, marked]
          rw [result]
          change CallShape delayed call rounds (outputs.map PlayerOutput.playerId) _
          refine callShape_of_fed settled accepts rfl sameCall (by simp) ?_ ?_ rfl rfl
          · simp [warmsUp, accepts]
          · simpa [startupStep, DelayedGameSync.plainStep, marked, withInputCaches] using shape
      | input player bytes =>
          obtain ⟨message, sameCall⟩ := accepted_input accepts
          rcases delayed.startupStep_input_cases player bytes with
            ⟨warm, silent, fedStep⟩ | ⟨warmed, feeds, fedStep⟩
          · rw [fedStep]
            exact ⟨0, callShape_of_warmup settled accepts warm silent sameCall (by simp [withInputCaches])
              (by simp [withInputCaches]) (by simp [withInputCaches])⟩
          · obtain ⟨rounds, outputs, next, processed, shape⟩ := settled.paced.input settled.idle player
              ((delayed.queues player).head?.getD bytes)
            rw [fedStep, plainFeed, learnFrameSize_inner, processed]
            refine ⟨rounds, ?_⟩
            change CallShape delayed call rounds (outputs.map PlayerOutput.playerId) _
            refine callShape_of_fed settled accepts feeds ⟨message, sameCall⟩ ?_ ?_ shape
              (by simp [withInputCaches]) (by simp [withInputCaches])
            · rintro _ _ ⟨rfl, rfl⟩
              exact warmed
            · simp [warmsUp, accepts, warmed]

/-- What a call on a settled engine answers and leaves. -/
theorem Settled.call {delayed : DelayedGameSync n} (settled : delayed.Settled) (call : Call) :
    ∃ rounds, CallShape delayed call rounds
      ((returned ((machine n).step delayed call).1).map CachedPlayerOutput.playerId)
      ((machine n).step delayed call).2 := by
  obtain ⟨rounds, shape⟩ := settled.plainStep call
  have sameAnswers : (returned ((machine n).step delayed call).1).map CachedPlayerOutput.playerId =
      (returned (delayed.plainStep call).1).map PlayerOutput.playerId := by
    have addressed := step_addressees delayed call
    cases answer : ((machine n).step delayed call).1 <;>
      cases plain : (delayed.plainStep call).1 <;>
        simp_all [addressees, Except.map, returned]
  have sameSync : ((machine n).step delayed call).2.inner.sync = (delayed.plainStep call).2.inner.sync ∧
      ((machine n).step delayed call).2.warmupSent = (delayed.plainStep call).2.warmupSent ∧
      ((machine n).step delayed call).2.totalDelays = (delayed.plainStep call).2.totalDelays := by
    rw [step_eq_plainStep]
    cases delayed.plainStep call with
    | mk result staged =>
        cases result with
        | error error => exact ⟨rfl, rfl, rfl⟩
        | ok raws =>
            have unchanged := congrArg CachedGameSync.sync
              (CachedGameSync.cacheOutputs_withOutput staged.inner raws)
            exact ⟨unchanged, rfl, rfl⟩
  obtain ⟨sync, sent, totals⟩ := sameSync
  rw [sameAnswers]
  refine ⟨rounds, shape.slots, shape.completes, shape.once, ⟨?_, ?_, ?_⟩, ?_, ?_, ?_, ?_⟩
  · exact sync ▸ shape.settled.paced
  · exact sync ▸ shape.settled.idle
  · rw [sync, sent, totals]
    exact shape.settled.warming
  · rw [sync]
    exact shape.dropped
  · rw [sync]
    exact shape.keeps
  · rw [sync]
    exact shape.clears
  · rw [sent, totals]
    exact shape.warmed

/-- Who has no input in the queues when a round completes, has just given it or left. -/
theorem missing_of_completes {delayed : DelayedGameSync n} {call : Call}
    (completes : delayed.completesRound call = true) {player : Fin n}
    (isOpen : delayed.inner.sync.droppedPlayers player = false)
    (empty : delayed.inner.sync.playerInput player = []) :
    call = .drop player ∨ ∃ message, call = .input player message := by
  cases accepts : delayed.accepted call with
  | none => simp [completesRound, accepts] at completes
  | some op =>
      cases op with
      | drop other =>
          by_cases same : player = other
          · exact .inl (same ▸ accepted_drop accepts)
          · have waiting : ({ delayed.inner.sync with
                droppedPlayers := Function.update delayed.inner.sync.droppedPlayers other true } :
                SimplestGameSync n).readyToDrain = false :=
              not_ready_of_missing empty (by simp [same, isOpen])
            simp [completesRound, accepts, fed, SimplestGameSync.completesRound, waiting] at completes
      | input other bytes =>
          by_cases same : player = other
          · exact .inr (same ▸ accepted_input accepts)
          · have waiting : ∀ input, (delayed.inner.sync.queueInput other input).readyToDrain = false := by
              intro input
              have missing := (queueInput_playerInput_of_ne same input).trans
                empty
              exact not_ready_of_missing missing (by rw [queueInput_droppedPlayers, isOpen])
            by_cases warm : delayed.warmupSent other < delayed.totalDelays other
            · simp [completesRound, accepts, fed, warm] at completes
            · simp [completesRound, accepts, fed, warm, SimplestGameSync.completesRound,
                waiting] at completes

/-- When an input completes a round, no player warms up who has not left. -/
theorem Settled.warmed_of_completes {delayed : DelayedGameSync n} (settled : delayed.Settled)
    {sender : Nat} {message : ClientInput}
    (completes : delayed.completesRound (.input sender message) = true) {player : Fin n}
    (isOpen : delayed.inner.sync.droppedPlayers player = false) :
    delayed.totalDelays player ≤ delayed.warmupSent player := by
  by_contra warm
  have warm := Nat.lt_of_not_le warm
  have empty := settled.warming player isOpen warm
  rcases missing_of_completes completes isOpen empty with dropped | ⟨other, same⟩
  · exact Call.noConfusion dropped
  · -- the sender itself would be answered by a warmup frame
    cases accepts : delayed.accepted (.input sender message) with
    | none => simp [completesRound, accepts] at completes
    | some op =>
        cases op with
        | drop dropped => exact Call.noConfusion (accepted_drop accepts)
        | input accepted bytes =>
            obtain ⟨_, input⟩ := accepted_input accepts
            have samePlayer : accepted = player :=
              Fin.ext ((Call.input.inj input).1.symm.trans (Call.input.inj same).1)
            subst samePlayer
            simp [completesRound, accepts, fed, warm] at completes

end DelayedGameSync

end Direlera.Sync
