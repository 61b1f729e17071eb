import Direlera.Sync.Layers
import Direlera.Sync.UpstreamCache

/-!
# After a drop

A drop is meant to be final: later inputs of the player and further drops change nothing
but the player's input caches. The combiner keeps to that. The startup layer does not
look at the drop flag, so a player which dropped while it warmed up goes on warming up.
-/

namespace Direlera.Sync

open Direlera.Library

variable {n : Nat}

namespace SimplestGameSync

/-- The combiner has nothing left to drain after a call. -/
theorem idle_processClientInput {sync : SimplestGameSync n} (idle : sync.readyToDrain = false)
    (playerId : Nat) (input : Bytes) :
    (sync.processClientInput playerId input).2.readyToDrain = false := by
  unfold processClientInput
  split
  · split
    · exact idle
    · exact (drainReadyInputs_induction (fun _ _ => True) trivial fun _ _ _ _ => trivial).2
  · exact idle

theorem idle_markPlayerDropped {sync : SimplestGameSync n} (idle : sync.readyToDrain = false)
    (playerId : Nat) : (sync.markPlayerDropped playerId).2.readyToDrain = false := by
  unfold markPlayerDropped
  split
  · exact (drainReadyInputs_induction (fun _ _ => True) trivial fun _ _ _ _ => trivial).2
  · exact idle

theorem droppedPlayers_drainReadyInputs (sync : SimplestGameSync n) :
    sync.drainReadyInputs.2.droppedPlayers = sync.droppedPlayers :=
  (sync.drainReadyInputs_induction
    (fun _ state => state.droppedPlayers = sync.droppedPlayers) rfl fun _ _ same _ => same).1

/-- Inputs drop nobody. -/
theorem droppedPlayers_processClientInput (sync : SimplestGameSync n) (playerId : Nat)
    (input : Bytes) :
    (sync.processClientInput playerId input).2.droppedPlayers = sync.droppedPlayers := by
  unfold processClientInput
  split
  · split
    · rfl
    · exact (droppedPlayers_drainReadyInputs _).trans (queueInput_droppedPlayers sync _ input)
  · rfl

/-- A drop drops its player only. -/
theorem droppedPlayers_markPlayerDropped (sync : SimplestGameSync n) (player : Fin n) :
    (sync.markPlayerDropped player).2.droppedPlayers =
      Function.update sync.droppedPlayers player true := by
  simp only [markPlayerDropped, player.isLt, dif_pos, Fin.eta]
  exact droppedPlayers_drainReadyInputs _

/-- The combiner ignores the input of a dropped player. -/
theorem processClientInput_dropped {sync : SimplestGameSync n} {player : Fin n}
    (dropped : sync.droppedPlayers player = true) (input : Bytes) :
    sync.processClientInput player input = (.ok [], sync) := by
  simp [processClientInput, dropped]

/-- A second drop finds nothing to do. -/
theorem markPlayerDropped_dropped {sync : SimplestGameSync n} (idle : sync.readyToDrain = false)
    {player : Fin n} (dropped : sync.droppedPlayers player = true) :
    sync.markPlayerDropped player = (.ok [], sync) := by
  have marked : { sync with
      droppedPlayers := Function.update sync.droppedPlayers player true } = sync := by
    rw [← dropped, Function.update_eq_self]
  simp only [markPlayerDropped, player.isLt, dif_pos, Fin.eta, marked]
  rw [drainReadyInputs_unfold, if_neg (by simp [idle])]

end SimplestGameSync

namespace DelayedGameSync

/-- Everything but the input caches of a player is as it was. -/
structure Unmoved (player : Fin n) (before after : DelayedGameSync n) : Prop where
  sync : after.inner.sync = before.inner.sync
  outputCaches : after.inner.outputCaches = before.inner.outputCaches
  setting : after.inner.disableOutputCache = before.inner.disableOutputCache
  queues : after.queues = before.queues
  warmupSent : after.warmupSent = before.warmupSent
  totalDelays : after.totalDelays = before.totalDelays
  frameSize : after.frameSize = before.frameSize
  outer : ∀ other, other ≠ player → after.inputCaches other = before.inputCaches other
  inner : ∀ other, other ≠ player → after.inner.inputCaches other = before.inner.inputCaches other

/-- What a call about a dropped player may do: a successful input returns nothing and moves
nothing, and another drop changes nothing at all. -/
def DropFinal (delayed : DelayedGameSync n) : Call → Prop
  | .input playerId message => ∀ player : Fin n, player = playerId →
      delayed.isPlayerDropped playerId = true → ∀ report,
        (delayed.processClientInput playerId message).1 = .ok report →
          report.outputs = [] ∧ delayed.Unmoved player (delayed.processClientInput playerId message).2
  | .drop playerId => delayed.isPlayerDropped playerId = true →
      delayed.markPlayerDropped playerId = (.ok [], delayed)

/-- An input of a dropped player finds its warmup over, and no frame size to learn. -/
def DropHonoured (delayed : DelayedGameSync n) : Call → Prop
  | .input playerId message => ∀ player : Fin n, player = playerId →
      delayed.isPlayerDropped playerId = true → ∀ bytes,
        (resolveInput delayed.inputCaches player message).1 = .ok bytes →
          delayed.totalDelays player ≤ delayed.warmupSent player ∧
            (bytes = [] ∨ delayed.frameSize ≠ 0)
  | .drop _ => True

/-- Nothing to drain, and nothing saved of dropped players. -/
structure Calm (delayed : DelayedGameSync n) : Prop where
  idle : delayed.inner.sync.readyToDrain = false
  discarded : ∀ player, delayed.inner.sync.droppedPlayers player = true →
    delayed.queues player = []

variable {delayed : DelayedGameSync n}

theorem isPlayerDropped_eq (player : Fin n) :
    delayed.isPlayerDropped player = delayed.inner.sync.droppedPlayers player := by
  simp [isPlayerDropped, SimplestGameSync.isPlayerDropped]

/-- An input saves nothing of the other players. -/
theorem queues_processResolved (delayed : DelayedGameSync n) {player other : Fin n}
    (different : other ≠ player) (bytes : Bytes) :
    (delayed.processResolved player bytes).2.queues other = delayed.queues other := by
  rcases Nat.lt_or_ge (delayed.warmupSent player) (delayed.totalDelays player) with warm | warmed
  · rw [processResolved_warming warm]
    exact Function.update_of_ne different ..
  · cases saved : delayed.queues player with
    | cons due rest =>
        rw [processResolved_flushing warmed saved]
        exact Function.update_of_ne different ..
    | nil =>
        rw [processResolved_passing warmed saved]
        simp

/-- The input cache of the player itself may have recorded the packet before. -/
theorem unmoved_withInputCaches {inputCaches : Fin n → InputCache} {player : Fin n}
    (others : ∀ other, other ≠ player → inputCaches other = delayed.inputCaches other)
    {after : DelayedGameSync n} :
    Unmoved player { delayed with inputCaches } after ↔ delayed.Unmoved player after := by
  constructor
  · intro unmoved
    exact { unmoved with
      outer := fun other different => (unmoved.outer other different).trans (others other different) }
  · intro unmoved
    exact { unmoved with
      outer := fun other different =>
        (unmoved.outer other different).trans (others other different).symm }

namespace Calm

/-- A resolved input keeps the engine calm, unless its player dropped and is warming up. -/
theorem resolved (calm : delayed.Calm) {player : Fin n}
    (warmed : delayed.inner.sync.droppedPlayers player = true →
      delayed.totalDelays player ≤ delayed.warmupSent player) (bytes : Bytes) :
    (delayed.processResolved player bytes).2.Calm := by
  have same : (delayed.processResolved player bytes).2.inner.sync.readyToDrain = false ∧
      (delayed.processResolved player bytes).2.inner.sync.droppedPlayers =
        delayed.inner.sync.droppedPlayers := by
    rcases sync_processResolved delayed player bytes with kept | ⟨data, moved⟩
    · rw [kept]
      exact ⟨calm.idle, rfl⟩
    · rw [moved]
      exact ⟨SimplestGameSync.idle_processClientInput calm.idle player data,
        SimplestGameSync.droppedPlayers_processClientInput ..⟩
  refine ⟨same.1, fun other dropped => ?_⟩
  rw [same.2] at dropped
  have empty := calm.discarded other dropped
  by_cases sender : other = player
  · subst sender
    rw [processResolved_passing (warmed dropped) empty]
    simpa using empty
  · rw [queues_processResolved delayed sender, empty]

/-- A drop keeps the engine calm. -/
theorem drop (calm : delayed.Calm) (playerId : Nat) :
    (delayed.markPlayerDropped playerId).2.Calm := by
  have moved : (delayed.markPlayerDropped playerId).2.inner.sync =
      (delayed.inner.sync.markPlayerDropped playerId).2 := by
    simp only [markPlayerDropped, CachedGameSync.markPlayerDropped_eq_convert,
      CachedGameSync.sync_convert]
  constructor
  · rw [moved]
    exact SimplestGameSync.idle_markPlayerDropped calm.idle playerId
  · intro other dropped
    rw [moved] at dropped
    by_cases inRange : playerId < n
    · rw [SimplestGameSync.droppedPlayers_markPlayerDropped delayed.inner.sync
        ⟨playerId, inRange⟩] at dropped
      simp only [markPlayerDropped, inRange, dif_pos]
      by_cases leaver : other = ⟨playerId, inRange⟩
      · subst leaver
        exact Function.update_self ..
      · rw [Function.update_of_ne leaver] at dropped ⊢
        exact calm.discarded other dropped
    · simp only [SimplestGameSync.markPlayerDropped, inRange, dif_neg, not_false_eq_true]
        at dropped
      simp only [markPlayerDropped, inRange, dif_neg, not_false_eq_true]
      exact calm.discarded other dropped

/-- An honoured call keeps the engine calm. -/
theorem step (calm : delayed.Calm) {call : Call} (honoured : delayed.DropHonoured call) :
    ((machine n).step delayed call).2.Calm := by
  cases call with
  | input playerId message =>
      change (delayed.processClientInput playerId message).2.Calm
      by_cases inRange : playerId < n
      · have resolves := delayed.processClientInput_resolved ⟨playerId, inRange⟩ message
        have warmed := honoured ⟨playerId, inRange⟩ rfl
        rw [isPlayerDropped_eq ⟨playerId, inRange⟩] at warmed
        rw [resolves]
        cases result : resolveInput delayed.inputCaches ⟨playerId, inRange⟩ message with
        | mk resolved inputCaches =>
            cases resolved with
            | error error => exact ⟨calm.idle, calm.discarded⟩
            | ok bytes =>
                have same : ({ delayed with inputCaches } : DelayedGameSync n).Calm :=
                  ⟨calm.idle, calm.discarded⟩
                exact same.resolved (fun dropped => (warmed dropped bytes (by rw [result])).1) bytes
      · rw [processClientInput, dif_neg inRange]
        exact calm
  | drop playerId =>
      exact calm.drop playerId

/-- A fresh engine is calm. -/
theorem start (playerDelays warmups : Fin n → Nat) (disableOutputCache : Bool) :
    (start playerDelays warmups disableOutputCache).Calm where
  idle := by
    rw [Bool.eq_false_iff]
    intro ready
    obtain ⟨-, player, queued⟩ := SimplestGameSync.readyToDrain_iff.mp ready
    exact queued rfl
  discarded _ dropped := by cases dropped

/-- The input of a dropped player whose warmup is over goes to the combiner, which ignores it. -/
theorem ignored (calm : delayed.Calm) {player : Fin n}
    (dropped : delayed.inner.sync.droppedPlayers player = true)
    (warmed : delayed.totalDelays player ≤ delayed.warmupSent player) (bytes : Bytes) :
    delayed.processResolved player bytes =
      (.ok ⟨[], false, none⟩,
        { delayed.learnFrameSize bytes with inner := delayed.inner.record player bytes }) := by
  have combined : (delayed.inner.record player bytes).combine player bytes =
      (.ok ⟨[], false, none⟩, delayed.inner.record player bytes) := by
    unfold CachedGameSync.combine
    rewrite [show (delayed.inner.record player bytes).sync = delayed.inner.sync from rfl,
      SimplestGameSync.processClientInput_dropped dropped]
    rfl
  rw [processResolved_passing warmed (calm.discarded player dropped), combined]

/-- It moves nothing exactly when there is no frame size to learn. -/
theorem unmoved_iff (calm : delayed.Calm) {player : Fin n}
    (dropped : delayed.inner.sync.droppedPlayers player = true)
    (warmed : delayed.totalDelays player ≤ delayed.warmupSent player) (bytes : Bytes) :
    delayed.Unmoved player (delayed.processResolved player bytes).2 ↔
      bytes = [] ∨ delayed.frameSize ≠ 0 := by
  rw [calm.ignored dropped warmed]
  constructor
  · intro unmoved
    by_contra learns
    obtain ⟨nonempty, unlearned⟩ := not_or.mp learns
    have same : (delayed.learnFrameSize bytes).frameSize = delayed.frameSize := unmoved.frameSize
    rw [not_not] at unlearned
    rw [learnFrameSize, if_pos ⟨unlearned, nonempty⟩, unlearned] at same
    exact nonempty (List.length_eq_zero_iff.mp same)
  · intro learned
    have kept : delayed.learnFrameSize bytes = delayed := by
      rw [learnFrameSize, if_neg]
      rintro ⟨unlearned, nonempty⟩
      exact learned.elim nonempty fun size => size unlearned
    rw [kept]
    refine ⟨rfl, rfl, rfl, rfl, rfl, rfl, rfl, fun _ _ => rfl, fun other different => ?_⟩
    exact Function.update_of_ne different ..

/-- The law of drops for a resolved input. -/
theorem resolved_iff (calm : delayed.Calm) {player : Fin n}
    (dropped : delayed.inner.sync.droppedPlayers player = true) (bytes : Bytes) :
    (∀ report, (delayed.processResolved player bytes).1 = .ok report →
      report.outputs = [] ∧ delayed.Unmoved player (delayed.processResolved player bytes).2) ↔
      delayed.totalDelays player ≤ delayed.warmupSent player ∧
        (bytes = [] ∨ delayed.frameSize ≠ 0) := by
  constructor
  · intro final
    have warmed : delayed.totalDelays player ≤ delayed.warmupSent player := by
      by_contra warm
      rw [processResolved_warming (Nat.not_le.mp warm)] at final
      exact absurd (final _ rfl).1 (List.cons_ne_nil _ _)
    refine ⟨warmed, (calm.unmoved_iff dropped warmed bytes).mp ?_⟩
    exact (final _ (congrArg Prod.fst (calm.ignored dropped warmed bytes))).2
  · rintro ⟨warmed, learned⟩ report accepted
    refine ⟨?_, (calm.unmoved_iff dropped warmed bytes).mpr learned⟩
    rw [calm.ignored dropped warmed] at accepted
    cases accepted
    rfl

/-- The law of drops holds of a call on a calm engine exactly when the call is honoured. -/
theorem final_iff_honoured (calm : delayed.Calm) (call : Call) :
    delayed.DropFinal call ↔ delayed.DropHonoured call := by
  cases call with
  | drop playerId =>
      refine iff_of_true (fun dropped => ?_) trivial
      obtain ⟨player, rfl⟩ : ∃ player : Fin n, (player : Nat) = playerId := by
        by_contra outOfRange
        have inRange : ¬ playerId < n := fun inRange => outOfRange ⟨⟨playerId, inRange⟩, rfl⟩
        simp [isPlayerDropped, SimplestGameSync.isPlayerDropped, inRange] at dropped
      rw [isPlayerDropped_eq] at dropped
      have empty : Function.update delayed.queues player [] = delayed.queues := by
        rw [← calm.discarded player dropped, Function.update_eq_self]
      simp only [markPlayerDropped, CachedGameSync.markPlayerDropped_eq_convert, player.isLt,
        dif_pos, Fin.eta, empty, SimplestGameSync.markPlayerDropped_dropped calm.idle dropped]
      rfl
  | input playerId message =>
      refine forall_congr' fun player => forall_congr' fun sender => forall_congr' fun dropped => ?_
      subst sender
      rw [isPlayerDropped_eq] at dropped
      rw [processClientInput_resolved]
      cases result : resolveInput delayed.inputCaches player message with
      | mk resolved inputCaches =>
          cases resolved with
          | error error => simp
          | ok bytes =>
              have settled : Calm { delayed with inputCaches } := ⟨calm.idle, calm.discarded⟩
              have others : ∀ other, other ≠ player →
                  inputCaches other = delayed.inputCaches other := by
                intro other different
                have same := @resolveInput_other _ delayed.inputCaches _ _ different message
                rwa [result] at same
              have law := settled.resolved_iff dropped bytes
              simp only [unmoved_withInputCaches others] at law
              simpa using law

end Calm

/-- The law of drops holds of every call of a run exactly when every input which a dropped
player gets resolved finds the player's warmup over and no frame size to learn. -/
theorem drop_final_iff (playerDelays warmups : Fin n → Nat) (disableOutputCache : Bool)
    (calls : List Call) :
    (machine n).Along DropFinal (start playerDelays warmups disableOutputCache) calls ↔
      (machine n).Along DropHonoured (start playerDelays warmups disableOutputCache) calls :=
  (machine n).along_congr_of_first Calm
    (fun _ _ calm final => calm.step ((calm.final_iff_honoured _).mp final))
    (fun _ call calm => calm.final_iff_honoured call) (.start playerDelays warmups _) calls

/-- Of two players with startup delays of 1, the first drops at once and sends an input: it is
answered by a frame of zeros and saved. -/
theorem drop_ignored_by_warmup :
    ¬ (machine 2).Along DropFinal (start (fun _ => 1) (fun _ => 1) false)
      [.drop 0, .input 0 (.gameData [7])] := by
  rintro ⟨-, final, -⟩
  have answered := (final 0 rfl (by decide +kernel) _ rfl).1
  revert answered
  decide +kernel

end DelayedGameSync

end Direlera.Sync
