import Direlera.Lobby.Delivery

/-!
# Whom a round waits for

While nobody has been dropped, a round needs a queued input of every player. So a player
whose queue is empty completes the next round itself, and until then nobody else is
answered but a warming player by its own input.
-/

namespace Direlera.Lobby.SyncManager

open Direlera.Sync Direlera.Sync.SimplestGameSync

variable {sync : SyncManager} {gameId : UInt32} {request : Call} {slot : Nat}

/-- Some slot has been dropped. -/
def HasDropped (sync : SyncManager) : Prop := ∃ slot, sync.engine.isPlayerDropped slot = true

/-- No input of the slot is queued. -/
def Awaits (sync : SyncManager) (slot : Nat) : Prop :=
  ∃ i : Fin sync.playerCount, i.val = slot ∧ sync.engine.inner.sync.playerInput i = []

/-- The slot is still answered by warmup frames. -/
def Warming (sync : SyncManager) (slot : Nat) : Prop :=
  ∃ i : Fin sync.playerCount, i.val = slot ∧ sync.engine.warmupSent i < sync.engine.totalDelays i

/-- A call answers a slot: by a round, or by a warmup frame. -/
def Answers (sync : SyncManager) (request : Call) (slot : Nat) : Prop :=
  sync.engine.completesRound request = true ∨
    (sync.engine.warmsUp request).map Fin.val = some slot

theorem open_of_not_hasDropped (everyone : ¬sync.HasDropped) (i : Fin sync.playerCount) :
    sync.engine.inner.sync.droppedPlayers i = false := by
  rw [← Bool.not_eq_true]
  intro dropped
  refine everyone ⟨i, ?_⟩
  simp [DelayedGameSync.isPlayerDropped, SimplestGameSync.isPlayerDropped, dropped]

/-- Whoever is sent a response is answered by the call. -/
theorem answers_of_returned (settled : sync.engine.Settled) {response : Frame}
    (member : response ∈ returned (sync.call gameId request).1) :
    sync.Answers request response.slot := by
  obtain ⟨rounds, completes, _, slots⟩ := call_slots settled gameId request
  cases warms : sync.engine.warmsUp request with
  | none =>
      refine .inl (completes.mp (Nat.pos_of_ne_zero ?_))
      rintro rfl
      simp only [DelayedGameSync.answeredSlots, warms, roundSlots_zero, List.map_nil,
        List.map_eq_nil_iff] at slots
      simp [slots] at member
  | some player =>
      have mapped : response.slot ∈ _ := List.mem_map_of_mem member
      simp only [slots, DelayedGameSync.answeredSlots, warms, List.map_cons, List.map_nil,
        List.mem_singleton] at mapped
      exact .inr (by simp [warms, mapped])

/-- A call which answers a slot is accepted. -/
theorem Answers.accepted (answers : sync.Answers request slot) :
    sync.engine.accepted request ≠ none := by
  intro rejected
  rcases answers with completes | warms
  · simp [DelayedGameSync.completesRound, rejected] at completes
  · simp [DelayedGameSync.warmsUp, rejected] at warms

/-- A warmup frame goes to the player of the input. -/
theorem input_of_warmsUp (warms : (sync.engine.warmsUp request).map Fin.val = some slot) :
    (∃ message, request = .input slot message) ∧ sync.Warming slot := by
  obtain ⟨player, here, rfl⟩ := Option.map_eq_some_iff.mp warms
  exact ⟨DelayedGameSync.warmsUp_eq_some here, player, rfl, DelayedGameSync.warming_of_warmsUp here⟩

/-- Only the player whom a round waits for completes it. -/
theorem Awaits.completes (awaits : sync.Awaits slot) (everyone : ¬sync.HasDropped)
    (completes : sync.engine.completesRound request = true) :
    request = .drop slot ∨ ∃ message, request = .input slot message := by
  obtain ⟨i, rfl, empty⟩ := awaits
  exact DelayedGameSync.missing_of_completes completes (open_of_not_hasDropped everyone i) empty

/-- Nobody warms up in a round which an input completes. -/
theorem not_warming_of_completes (settled : sync.engine.Settled) (everyone : ¬sync.HasDropped)
    {sender : Nat} {message : ClientInput}
    (completes : sync.engine.completesRound (.input sender message) = true) : ¬sync.Warming slot := by
  rintro ⟨i, rfl, warm⟩
  have warmed := settled.warmed_of_completes completes (open_of_not_hasDropped everyone i)
  omega

/-! ## After a call -/

theorem HasDropped.call (settled : sync.engine.Settled) (dropped : sync.HasDropped) :
    (sync.call gameId request).2.HasDropped := by
  obtain ⟨slot, dropped⟩ := dropped
  refine ⟨slot, ?_⟩
  rw [call_isPlayerDropped settled, dropped, Bool.true_or]

/-- A drop which answers anybody has dropped its slot. -/
theorem hasDropped_of_drop (settled : sync.engine.Settled)
    (answered : returned (sync.call gameId (.drop slot)).1 ≠ []) :
    (sync.call gameId (.drop slot)).2.HasDropped := by
  refine ⟨slot, ?_⟩
  rw [call_isPlayerDropped settled]
  by_cases inRange : slot < sync.playerCount
  · simp [inRange]
  · obtain ⟨response, member⟩ := List.exists_mem_of_ne_nil _ answered
    exact absurd (by simp [DelayedGameSync.accepted, inRange])
      (answers_of_returned settled member).accepted

/-- Only the input of a slot ends the wait for it. -/
theorem Awaits.call (awaits : sync.Awaits slot) (settled : sync.engine.Settled)
    (other : ∀ message, request ≠ .input slot message) :
    (sync.call gameId request).2.Awaits slot := by
  obtain ⟨i, rfl, empty⟩ := awaits
  obtain ⟨rounds, shape⟩ := settled.call request
  exact ⟨i, rfl, shape.keeps i empty other⟩

/-- A player whose input is answered is awaited again. -/
theorem awaits_of_answered (settled : sync.engine.Settled) (everyone : ¬sync.HasDropped)
    {message : ClientInput} (answered : returned (sync.call gameId (.input slot message)).1 ≠ []) :
    (sync.call gameId (.input slot message)).2.Awaits slot := by
  obtain ⟨rounds, shape⟩ := settled.call (.input slot message)
  have answers : (returned ((DelayedGameSync.machine sync.playerCount).step sync.engine
      (.input slot message)).1).map CachedPlayerOutput.playerId ≠ [] := by
    intro nobody
    rw [returned_call] at answered
    exact answered (by simp [List.map_eq_nil_iff.mp nobody])
  have inRange : slot < sync.playerCount := by
    by_contra outside
    obtain ⟨response, member⟩ := List.exists_mem_of_ne_nil _ answered
    exact (answers_of_returned settled member).accepted (by simp [DelayedGameSync.accepted, outside])
  exact ⟨⟨slot, inRange⟩, rfl, shape.clears ⟨slot, inRange⟩ message rfl
    (open_of_not_hasDropped everyone _) answers⟩

/-- Warming up never starts again. -/
theorem Warming.before (settled : sync.engine.Settled)
    (warming : (sync.call gameId request).2.Warming slot) : sync.Warming slot := by
  obtain ⟨i, rfl, warm⟩ := warming
  obtain ⟨rounds, shape⟩ := settled.call request
  exact ⟨i, rfl, shape.warmed i warm⟩

end Direlera.Lobby.SyncManager
