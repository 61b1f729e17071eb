import Direlera.Library.While
import Direlera.Sync.RoundShape

/-!
# Draining ends and leaves nothing ready

`drain_ready_inputs` is two nested loops. From any state with positive delays both end: every
round of the outer one takes a queued input, and every round of an inner one takes a block
from a send buffer.
-/

namespace Direlera.Sync.SimplestGameSync

open Direlera.Library

variable {n : Nat}

/-! ## The inner loop -/

/-- `while buffer.len() >= require_len` is repeated. -/
def hasBlock (requireLen : Nat) (buffer : List OneInput) : Bool := decide (requireLen ≤ buffer.length)

/-- `buffer.drain(..require_len).flatten()`. -/
def sendBlock (requireLen : Nat) (buffer : List OneInput) : List Bytes × List OneInput :=
  ([(buffer.take requireLen).flatten], buffer.drop requireLen)

section Inner

variable {requireLen : Nat} {buffer : List OneInput}

theorem sendBlock_falls (positive : 0 < requireLen) (buffer : List OneInput)
    (has : hasBlock requireLen buffer = true) :
    (sendBlock requireLen buffer).2.length < buffer.length := by
  have enough := of_decide_eq_true has
  simp only [sendBlock, List.length_drop]
  omega

/-- The inner loop computes the blocks of a buffer. -/
theorem sendBlocks_of_while (positive : 0 < requireLen) {last : List OneInput} {rounds : Nat}
    {outputs : List Bytes}
    (loop : While (hasBlock requireLen) (sendBlock requireLen) buffer rounds outputs last) :
    sendBlocks requireLen buffer = (outputs, last) := by
  induction loop with
  | stop stops =>
      rw [sendBlocks_unfold positive, if_neg (of_decide_eq_false stops)]
  | round goes _ ih =>
      rw [sendBlocks_unfold positive, if_pos (of_decide_eq_true goes)]
      simp only [sendBlock] at ih
      rw [ih]
      rfl

/-- The inner loop ends, at the latest when the buffer is empty. -/
theorem while_sendBlocks (positive : 0 < requireLen) (buffer : List OneInput) :
    ∃ rounds ≤ buffer.length, While (hasBlock requireLen) (sendBlock requireLen) buffer rounds
      (sendBlocks requireLen buffer).1 (sendBlocks requireLen buffer).2 := by
  obtain ⟨rounds, outputs, last, loop⟩ := While.ends (sendBlock_falls positive) buffer
  rw [sendBlocks_of_while positive loop]
  exact ⟨rounds, loop.rounds_le (sendBlock_falls positive), loop⟩

/-- What stays in a buffer is less than a block. -/
theorem length_sendBlocks_lt (positive : 0 < requireLen) (buffer : List OneInput) :
    (sendBlocks requireLen buffer).2.length < requireLen := by
  obtain ⟨rounds, _, loop⟩ := while_sendBlocks positive buffer
  exact Nat.lt_of_not_le (of_decide_eq_false loop.stopped)

/-- Every block takes as many inputs as are required. -/
theorem length_sendBlocks (positive : 0 < requireLen) (buffer : List OneInput) :
    buffer.length = (sendBlocks requireLen buffer).1.length * requireLen +
      (sendBlocks requireLen buffer).2.length := by
  obtain ⟨rounds, -, loop⟩ := while_sendBlocks positive buffer
  generalize sendBlocks requireLen buffer = sent at loop
  obtain ⟨outputs, last⟩ := sent
  dsimp only at loop ⊢
  induction loop with
  | stop _ => simp
  | @round buffer last rounds outputs goes _ ih =>
      have enough : requireLen ≤ buffer.length := of_decide_eq_true goes
      simp only [sendBlock, List.length_drop] at ih
      simp only [sendBlock, List.singleton_append, List.length_cons, Nat.succ_mul]
      omega

end Inner

/-! ## The outer loop -/

section Outer

variable {sync last : SimplestGameSync n} {rounds : Nat} {outputs : List (PlayerOutput n)}

/-- The outer loop computes what draining returns. -/
theorem drainReadyInputs_of_while (loop : While readyToDrain drainRound sync rounds outputs last) :
    sync.drainReadyInputs = (outputs, last) := by
  induction loop with
  | stop stops => rw [drainReadyInputs_unfold, stops, if_neg Bool.false_ne_true]
  | round goes _ ih => rw [drainReadyInputs_unfold, if_pos goes, ih]

/-- The outer loop ends, at the latest when every queued input was taken. -/
theorem while_drainReadyInputs (sync : SimplestGameSync n) :
    ∃ rounds ≤ sync.queuedInputs, While readyToDrain drainRound sync rounds
      sync.drainReadyInputs.1 sync.drainReadyInputs.2 := by
  have falls : ∀ sync : SimplestGameSync n, sync.readyToDrain = true →
      sync.drainRound.2.queuedInputs < sync.queuedInputs := fun _ => queuedInputs_drainRound_lt
  obtain ⟨rounds, outputs, last, loop⟩ := While.ends falls sync
  rw [drainReadyInputs_of_while loop]
  exact ⟨rounds, loop.rounds_le falls, loop⟩

/-- Every round adds an input of every player to a buffer, and blocks are taken from it. -/
theorem length_senderBuffer_of_while (positive : ∀ pid, 0 < sync.playerDelays pid)
    (loop : While readyToDrain drainRound sync rounds outputs last) (pid : Fin n) :
    (sync.senderBuffer pid).length + rounds * n =
      (outputsFor pid outputs).length * (sync.playerDelays pid * n) +
        (last.senderBuffer pid).length := by
  induction loop with
  | stop _ => simp
  | @round sync last rounds outputs goes _ ih =>
      have block : 0 < sync.playerDelays pid * n := Nat.mul_pos (positive pid) pid.pos
      have sent := length_sendBlocks block (sync.senderBuffer pid ++ sync.extractInputs)
      have rest := ih positive
      rw [List.length_append, length_extractInputs goes] at sent
      rw [outputsFor_append, outputsFor_drainRound, List.length_append, Nat.succ_mul, Nat.add_mul]
      simp only [drainRound_playerDelays] at rest
      change _ + rounds * n = _ at rest
      simp only [drainRound] at rest
      omega

/-- What a call of `drain_ready_inputs` has done when it returns. -/
structure DrainEnds (sync : SimplestGameSync n) (rounds : Nat) (outputs : List (PlayerOutput n))
    (last : SimplestGameSync n) : Prop where
  /-- The outer loop ends after these rounds. -/
  outer : While readyToDrain drainRound sync rounds outputs last
  bound : rounds ≤ sync.queuedInputs
  /-- Whatever a buffer holds, the inner loop on it ends. -/
  inner : ∀ pid buffer, ∃ blocks ≤ buffer.length,
    While (hasBlock (sync.playerDelays pid * n)) (sendBlock (sync.playerDelays pid * n)) buffer
      blocks (sendBlocks (sync.playerDelays pid * n) buffer).1
      (sendBlocks (sync.playerDelays pid * n) buffer).2
  /-- Somebody's input is missing, or nothing is queued. -/
  quiet : (∃ pid, last.droppedPlayers pid = false ∧ last.playerInput pid = []) ∨
    ∀ pid, last.playerInput pid = []
  /-- Every round adds one input of each player to the buffers. -/
  fed : ∀ state : SimplestGameSync n, state.readyToDrain = true → state.extractInputs.length = n
  added : ∀ pid, (sync.senderBuffer pid).length + rounds * n =
    (outputsFor pid outputs).length * (sync.playerDelays pid * n) + (last.senderBuffer pid).length
  short : 0 < rounds → ∀ pid, (last.senderBuffer pid).length < sync.playerDelays pid * n
  /-- A second call does nothing. -/
  again : last.drainReadyInputs = ([], last)

/-- From every state with positive delays draining ends, with nothing left to drain. -/
theorem drain_quiescent (sync : SimplestGameSync n) (positive : ∀ pid, 0 < sync.playerDelays pid) :
    ∃ rounds, DrainEnds sync rounds sync.drainReadyInputs.1 sync.drainReadyInputs.2 := by
  obtain ⟨rounds, bound, outer⟩ := while_drainReadyInputs sync
  have blocks : ∀ pid, 0 < sync.playerDelays pid * n := fun pid =>
    Nat.mul_pos (positive pid) pid.pos
  refine ⟨rounds, outer, bound, fun pid => while_sendBlocks (blocks pid), ?_,
    fun _ => length_extractInputs, length_senderBuffer_of_while positive outer, ?_, ?_⟩
  · have idle := outer.stopped
    by_cases empty : ∀ pid, sync.drainReadyInputs.2.playerInput pid = []
    · exact .inr empty
    · refine .inl ?_
      by_contra present
      refine Bool.eq_false_iff.mp idle (readyToDrain_iff.mpr ⟨fun pid => ?_, not_forall.mp empty⟩)
      cases dropped : sync.drainReadyInputs.2.droppedPlayers pid with
      | true => exact .inr rfl
      | false => exact .inl fun missing => present ⟨pid, dropped, missing⟩
  · intro some pid
    refine outer.after_round (fun state => state.playerDelays = sync.playerDelays)
      (fun state => (state.senderBuffer pid).length < sync.playerDelays pid * n)
      (fun _ _ same => same) (fun state _ same => ?_) rfl some
    rw [← same]
    exact length_sendBlocks_lt (same ▸ blocks pid) (state.senderBuffer pid ++ state.extractInputs)
  · rw [drainReadyInputs_unfold, outer.stopped, if_neg Bool.false_ne_true]

/-- The first of two players has inputs queued; the second one has left. -/
def halfDropped : SimplestGameSync 2 where
  playerInput := ![[[7], [8]], []]
  senderBuffer := ![[], [[1], [2]]]
  playerDelays := ![1, 2]
  droppedPlayers := ![false, true]
  gameDataSize := 1

/-- Draining ends for a player who is alone with a dropped one. -/
theorem drain_quiescent_half_dropped :
    ∃ rounds, DrainEnds halfDropped rounds halfDropped.drainReadyInputs.1
      halfDropped.drainReadyInputs.2 :=
  drain_quiescent halfDropped (by decide)

end Outer

end Direlera.Sync.SimplestGameSync
