import Mathlib.Data.Set.Insert
import Mathlib.Tactic.Tauto

/-!
# Taking items in the order of their numbers

A receiver of numbered items takes them in order and keeps those which came too early. A
`Reorder` is what such a receiver has taken and what it keeps; between two arrivals nothing it
keeps is due, and then the items it has taken are exactly the run of received ones which
starts at `0`.
-/

namespace Direlera.Library

/-- The items below `next` are taken, those of `ahead` are kept. -/
structure Reorder where
  next : Nat
  ahead : Set Nat

/-- The end of the run of items which starts at `0`. -/
def FirstMissing (items : Set Nat) (first : Nat) : Prop :=
  (∀ item < first, item ∈ items) ∧ first ∉ items

/-- A set of items has one first missing item. -/
theorem FirstMissing.unique {items : Set Nat} {first other : Nat}
    (here : FirstMissing items first) (there : FirstMissing items other) : first = other := by
  rcases Nat.lt_trichotomy first other with below | same | above
  · exact absurd (there.1 first below) here.2
  · exact same
  · exact absurd (here.1 other above) there.2

namespace Reorder

/-- Nothing has arrived. -/
def fresh : Reorder := ⟨0, ∅⟩

/-- What has arrived and is not forgotten. -/
def received (order : Reorder) : Set Nat := {item | item < order.next ∨ item ∈ order.ahead}

/-- What is kept is not due yet. -/
def Settled (order : Reorder) : Prop := ∀ item ∈ order.ahead, order.next < item

/-- Take the due item. -/
def take (order : Reorder) : Reorder := ⟨order.next + 1, order.ahead \ {order.next}⟩

/-- Keep an early item. -/
def keep (order : Reorder) (item : Nat) : Reorder := ⟨order.next, insert item order.ahead⟩

/-- Forget what is kept. -/
def forget (order : Reorder) : Reorder := ⟨order.next, ∅⟩

/-- Kept items are taken for as long as one of them is due. -/
structure Drains (before after : Reorder) : Prop where
  received : after.received = before.received
  settled : after.Settled

variable {order after : Reorder} {item : Nat}

@[simp] theorem received_fresh : fresh.received = ∅ := by
  simp [received, fresh]

theorem settled_fresh : fresh.Settled := by
  simp [Settled, fresh]

theorem settled_forget (order : Reorder) : order.forget.Settled := by
  simp [Settled, forget]

/-- Nothing kept is lost when there is nothing. -/
theorem forget_of_empty (empty : order.ahead = ∅) : order.forget = order := by
  cases order
  simp_all [forget]

theorem Settled.keep (settled : order.Settled) (early : order.next < item) :
    (order.keep item).Settled := by
  intro other member
  rcases Set.mem_insert_iff.mp member with rfl | held
  · exact early
  · exact settled other held

theorem received_keep (order : Reorder) (item : Nat) :
    (order.keep item).received = insert item order.received := by
  ext other
  simp only [received, keep, Set.mem_ofPred_eq, Set.mem_insert_iff]
  exact or_left_comm

/-- Taking the due item receives it. -/
theorem received_take (order : Reorder) : order.take.received = insert order.next order.received := by
  ext other
  simp only [received, take, Set.mem_ofPred_eq, Set.mem_insert_iff, Set.mem_sdiff,
    Set.mem_singleton_iff, Nat.lt_succ_iff_lt_or_eq]
  tauto

/-- A due item which was kept is received before it is taken. -/
theorem received_take_of_mem (due : order.next ∈ order.ahead) :
    order.take.received = order.received := by
  rw [received_take]
  exact Set.insert_eq_of_mem (Or.inr due)

/-- Nothing is drained when nothing is due. -/
theorem Drains.refl (settled : order.Settled) : order.Drains order := ⟨rfl, settled⟩

/-- The due item is taken before the rest is drained. -/
theorem Drains.take (due : order.next ∈ order.ahead) (rest : order.take.Drains after) :
    order.Drains after :=
  ⟨rest.received.trans (received_take_of_mem due), rest.settled⟩

/-- What was taken or is no longer new stays received. -/
theorem received_of_lt (taken : item < order.next) : insert item order.received = order.received :=
  Set.insert_eq_of_mem (Or.inl taken)

/-- The run of received items ends at the next one. -/
theorem Settled.firstMissing (settled : order.Settled) :
    FirstMissing order.received order.next := by
  constructor
  · intro item taken
    exact Or.inl taken
  · rintro (taken | kept)
    · exact Nat.lt_irrefl _ taken
    · exact Nat.lt_irrefl _ (settled _ kept)

/-- A receiver with more items is at least as far. -/
theorem Settled.next_le (settled : after.Settled) (more : order.received ⊆ after.received) :
    order.next ≤ after.next := by
  by_contra behind
  exact settled.firstMissing.2 (more (.inl (Nat.lt_of_not_le behind)))

/-- A receiver takes no more than there is. -/
theorem next_le_of_received {count : Nat} (inside : order.received ⊆ {item | item < count}) :
    order.next ≤ count := by
  by_contra beyond
  exact Nat.lt_irrefl count (inside (.inl (Nat.lt_of_not_le beyond)))

/-- A settled receiver of the items below `count` keeps nothing. -/
theorem Settled.eq_of_received (settled : order.Settled) {count : Nat}
    (all : order.received = {item | item < count}) : order = ⟨count, ∅⟩ := by
  have reached : order.next = count := by
    apply settled.firstMissing.unique
    rw [all]
    exact ⟨fun _ below => below, Nat.lt_irrefl count⟩
  have nothing : order.ahead = ∅ := by
    apply Set.eq_empty_of_forall_notMem
    intro item kept
    have below : item ∈ order.received := .inr kept
    rw [all, ← reached] at below
    exact Nat.lt_asymm below (settled item kept)
  cases order
  simp_all

end Reorder

end Direlera.Library
