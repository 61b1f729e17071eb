import Mathlib.Data.List.Infix
import Mathlib.Logic.Function.Basic

/-!
# Outboxes which take turns

Several senders hold items which were made for recipients, and hand them over one by one.
If nobody makes items for a recipient while another sender still holds some for it, every
recipient is handed its items in the order in which they were made. `InTurn` compares what
was handed over and is held with what was made, by any relation: equality while nothing is
lost, a prefix or a sublist where items may be given up.
-/

namespace Direlera.Library.Outbox

variable {Item Recipient Sender : Type*} [DecidableEq Recipient] (recipient : Item → Recipient)

/-- The items for one recipient. -/
def addressed (whom : Recipient) (items : List Item) : List Item :=
  items.filter fun item => recipient item = whom

@[simp] theorem addressed_nil (whom : Recipient) : addressed recipient whom [] = [] := rfl

theorem addressed_append (whom : Recipient) (first second : List Item) :
    addressed recipient whom (first ++ second) =
      addressed recipient whom first ++ addressed recipient whom second :=
  List.filter_append ..

theorem addressed_cons_of_ne {whom : Recipient} {item : Item} (other : recipient item ≠ whom)
    (rest : List Item) : addressed recipient whom (item :: rest) = addressed recipient whom rest :=
  List.filter_cons_of_neg (by simpa using other)

theorem addressed_cons {item : Item} (rest : List Item) :
    addressed recipient (recipient item) (item :: rest) =
      item :: addressed recipient (recipient item) rest :=
  List.filter_cons_of_pos (by simp)

/-- One sender at most holds items for a recipient, and they follow what the recipient was
handed. -/
def InTurn (relation : List Item → List Item → Prop) (made given : List Item)
    (held : Sender → List Item) : Prop :=
  ∀ whom, ∃ holder, (∀ other, other ≠ holder → addressed recipient whom (held other) = []) ∧
    relation (addressed recipient whom given ++ addressed recipient whom (held holder))
      (addressed recipient whom made)

variable {recipient} {relation : List Item → List Item → Prop} {made given : List Item}
  {held : Sender → List Item}

theorem InTurn.mono {weaker : List Item → List Item → Prop}
    (inTurn : InTurn recipient relation made given held)
    (weaken : ∀ left right, relation left right → weaker left right) :
    InTurn recipient weaker made given held := by
  intro whom
  obtain ⟨holder, alone, related⟩ := inTurn whom
  exact ⟨holder, alone, weaken _ _ related⟩

theorem inTurn_nil [Inhabited Sender] (refl : relation [] []) :
    InTurn recipient relation [] [] fun _ : Sender => [] := by
  intro whom
  exact ⟨default, fun _ _ => rfl, refl⟩

/-- Handed items alone stand in the relation, if giving up what is held keeps it. -/
theorem InTurn.handed (inTurn : InTurn recipient relation made given held)
    (discard : ∀ left dropped right, relation (left ++ dropped) right → relation left right)
    (whom : Recipient) : relation (addressed recipient whom given) (addressed recipient whom made) := by
  obtain ⟨holder, _, related⟩ := inTurn whom
  exact discard _ _ _ related

variable [DecidableEq Sender]

/-- The next item of a sender is handed over. -/
theorem InTurn.hand (inTurn : InTurn recipient relation made given held) {sender : Sender}
    {item : Item} {rest : List Item} (next : held sender = item :: rest) :
    InTurn recipient relation made (given ++ [item]) (Function.update held sender rest) := by
  intro whom
  obtain ⟨holder, alone, related⟩ := inTurn whom
  have shrinks : ∀ other, addressed recipient whom (held other) = [] →
      addressed recipient whom (Function.update held sender rest other) = [] := by
    intro other nothing
    by_cases same : other = sender
    · subst same
      rw [Function.update_self]
      rw [next, addressed, List.filter_cons] at nothing
      split at nothing
      · simp at nothing
      · exact nothing
    · rwa [Function.update_of_ne same]
  refine ⟨holder, fun other different => shrinks other (alone other different), ?_⟩
  by_cases mine : holder = sender
  · subst mine
    rw [Function.update_self, addressed_append]
    rw [next] at related
    by_cases same : recipient item = whom
    · subst same
      rw [addressed_cons] at related
      rw [addressed_cons, addressed_nil, List.append_assoc]
      exact related
    · rw [addressed_cons_of_ne recipient same] at related
      rw [addressed_cons_of_ne recipient same, addressed_nil, List.append_nil]
      exact related
  · -- the item of another sender is not for this recipient
    have nothing := alone sender (Ne.symm mine)
    have other : recipient item ≠ whom := by
      rintro rfl
      rw [next, addressed_cons] at nothing
      exact List.cons_ne_nil _ _ nothing
    rw [Function.update_of_ne mine, addressed_append, addressed_cons_of_ne recipient other,
      addressed_nil, List.append_nil]
    exact related

/-- An idle sender makes items, for nobody for whom another sender holds some. -/
theorem InTurn.make (inTurn : InTurn recipient relation made given held)
    (extend : ∀ left right more, relation left right → relation (left ++ more) (right ++ more))
    {sender : Sender} (idle : held sender = []) {items : List Item}
    (free : ∀ item ∈ items, ∀ other, other ≠ sender →
      addressed recipient (recipient item) (held other) = []) :
    InTurn recipient relation (made ++ items) given (Function.update held sender items) := by
  intro whom
  obtain ⟨holder, alone, related⟩ := inTurn whom
  by_cases nothing : addressed recipient whom items = []
  · -- nobody's turn changes
    have same : ∀ other, addressed recipient whom (Function.update held sender items other) =
        addressed recipient whom (held other) := by
      intro other
      by_cases here : other = sender
      · rw [here, Function.update_self, nothing, idle, addressed_nil]
      · rw [Function.update_of_ne here]
    refine ⟨holder, fun other different => (same other).trans (alone other different), ?_⟩
    rw [same, addressed_append, nothing, List.append_nil]
    exact related
  · obtain ⟨item, member, forThem⟩ : ∃ item ∈ items, recipient item = whom := by
      obtain ⟨item, member⟩ := List.exists_mem_of_ne_nil _ nothing
      obtain ⟨made, same⟩ := List.mem_filter.mp member
      exact ⟨item, made, by simpa using same⟩
    subst forThem
    have waits : ∀ other, addressed recipient (recipient item) (held other) = [] := by
      intro other
      by_cases here : other = sender
      · rw [here, idle, addressed_nil]
      · exact free item member other here
    refine ⟨sender, fun other different => ?_, ?_⟩
    · rw [Function.update_of_ne different, waits]
    · rw [waits, List.append_nil] at related
      rw [Function.update_self, addressed_append]
      exact extend _ _ _ related

/-- A sender gives up what it holds. -/
theorem InTurn.discard (inTurn : InTurn recipient relation made given held)
    (discard : ∀ left dropped right, relation (left ++ dropped) right → relation left right)
    (sender : Sender) :
    InTurn recipient relation made given (Function.update held sender []) := by
  intro whom
  obtain ⟨holder, alone, related⟩ := inTurn whom
  refine ⟨holder, fun other different => ?_, ?_⟩
  · by_cases same : other = sender
    · rw [same, Function.update_self, addressed_nil]
    · rw [Function.update_of_ne same, alone other different]
  · by_cases same : holder = sender
    · rw [same, Function.update_self, addressed_nil, List.append_nil]
      exact discard _ _ _ related
    · rwa [Function.update_of_ne same]

end Direlera.Library.Outbox
