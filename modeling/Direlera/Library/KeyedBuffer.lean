import Mathlib.Data.List.Nodup
import Mathlib.Logic.Function.Basic

/-!
# Buffers with one value for each key

A `KeyedBuffer` is a finite map which knows how many keys it holds. It is given by what
`find` answers and by its length; the order of the entries is never observed.
-/

namespace Direlera.Library

variable {Key Value : Type*}

/-- Entries with distinct keys. -/
structure KeyedBuffer (Key Value : Type*) where
  entries : List (Key × Value)
  distinct : (entries.map Prod.fst).Nodup
deriving DecidableEq, Repr

namespace KeyedBuffer

/-- Nothing is held. -/
def empty : KeyedBuffer Key Value := ⟨[], List.nodup_nil⟩

/-- The number of keys. -/
def length (buffer : KeyedBuffer Key Value) : Nat := buffer.entries.length

@[simp] theorem length_empty : (empty : KeyedBuffer Key Value).length = 0 := rfl

variable [DecidableEq Key]

/-- The value of a key. -/
def find (buffer : KeyedBuffer Key Value) (key : Key) : Option Value := buffer.entries.lookup key

/-- Forget a key. -/
def remove (buffer : KeyedBuffer Key Value) (key : Key) : KeyedBuffer Key Value where
  entries := buffer.entries.filter fun entry => entry.1 ≠ key
  distinct := buffer.distinct.sublist (List.filter_sublist.map Prod.fst)

@[simp] theorem find_empty (key : Key) : (empty : KeyedBuffer Key Value).find key = none := rfl

theorem find_eq_none_iff {buffer : KeyedBuffer Key Value} {key : Key} :
    buffer.find key = none ↔ key ∉ buffer.entries.map Prod.fst := by
  unfold find
  induction buffer.entries with
  | nil => simp
  | cons entry rest ih =>
      rw [List.lookup_cons]
      by_cases same : key = entry.1
      · simp [same]
      · have different : (key == entry.1) = false := by simpa using same
        simpa [different, same] using ih

/-- Add a value under a new key; a key which is there keeps its value. -/
def insertNew (buffer : KeyedBuffer Key Value) (key : Key) (value : Value) :
    KeyedBuffer Key Value :=
  if missing : buffer.find key = none then
    ⟨(key, value) :: buffer.entries,
      List.nodup_cons.mpr ⟨find_eq_none_iff.mp missing, buffer.distinct⟩⟩
  else buffer

variable {buffer : KeyedBuffer Key Value} {key other : Key} {value : Value}

theorem find_remove_self (buffer : KeyedBuffer Key Value) (key : Key) :
    (buffer.remove key).find key = none := by
  apply find_eq_none_iff.mpr
  intro member
  obtain ⟨entry, kept, same⟩ := List.mem_map.mp member
  have different := (List.mem_filter.mp kept).2
  simp [same] at different

theorem find_remove_of_ne (different : other ≠ key) :
    (buffer.remove key).find other = buffer.find other := by
  unfold find remove
  dsimp only
  induction buffer.entries with
  | nil => rfl
  | cons entry rest ih =>
      by_cases gone : entry.1 = key
      · rw [List.filter_cons_of_neg (by simp [gone]), ih, List.lookup_cons]
        have miss : (other == entry.1) = false := by simpa [gone] using different
        rw [miss]
      · rw [List.filter_cons_of_pos (by simpa using gone), List.lookup_cons, List.lookup_cons, ih]

/-- A key which is there makes the buffer longer. -/
theorem length_remove_lt (here : buffer.find key = some value) :
    (buffer.remove key).length < buffer.length := by
  have member : key ∈ buffer.entries.map Prod.fst := by
    by_contra missing
    rw [find_eq_none_iff.mpr missing] at here
    cases here
  obtain ⟨entry, held, rfl⟩ := List.mem_map.mp member
  have strict : (buffer.entries.filter fun other => other.1 ≠ entry.1).length <
      buffer.entries.length :=
    List.length_filter_lt_length_iff_exists.mpr ⟨entry, held, by simp⟩
  exact strict

theorem find_insertNew_self (buffer : KeyedBuffer Key Value) (key : Key) (value : Value) :
    (buffer.insertNew key value).find key = some ((buffer.find key).getD value) := by
  unfold insertNew
  split
  next missing =>
    rw [missing, Option.getD_none]
    simp [find]
  next held =>
    obtain ⟨kept, here⟩ := Option.ne_none_iff_exists'.mp held
    simp [here]

theorem find_insertNew_of_ne (different : other ≠ key) (value : Value) :
    (buffer.insertNew key value).find other = buffer.find other := by
  unfold insertNew
  split
  next =>
    have miss : (other == key) = false := by simpa using different
    simp only [find, List.lookup_cons, miss]
  next => rfl

theorem length_insertNew_le (buffer : KeyedBuffer Key Value) (key : Key) (value : Value) :
    (buffer.insertNew key value).length ≤ buffer.length + 1 := by
  unfold insertNew
  split
  · exact Nat.le_refl _
  · exact Nat.le_succ _

/-- An empty buffer has no values. -/
theorem find_of_length_eq_zero (none_held : buffer.length = 0) (key : Key) :
    buffer.find key = none := by
  unfold find
  rw [List.length_eq_zero_iff.mp none_held]
  rfl

/-- A buffer without values is empty. -/
theorem length_eq_zero_of_find (nothing : ∀ key, buffer.find key = none) : buffer.length = 0 := by
  cases entries : buffer.entries with
  | nil => simp [length, entries]
  | cons entry rest =>
      have missing := find_eq_none_iff.mp (nothing entry.1)
      simp [entries] at missing

end KeyedBuffer

end Direlera.Library
