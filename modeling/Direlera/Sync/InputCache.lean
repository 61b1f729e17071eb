import Direlera.Library.MirroredWindow
import Mathlib.Logic.Function.Basic
import Mathlib.Data.List.Basic

/-!
# The 256-slot input cache

`InputCache` holds the slots, the content index and the absolute counter of the
source. The index maps a content to the absolute indices where it lives; the
`live` field states exactly that, so a cache with a stale index cannot be built.
Counters of type `usize` are natural numbers.
-/

namespace Direlera.Sync

open Direlera.Library

/-- Raw bytes (`Vec<u8>`). -/
abbrev Bytes := List UInt8

/-- Absolute indices of the occurrences of `data` when the oldest slot has
absolute index `head`. -/
def absIndices (head : Nat) : List Bytes → Bytes → List Nat
  | [], _ => []
  | slot :: rest, data =>
      if slot = data then head :: absIndices (head + 1) rest data
      else absIndices (head + 1) rest data

theorem absIndices_append (head : Nat) (front : List Bytes) (slot data : Bytes) :
    absIndices head (front ++ [slot]) data =
      absIndices head front data ++ if slot = data then [head + front.length] else [] := by
  induction front generalizing head with
  | nil => simp [absIndices]
  | cons first rest ih =>
      simp only [List.cons_append, absIndices, List.length_cons]
      rw [ih, show head + 1 + rest.length = head + (rest.length + 1) by omega]
      split <;> simp

/-- Every recorded index lies in the live range and points at its content. -/
theorem absIndices_sound {head index : Nat} {slots : List Bytes} {data : Bytes}
    (member : index ∈ absIndices head slots data) :
    head ≤ index ∧ slots[index - head]? = some data := by
  induction slots generalizing head with
  | nil => simp [absIndices] at member
  | cons slot rest ih =>
      have later : index ∈ absIndices (head + 1) rest data →
          head ≤ index ∧ (slot :: rest)[index - head]? = some data := by
        intro inRest
        obtain ⟨bound, held⟩ := ih inRest
        refine ⟨by omega, ?_⟩
        rw [show index - head = (index - (head + 1)) + 1 by omega]
        simpa using held
      unfold absIndices at member
      split at member
      next same =>
        rcases List.mem_cons.mp member with rfl | inRest
        · simp [same]
        · exact later inRest
      next => exact later member

/-- A content has no recorded index exactly when no slot holds it. -/
theorem absIndices_eq_nil_iff (head : Nat) {slots : List Bytes} {data : Bytes} :
    absIndices head slots data = [] ↔ data ∉ slots := by
  induction slots generalizing head with
  | nil => simp [absIndices]
  | cons slot rest ih =>
      unfold absIndices
      by_cases same : slot = data
      · simp [same]
      · simp [same, ih, Ne.symm same]

/-- The index holds exactly the live absolute indices of each content, oldest
first, and no empty entry. -/
structure LiveIndex (slots : List Bytes) (indexMap : Bytes → Option (List Nat))
    (absTail : Nat) : Prop where
  bounded : slots.length ≤ 256
  counted : slots.length ≤ absTail
  indices : ∀ data, (indexMap data).getD [] = absIndices (absTail - slots.length) slots data
  nonempty : ∀ data, indexMap data ≠ some []

/-- FIFO cache with 256 slots; logical position 0 is the oldest entry. -/
structure InputCache where
  slots : List Bytes
  indexMap : Bytes → Option (List Nat)
  absTail : Nat
  live : LiveIndex slots indexMap absTail

namespace InputCache

/-- A cache is determined by its data; the index proof carries no identity. -/
@[ext] theorem ext {left right : InputCache} (slots : left.slots = right.slots)
    (indexMap : left.indexMap = right.indexMap) (absTail : left.absTail = right.absTail) :
    left = right := by
  cases left
  cases right
  cases slots
  cases indexMap
  cases absTail
  rfl

/-- `InputCache::new`. -/
def new : InputCache where
  slots := []
  indexMap := fun _ => none
  absTail := 0
  live := ⟨by simp, by simp, by simp [absIndices], by simp⟩

/-- `InputCache::len`. -/
def len (cache : InputCache) : Nat := cache.slots.length

/-- `InputCache::get`. -/
def get (cache : InputCache) (pos : UInt8) : Option Bytes := cache.slots[pos.toNat]?

/-- `InputCache::find`: the logical position of the newest occurrence. -/
def find (cache : InputCache) (data : Bytes) : Option UInt8 := do
  let indices ← cache.indexMap data
  let absLast ← indices.getLast?
  let head := cache.absTail - cache.slots.length
  some (UInt8.ofNat (absLast - head))

/-- The index part of an eviction: `old` loses its first recorded index, and its
entry when that was the last one. -/
def dropFirstIndex (indexMap : Bytes → Option (List Nat)) (old : Bytes) :
    Bytes → Option (List Nat) :=
  match indexMap old with
  | some indices =>
      if indices.tail.isEmpty then Function.update indexMap old none
      else Function.update indexMap old (some indices.tail)
  | none => indexMap

/-- The index part of an insertion (`entry(..).or_default().push_back(..)`). -/
def addLastIndex (indexMap : Bytes → Option (List Nat)) (data : Bytes) (index : Nat) :
    Bytes → Option (List Nat) :=
  Function.update indexMap data (some ((indexMap data).getD [] ++ [index]))

/-- Evicting the oldest slot keeps the index live. -/
theorem dropFirstIndex_live {old : Bytes} {rest : List Bytes}
    {indexMap : Bytes → Option (List Nat)} {absTail : Nat}
    (live : LiveIndex (old :: rest) indexMap absTail) :
    LiveIndex rest (dropFirstIndex indexMap old) absTail := by
  obtain ⟨bounded, counted, indices, nonempty⟩ := live
  simp only [List.length_cons] at bounded counted indices
  have headStep : absTail - rest.length = absTail - (rest.length + 1) + 1 := by omega
  have oldIndices := indices old
  cases held : indexMap old with
  | none => simp [held, absIndices] at oldIndices
  | some recorded =>
      simp only [held, Option.getD_some, absIndices, if_true] at oldIndices
      subst oldIndices
      have remaining : ∀ data, data ≠ old →
          absIndices (absTail - (rest.length + 1)) (old :: rest) data =
            absIndices (absTail - rest.length) rest data := by
        intro data different
        simp [absIndices, Ne.symm different, headStep]
      refine ⟨by omega, by omega, fun data => ?_, fun data => ?_⟩
      · by_cases same : data = old
        · subst same
          rw [headStep]
          by_cases empty : absIndices (absTail - (rest.length + 1) + 1) rest data = []
          · simp [dropFirstIndex, held, empty]
          · simp [dropFirstIndex, held, empty]
        · rw [← remaining data same, ← indices data]
          by_cases empty : absIndices (absTail - (rest.length + 1) + 1) rest old = []
          · simp [dropFirstIndex, held, empty, Function.update_of_ne same]
          · simp [dropFirstIndex, held, empty, Function.update_of_ne same]
      · by_cases same : data = old
        · subst same
          by_cases empty : absIndices (absTail - (rest.length + 1) + 1) rest data = []
          · simp [dropFirstIndex, held, empty]
          · simp [dropFirstIndex, held, empty]
        · by_cases empty : absIndices (absTail - (rest.length + 1) + 1) rest old = []
          · simp [dropFirstIndex, held, empty, Function.update_of_ne same, nonempty]
          · simp [dropFirstIndex, held, empty, Function.update_of_ne same, nonempty]

/-- Inserting at the newest end keeps the index live. -/
theorem addLastIndex_live {slots : List Bytes} {indexMap : Bytes → Option (List Nat)}
    {absTail : Nat} (live : LiveIndex slots indexMap absTail) (room : slots.length < 256)
    (data : Bytes) :
    LiveIndex (slots ++ [data]) (addLastIndex indexMap data absTail) (absTail + 1) := by
  obtain ⟨_, counted, indices, nonempty⟩ := live
  have sameHead : absTail + 1 - (slots ++ [data]).length = absTail - slots.length := by
    simp
  have atTail : absTail - slots.length + slots.length = absTail := by omega
  refine ⟨by simp; omega, by simp; omega, fun query => ?_, fun query => ?_⟩
  · rw [sameHead, absIndices_append, atTail]
    by_cases same : query = data
    · subst same
      simp [addLastIndex, indices]
    · simp [addLastIndex, Function.update_of_ne same, indices, Ne.symm same]
  · by_cases same : query = data
    · subst same
      simp [addLastIndex]
    · simp [addLastIndex, Function.update_of_ne same, nonempty]

/-- The eviction half of `InputCache::push`. -/
def evict (cache : InputCache) : InputCache × Bool :=
  if 256 ≤ cache.slots.length then
    match cache with
    | ⟨old :: rest, indexMap, absTail, live⟩ =>
        (⟨rest, dropFirstIndex indexMap old, absTail, dropFirstIndex_live live⟩, true)
    -- a full cache is not empty, so the `unwrap` of the source never fails
    | ⟨[], indexMap, absTail, live⟩ => (⟨[], indexMap, absTail, live⟩, true)
  else (cache, false)

theorem evict_room (cache : InputCache) : cache.evict.1.slots.length < 256 := by
  obtain ⟨slots, indexMap, absTail, live⟩ := cache
  have bounded := live.bounded
  unfold evict
  split
  · cases slots with
    | nil => simp
    | cons old rest =>
        simp only [List.length_cons] at bounded
        exact Nat.lt_of_succ_le bounded
  next room => exact Nat.lt_of_not_le room

/-- `InputCache::push`; the flag reports an eviction. -/
def push (cache : InputCache) (data : Bytes) : InputCache × Bool :=
  (⟨cache.evict.1.slots ++ [data], addLastIndex cache.evict.1.indexMap data cache.evict.1.absTail,
    cache.evict.1.absTail + 1, addLastIndex_live cache.evict.1.live cache.evict_room data⟩,
    cache.evict.2)

/-- The slots of a pushed cache are the bounded window of its pushes. -/
@[simp] theorem push_slots (cache : InputCache) (data : Bytes) :
    (cache.push data).1.slots = MirroredWindow.pushBounded 256 cache.slots data := by
  obtain ⟨slots, indexMap, absTail, live⟩ := cache
  unfold push evict MirroredWindow.pushBounded
  by_cases full : 256 ≤ slots.length
  · cases slots with
    | nil => simp at full
    | cons old rest => simp only [List.length_cons] at full; simp [full]
  · simp [full]

/-- A found position is below 256, so the cast to `u8` is exact and `get` reads
the content back. -/
theorem get_of_find {cache : InputCache} {data : Bytes} {pos : UInt8}
    (found : cache.find data = some pos) : cache.get pos = some data := by
  unfold find at found
  simp only [Option.bind_eq_bind, Option.bind_eq_some_iff, Option.some.injEq] at found
  obtain ⟨indices, held, absLast, last, rfl⟩ := found
  have recorded : absLast ∈ absIndices (cache.absTail - cache.slots.length) cache.slots data := by
    rw [← cache.live.indices data, held]
    exact List.mem_of_getLast? last
  obtain ⟨_, at_⟩ := absIndices_sound recorded
  have below : absLast - (cache.absTail - cache.slots.length) < cache.slots.length :=
    (List.getElem?_eq_some_iff.mp at_).1
  have exact_ : (UInt8.ofNat (absLast - (cache.absTail - cache.slots.length))).toNat =
      absLast - (cache.absTail - cache.slots.length) := by
    have bounded := cache.live.bounded
    simp only [UInt8.toNat_ofNat']
    omega
  rw [get, exact_]
  exact at_

/-- Only contents outside the cache are not found. -/
theorem find_eq_none_iff {cache : InputCache} {data : Bytes} :
    cache.find data = none ↔ data ∉ cache.slots := by
  rw [← absIndices_eq_nil_iff (cache.absTail - cache.slots.length),
    ← cache.live.indices data]
  have nonempty := cache.live.nonempty data
  unfold find
  cases held : cache.indexMap data with
  | none => simp
  | some indices =>
      rw [held] at nonempty
      have filled : indices ≠ [] := fun empty => nonempty (by rw [empty])
      simp [List.getLast?_eq_some_getLast filled, filled]

end InputCache

end Direlera.Sync
