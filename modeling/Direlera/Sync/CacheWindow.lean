import Direlera.Library.Transducer
import Direlera.Sync.InputCache

/-!
# The cache as a window of its pushes

Over any sequence of pushes the cache is the list of the last 256 of them: the index adds
nothing but the speed of `find`.
-/

namespace Direlera.Sync

open Direlera.Library

/-- The absolute indices of a content among the last 256 pushes. -/
def liveIndices (pushes : List Bytes) (data : Bytes) : List Nat :=
  (List.range pushes.length).filter fun index =>
    pushes.length ≤ index + 256 ∧ pushes[index]? = some data

/-- The recorded indices of a window are those which hold the content. -/
theorem absIndices_eq_filter (head : Nat) (slots : List Bytes) (data : Bytes) :
    absIndices head slots data =
      (List.range' head slots.length).filter fun index => slots[index - head]? = some data := by
  induction slots generalizing head with
  | nil => rfl
  | cons slot rest ih =>
      have later : (List.range' (head + 1) rest.length).filter
            (fun index => (slot :: rest)[index - head]? = some data) =
          (List.range' (head + 1) rest.length).filter
            (fun index => rest[index - (head + 1)]? = some data) := by
        refine List.filter_congr fun index member => ?_
        obtain ⟨after, _⟩ := List.mem_range'_1.mp member
        rw [show index - head = (index - (head + 1)) + 1 by omega, List.getElem?_cons_succ]
      rw [absIndices, List.length_cons, List.range'_succ, List.filter_cons, later, ← ih]
      by_cases same : slot = data
      · simp [same]
      · simp [same]

/-- The recorded indices increase. -/
theorem absIndices_increasing (head : Nat) (slots : List Bytes) (data : Bytes) :
    (absIndices head slots data).Pairwise (· < ·) := by
  rw [absIndices_eq_filter]
  exact List.Pairwise.filter _ (List.pairwise_lt_range' ..)

/-- In the last 256 pushes the recorded indices are the live ones. -/
theorem absIndices_latest (pushes : List Bytes) (data : Bytes) :
    absIndices (pushes.length - 256) (MirroredWindow.latest 256 pushes) data =
      liveIndices pushes data := by
  have split : List.range pushes.length = List.range' 0 (pushes.length - 256) ++
      List.range' (pushes.length - 256) (min 256 pushes.length) := by
    have whole : pushes.length - 256 + min 256 pushes.length = pushes.length := by omega
    have parts := @List.range'_append_1 0 (pushes.length - 256) (min 256 pushes.length)
    rw [Nat.zero_add, whole] at parts
    rw [List.range_eq_range', parts]
  have dead : (List.range' 0 (pushes.length - 256)).filter (fun index =>
      pushes.length ≤ index + 256 ∧ pushes[index]? = some data) = [] := by
    refine List.filter_eq_nil_iff.mpr fun index member => ?_
    obtain ⟨_, before⟩ := List.mem_range'_1.mp member
    rw [decide_eq_true_eq]
    omega
  rw [absIndices_eq_filter, MirroredWindow.length_latest, liveIndices, split, List.filter_append,
    dead, List.nil_append]
  refine List.filter_congr fun index member => ?_
  obtain ⟨after, before⟩ := List.mem_range'_1.mp member
  have recent : pushes.length ≤ index + 256 := by omega
  rw [MirroredWindow.latest, List.getElem?_drop, Nat.add_sub_cancel' after]
  simp [recent]

/-- The last of an increasing list is its greatest. -/
theorem le_of_getLast? {indices : List Nat} (increasing : indices.Pairwise (· < ·))
    {last : Nat} (final : indices.getLast? = some last) : ∀ index ∈ indices, index ≤ last := by
  obtain ⟨front, rfl⟩ := List.getLast?_eq_some_iff.mp final
  intro index member
  rcases List.mem_append.mp member with before | here
  · obtain ⟨_, _, less⟩ := List.pairwise_append.mp increasing
    exact Nat.le_of_lt (less index before last (List.mem_singleton_self last))
  · exact Nat.le_of_eq (List.mem_singleton.mp here)

namespace InputCache

/-- Pushes; the answers report evictions. -/
def machine : Transducer InputCache Bytes Bool where
  step cache data := ((cache.push data).2, (cache.push data).1)

/-- An eviction is reported for a full cache, and draws no index. -/
theorem evict_spec (cache : InputCache) :
    cache.evict.2 = decide (256 ≤ cache.slots.length) ∧ cache.evict.1.absTail = cache.absTail := by
  obtain ⟨slots, indexMap, absTail, live⟩ := cache
  unfold evict
  split
  next full => cases slots <;> exact ⟨(decide_eq_true full).symm, rfl⟩
  next room => exact ⟨(decide_eq_false room).symm, rfl⟩

section Position

variable {cache : InputCache} {data : Bytes} {indices : List Nat} {absLast : Nat}

/-- The newest recorded index lies in the window, at less than 256 from its head. -/
theorem position_of_last (held : cache.indexMap data = some indices)
    (last : indices.getLast? = some absLast) :
    cache.absTail - cache.slots.length ≤ absLast ∧
      absLast - (cache.absTail - cache.slots.length) < 256 := by
  have recorded : absLast ∈ absIndices (cache.absTail - cache.slots.length) cache.slots data := by
    rw [← cache.live.indices data, held]
    exact List.mem_of_getLast? last
  obtain ⟨live, at_⟩ := absIndices_sound recorded
  have below := (List.getElem?_eq_some_iff.mp at_).1
  exact ⟨live, Nat.lt_of_lt_of_le below cache.live.bounded⟩

/-- What is found is found at its newest position. -/
theorem newest_of_find {pos : UInt8} (found : cache.find data = some pos) {later : Nat}
    (after : pos.toNat < later) : cache.slots[later]? ≠ some data := by
  intro there
  unfold find at found
  simp only [Option.bind_eq_bind, Option.bind_eq_some_iff, Option.some.injEq] at found
  obtain ⟨indices, held, absLast, last, rfl⟩ := found
  obtain ⟨live, below⟩ := position_of_last held last
  have recorded := cache.live.indices data
  rw [held, Option.getD_some] at recorded
  have within := (List.getElem?_eq_some_iff.mp there).1
  have member : cache.absTail - cache.slots.length + later ∈ indices := by
    rw [recorded, absIndices_eq_filter, List.mem_filter]
    refine ⟨List.mem_range'_1.mpr (by omega), ?_⟩
    rw [decide_eq_true_eq, Nat.add_sub_cancel_left]
    exact there
  have greatest := le_of_getLast? (recorded ▸ absIndices_increasing ..) last _ member
  simp only [UInt8.toNat_ofNat'] at after
  omega

end Position

/-- The cache stands for the last 256 of its pushes. -/
structure Windows (cache : InputCache) (pushes : List Bytes) : Prop where
  slots : cache.slots = MirroredWindow.latest 256 pushes
  counted : cache.absTail = pushes.length
  /-- `abs_tail - slots.len()` does not underflow. -/
  headExists : cache.slots.length ≤ cache.absTail
  /-- The index has the live indices of every content, and no empty entry. -/
  index : ∀ data, cache.indexMap data =
    if liveIndices pushes data = [] then none else some (liveIndices pushes data)
  /-- The cast of a position to `u8` is exact. -/
  positions : ∀ data indices absLast, cache.indexMap data = some indices →
    indices.getLast? = some absLast → cache.absTail - cache.slots.length ≤ absLast ∧
      absLast - (cache.absTail - cache.slots.length) < 256
  found : ∀ data, (cache.find data).isSome = true ↔ data ∈ MirroredWindow.latest 256 pushes
  newest : ∀ data pos, cache.find data = some pos →
    (MirroredWindow.latest 256 pushes)[pos.toNat]? = some data ∧
      ∀ later, pos.toNat < later → (MirroredWindow.latest 256 pushes)[later]? ≠ some data
  read : ∀ data pos, cache.find data = some pos → cache.get pos = some data

/-- Slots and counter determine the rest. -/
theorem windows_of_slots {cache : InputCache} {pushes : List Bytes}
    (slots : cache.slots = MirroredWindow.latest 256 pushes)
    (counted : cache.absTail = pushes.length) : cache.Windows pushes where
  slots := slots
  counted := counted
  headExists := cache.live.counted
  index := by
    intro data
    have head : cache.absTail - cache.slots.length = pushes.length - 256 := by
      rw [slots, counted, MirroredWindow.length_latest]
      omega
    have recorded := cache.live.indices data
    rw [head, slots, absIndices_latest] at recorded
    have nonempty := cache.live.nonempty data
    cases held : cache.indexMap data with
    | none =>
        rw [held, Option.getD_none] at recorded
        rw [if_pos recorded.symm]
    | some indices =>
        rw [held] at recorded nonempty
        rw [Option.getD_some] at recorded
        subst recorded
        rw [if_neg fun empty => nonempty (by rw [empty])]
  positions := fun data indices absLast => position_of_last
  found := by
    intro data
    rw [Option.isSome_iff_ne_none, ne_eq, find_eq_none_iff, slots, not_not]
  newest := by
    intro data pos found
    rw [← slots]
    exact ⟨get_of_find found, fun later after => newest_of_find found after⟩
  read := fun data pos => get_of_find

/-- A push moves the window by one. -/
theorem Windows.push {cache : InputCache} {pushes : List Bytes} (windows : cache.Windows pushes)
    (data : Bytes) : (cache.push data).1.Windows (pushes ++ [data]) := by
  have slots : (cache.push data).1.slots = MirroredWindow.latest 256 (pushes ++ [data]) := by
    rw [push_slots, windows.slots, MirroredWindow.pushBounded_latest (by decide)]
  have counted : (cache.push data).1.absTail = (pushes ++ [data]).length := by
    rw [List.length_append, List.length_singleton, ← windows.counted]
    exact congrArg (· + 1) cache.evict_spec.2
  exact windows_of_slots slots counted

/-- After every sequence of pushes the cache stands for the last 256 of them; evictions are
reported from the 257th push on. -/
theorem cache_refines_latest (pushes : List Bytes) :
    (machine.final new pushes).Windows pushes ∧
      machine.outputs new pushes =
        (List.range pushes.length).map fun earlier => decide (256 ≤ earlier) := by
  refine machine.history_induction (fun pushes evictions cache => cache.Windows pushes ∧
    evictions = (List.range pushes.length).map fun earlier => decide (256 ≤ earlier)) ?_ ?_ pushes
  · exact ⟨windows_of_slots rfl rfl, rfl⟩
  · rintro pushes _ cache data ⟨windows, rfl⟩
    refine ⟨windows.push data, ?_⟩
    have reported : (cache.push data).2 = decide (256 ≤ pushes.length) := by
      refine cache.evict_spec.1.trans ?_
      rw [windows.slots, MirroredWindow.length_latest]
      exact decide_eq_decide.mpr (by omega)
    rw [List.length_append, List.length_singleton, List.range_succ, List.map_append,
      List.map_singleton]
    exact congrArg (fun report => _ ++ [report]) reported

end InputCache

end Direlera.Sync
