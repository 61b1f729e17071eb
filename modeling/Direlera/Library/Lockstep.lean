import Mathlib.Data.List.FinRange
import Mathlib.Data.List.MinMax

/-!
# Merging streams frame by frame

`frame` takes one item of each of `n` streams, padding a stream which has ended.
`completed` counts the frames which can be merged when some streams are closed:
an open stream has to provide its item, a closed one is padded. `segment` lays
consecutive frames end to end; a buffer which releases its content `size` frames
at a time always holds the segment since the last multiple of `size`.
-/

namespace Direlera.Library.Lockstep

universe u

variable {n : Nat} {α : Type u}

/-- Item `index` of every stream in slot order, `pad` where a stream has ended. -/
def frame (pad : α) (streams : Fin n → List α) (index : Nat) : List α :=
  (List.finRange n).map fun slot => (streams slot)[index]?.getD pad

@[simp] theorem length_frame (pad : α) (streams : Fin n → List α) (index : Nat) :
    (frame pad streams index).length = n := by
  simp [frame]

/-- A frame only depends on its own items. -/
theorem frame_congr {pad : α} {left right : Fin n → List α} {index : Nat}
    (same : ∀ slot, (left slot)[index]?.getD pad = (right slot)[index]?.getD pad) :
    frame pad left index = frame pad right index := by
  simp [frame, same]

/-- The number of complete frames: the least length of an open stream, or the
greatest length of all when every stream is closed. -/
def completed (streams : Fin n → List α) (closed : Fin n → Bool) : Nat :=
  match (((List.finRange n).filter fun slot => !closed slot).map
      fun slot => (streams slot).length).min? with
  | some least => least
  | none => ((List.finRange n).map fun slot => (streams slot).length).max?.getD 0

/-- Frame `index` is complete exactly when every open stream provides it and
some stream does. -/
theorem lt_completed_iff {streams : Fin n → List α} {closed : Fin n → Bool} {index : Nat} :
    index < completed streams closed ↔
      (∀ slot, index < (streams slot).length ∨ closed slot = true) ∧
        ∃ slot, index < (streams slot).length := by
  unfold completed
  cases least : (((List.finRange n).filter fun slot => !closed slot).map
      fun slot => (streams slot).length).min? with
  | some bound =>
      obtain ⟨member, lower⟩ := List.min?_eq_some_iff.mp least
      simp only [List.mem_map, List.mem_filter, List.mem_finRange, true_and,
        Bool.not_eq_true', forall_exists_index, and_imp] at member lower
      obtain ⟨slowest, isOpen, rfl⟩ := member
      simp only
      constructor
      · intro before
        refine ⟨fun slot => ?_, slowest, before⟩
        cases state : closed slot with
        | true => exact .inr rfl
        | false => exact .inl (Nat.lt_of_lt_of_le before (lower _ slot state rfl))
      · rintro ⟨provided, _⟩
        simpa [isOpen] using provided slowest
  | none =>
      have allClosed : ∀ slot, closed slot = true := by
        simpa [List.min?_eq_none_iff] using least
      simp only [allClosed, or_true, implies_true, true_and]
      cases greatest : ((List.finRange n).map fun slot => (streams slot).length).max? with
      | none =>
          have empty : n = 0 := by simpa [List.max?_eq_none_iff] using greatest
          subst empty
          simp
      | some bound =>
          obtain ⟨member, upper⟩ := List.max?_eq_some_iff.mp greatest
          simp only [List.mem_map, List.mem_finRange, true_and, forall_exists_index] at member upper
          obtain ⟨longest, rfl⟩ := member
          simp only [Option.getD_some]
          exact ⟨fun before => ⟨longest, before⟩,
            fun ⟨slot, before⟩ => Nat.lt_of_lt_of_le before (upper _ slot rfl)⟩

/-- Longer streams and more closed streams only complete more frames. -/
theorem completed_mono {left right : Fin n → List α} {closedLeft closedRight : Fin n → Bool}
    (longer : ∀ slot, (left slot).length ≤ (right slot).length)
    (closer : ∀ slot, closedLeft slot = true → closedRight slot = true) :
    completed left closedLeft ≤ completed right closedRight := by
  by_contra exceeds
  obtain ⟨provided, slot, before⟩ := lt_completed_iff.mp (Nat.lt_of_not_le exceeds)
  refine Nat.lt_irrefl (completed right closedRight) (lt_completed_iff.mpr ⟨fun other => ?_, slot, ?_⟩)
  · exact (provided other).imp (fun here => Nat.lt_of_lt_of_le here (longer other)) (closer other)
  · exact Nat.lt_of_lt_of_le before (longer slot)

/-- Empty streams complete nothing. -/
theorem completed_of_empty {streams : Fin n → List α} (closed : Fin n → Bool)
    (empty : ∀ slot, streams slot = []) : completed streams closed = 0 := by
  refine Nat.eq_zero_of_not_pos fun positive => ?_
  obtain ⟨_, slot, before⟩ := lt_completed_iff.mp positive
  simp [empty slot] at before

/-- An open stream provides every completed frame. -/
theorem completed_le_length (streams : Fin n → List α) {closed : Fin n → Bool} {slot : Fin n}
    (isOpen : closed slot = false) : completed streams closed ≤ (streams slot).length := by
  by_contra exceeds
  have provided := (lt_completed_iff.mp (Nat.lt_of_not_le exceeds)).1 slot
  simp [isOpen] at provided

/-- If some stream is open, an open stream has exactly the completed frames. -/
theorem exists_length_eq_completed {streams : Fin n → List α} {closed : Fin n → Bool}
    (someOpen : ∃ slot, closed slot = false) :
    ∃ slot, closed slot = false ∧ (streams slot).length = completed streams closed := by
  obtain ⟨witness, witnessOpen⟩ := someOpen
  by_contra none
  have strict : ∀ slot, completed streams closed < (streams slot).length ∨ closed slot = true := by
    intro slot
    cases state : closed slot with
    | true => exact .inr rfl
    | false =>
        have bound := completed_le_length streams state
        refine .inl (Nat.lt_of_le_of_ne bound fun equal => ?_)
        exact none ⟨slot, state, equal.symm⟩
  have here : completed streams closed < (streams witness).length := by
    simpa [witnessOpen] using strict witness
  exact Nat.lt_irrefl _ (lt_completed_iff.mpr ⟨strict, witness, here⟩)

/-- `count` consecutive pieces from `start` on, end to end. -/
def segment (piece : Nat → List α) (start count : Nat) : List α :=
  (List.range count).flatMap fun offset => piece (start + offset)

@[simp] theorem segment_zero (piece : Nat → List α) (start : Nat) :
    segment piece start 0 = [] := rfl

/-- A segment grows by the next piece. -/
theorem segment_succ (piece : Nat → List α) (start count : Nat) :
    segment piece start (count + 1) = segment piece start count ++ piece (start + count) := by
  simp [segment, List.range_succ]

/-- A segment only depends on the pieces it covers. -/
theorem segment_congr {left right : Nat → List α} {start count : Nat}
    (same : ∀ offset, offset < count → left (start + offset) = right (start + offset)) :
    segment left start count = segment right start count := by
  unfold segment
  exact List.flatMap_congr fun offset member => same offset (List.mem_range.mp member)

/-- Consecutive segments join. -/
theorem segment_add (piece : Nat → List α) (start first second : Nat) :
    segment piece start (first + second) =
      segment piece start first ++ segment piece (start + first) second := by
  induction second with
  | zero => simp
  | succ second ih =>
      rw [← Nat.add_assoc, segment_succ, ih, segment_succ, List.append_assoc, Nat.add_assoc]

theorem length_segment {piece : Nat → List α} {width : Nat}
    (uniform : ∀ index, (piece index).length = width) (start count : Nat) :
    (segment piece start count).length = count * width := by
  induction count with
  | zero => simp
  | succ count ih => rw [segment_succ, List.length_append, ih, uniform, Nat.succ_mul]

/-- Flattening a segment of rows is the segment of the flattened rows. -/
theorem flatten_segment (piece : Nat → List (List α)) (start count : Nat) :
    (segment piece start count).flatten =
      segment (fun index => (piece index).flatten) start count := by
  induction count with
  | zero => rfl
  | succ count ih => rw [segment_succ, List.flatten_append, ih, segment_succ]

/-- Blocks of `size` consecutive pieces, laid end to end, are the pieces. -/
theorem flatten_blocks (piece : Nat → List α) (size count : Nat) :
    ((List.range count).map fun block => segment piece (block * size) size).flatten =
      segment piece 0 (count * size) := by
  induction count with
  | zero => simp
  | succ count ih =>
      rw [List.range_succ, List.map_append, List.flatten_append, ih, Nat.succ_mul, segment_add]
      simp

/-- The next index stays in its block or opens the next one. -/
theorem succ_div_mod {size : Nat} (positive : 0 < size) (index : Nat) :
    (index % size + 1 < size ∧ (index + 1) / size = index / size ∧
        (index + 1) % size = index % size + 1) ∨
      (index % size + 1 = size ∧ (index + 1) / size = index / size + 1 ∧
        (index + 1) % size = 0) := by
  have split := Nat.mod_add_div index size
  have below := Nat.mod_lt index positive
  rcases Nat.lt_or_eq_of_le (Nat.succ_le_of_lt below) with inside | last
  · exact .inl ⟨inside, (Nat.div_mod_unique positive).mpr ⟨by omega, inside⟩⟩
  · refine .inr ⟨last, (Nat.div_mod_unique positive).mpr ⟨?_, positive⟩⟩
    rw [Nat.mul_succ]
    omega

/-- Collecting over all slots what only one slot contributes. -/
theorem flatMap_finRange_single (slot : Fin n) (contribution : Fin n → List α) :
    ((List.finRange n).flatMap fun other => if other = slot then contribution other else []) =
      contribution slot := by
  have collect : ∀ slots : List (Fin n), slots.Nodup →
      (slots.flatMap fun other => if other = slot then contribution other else []) =
        if slot ∈ slots then contribution slot else [] := by
    intro slots distinct
    induction slots with
    | nil => rfl
    | cons first rest ih =>
        obtain ⟨absent, restDistinct⟩ := List.nodup_cons.mp distinct
        rw [List.flatMap_cons, ih restDistinct]
        by_cases same : first = slot
        · subst same
          simp [absent]
        · simp [same, Ne.symm same]
  rw [collect _ (List.nodup_finRange n), if_pos (List.mem_finRange slot)]

end Direlera.Library.Lockstep
