import Direlera.Library.Transducer
import Mathlib.Data.List.FinRange
import Mathlib.Data.List.OfFn
import Mathlib.Logic.Function.Basic

/-!
# Computations which may fault

A computation which may fault is an `Option`, with `none` for the fault: a read or a write
past the end of a list, or a loop which runs on. Lists which tabulate functions of `Fin n`
are read and written within range, and traversed without faults if every entry is.

A `FaultingMachine` has steps which may fault. `final_embed` is the rule for showing that
none does: its states come from those of a machine which cannot fault.
-/

namespace Direlera.Library

universe u v w

/-- Replace an entry of a list; past its end this faults. -/
def writeAt {α : Type u} (values : List α) (index : Nat) (value : α) : Option (List α) :=
  if index < values.length then some (values.set index value) else none

section OfFn

variable {α : Type u} {n : Nat} (entry : Fin n → α)

@[simp] theorem readAt_ofFn (index : Fin n) : (List.ofFn entry)[index.val]? = some (entry index) := by
  simp

@[simp] theorem writeAt_ofFn (index : Fin n) (value : α) :
    writeAt (List.ofFn entry) index value =
      some (List.ofFn (Function.update entry index value)) := by
  rw [writeAt, if_pos (by simp)]
  refine congrArg some (List.ext_getElem (by simp) fun position _ _ => ?_)
  rw [List.getElem_set, List.getElem_ofFn, List.getElem_ofFn, Function.update_apply]
  by_cases same : position = index
  · subst same
    simp
  · rw [if_neg (Ne.symm same), if_neg fun equal => same (congrArg Fin.val equal)]

/-- The entries of a tabulated function with their positions. -/
theorem zipIdx_ofFn :
    (List.ofFn entry).zipIdx = (List.finRange n).map fun index => (entry index, index.val) := by
  refine List.ext_getElem (by simp) fun position _ _ => ?_
  simp

theorem map_finRange_eq_ofFn : (List.finRange n).map entry = List.ofFn entry :=
  List.ofFn_eq_map.symm

/-- A traversal whose entries do not fault does not fault. -/
theorem mapM_zipIdx_ofFn {β : Type v} {visit : α × Nat → Option β} {result : Fin n → β}
    (visits : ∀ index, visit (entry index, index.val) = some (result index)) :
    (List.ofFn entry).zipIdx.mapM visit = some (List.ofFn result) := by
  rw [zipIdx_ofFn, List.mapM_map, ← map_finRange_eq_ofFn result]
  have pure_ : visit ∘ (fun index => (entry index, index.val)) =
      fun index => (pure (result index) : Option β) := funext visits
  rw [pure_, List.mapM_pure]
  rfl

/-- Neither does a test of all entries. -/
theorem allM_zipIdx_ofFn {test : α × Nat → Option Bool} {result : Fin n → Bool}
    (tests : ∀ index, test (entry index, index.val) = some (result index)) :
    (List.ofFn entry).zipIdx.allM test = some ((List.finRange n).all result) := by
  rw [zipIdx_ofFn]
  induction List.finRange n with
  | nil => rfl
  | cons index rest ih =>
      rw [List.map_cons, List.allM_cons, tests, List.all_cons]
      cases result index with
      | true => simpa using ih
      | false => rfl

end OfFn

/-- A machine whose steps may fault. -/
structure FaultingMachine (State : Type u) (Input : Type v) (Output : Type w) where
  step : State → Input → Option (Output × State)

namespace FaultingMachine

variable {State : Type u} {Input : Type v} {Output : Type w}
  (machine : FaultingMachine State Input Output)

/-- The state after a run, unless a step of it faults. -/
def final (start : State) : List Input → Option State
  | [] => some start
  | input :: rest =>
      match machine.step start input with
      | some (_, next) => final next rest
      | none => none

/-- A machine which mirrors one that cannot fault does not fault. -/
theorem final_embed {Safe : Type*} {Answer : Type*} {total : Transducer Safe Input Answer}
    (embed : Safe → State) (answer : Input → Answer → Output) (Inv : Safe → Prop)
    (mirrored : ∀ state input, Inv state →
      machine.step (embed state) input =
        some (answer input (total.step state input).1, embed (total.step state input).2))
    (preserved : ∀ state input, Inv state → Inv (total.step state input).2) {start : Safe}
    (initial : Inv start) (inputs : List Input) :
    machine.final (embed start) inputs = some (embed (total.final start inputs)) ∧
      Inv (total.final start inputs) := by
  induction inputs generalizing start with
  | nil => exact ⟨rfl, initial⟩
  | cons input rest ih =>
      rw [final, mirrored start input initial]
      exact ih (preserved start input initial)

end FaultingMachine

end Direlera.Library
