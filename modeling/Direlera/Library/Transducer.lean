import Mathlib.Data.List.Induction

/-!
# Deterministic machines and their histories

A `Transducer` answers every input and moves to the next state. The rules here
reason about whole runs by what one step does: `history_induction` carries a
relation between the inputs so far, the answers so far and the current state.
-/

namespace Direlera.Library

universe u v w

/-- A deterministic machine which answers each input. -/
structure Transducer (State : Type u) (Input : Type v) (Output : Type w) where
  step : State → Input → Output × State

namespace Transducer

variable {State : Type u} {Input : Type v} {Output : Type w}
  (machine : Transducer State Input Output)

/-- The state after a finite run. -/
def final (start : State) : List Input → State
  | [] => start
  | input :: rest => final (machine.step start input).2 rest

/-- The answers of a finite run, one for each input. -/
def outputs (start : State) : List Input → List Output
  | [] => []
  | input :: rest =>
      (machine.step start input).1 :: outputs (machine.step start input).2 rest

/-- The states of a finite run, one after each input. -/
def states (start : State) : List Input → List State
  | [] => []
  | input :: rest =>
      (machine.step start input).2 :: states (machine.step start input).2 rest

@[simp] theorem final_nil (start : State) : machine.final start [] = start := rfl

@[simp] theorem outputs_nil (start : State) : machine.outputs start [] = [] := rfl

@[simp] theorem final_cons (start : State) (input : Input) (rest : List Input) :
    machine.final start (input :: rest) =
      machine.final (machine.step start input).2 rest := rfl

@[simp] theorem outputs_cons (start : State) (input : Input) (rest : List Input) :
    machine.outputs start (input :: rest) =
      (machine.step start input).1 :: machine.outputs (machine.step start input).2 rest := rfl

@[simp] theorem states_nil (start : State) : machine.states start [] = [] := rfl

@[simp] theorem states_cons (start : State) (input : Input) (rest : List Input) :
    machine.states start (input :: rest) =
      (machine.step start input).2 :: machine.states (machine.step start input).2 rest := rfl

/-- Runs compose at the state where the first one stops. -/
theorem final_append (start : State) (first second : List Input) :
    machine.final start (first ++ second) =
      machine.final (machine.final start first) second := by
  induction first generalizing start with
  | nil => rfl
  | cons input rest ih => exact ih (machine.step start input).2

/-- The answers of a composed run are the answers of its parts. -/
theorem outputs_append (start : State) (first second : List Input) :
    machine.outputs start (first ++ second) =
      machine.outputs start first ++ machine.outputs (machine.final start first) second := by
  induction first generalizing start with
  | nil => rfl
  | cons input rest ih =>
      simp only [List.cons_append, outputs_cons, final_cons]
      rw [ih]

/-- One more input moves the final state by one step. -/
theorem final_concat (start : State) (inputs : List Input) (input : Input) :
    machine.final start (inputs ++ [input]) =
      (machine.step (machine.final start inputs) input).2 := by
  rw [final_append]
  rfl

/-- One more input adds one answer. -/
theorem outputs_concat (start : State) (inputs : List Input) (input : Input) :
    machine.outputs start (inputs ++ [input]) =
      machine.outputs start inputs ++ [(machine.step (machine.final start inputs) input).1] := by
  rw [outputs_append]
  rfl

@[simp] theorem outputs_length (start : State) (inputs : List Input) :
    (machine.outputs start inputs).length = inputs.length := by
  induction inputs generalizing start with
  | nil => rfl
  | cons input rest ih => simp [ih]

/-- A relation between history, answers and state which holds at the start and
which every step extends holds of every run. -/
theorem history_induction {start : State}
    (Holds : List Input → List Output → State → Prop)
    (initial : Holds [] [] start)
    (extended : ∀ inputs answers state input, Holds inputs answers state →
      Holds (inputs ++ [input]) (answers ++ [(machine.step state input).1])
        (machine.step state input).2)
    (inputs : List Input) :
    Holds inputs (machine.outputs start inputs) (machine.final start inputs) := by
  induction inputs using List.reverseRecOn with
  | nil => exact initial
  | append_singleton prior input ih =>
      rw [outputs_concat, final_concat]
      exact extended prior _ _ input ih

/-- A predicate of states which every step preserves holds at the end of a run. -/
theorem invariant {start : State} (Inv : State → Prop) (initial : Inv start)
    (preserved : ∀ state input, Inv state → Inv (machine.step state input).2)
    (inputs : List Input) : Inv (machine.final start inputs) :=
  machine.history_induction (fun _ _ state => Inv state) initial
    (fun _ _ state input holds => preserved state input holds) inputs

/-- Every input of a run is allowed in the state which it finds. -/
def Along (allowed : State → Input → Prop) (start : State) : List Input → Prop
  | [] => True
  | input :: rest => allowed start input ∧ Along allowed (machine.step start input).2 rest

instance decidableAlong {allowed : State → Input → Prop}
    [∀ state input, Decidable (allowed state input)] :
    ∀ (start : State) (inputs : List Input), Decidable (machine.Along allowed start inputs)
  | _, [] => inferInstanceAs (Decidable True)
  | start, input :: rest =>
      @instDecidableAnd (allowed start input) _ inferInstance
        (decidableAlong (machine.step start input).2 rest)

/-- A predicate which every allowed step preserves holds at the end of an allowed run. -/
theorem invariant_along {allowed : State → Input → Prop} (Inv : State → Prop)
    (preserved : ∀ state input, Inv state → allowed state input → Inv (machine.step state input).2)
    {start : State} (initial : Inv start) {inputs : List Input}
    (along : machine.Along allowed start inputs) : Inv (machine.final start inputs) := by
  induction inputs generalizing start with
  | nil => exact initial
  | cons input rest ih =>
      obtain ⟨here, later⟩ := along
      exact ih (preserved start input initial here) later

/-- The inputs of a composed run are allowed if those of its parts are. -/
theorem along_append {allowed : State → Input → Prop} {start : State} {first second : List Input} :
    machine.Along allowed start (first ++ second) ↔
      machine.Along allowed start first ∧ machine.Along allowed (machine.final start first) second := by
  induction first generalizing start with
  | nil => exact ⟨fun along => ⟨trivial, along⟩, And.right⟩
  | cons input rest ih => exact (and_congr_right fun _ => ih).trans and_assoc.symm

/-- What allowed inputs meet is met along allowed runs. -/
theorem along_mono {allowed permitted : State → Input → Prop}
    (weaker : ∀ state input, allowed state input → permitted state input) {start : State}
    {inputs : List Input} (along : machine.Along allowed start inputs) :
    machine.Along permitted start inputs := by
  induction inputs generalizing start with
  | nil => trivial
  | cons input rest ih => exact ⟨weaker start input along.1, ih along.2⟩

/-- What is up at the end of a run and was not at its start came up for the last time with one
of its inputs, and is up from there on. -/
theorem exists_last_rise (raised : State → Prop) {allowed : State → Input → Prop} {start : State}
    (low : ¬raised start) {inputs : List Input} (along : machine.Along allowed start inputs)
    (high : raised (machine.final start inputs)) :
    ∃ (before : List Input) (input : Input) (after : List Input),
      inputs = before ++ [input] ++ after ∧ ¬raised (machine.final start before) ∧
        raised (machine.final start (before ++ [input])) ∧
          machine.Along (fun state input => raised state ∧ allowed state input)
            (machine.final start (before ++ [input])) after := by
  induction inputs using List.reverseRecOn with
  | nil => exact absurd high low
  | append_singleton prior input ih =>
      obtain ⟨earlier, last⟩ := machine.along_append.mp along
      by_cases risen : raised (machine.final start prior)
      · obtain ⟨before, rise, after, rfl, below, above, stays⟩ := ih earlier risen
        rw [final_append] at risen last
        exact ⟨before, rise, after ++ [input], List.append_assoc .., below, above,
          machine.along_append.mpr ⟨stays, ⟨risen, last.1⟩, trivial⟩⟩
      · exact ⟨prior, input, [], (List.append_nil _).symm, risen, high, trivial⟩

/-- If an input keeps an invariant exactly when it is allowed, the invariant holds after every
part of a run exactly when the run is allowed. -/
theorem forall_take_iff_along {allowed : State → Input → Prop} (base Inv : State → Prop)
    (based : ∀ state input, base state → base (machine.step state input).2)
    (exact : ∀ state input, base state → Inv state →
      (Inv (machine.step state input).2 ↔ allowed state input))
    {start : State} (grounded : base start) (initial : Inv start) (inputs : List Input) :
    (∀ count, Inv (machine.final start (inputs.take count))) ↔
      machine.Along allowed start inputs := by
  induction inputs generalizing start with
  | nil => simpa [Along] using initial
  | cons input rest ih =>
      have step := exact start input grounded initial
      constructor
      · intro always
        have kept : Inv (machine.step start input).2 := always 1
        exact ⟨step.mp kept, (ih (based start input grounded) kept).mp fun count => always (count + 1)⟩
      · rintro ⟨here, later⟩ count
        cases count with
        | zero => exact initial
        | succ count =>
            have kept := step.mpr here
            exact (ih (based start input grounded) kept).mpr later count

/-- A relation between the inputs so far and the state which every allowed step extends holds
at the end of an allowed run. -/
theorem history_along {allowed : State → Input → Prop} (Holds : List Input → State → Prop)
    (extended : ∀ inputs state input, Holds inputs state → allowed state input →
      Holds (inputs ++ [input]) (machine.step state input).2)
    {start : State} {prior : List Input} (initial : Holds prior start) {inputs : List Input}
    (along : machine.Along allowed start inputs) :
    Holds (prior ++ inputs) (machine.final start inputs) := by
  induction inputs generalizing start prior with
  | nil => simpa using initial
  | cons input rest ih =>
      obtain ⟨here, later⟩ := along
      have next := ih (extended prior start input initial here) later
      rwa [List.append_assoc] at next

/-- What an invariant of allowed runs permits of allowed inputs is permitted along them. -/
theorem along_of_invariant {allowed permitted : State → Input → Prop} (Inv : State → Prop)
    (preserved : ∀ state input, Inv state → allowed state input → Inv (machine.step state input).2)
    (permits : ∀ state input, Inv state → allowed state input → permitted state input)
    {start : State} (initial : Inv start) {inputs : List Input}
    (along : machine.Along allowed start inputs) : machine.Along permitted start inputs := by
  induction inputs generalizing start with
  | nil => trivial
  | cons input rest ih =>
      obtain ⟨here, later⟩ := along
      exact ⟨permits start input initial here, ih (preserved start input initial here) later⟩

/-- Two conditions on inputs which agree in every state of an invariant agree along runs, if
the inputs which meet them keep the invariant. -/
theorem along_congr_of_first {first second : State → Input → Prop} (Inv : State → Prop)
    (preserved : ∀ state input, Inv state → first state input →
      Inv (machine.step state input).2)
    (agree : ∀ state input, Inv state → (first state input ↔ second state input)) {start : State}
    (initial : Inv start) (inputs : List Input) :
    machine.Along first start inputs ↔ machine.Along second start inputs := by
  induction inputs generalizing start with
  | nil => exact Iff.rfl
  | cons input rest ih =>
      have here := agree start input initial
      constructor
      · rintro ⟨met, later⟩
        exact ⟨here.mp met, (ih (preserved start input initial met)).mp later⟩
      · rintro ⟨met, later⟩
        exact ⟨here.mpr met, (ih (preserved start input initial (here.mpr met))).mpr later⟩

/-- Two conditions on inputs which agree in every state of an invariant agree along runs. -/
theorem along_congr {first second : State → Input → Prop} (Inv : State → Prop)
    (preserved : ∀ state input, Inv state → Inv (machine.step state input).2)
    (agree : ∀ state input, Inv state → (first state input ↔ second state input)) {start : State}
    (initial : Inv start) (inputs : List Input) :
    machine.Along first start inputs ↔ machine.Along second start inputs :=
  machine.along_congr_of_first Inv (fun state input holds _ => preserved state input holds) agree
    initial inputs

/-- Two machines answer a run alike if related states answer every input alike and stay
related. -/
theorem outputs_eq_of_simulation {Other : Type*} {other : Transducer Other Input Output}
    (Related : State → Other → Prop)
    (step : ∀ state mirror input, Related state mirror →
      (machine.step state input).1 = (other.step mirror input).1 ∧
        Related (machine.step state input).2 (other.step mirror input).2)
    {start : State} {mirror : Other} (related : Related start mirror) (inputs : List Input) :
    machine.outputs start inputs = other.outputs mirror inputs := by
  induction inputs generalizing start mirror with
  | nil => rfl
  | cons input rest ih =>
      obtain ⟨same, next⟩ := step start mirror input related
      rw [outputs_cons, outputs_cons, same, ih next]

/-- The machine beside a record of its run, which is kept up by observing each step. -/
def recorded {Record : Type*} (observe : State → Input → State → Record → Record) :
    Transducer (State × Record) Input Output where
  step situation input :=
    let (answer, next) := machine.step situation.1 input
    (answer, next, observe situation.1 input next situation.2)

end Transducer

end Direlera.Library
