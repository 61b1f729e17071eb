import Direlera.Library.Transducer

/-!
# Tasks made of atomic sections

A `Task` works on a shared state in atomic sections and ends with a result or an
error; an error keeps what the sections before it did. `run` executes a task alone.
`Each` bounds what its sections may do, `Leaves` says what a run does not change, and
`Follows` ties the sections to the moves of an automaton under an assumption on the states
which other tasks leave behind.
-/

namespace Direlera.Library

universe u v w

/-- A program on a shared state; what follows a section depends on the state which
the section found. -/
inductive Task (State : Type u) (Error : Type v) (Result : Type w) where
  | done (outcome : Except Error Result)
  | atomic (act : State → State) (next : State → Task State Error Result)

namespace Task

variable {State : Type u} {Error : Type v} {Result Next : Type w}

/-- Continue after a result; an error ends the task. -/
def bind : Task State Error Result → (Result → Task State Error Next) → Task State Error Next
  | done (.ok result), continuation => continuation result
  | done (.error error), _ => done (.error error)
  | atomic act next, continuation => atomic act fun state => bind (next state) continuation

instance : Monad (Task State Error) where
  pure result := done (.ok result)
  bind := bind

/-- End with an error. -/
def fail (error : Error) : Task State Error Result := done (.error error)

/-- One section which also computes the outcome. -/
def critical (act : State → Except Error Result × State) : Task State Error Result :=
  atomic (fun state => (act state).2) fun state => done (act state).1

/-- Turn an error into a value. -/
def attempt : Task State Error Result → Task State Error (Except Error Result)
  | done outcome => done (.ok outcome)
  | atomic act next => atomic act fun state => attempt (next state)

/-- Read the shared state. -/
def inspect (read : State → Result) : Task State Error Result :=
  critical fun state => (.ok (read state), state)

/-- One pass over a list, in order; an error ends it. -/
def forEach {Item : Type u} : List Item → (Item → Task State Error PUnit) → Task State Error PUnit
  | [], _ => done (.ok PUnit.unit)
  | item :: rest, body => bind (body item) fun _ => forEach rest body

/-- The results of one pass over a list, in order; an error ends it. -/
def collect {Item : Type u} :
    List Item → (Item → Task State Error Result) → Task State Error (List Result)
  | [], _ => done (.ok [])
  | item :: rest, body =>
      bind (body item) fun result => bind (collect rest body) fun results =>
        done (.ok (result :: results))

/-! ## Running alone -/

/-- Run a task without interruption. -/
def run : Task State Error Result → State → Except Error Result × State
  | done outcome, state => (outcome, state)
  | atomic act next, state => run (next state) (act state)

@[simp] theorem run_pure (result : Result) (state : State) :
    run (pure result : Task State Error Result) state = (.ok result, state) := rfl

@[simp] theorem run_fail (error : Error) (state : State) :
    run (fail error : Task State Error Result) state = (.error error, state) := rfl

@[simp] theorem run_critical (act : State → Except Error Result × State) (state : State) :
    run (critical act) state = act state := rfl

@[simp] theorem run_inspect (read : State → Result) (state : State) :
    run (inspect read : Task State Error Result) state = (.ok (read state), state) := rfl

/-- A continuation runs from the state which the first part leaves. -/
theorem run_bind (task : Task State Error Result) (continuation : Result → Task State Error Next)
    (state : State) :
    run (task >>= continuation) state =
      match run task state with
      | (.ok result, next) => run (continuation result) next
      | (.error error, next) => (.error error, next) := by
  induction task generalizing state with
  | done outcome =>
      cases outcome with
      | ok result => rfl
      | error error => rfl
  | atomic act next ih => exact ih state (act state)

/-- A continuation of a continuation. -/
theorem bind_assoc {Last : Type w} (task : Task State Error Result)
    (continuation : Result → Task State Error Next) (last : Next → Task State Error Last) :
    task >>= continuation >>= last = task >>= fun result => continuation result >>= last := by
  induction task with
  | done outcome =>
      cases outcome with
      | ok result => rfl
      | error error => rfl
  | atomic act next ih =>
      change atomic act (fun state => next state >>= continuation >>= last) =
        atomic act fun state => next state >>= fun result => continuation result >>= last
      congr 1
      funext state
      exact ih state

/-- Returning the result changes nothing. -/
theorem bind_pure (task : Task State Error Result) : task >>= pure = task := by
  induction task with
  | done outcome =>
      cases outcome with
      | ok result => rfl
      | error error => rfl
  | atomic act next ih =>
      change atomic act (fun state => next state >>= pure) = atomic act next
      congr 1
      funext state
      exact ih state

/-- Two tasks which go on alike with what they read first are one. -/
theorem inspect_bind_congr {First Second : Type w} {read : State → First} {other : State → Second}
    {continuation : First → Task State Error Result} {later : Second → Task State Error Result}
    (same : ∀ state, continuation (read state) = later (other state)) :
    inspect read >>= continuation = inspect other >>= later :=
  congrArg (atomic id) (funext same)

/-- The first part succeeded. -/
theorem run_bind_ok {task : Task State Error Result} {continuation : Result → Task State Error Next}
    {state next : State} {result : Result} (first : run task state = (.ok result, next)) :
    run (task >>= continuation) state = run (continuation result) next := by
  rw [run_bind, first]

/-- The first part failed. -/
theorem run_bind_error {task : Task State Error Result}
    {continuation : Result → Task State Error Next} {state next : State} {error : Error}
    (first : run task state = (.error error, next)) :
    run (task >>= continuation) state = (.error error, next) := by
  rw [run_bind, first]

/-- A pass goes on after an item which succeeded. -/
theorem run_forEach_cons {Item : Type u} {body : Item → Task State Error PUnit} {item : Item}
    {rest : List Item} {state next : State} {result : PUnit}
    (first : run (body item) state = (.ok result, next)) :
    run (forEach (item :: rest) body) state = run (forEach rest body) next :=
  run_bind_ok first

/-- A pass ends at an item which failed. -/
theorem run_forEach_cons_error {Item : Type u} {body : Item → Task State Error PUnit} {item : Item}
    {rest : List Item} {state next : State} {error : Error}
    (first : run (body item) state = (.error error, next)) :
    run (forEach (item :: rest) body) state = (.error error, next) :=
  run_bind_error first

@[simp] theorem run_attempt (task : Task State Error Result) (state : State) :
    run (attempt task) state = (.ok (run task state).1, (run task state).2) := by
  induction task generalizing state with
  | done outcome => rfl
  | atomic act next ih => exact ih state (act state)

/-- Go on from a result or end with an error. -/
def resume (continuation : Result → Task State Error Next) :
    Except Error Result → Task State Error Next
  | .ok result => continuation result
  | .error error => fail error

/-- A continuation may look at the outcome of the first part. -/
theorem run_attempt_resume {Failure Value Last : Type v} (task : Task State Failure Value)
    (continuation : Value → Task State Failure Last) (state : State) :
    run (attempt task >>= resume continuation) state = run (task >>= continuation) state := by
  rw [run_bind, run_bind, run_attempt]
  rcases run task state with ⟨outcome, next⟩
  cases outcome with
  | ok result => rfl
  | error error => rfl

/-- Collecting by a body which only reads is a map. -/
theorem run_collect {Item : Type u} {body : Item → Task State Error Result} {state : State}
    {value : Item → Result} (reads : ∀ item, run (body item) state = (.ok (value item), state))
    (items : List Item) : run (collect items body) state = (.ok (items.map value), state) := by
  induction items with
  | nil => rfl
  | cons item rest ih => exact (run_bind_ok (reads item)).trans (run_bind_ok ih)

/-! ## What sections may do -/

/-- Every section moves the state as `allowed` says. -/
def Each (allowed : State → State → Prop) : Task State Error Result → Prop
  | done _ => True
  | atomic act next => ∀ state, allowed state (act state) ∧ Each allowed (next state)

section Each

variable {allowed : State → State → Prop}

theorem each_pure (result : Result) :
    Each allowed (pure result : Task State Error Result) := trivial

theorem each_fail (error : Error) : Each allowed (fail error : Task State Error Result) := trivial

theorem each_critical {act : State → Except Error Result × State}
    (here : ∀ state, allowed state (act state).2) : Each allowed (critical act) :=
  fun state => ⟨here state, trivial⟩

theorem each_inspect (here : ∀ state, allowed state state) (read : State → Result) :
    Each allowed (inspect read : Task State Error Result) :=
  each_critical here

theorem Each.bind {task : Task State Error Result}
    {continuation : Result → Task State Error Next} (first : Each allowed task)
    (later : ∀ result, Each allowed (continuation result)) :
    Each allowed (task >>= continuation) := by
  induction task with
  | done outcome =>
      cases outcome with
      | ok result => exact later result
      | error error => trivial
  | atomic act next ih => exact fun state => ⟨(first state).1, ih state (first state).2⟩

/-- What every section of a longer task does, every section of its first part does. -/
theorem Each.of_bind {task : Task State Error Result}
    {continuation : Result → Task State Error Next} (each : Each allowed (task >>= continuation)) :
    Each allowed task := by
  induction task with
  | done outcome => trivial
  | atomic act next ih => exact fun state => ⟨(each state).1, ih state (each state).2⟩

theorem Each.attempt {task : Task State Error Result} (first : Each allowed task) :
    Each allowed (attempt task) := by
  induction task with
  | done outcome => trivial
  | atomic act next ih => exact fun state => ⟨(first state).1, ih state (first state).2⟩

theorem Each.forEach {Item : Type u} {body : Item → Task State Error PUnit}
    (each : ∀ item, Each allowed (body item)) (items : List Item) :
    Each allowed (forEach items body) := by
  induction items with
  | nil => trivial
  | cons item rest ih => exact Each.bind (each item) fun _ => ih

theorem Each.collect {Item : Type u} {body : Item → Task State Error Result}
    (each : ∀ item, Each allowed (body item)) (items : List Item) :
    Each allowed (collect items body) := by
  induction items with
  | nil => trivial
  | cons item rest ih =>
      exact Each.bind (each item) fun result => Each.bind ih fun results => trivial

theorem Each.mono {weaker : State → State → Prop} {task : Task State Error Result}
    (each : Each allowed task) (weaken : ∀ before after, allowed before after → weaker before after) :
    Each weaker task := by
  induction task with
  | done outcome => trivial
  | atomic act next ih =>
      exact fun state => ⟨weaken state (act state) (each state).1, ih state (each state).2⟩

/-- A run stays within every preorder which bounds its sections. -/
theorem Each.run (refl : ∀ state, allowed state state)
    (trans : ∀ first second third, allowed first second → allowed second third →
      allowed first third) {task : Task State Error Result} (each : Each allowed task)
    (state : State) : allowed state (run task state).2 := by
  induction task generalizing state with
  | done outcome => exact refl state
  | atomic act next ih =>
      exact trans _ _ _ (each state).1 (ih state (each state).2 (act state))

/-- A value which every section keeps is kept by the run. -/
theorem Each.keeps {Value : Type*} {value : State → Value} {task : Task State Error Result}
    (each : Each (fun before after => value after = value before) task) (state : State) :
    value (Task.run task state).2 = value state := by
  refine each.run ?_ ?_ state
  · intro before
    rfl
  · intro before middle after first second
    exact second.trans first

end Each

/-! ## What a run leaves alone -/

section Leaves

variable {Value : Type*} {value : State → Value} {task : Task State Error Result}

/-- Run alone, the task ends with the value with which it started. -/
def Leaves (value : State → Value) (task : Task State Error Result) : Prop :=
  ∀ state, value (run task state).2 = value state

theorem Each.leaves (each : Each (fun before after => value after = value before) task) :
    Leaves value task :=
  each.keeps

theorem Leaves.bind {continuation : Result → Task State Error Next} (first : Leaves value task)
    (later : ∀ result, Leaves value (continuation result)) :
    Leaves value (task >>= continuation) := by
  intro state
  rw [run_bind]
  have middle := first state
  rcases ran : run task state with ⟨outcome, next⟩
  rw [ran] at middle
  cases outcome with
  | ok result => exact (later result next).trans middle
  | error error => exact middle

theorem Leaves.forEach {Item : Type u} {body : Item → Task State Error PUnit}
    (each : ∀ item, Leaves value (body item)) (items : List Item) :
    Leaves value (forEach items body) := by
  induction items with
  | nil => exact fun state => rfl
  | cons item rest ih => exact (each item).bind fun _ => ih

end Leaves

/-! ## Following an automaton -/

section Follows

variable {Phase : Type*} {holds : Phase → State → Prop}
  {move : Phase → State → State → Phase → Prop}

/-- In every state which its phase allows, each section makes a move to a phase from which
the rest of the task goes on; `ends` bounds the outcome and the last phase. Between two
sections other tasks may leave any state which the phase allows. -/
def Follows (holds : Phase → State → Prop) (move : Phase → State → State → Phase → Prop) :
    Phase → Task State Error Result → (Except Error Result → Phase → Prop) → Prop
  | phase, done outcome, ends => ends outcome phase
  | phase, atomic act next, ends => ∀ state, holds phase state →
      ∃ later, move phase state (act state) later ∧ Follows holds move later (next state) ends

theorem follows_critical {phase : Phase} {act : State → Except Error Result × State}
    {ends : Except Error Result → Phase → Prop}
    (here : ∀ state, holds phase state →
      ∃ later, move phase state (act state).2 later ∧ ends (act state).1 later) :
    Follows holds move phase (critical act) ends :=
  here

theorem Follows.mono {phase : Phase} {task : Task State Error Result}
    {ends weaker : Except Error Result → Phase → Prop} (follows : Follows holds move phase task ends)
    (weaken : ∀ outcome later, ends outcome later → weaker outcome later) :
    Follows holds move phase task weaker := by
  induction task generalizing phase with
  | done outcome => exact weaken outcome phase follows
  | atomic act next ih =>
      intro state here
      obtain ⟨later, moved, rest⟩ := follows state here
      exact ⟨later, moved, ih state rest⟩

/-- A continuation goes on from every phase in which the first part succeeds. -/
theorem Follows.bind {phase : Phase} {task : Task State Error Result}
    {continuation : Result → Task State Error Next}
    {middle : Except Error Result → Phase → Prop} {ends : Except Error Next → Phase → Prop}
    (first : Follows holds move phase task middle)
    (succeeded : ∀ result later, middle (.ok result) later →
      Follows holds move later (continuation result) ends)
    (failed : ∀ error later, middle (.error error) later → ends (.error error) later) :
    Follows holds move phase (task >>= continuation) ends := by
  induction task generalizing phase with
  | done outcome =>
      cases outcome with
      | ok result => exact succeeded result phase first
      | error error => exact failed error phase first
  | atomic act next ih =>
      intro state here
      obtain ⟨later, moved, rest⟩ := first state here
      exact ⟨later, moved, ih state rest⟩

theorem Follows.attempt {phase : Phase} {task : Task State Error Result}
    {ends : Except Error Result → Phase → Prop} (follows : Follows holds move phase task ends) :
    Follows holds move phase (attempt task)
      fun outcome later => ∃ result, outcome = .ok result ∧ ends result later := by
  induction task generalizing phase with
  | done outcome => exact ⟨outcome, rfl, follows⟩
  | atomic act next ih =>
      intro state here
      obtain ⟨later, moved, rest⟩ := follows state here
      exact ⟨later, moved, ih state rest⟩

/-- A task whose sections stay within the phase follows it to its end. -/
theorem Each.follows {allowed : State → State → Prop} {phase : Phase}
    {task : Task State Error Result} (each : Each allowed task)
    (stays : ∀ before after, holds phase before → allowed before after →
      move phase before after phase) :
    Follows holds move phase task fun _ later => later = phase := by
  induction task with
  | done outcome => exact rfl
  | atomic act next ih =>
      intro state here
      exact ⟨phase, stays state (act state) here (each state).1, ih state (each state).2⟩

end Follows

end Task

end Direlera.Library
