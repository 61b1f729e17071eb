import Direlera.Library.Pool

/-!
# Tasks under an invariant

A task is `Guarded` by an invariant when each of its sections keeps it and moves as `allowed`
says, whatever the other tasks did between two sections as long as they keep the invariant
too; what a section reads then comes from a state with the invariant. Tasks on a part of a
state are tasks on the whole. When every task of a program is guarded, every schedule keeps
the invariant.
-/

namespace Direlera.Library

universe u v w

namespace Task

variable {State : Type u} {Error : Type v} {Result Next : Type w} {Inv : State → Prop}
  {allowed : State → State → Prop}

/-- Every section keeps the invariant and is allowed, and the outcome is as `ends` says. -/
def Guarded (Inv : State → Prop) (allowed : State → State → Prop) (task : Task State Error Result)
    (ends : Except Error Result → Prop) : Prop :=
  Follows (fun _ : Unit => Inv) (fun _ before after _ => allowed before after ∧ Inv after) () task
    fun outcome _ => ends outcome

/-- Nothing is said about the outcome. -/
abbrev Guards (Inv : State → Prop) (allowed : State → State → Prop)
    (task : Task State Error Result) : Prop :=
  Guarded Inv allowed task fun _ => True

/-- What holds of a result if there is one. -/
def Yields (good : Result → Prop) : Except Error Result → Prop
  | .ok result => good result
  | .error _ => True

theorem guarded_pure {result : Result} {good : Result → Prop} (here : good result) :
    Guarded Inv allowed (pure result : Task State Error Result) (Yields good) := here

theorem guarded_fail (error : Error) {good : Result → Prop} :
    Guarded Inv allowed (fail error : Task State Error Result) (Yields good) := trivial

theorem guards_pure (result : Result) :
    Guards Inv allowed (pure result : Task State Error Result) := trivial

theorem guards_fail (error : Error) :
    Guards Inv allowed (fail error : Task State Error Result) := trivial

theorem guarded_critical {act : State → Except Error Result × State}
    {ends : Except Error Result → Prop}
    (here : ∀ state, Inv state →
      allowed state (act state).2 ∧ Inv (act state).2 ∧ ends (act state).1) :
    Guarded Inv allowed (critical act) ends :=
  follows_critical fun state holds =>
    ⟨(), ⟨(here state holds).1, (here state holds).2.1⟩, (here state holds).2.2⟩

/-- What is read comes from a state with the invariant. -/
theorem guarded_inspect (still : ∀ state, allowed state state) {read : State → Result}
    {good : Result → Prop} (here : ∀ state, Inv state → good (read state)) :
    Guarded Inv allowed (inspect read : Task State Error Result) (Yields good) :=
  guarded_critical fun state holds => ⟨still state, holds, here state holds⟩

/-- A task goes on with a result as it was said to be. -/
theorem Guarded.bind {task : Task State Error Result}
    {continuation : Result → Task State Error Next} {good : Result → Prop}
    {ends : Except Error Next → Prop} (first : Guarded Inv allowed task (Yields good))
    (later : ∀ result, good result → Guarded Inv allowed (continuation result) ends)
    (failed : ∀ error, ends (.error error)) :
    Guarded Inv allowed (task >>= continuation) ends :=
  Follows.bind first (fun result _ => later result) fun error _ _ => failed error

/-- A task goes on with a result as it was said to be, and nothing is said about the end. -/
theorem Guarded.andThen {task : Task State Error Result}
    {continuation : Result → Task State Error Next} {good : Result → Prop}
    (first : Guarded Inv allowed task (Yields good))
    (later : ∀ result, good result → Guards Inv allowed (continuation result)) :
    Guards Inv allowed (task >>= continuation) :=
  first.bind later fun _ => trivial

/-- A task goes on with any result. -/
theorem Guards.andThen {task : Task State Error Result}
    {continuation : Result → Task State Error Next} {ends : Except Error Next → Prop}
    (first : Guards Inv allowed task)
    (later : ∀ result, Guarded Inv allowed (continuation result) ends)
    (failed : ∀ error, ends (.error error)) :
    Guarded Inv allowed (task >>= continuation) ends :=
  Follows.bind first (fun result _ _ => later result) fun error _ _ => failed error

theorem Guards.bind {task : Task State Error Result}
    {continuation : Result → Task State Error Next} (first : Guards Inv allowed task)
    (later : ∀ result, Guards Inv allowed (continuation result)) :
    Guards Inv allowed (task >>= continuation) :=
  Guards.andThen first later fun _ => trivial

theorem Guards.attempt {task : Task State Error Result} (guards : Guards Inv allowed task) :
    Guards Inv allowed (attempt task) :=
  Follows.mono (Follows.attempt guards) fun _ _ _ => trivial

theorem Guards.forEach {Item : Type u} {body : Item → Task State Error PUnit} {items : List Item}
    (each : ∀ item ∈ items, Guards Inv allowed (body item)) :
    Guards Inv allowed (forEach items body) := by
  induction items with
  | nil => exact trivial
  | cons item rest ih =>
      have later := ih fun other member => each other (List.mem_cons_of_mem _ member)
      exact Guards.bind (each item List.mem_cons_self) fun _ => later

/-- A task whose sections move as `moves` says keeps what these moves keep. -/
theorem Each.guards {moves : State → State → Prop} {task : Task State Error Result}
    (each : Each moves task)
    (keeps : ∀ before after, Inv before → moves before after → allowed before after ∧ Inv after) :
    Guards Inv allowed task := by
  induction task with
  | done outcome => trivial
  | atomic act next ih =>
      exact fun state holds =>
        ⟨(), keeps state (act state) holds (each state).1, ih state (each state).2⟩

/-! ## Parts of a state -/

/-- Work on a part of the state; what the part is, and how it is put back. -/
def within {Whole : Type u} (part : Whole → State) (put : State → Whole → Whole) :
    Task State Error Result → Task Whole Error Result
  | done outcome => done outcome
  | atomic act next =>
      atomic (fun whole => put (act (part whole)) whole) fun whole =>
        within part put (next (part whole))

/-- Work on a part runs as it would on the part alone. -/
theorem run_within {Whole : Type u} (part : Whole → State) (put : State → Whole → Whole)
    (part_put : ∀ state whole, part (put state whole) = state)
    (put_put : ∀ first second whole, put second (put first whole) = put second whole)
    (put_part : ∀ whole, put (part whole) whole = whole) (task : Task State Error Result)
    (whole : Whole) :
    run (task.within part put) whole =
      ((run task (part whole)).1, put (run task (part whole)).2 whole) := by
  induction task generalizing whole with
  | done outcome => exact congrArg (Prod.mk outcome) (put_part whole).symm
  | atomic act next ih =>
      have rest := ih (part whole) (put (act (part whole)) whole)
      rw [part_put, put_put] at rest
      exact rest

/-- An invariant of the whole which survives the allowed moves of the part. -/
theorem Guarded.within {Whole : Type u} {part : Whole → State} {put : State → Whole → Whole}
    {Total : Whole → Prop} {permitted : Whole → Whole → Prop}
    (known : ∀ whole, Total whole → Inv (part whole))
    (keeps : ∀ whole state, Total whole → allowed (part whole) state → Inv state →
      permitted whole (put state whole) ∧ Total (put state whole))
    {task : Task State Error Result} {ends : Except Error Result → Prop}
    (guarded : Guarded Inv allowed task ends) :
    Guarded Total permitted (task.within part put) ends := by
  induction task with
  | done outcome => exact guarded
  | atomic act next ih =>
      intro whole total
      obtain ⟨_, ⟨moved, holds⟩, rest⟩ := guarded (part whole) (known whole total)
      exact ⟨(), keeps whole _ total moved holds, ih _ rest⟩

end Task

/-! ## Programs -/

section Programs

variable {State : Type u} {Error : Type v} {Result : Type w} {Session Job : Type*}

/-- The sessions of a program run their tasks and note nothing. -/
def Program.plain (task : Session → Job → Task State Error Result) :
    Program State Error Result Session Job Unit where
  accepts _ _ := true
  task := task
  blank := ()
  opening _ _ := ()
  record _ _ _ := ()

/-- The automaton with the one phase in which the invariant holds. -/
def Discipline.guarded {task : Session → Job → Task State Error Result} {Inv : State → Prop}
    {allowed : State → State → Prop}
    (guards : ∀ session job, Task.Guards Inv allowed (task session job)) :
    Discipline (Program.plain task) Unit where
  shared := Inv
  holds _ := Inv
  move _ _ before after _ := allowed before after ∧ Inv after
  agrees _ _ := True
  ends _ := True
  begins session job _ := ⟨(), trivial, fun _ => id, guards session job⟩
  moves moved _ := ⟨moved.2, moved.2, trivial⟩
  stable moved _ := moved.2

/-- However sessions interleave whose tasks are guarded, the invariant holds. -/
theorem Program.guarded_final [DecidableEq Session] {task : Session → Job → Task State Error Result}
    {Inv : State → Prop} {allowed : State → State → Prop}
    (guards : ∀ session job, Task.Guards Inv allowed (task session job))
    {start : State} (holds : Inv start) (turns : List (Turn Session Job)) :
    Inv ((Program.plain task).machine.final (.idle start) turns).state := by
  have along : ∀ pool, (Program.plain task).machine.Along (fun _ _ => True) pool turns := by
    induction turns with
    | nil => exact fun _ => trivial
    | cons turn rest ih => exact fun _ => ⟨trivial, ih _⟩
  exact (Discipline.guarded guards).invariant_along (fun state _ => Inv state)
    (fun _ _ _ _ here _ _ => here) (fun _ _ _ _ _ _ _ _ moved => moved.2)
    (fun _ _ _ _ here _ _ _ => here) holds holds (along _)

end Programs

end Direlera.Library
