import Direlera.Library.Pool

/-!
# Tasks with labelled sections

A label says what a section is about to do with what the sections before it found. A
`Labelled` task is a task some of whose sections carry labels; without them it is the task
itself. The sessions of a `labelled` program note what is left of their labelled tasks, so
that a condition on schedules can speak about the next section of every session.
-/

namespace Direlera.Library

universe u v w

/-- A task some of whose sections carry a label. -/
inductive Labelled (State : Type u) (Label : Type*) (Error : Type v) (Result : Type w) where
  | done (outcome : Except Error Result)
  | atomic (label : Option Label) (act : State → State)
      (next : State → Labelled State Label Error Result)

namespace Labelled

variable {State : Type u} {Label : Type*} {Error : Type v} {Result Next : Type w}

/-- Continue after a result; an error ends the task. -/
def bind : Labelled State Label Error Result → (Result → Labelled State Label Error Next) →
    Labelled State Label Error Next
  | done (.ok result), continuation => continuation result
  | done (.error error), _ => done (.error error)
  | atomic label act next, continuation =>
      atomic label act fun state => bind (next state) continuation

instance : Monad (Labelled State Label Error) where
  pure result := done (.ok result)
  bind := bind

/-- End with an error. -/
def fail (error : Error) : Labelled State Label Error Result := done (.error error)

/-- One labelled section which also computes the outcome. -/
def critical (label : Label) (act : State → Except Error Result × State) :
    Labelled State Label Error Result :=
  atomic (some label) (fun state => (act state).2) fun state => done (act state).1

/-- A labelled section which reads the shared state. -/
def inspect (label : Label) (read : State → Result) : Labelled State Label Error Result :=
  critical label fun state => (.ok (read state), state)

/-- A task without labels. -/
def ofTask : Task State Error Result → Labelled State Label Error Result
  | .done outcome => done outcome
  | .atomic act next => atomic none act fun state => ofTask (next state)

/-- The task itself. -/
def erase : Labelled State Label Error Result → Task State Error Result
  | done outcome => .done outcome
  | atomic _ act next => .atomic act fun state => erase (next state)

/-- Other labels for the sections. -/
def relabel {Other : Type*} (name : Label → Other) :
    Labelled State Label Error Result → Labelled State Other Error Result
  | done outcome => done outcome
  | atomic label act next => atomic (label.map name) act fun state => relabel name (next state)

/-- The label of the next section. -/
def label : Labelled State Label Error Result → Option Label
  | done _ => none
  | atomic label _ _ => label

/-- What is left after the next section. -/
def advance : Labelled State Label Error Result → State → Labelled State Label Error Result
  | done outcome, _ => done outcome
  | atomic _ _ next, state => next state

/-! ## Without labels -/

@[simp] theorem erase_pure (result : Result) :
    erase (pure result : Labelled State Label Error Result) = pure result := rfl

@[simp] theorem erase_fail (error : Error) :
    erase (fail error : Labelled State Label Error Result) = .fail error := rfl

@[simp] theorem erase_critical (label : Label) (act : State → Except Error Result × State) :
    erase (critical label act) = .critical act := rfl

@[simp] theorem erase_inspect (label : Label) (read : State → Result) :
    erase (inspect label read : Labelled State Label Error Result) = .inspect read := rfl

@[simp] theorem erase_ofTask (task : Task State Error Result) :
    erase (ofTask task : Labelled State Label Error Result) = task := by
  induction task with
  | done outcome => rfl
  | atomic act next ih =>
      simp only [ofTask, erase]
      congr 1
      funext state
      exact ih state

@[simp] theorem erase_bind (task : Labelled State Label Error Result)
    (continuation : Result → Labelled State Label Error Next) :
    erase (task >>= continuation) = erase task >>= fun result => erase (continuation result) := by
  induction task with
  | done outcome =>
      cases outcome with
      | ok result => rfl
      | error error => rfl
  | atomic label act next ih =>
      change Task.atomic act (fun state => erase (next state >>= continuation)) =
        Task.atomic act fun state => erase (next state) >>= fun result => erase (continuation result)
      congr 1
      funext state
      exact ih state

theorem ofTask_bind (task : Task State Error Result) (continuation : Result → Task State Error Next) :
    (ofTask (task >>= continuation) : Labelled State Label Error Next) =
      ofTask task >>= fun result => ofTask (continuation result) := by
  induction task with
  | done outcome =>
      cases outcome with
      | ok result => rfl
      | error error => rfl
  | atomic act next ih =>
      change atomic none act (fun state => ofTask (next state >>= continuation)) =
        atomic none act fun state => ofTask (next state) >>= fun result => ofTask (continuation result)
      congr 1
      funext state
      exact ih state

theorem bind_assoc {Last : Type w} (task : Labelled State Label Error Result)
    (first : Result → Labelled State Label Error Next)
    (second : Next → Labelled State Label Error Last) :
    task >>= first >>= second = task >>= fun result => first result >>= second := by
  induction task with
  | done outcome =>
      cases outcome with
      | ok result => rfl
      | error error => rfl
  | atomic label act next ih =>
      change atomic label act (fun state => next state >>= first >>= second) =
        atomic label act fun state => next state >>= fun result => first result >>= second
      congr 1
      funext state
      exact ih state

theorem bind_pure (task : Labelled State Label Error Result) : task >>= pure = task := by
  induction task with
  | done outcome =>
      cases outcome with
      | ok result => rfl
      | error error => rfl
  | atomic label act next ih =>
      change atomic label act (fun state => next state >>= pure) = atomic label act next
      congr 1
      funext state
      exact ih state

@[simp] theorem label_relabel {Other : Type*} (name : Label → Other)
    (task : Labelled State Label Error Result) :
    (task.relabel name).label = task.label.map name := by
  cases task <;> rfl

/-! ## What sections may do -/

/-- Every section moves the state as `allowed` says for its label and the label after it. -/
def Each (allowed : Option Label → State → State → Option Label → Prop) :
    Labelled State Label Error Result → Prop
  | done _ => True
  | atomic here act next => ∀ state,
      allowed here state (act state) (next state).label ∧ Each allowed (next state)

section Each

variable {allowed : Option Label → State → State → Option Label → Prop}

theorem each_pure (result : Result) :
    Each allowed (pure result : Labelled State Label Error Result) := trivial

theorem each_fail (error : Error) :
    Each allowed (fail error : Labelled State Label Error Result) := trivial

/-- A labelled section reads the state, and the task goes on with what it read. -/
theorem each_inspect_bind {label : Label} {read : State → Result}
    {continuation : Result → Labelled State Label Error Next}
    (here : ∀ state, allowed (some label) state state (continuation (read state)).label ∧
      Each allowed (continuation (read state))) :
    Each allowed (inspect label read >>= continuation) :=
  here

/-- The task goes on with the result of a labelled section, or ends with its error. -/
theorem each_critical_bind {label : Label} {act : State → Except Error Result × State}
    {continuation : Result → Labelled State Label Error Next}
    (failed : ∀ state error, (act state).1 = .error error →
      allowed (some label) state (act state).2 none)
    (succeeded : ∀ state result, (act state).1 = .ok result →
      allowed (some label) state (act state).2 (continuation result).label ∧
        Each allowed (continuation result)) :
    Each allowed (critical label act >>= continuation) := by
  intro state
  change allowed (some label) state (act state).2 (bind (done (act state).1) continuation).label ∧
    Each allowed (bind (done (act state).1) continuation)
  cases outcome : (act state).1 with
  | error error => exact ⟨failed state error outcome, trivial⟩
  | ok result => exact succeeded state result outcome

/-- A task without labels obeys what it obeys as a task. -/
theorem each_ofTask {plain : State → State → Prop} {task : Task State Error Result}
    (each : Task.Each plain task)
    (weaken : ∀ before after, plain before after → allowed none before after none) :
    Each allowed (ofTask task) := by
  induction task with
  | done outcome => trivial
  | atomic act next ih =>
      intro state
      have unlabelled : (ofTask (next state) : Labelled State Label Error Result).label = none := by
        cases next state with
        | done outcome => rfl
        | atomic act next => rfl
      refine ⟨?_, ih state (each state).2⟩
      rw [unlabelled]
      exact weaken state (act state) (each state).1

/-- A task without labels obeys what it obeys as a task, whatever label comes after it. -/
theorem each_ofTask_bind {plain : State → State → Prop} {task : Task State Error Result}
    {continuation : Result → Labelled State Label Error Next} (each : Task.Each plain task)
    (weaken : ∀ before after, plain before after → allowed none before after none ∧
      ∀ result, allowed none before after (continuation result).label)
    (later : ∀ result, Each allowed (continuation result)) :
    Each allowed (ofTask task >>= continuation) := by
  induction task with
  | done outcome =>
      cases outcome with
      | ok result => exact later result
      | error error => trivial
  | atomic act next ih =>
      intro state
      obtain ⟨last, between⟩ := weaken state (act state) (each state).1
      refine ⟨?_, ih state (each state).2⟩
      change allowed none state (act state) (ofTask (next state) >>= continuation).label
      cases next state with
      | done outcome =>
          cases outcome with
          | ok result => exact between result
          | error error => exact last
      | atomic act next => exact last

/-- What comes after a task does not matter to rules which do not look at it. -/
theorem Each.bind {rule : Option Label → State → State → Prop}
    {task : Labelled State Label Error Result}
    {continuation : Result → Labelled State Label Error Next}
    (first : Each (fun label before after _ => rule label before after) task)
    (later : ∀ result, Each (fun label before after _ => rule label before after)
      (continuation result)) :
    Each (fun label before after _ => rule label before after) (task >>= continuation) := by
  induction task with
  | done outcome =>
      cases outcome with
      | ok result => exact later result
      | error error => trivial
  | atomic label act next ih => exact fun state => ⟨(first state).1, ih state (first state).2⟩

theorem Each.mono {weaker : Option Label → State → State → Option Label → Prop}
    {task : Labelled State Label Error Result} (each : Each allowed task)
    (weaken : ∀ label before after next, allowed label before after next →
      weaker label before after next) : Each weaker task := by
  induction task with
  | done outcome => trivial
  | atomic label act next ih =>
      exact fun state => ⟨weaken _ _ _ _ (each state).1, ih state (each state).2⟩

/-- Under other labels a task obeys what it obeys under its own. -/
theorem Each.relabel {Other : Type*} {name : Label → Other}
    {rule : Option Other → State → State → Option Other → Prop}
    {task : Labelled State Label Error Result}
    (each : Each (fun label before after next => rule (label.map name) before after (next.map name))
      task) : Each rule (task.relabel name) := by
  induction task with
  | done outcome => trivial
  | atomic label act next ih =>
      intro state
      refine ⟨?_, ih state (each state).2⟩
      rw [label_relabel]
      exact (each state).1

/-- Without the labels a task obeys what its rules imply. -/
theorem Each.erase {plain : State → State → Prop} {task : Labelled State Label Error Result}
    (each : Each allowed task)
    (weaken : ∀ label before after next, allowed label before after next → plain before after) :
    Task.Each plain task.erase := by
  induction task with
  | done outcome => trivial
  | atomic label act next ih =>
      exact fun state => ⟨weaken _ _ _ _ (each state).1, ih state (each state).2⟩

/-- Sections may be held to two rules one after the other. -/
theorem Each.and {second : Option Label → State → State → Option Label → Prop}
    {task : Labelled State Label Error Result} (each : Each allowed task)
    (also : Each second task) :
    Each (fun label before after next =>
      allowed label before after next ∧ second label before after next) task := by
  induction task with
  | done outcome => trivial
  | atomic label act next ih =>
      exact fun state =>
        ⟨⟨(each state).1, (also state).1⟩, ih state (each state).2 (also state).2⟩

end Each

/-! ## What labels carry -/

/-- As long as the sections find states in which `holds`, each `later` than what the section
before it left, every label fits the state before its section and the result that at the end of
the task. -/
def Promises (later : State → State → Prop) (holds : State → Prop) (fits : State → Label → Prop) :
    State → Labelled State Label Error Result → (State → Result → Prop) → Prop
  | since, done (.ok result), ends => ends since result
  | _, done (.error _), _ => True
  | since, atomic label act next, ends => (∀ here ∈ label, fits since here) ∧
      ∀ state, later since state → holds state →
        Promises later holds fits (act state) (next state) ends

section Promises

variable {later : State → State → Prop} {holds : State → Prop} {fits : State → Label → Prop}
  {since : State} {ends : State → Result → Prop}

/-- A task without labels promises nothing else. -/
theorem promises_ofTask (task : Task State Error Result) :
    Promises later holds fits since (ofTask task) fun _ _ => True := by
  induction task generalizing since with
  | done outcome =>
      cases outcome with
      | ok result => trivial
      | error error => trivial
  | atomic act next ih => exact ⟨by rintro _ ⟨⟩, fun state _ _ => ih state⟩

/-- A task without labels whose sections move on leaves a later state. -/
theorem promises_ofTask_later (trans : ∀ first second third, later first second →
      later second third → later first third) {task : Task State Error Result}
    (each : Task.Each (fun before after => holds before → later before after) task)
    (start : later since since) :
    Promises later holds fits since (ofTask task) fun state _ => later since state := by
  have along : ∀ now, later since now →
      Promises later holds fits now (ofTask task) fun state _ => later since state := by
    induction task with
    | done outcome =>
        intro now after
        cases outcome with
        | ok result => exact after
        | error error => trivial
    | atomic act next ih =>
        refine fun now after => ⟨by rintro _ ⟨⟩, fun state further here => ?_⟩
        have moved := trans _ _ _ (trans _ _ _ after further) ((each state).1 here)
        exact ih state (each state).2 (act state) moved
  exact along since start

/-- A task without labels goes on with the result of a section. -/
theorem promises_critical_bind {act : State → Except Error Next × State}
    {continuation : Next → Task State Error Result}
    (rest : ∀ state, later since state → holds state → ∀ result, (act state).1 = .ok result →
      Promises later holds fits (act state).2 (ofTask (continuation result)) ends) :
    Promises later holds fits since
      (ofTask (Task.critical act >>= continuation) : Labelled State Label Error Result) ends := by
  refine ⟨by rintro _ ⟨⟩, fun state after here => ?_⟩
  change Promises later holds fits (act state).2
    (ofTask (Task.bind (.done (act state).1) continuation)) ends
  cases outcome : (act state).1 with
  | ok result => exact rest state after here result outcome
  | error error => trivial

/-- A task without labels goes on with what a section reads. -/
theorem promises_inspect_bind {read : State → Next} {continuation : Next → Task State Error Result}
    (rest : ∀ state, later since state → holds state →
      Promises later holds fits state (ofTask (continuation (read state))) ends) :
    Promises later holds fits since
      (ofTask (Task.inspect read >>= continuation) : Labelled State Label Error Result) ends :=
  ⟨by rintro _ ⟨⟩, rest⟩

theorem promises_critical {label : Label} {act : State → Except Error Result × State}
    (fit : fits since label) :
    Promises later holds fits since (critical label act) fun _ _ => True := by
  refine ⟨by rintro _ ⟨⟩; exact fit, fun state _ _ => ?_⟩
  change Promises later holds fits (act state).2 (done (act state).1) fun _ _ => True
  cases (act state).1 with
  | ok result => trivial
  | error error => trivial

/-- A task goes on from every result which its first part may have. -/
theorem Promises.bind {task : Labelled State Label Error Result}
    {continuation : Result → Labelled State Label Error Next} {last : State → Next → Prop}
    (first : Promises later holds fits since task ends)
    (rest : ∀ state result, ends state result →
      Promises later holds fits state (continuation result) last) :
    Promises later holds fits since (task >>= continuation) last := by
  induction task generalizing since with
  | done outcome =>
      cases outcome with
      | ok result => exact rest since result first
      | error error => trivial
  | atomic label act next ih =>
      exact ⟨first.1, fun state after here => ih state (first.2 state after here)⟩

end Promises

end Labelled

/-! ## Pools of labelled tasks -/

section Pools

variable {State : Type u} {Label : Type*} {Error : Type v} {Result : Type w}
  {Session Job Ghost : Type*}

/-- The sessions of a program note what is left of their labelled tasks. -/
def Program.labelled (task : Session → Job → Labelled State Label Error Result) :
    Program State Error Result Session Job (Option (Labelled State Label Error Result)) where
  accepts _ _ := true
  task session job := (task session job).erase
  blank := none
  opening session job := some (task session job)
  record note before _ := note.map fun rest => rest.advance before

/-- A pool whose sessions note labelled tasks. -/
abbrev LabelledPool (State : Type u) (Label : Type*) (Error : Type v) (Result : Type w)
    (Session : Type*) :=
  Pool State Error Result Session (Option (Labelled State Label Error Result))

/-- The label of the next section of a session. -/
def Pool.label (pool : LabelledPool State Label Error Result Session) (session : Session) :
    Option Label :=
  (pool.active session).bind fun running => running.note.bind Labelled.label

@[simp] theorem Pool.label_idle (state : State) (session : Session) :
    Pool.label (.idle state : LabelledPool State Label Error Result Session) session = none := rfl

/-- What an observer keeps after a section. -/
def observed (observe : Session → Label → State → Ghost → Ghost) (session : Session)
    (label : Option Label) (state : State) (ghost : Ghost) : Ghost :=
  label.elim ghost fun label => observe session label state ghost

variable {pool : LabelledPool State Label Error Result Session} {session : Session}
  {rule : Session → Option Label → State → State → Option Label → Prop}

/-- The tasks of the busy sessions are their labelled tasks without the labels, and obey the
rules of their sessions. -/
def Obeying (rule : Session → Option Label → State → State → Option Label → Prop)
    (pool : LabelledPool State Label Error Result Session) : Prop :=
  ∀ session running, pool.active session = some running →
    ∃ rest, running.note = some rest ∧ running.rest = rest.erase ∧ rest.Each (rule session)

/-- The next section of a task is that of its labelled task. -/
theorem Obeying.next (obeying : Obeying rule pool) {running : Running State Error Result
      (Option (Labelled State Label Error Result))} (here : pool.active session = some running)
    {act : State → State} {next : State → Task State Error Result}
    (rest : running.rest = .atomic act next) :
    ∃ label more, running.note = some (.atomic label act more) ∧
      (∀ state, next state = (more state).erase) ∧
      ∀ state, rule session label state (act state) (more state).label ∧
        (more state).Each (rule session) := by
  obtain ⟨labelled, note, erased, each⟩ := obeying session running here
  rw [rest] at erased
  cases labelled with
  | done outcome => cases erased
  | atomic label own more =>
      obtain ⟨rfl, rfl⟩ := Task.atomic.inj erased
      exact ⟨label, more, note, fun _ => rfl, each⟩

theorem obeying_idle (state : State) :
    Obeying rule (.idle state : LabelledPool State Label Error Result Session) := by
  rintro session running ⟨⟩

/-- A session whose next section has a label is not done. -/
theorem Obeying.not_done (obeying : Obeying rule pool) {label : Label}
    (here : pool.label session = some label) {running : Running State Error Result
      (Option (Labelled State Label Error Result))} (busy : pool.active session = some running)
    (outcome : Except Error Result) : running.rest ≠ .done outcome := by
  obtain ⟨labelled, note, erased, _⟩ := obeying session running busy
  have own : labelled.label = some label := by simpa [Pool.label, busy, note] using here
  rw [erased]
  cases labelled with
  | done outcome => cases own
  | atomic label act next => rintro ⟨⟩

/-- The next section of a session obeys the rules of the session, if there is one. -/
theorem Obeying.upcoming (obeying : Obeying rule pool) (session : Session) :
    (∃ next, rule session (pool.label session) pool.state (pool.upcoming session) next) ∨
      (pool.label session = none ∧ pool.upcoming session = pool.state) := by
  cases busy : pool.active session with
  | none => exact .inr ⟨by simp [Pool.label, busy], by simp [Pool.upcoming, busy]⟩
  | some running =>
      obtain ⟨rest, note⟩ := running
      cases rest with
      | done outcome =>
          obtain ⟨labelled, same, erased, _⟩ := obeying session _ busy
          refine .inr ⟨?_, by simp [Pool.upcoming, busy]⟩
          cases labelled with
          | done outcome => simp_all [Pool.label, Labelled.label]
          | atomic label act next => cases erased
      | atomic act next =>
          obtain ⟨label, more, same, later, obeys⟩ := obeying.next busy rfl
          obtain rfl : note = some (.atomic label act more) := same
          have here : pool.label session = label := by simp [Pool.label, busy, Labelled.label]
          have upcoming : pool.upcoming session = act pool.state := by simp [Pool.upcoming, busy]
          rw [here, upcoming]
          exact .inl ⟨_, (obeys pool.state).1⟩

variable [DecidableEq Session]

/-- The turns of a pool under an observer of its labelled sections. -/
def Program.watched (task : Session → Job → Labelled State Label Error Result)
    (observe : Session → Label → State → Ghost → Ghost) :
    Transducer (LabelledPool State Label Error Result Session × Ghost) (Turn Session Job) Unit where
  step watched turn :=
    ((), (Program.labelled task).step watched.1 turn,
      match turn with
      | .receive _ _ => watched.2
      | .advance session => observed observe session (watched.1.label session) watched.1.state
          watched.2)

variable {task : Session → Job → Labelled State Label Error Result}

/-- A session which changes, changes its own label. -/
theorem Pool.label_update (state : State)
    (running : Option (Running State Error Result (Option (Labelled State Label Error Result)))) :
    Pool.label ⟨state, Function.update pool.active session running⟩ =
      Function.update pool.label session
        (running.bind fun running => running.note.bind Labelled.label) := by
  funext other
  by_cases same : other = session
  · subst same
    simp [label]
  · simp [label, same]

theorem Obeying.update (obeying : Obeying rule pool) (state : State)
    {running : Option (Running State Error Result (Option (Labelled State Label Error Result)))}
    (own : ∀ changed, running = some changed →
      ∃ rest, changed.note = some rest ∧ changed.rest = rest.erase ∧ rest.Each (rule session)) :
    Obeying rule ⟨state, Function.update pool.active session running⟩ := by
  intro other changed here
  dsimp only at here
  by_cases same : other = session
  · subst same
    rw [Function.update_self] at here
    exact own changed here
  · rw [Function.update_of_ne same] at here
    exact obeying other changed here

/-- A turn leaves every busy session obeying its rules. -/
theorem Obeying.step (each : ∀ session job, (task session job).Each (rule session))
    (obeying : Obeying rule pool) (turn : Turn Session Job) :
    Obeying rule ((Program.labelled task).step pool turn) := by
  cases turn with
  | receive session job =>
      cases resting : pool.active session with
      | some running =>
          simp only [Program.step, resting]
          exact obeying
      | none =>
          simp only [Program.step, resting, Program.labelled, if_true]
          apply obeying.update
          rintro _ ⟨⟩
          exact ⟨task session job, rfl, rfl, each session job⟩
  | advance session =>
      cases busy : pool.active session with
      | none =>
          simp only [Program.step, busy]
          exact obeying
      | some running =>
          obtain ⟨rest, note⟩ := running
          cases rest with
          | done outcome =>
              simp only [Program.step, busy]
              exact obeying.update pool.state (by rintro _ ⟨⟩)
          | atomic act next =>
              obtain ⟨label, more, same, later, obeys⟩ := obeying.next busy rfl
              obtain rfl : note = some (.atomic label act more) := same
              simp only [Program.step, busy]
              apply obeying.update
              rintro _ ⟨⟩
              exact ⟨more pool.state, rfl, later pool.state, (obeys pool.state).2⟩

/-- A section obeys the rules of its session and leaves the label of the next one; a session
without a section changes nothing. -/
theorem Obeying.advances (obeying : Obeying rule pool)
    (task : Session → Job → Labelled State Label Error Result) (session : Session) :
    let after := (Program.labelled task).step pool (.advance session)
    (∃ next, rule session (pool.label session) pool.state (pool.upcoming session) next ∧
        after.state = pool.upcoming session ∧
          after.label = Function.update pool.label session next) ∨
      (pool.label session = none ∧ after.state = pool.state ∧ after.label = pool.label) := by
  cases busy : pool.active session with
  | none =>
      refine .inr ⟨by simp [Pool.label, busy], ?_⟩
      simp only [Program.step, busy, and_self]
  | some running =>
      obtain ⟨rest, note⟩ := running
      cases rest with
      | done outcome =>
          obtain ⟨labelled, same, erased, _⟩ := obeying session _ busy
          have free : pool.label session = none := by
            cases labelled with
            | done outcome => simp_all [Pool.label, Labelled.label]
            | atomic label act next => cases erased
          refine .inr ⟨free, ?_⟩
          simp only [Program.step, busy, true_and]
          rw [Pool.label_update, Option.bind_none, ← free, Function.update_eq_self]
      | atomic act next =>
          obtain ⟨label, more, same, later, obeys⟩ := obeying.next busy rfl
          obtain rfl : note = some (.atomic label act more) := same
          have here : pool.label session = label := by simp [Pool.label, busy, Labelled.label]
          have upcoming : pool.upcoming session = act pool.state := by simp [Pool.upcoming, busy]
          refine .inl ⟨(more pool.state).label, ?_, ?_, ?_⟩
          · rw [here, upcoming]
            exact (obeys pool.state).1
          · simp only [Program.step, busy]
            exact upcoming.symm
          · simp only [Program.step, busy]
            rw [Pool.label_update]
            rfl

/-- An observer changes nothing. -/
theorem watched_final (observe : Session → Label → State → Ghost → Ghost)
    (pool : LabelledPool State Label Error Result Session) (ghost : Ghost)
    (turns : List (Turn Session Job)) :
    ((Program.watched task observe).final (pool, ghost) turns).1 =
      (Program.labelled task).machine.final pool turns := by
  induction turns generalizing pool ghost with
  | nil => rfl
  | cons turn rest ih => exact ih _ _

/-- An observer allows what was allowed. -/
theorem watched_along (observe : Session → Label → State → Ghost → Ghost)
    {allowed : LabelledPool State Label Error Result Session → Turn Session Job → Prop}
    {pool : LabelledPool State Label Error Result Session} {turns : List (Turn Session Job)}
    (along : (Program.labelled task).machine.Along allowed pool turns) (ghost : Ghost) :
    (Program.watched task observe).Along (fun watched => allowed watched.1) (pool, ghost)
      turns := by
  induction turns generalizing pool ghost with
  | nil => trivial
  | cons turn rest ih => exact ⟨along.1, ih along.2 _⟩

/-- A property of the state, the labels and what is observed which survives a new job, or a
section which obeys the rules, survives a turn. -/
theorem Obeying.watched_step (obeying : Obeying rule pool)
    (observe : Session → Label → State → Ghost → Ghost)
    (Inv : State → (Session → Option Label) → Ghost → Prop) {ghost : Ghost}
    {turn : Turn Session Job}
    (received : ∀ session job, Inv pool.state pool.label ghost → pool.label session = none →
      Inv pool.state (Function.update pool.label session (task session job).label) ghost)
    (moved : ∀ session next, turn = .advance session → Inv pool.state pool.label ghost →
      rule session (pool.label session) pool.state (pool.upcoming session) next →
        Inv (pool.upcoming session) (Function.update pool.label session next)
          (observed observe session (pool.label session) pool.state ghost))
    (holds : Inv pool.state pool.label ghost) :
    let next := ((Program.watched task observe).step (pool, ghost) turn).2
    Inv next.1.state next.1.label next.2 := by
  cases turn with
  | receive session job =>
      simp only [Program.watched]
      cases resting : pool.active session with
      | some running =>
          simp only [Program.step, resting]
          exact holds
      | none =>
          have free : pool.label session = none := by simp [Pool.label, resting]
          have begun := received session job holds free
          simp only [Program.step, resting, Program.labelled, if_true]
          rw [Pool.label_update]
          exact begun
  | advance session =>
      simp only [Program.watched]
      rcases obeying.advances task session with
        ⟨next, obeys, state, labels⟩ | ⟨free, state, labels⟩
      · rw [state, labels]
        exact moved session next rfl holds obeys
      · rw [state, labels, free]
        exact holds

/-- An invariant of the state, the labels and what is observed which survives new jobs and
every section which obeys the rules holds along every allowed run. -/
theorem labelled_along (each : ∀ session job, (task session job).Each (rule session))
    (observe : Session → Label → State → Ghost → Ghost)
    {allowed : LabelledPool State Label Error Result Session → Turn Session Job → Prop}
    (Inv : State → (Session → Option Label) → Ghost → Prop)
    (received : ∀ state labels session job ghost, Inv state labels ghost →
      labels session = none →
        Inv state (Function.update labels session (task session job).label) ghost)
    (moved : ∀ pool session next ghost, allowed pool (.advance session) →
      Inv pool.state pool.label ghost →
      rule session (pool.label session) pool.state (pool.upcoming session) next →
        Inv (pool.upcoming session) (Function.update pool.label session next)
          (observed observe session (pool.label session) pool.state ghost))
    {state : State} (ghost : Ghost) (initial : Inv state (fun _ => none) ghost)
    {turns : List (Turn Session Job)}
    (along : (Program.labelled task).machine.Along allowed (.idle state) turns) :
    let final := (Program.watched task observe).final (.idle state, ghost) turns
    Inv final.1.state final.1.label final.2 := by
  have both := (Program.watched task observe).invariant_along
    (fun watched => Obeying rule watched.1 ∧ Inv watched.1.state watched.1.label watched.2) ?_
    ⟨?_, initial⟩ (watched_along observe along ghost)
  · exact both.2
  · rintro ⟨pool, ghost⟩ turn ⟨obeying, holds⟩ allow
    refine ⟨obeying.step each turn, obeying.watched_step observe Inv ?_ ?_ holds⟩
    · exact fun session job => received pool.state pool.label session job ghost
    · rintro session next rfl
      exact moved pool session next ghost allow
  · exact obeying_idle state

/-- Without an observer. -/
theorem labelled_invariant (each : ∀ session job, (task session job).Each (rule session))
    {allowed : LabelledPool State Label Error Result Session → Turn Session Job → Prop}
    (Inv : State → (Session → Option Label) → Prop)
    (received : ∀ state labels session job, Inv state labels → labels session = none →
      Inv state (Function.update labels session (task session job).label))
    (moved : ∀ pool session next, allowed pool (.advance session) → Inv pool.state pool.label →
      rule session (pool.label session) pool.state (pool.upcoming session) next →
        Inv (pool.upcoming session) (Function.update pool.label session next))
    {state : State} (initial : Inv state fun _ => none) {turns : List (Turn Session Job)}
    (along : (Program.labelled task).machine.Along allowed (.idle state) turns) :
    let final := (Program.labelled task).machine.final (.idle state) turns
    Inv final.state final.label := by
  have watched := labelled_along each (fun _ _ _ ghost => ghost)
    (fun state labels (_ : Unit) => Inv state labels)
    (fun state labels session job _ => received state labels session job)
    (fun pool session next _ => moved pool session next) () initial along
  dsimp only at watched
  rw [watched_final] at watched
  exact watched

/-! ## Promises along a run -/

variable {later : State → State → Prop} {holds : State → Prop} {fits : State → Label → Prop}

/-- What is left of the tasks of the busy sessions is as promised. -/
def Promising (later : State → State → Prop) (holds : State → Prop) (fits : State → Label → Prop)
    (pool : LabelledPool State Label Error Result Session) : Prop :=
  ∀ session running, pool.active session = some running → ∀ rest ∈ running.note,
    ∃ since, later since pool.state ∧ rest.Promises later holds fits since fun _ _ => True

omit [DecidableEq Session] in
theorem Promising.label (promising : Promising later holds fits pool) {label : Label}
    (here : pool.label session = some label) :
    ∃ since, later since pool.state ∧ fits since label := by
  obtain ⟨running, busy, carried⟩ := Option.bind_eq_some_iff.mp here
  obtain ⟨rest, note, own⟩ := Option.bind_eq_some_iff.mp carried
  obtain ⟨since, after, promised⟩ := promising session running busy rest note
  cases rest with
  | done outcome => cases own
  | atomic label act next => exact ⟨since, after, promised.1 _ own⟩

/-- A session which changes keeps its own promises, and the others theirs. -/
theorem Promising.update (trans : ∀ first second third, later first second →
      later second third → later first third)
    (promising : Promising later holds fits pool) {state : State} (after : later pool.state state)
    {running : Option (Running State Error Result (Option (Labelled State Label Error Result)))}
    (own : ∀ changed ∈ running, ∀ rest ∈ changed.note,
      ∃ since, later since state ∧ rest.Promises later holds fits since fun _ _ => True) :
    Promising later holds fits ⟨state, Function.update pool.active session running⟩ := by
  intro other changed there
  dsimp only at there
  by_cases same : other = session
  · subst same
    rw [Function.update_self] at there
    exact own changed there
  · rw [Function.update_of_ne same] at there
    intro rest note
    obtain ⟨since, before, promised⟩ := promising other changed there rest note
    exact ⟨since, trans _ _ _ before after, promised⟩

/-- A turn in a state which `holds` leaves every promise. -/
theorem Promising.step (refl : ∀ state, later state state)
    (trans : ∀ first second third, later first second → later second third → later first third)
    (promises : ∀ session job since,
      (task session job).Promises later holds fits since fun _ _ => True)
    (obeying : Obeying rule pool) (promising : Promising later holds fits pool)
    (here : holds pool.state) {turn : Turn Session Job}
    (after : later pool.state ((Program.labelled task).step pool turn).state) :
    Promising later holds fits ((Program.labelled task).step pool turn) := by
  cases turn with
  | receive session job =>
      cases resting : pool.active session with
      | some running =>
          simp only [Program.step, resting]
          exact promising
      | none =>
          simp only [Program.step, resting, Program.labelled, if_true]
          apply promising.update trans (refl _)
          rintro _ ⟨⟩ _ ⟨⟩
          exact ⟨pool.state, refl _, promises session job pool.state⟩
  | advance session =>
      cases busy : pool.active session with
      | none =>
          simp only [Program.step, busy]
          exact promising
      | some running =>
          obtain ⟨rest, note⟩ := running
          cases rest with
          | done outcome =>
              simp only [Program.step, busy]
              apply promising.update trans (refl _)
              rintro _ ⟨⟩
          | atomic act next =>
              simp only [Program.step, busy] at after ⊢
              apply promising.update trans after
              rintro _ ⟨⟩ rest noted
              obtain ⟨before, same, rfl⟩ := Option.map_eq_some_iff.mp noted
              obtain ⟨since, earlier, promised⟩ := promising session _ busy before same
              refine ⟨act pool.state, refl _, ?_⟩
              obtain ⟨labelled, note, erased, _⟩ := obeying session _ busy
              obtain rfl : labelled = before := Option.some.inj (note.symm.trans same)
              cases labelled with
              | done outcome => cases erased
              | atomic label own more =>
                  obtain ⟨rfl, rfl⟩ := Task.atomic.inj erased
                  exact promised.2 pool.state earlier here

variable {allowed : LabelledPool State Label Error Result Session → Turn Session Job → Prop}

/-- An invariant which survives every section whose label is as promised holds along every
allowed run, and so do the promises. -/
theorem promising_along (each : ∀ session job, (task session job).Each (rule session))
    (refl : ∀ state, later state state)
    (trans : ∀ first second third, later first second → later second third → later first third)
    (promises : ∀ session job since,
      (task session job).Promises later holds fits since fun _ _ => True)
    (moved : ∀ pool session next, allowed pool (.advance session) → holds pool.state →
      (∀ label ∈ pool.label session, ∃ since, later since pool.state ∧ fits since label) →
      rule session (pool.label session) pool.state (pool.upcoming session) next →
        holds (pool.upcoming session) ∧ later pool.state (pool.upcoming session))
    {state : State} (initial : holds state) {turns : List (Turn Session Job)}
    (along : (Program.labelled task).machine.Along allowed (.idle state) turns) :
    holds ((Program.labelled task).machine.final (.idle state) turns).state ∧
      (Program.labelled task).machine.Along (fun pool turn => allowed pool turn ∧
        ∀ session, ∀ label ∈ pool.label session, ∃ since, later since pool.state ∧ fits since label)
          (.idle state) turns := by
  have step : ∀ (pool : LabelledPool State Label Error Result Session) (turn : Turn Session Job),
      Obeying rule pool ∧ Promising later holds fits pool ∧ holds pool.state → allowed pool turn →
      let after := (Program.labelled task).step pool turn
      Obeying rule after ∧ Promising later holds fits after ∧ holds after.state := by
    rintro pool turn ⟨obeying, promising, here⟩ allow
    have next : holds ((Program.labelled task).step pool turn).state ∧
        later pool.state ((Program.labelled task).step pool turn).state := by
      cases turn with
      | receive session job =>
          rw [Program.state_receive]
          exact ⟨here, refl _⟩
      | advance session =>
          rw [Program.state_advance]
          rcases obeying.upcoming session with ⟨next, obeys⟩ | ⟨_, still⟩
          · exact moved pool session next allow here (fun label own => promising.label own) obeys
          · rw [still]
            exact ⟨here, refl _⟩
    exact ⟨obeying.step each turn, promising.step refl trans promises obeying here next.2, next.1⟩
  have start : Obeying rule (.idle state : LabelledPool State Label Error Result Session) ∧
      Promising later holds fits (.idle state : LabelledPool State Label Error Result Session) ∧
        holds state := by
    refine ⟨obeying_idle state, ?_, initial⟩
    rintro session running ⟨⟩
  constructor
  · exact ((Program.labelled task).machine.invariant_along
      (fun pool => Obeying rule pool ∧ Promising later holds fits pool ∧ holds pool.state)
      step start along).2.2
  · apply (Program.labelled task).machine.along_of_invariant
      (fun pool => Obeying rule pool ∧ Promising later holds fits pool ∧ holds pool.state)
      step ?_ start along
    exact fun pool turn kept allow => ⟨allow, fun session label here => kept.2.1.label here⟩

end Pools

end Direlera.Library
