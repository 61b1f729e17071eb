import Direlera.Library.Task

/-!
# Sessions which take turns

A `Pool` is a shared state with the tasks of its busy sessions. A session takes one job at
a time, and the sections of different sessions interleave in every order. Each busy session
carries a note on what its sections did. A `Discipline` is an automaton which every task
follows while the others take their turns; `invariant_along` carries an invariant of the
state and the notes through every run by what one move does.
-/

namespace Direlera.Library

universe u v w

/-- A task under way with its note. -/
structure Running (State : Type u) (Error : Type v) (Result : Type w) (Note : Type*) where
  rest : Task State Error Result
  note : Note

/-- A shared state and the tasks of the busy sessions. -/
structure Pool (State : Type u) (Error : Type v) (Result : Type w) (Session Note : Type*) where
  state : State
  active : Session → Option (Running State Error Result Note)

/-- What a scheduler may do next. -/
inductive Turn (Session Job : Type*) where
  | receive (session : Session) (job : Job)
  | advance (session : Session)
deriving DecidableEq, Repr

/-- Who takes a turn. -/
def Turn.session {Session Job : Type*} : Turn Session Job → Session
  | .receive session _ => session
  | .advance session => session

/-- The jobs which sessions take, the task of a job, and how notes are kept: the note of a
session at rest, the note with which a job is begun, and the note after a section. -/
structure Program (State : Type u) (Error : Type v) (Result : Type w)
    (Session Job Note : Type*) where
  accepts : Session → Job → Bool
  task : Session → Job → Task State Error Result
  blank : Note
  opening : Session → Job → Note
  record : Note → State → State → Note

namespace Pool

variable {State : Type u} {Error : Type v} {Result : Type w} {Session Note : Type*}

/-- No session is busy. -/
def idle (state : State) : Pool State Error Result Session Note := ⟨state, fun _ => none⟩

/-- The state which the next section of a session would leave. -/
def upcoming (pool : Pool State Error Result Session Note) (session : Session) : State :=
  match pool.active session with
  | some ⟨.atomic act _, _⟩ => act pool.state
  | _ => pool.state

end Pool

namespace Program

variable {State : Type u} {Error : Type v} {Result : Type w} {Session Job Note : Type*}
  (program : Program State Error Result Session Job Note)

/-- The note of a session; at rest it is blank. -/
def note (pool : Pool State Error Result Session Note) (session : Session) : Note :=
  (pool.active session).elim program.blank Running.note

theorem note_of_active {pool : Pool State Error Result Session Note} {session : Session}
    {running : Running State Error Result Note} (here : pool.active session = some running) :
    program.note pool session = running.note := by
  simp [note, here]

variable [DecidableEq Session]

/-- One turn. A busy session takes no job; a task which is done leaves its session. -/
def step (pool : Pool State Error Result Session Note) :
    Turn Session Job → Pool State Error Result Session Note
  | .receive session job =>
      match pool.active session with
      | some _ => pool
      | none =>
          if program.accepts session job then
            { pool with
              active := Function.update pool.active session
                (some ⟨program.task session job, program.opening session job⟩) }
          else pool
  | .advance session =>
      match pool.active session with
      | none => pool
      | some ⟨.done _, _⟩ => { pool with active := Function.update pool.active session none }
      | some ⟨.atomic act next, note⟩ =>
          { state := act pool.state
            active := Function.update pool.active session
              (some ⟨next pool.state, program.record note pool.state (act pool.state)⟩) }

/-- The turns of a pool. -/
def machine : Transducer (Pool State Error Result Session Note) (Turn Session Job) Unit where
  step pool turn := ((), program.step pool turn)

variable {program} {pool : Pool State Error Result Session Note} {session : Session}

/-- A session which changes, changes its own note. -/
theorem note_update (state : State) (running : Option (Running State Error Result Note)) :
    program.note ⟨state, Function.update pool.active session running⟩ =
      Function.update (program.note pool) session (running.elim program.blank Running.note) := by
  funext other
  by_cases same : other = session
  · subst same
    simp [note]
  · simp [note, same]

/-- A job which is received changes nothing yet. -/
theorem state_receive (job : Job) :
    (program.step pool (.receive session job)).state = pool.state := by
  simp only [step]
  split
  · rfl
  · split
    · rfl
    · rfl

theorem state_advance :
    (program.step pool (.advance session : Turn Session Job)).state = pool.upcoming session := by
  simp only [step, Pool.upcoming]
  cases pool.active session with
  | none => rfl
  | some running =>
      obtain ⟨rest, note⟩ := running
      cases rest with
      | done outcome => rfl
      | atomic act next => rfl

/-- Sessions which take no turns stay at rest. -/
theorem step_resting {sessions : List Session} {turn : Turn Session Job}
    (resting : ∀ other, other ∉ sessions → pool.active other = none)
    (within : turn.session ∈ sessions) {other : Session} (outside : other ∉ sessions) :
    (program.step pool turn).active other = none := by
  have others : ∀ running, Function.update pool.active turn.session running other = none := by
    intro running
    have different : other ≠ turn.session := by
      rintro rfl
      exact outside within
    rw [Function.update_of_ne different]
    exact resting other outside
  cases turn with
  | receive session job =>
      simp only [step]
      split
      · exact resting other outside
      · split
        · exact others _
        · exact resting other outside
  | advance session =>
      simp only [step]
      split
      · exact resting other outside
      · exact others _
      · exact others _

/-- A condition on all sessions follows from one on those which take turns. -/
theorem along_sessions {sessions : List Session}
    {allowed permitted : Pool State Error Result Session Note → Turn Session Job → Prop}
    (extend : ∀ pool turn, (∀ other, other ∉ sessions → pool.active other = none) →
      allowed pool turn → permitted pool turn)
    (resting : ∀ other, other ∉ sessions → pool.active other = none)
    {turns : List (Turn Session Job)} (within : ∀ turn ∈ turns, turn.session ∈ sessions)
    (along : program.machine.Along allowed pool turns) :
    program.machine.Along permitted pool turns := by
  induction turns generalizing pool with
  | nil => trivial
  | cons turn rest ih =>
      obtain ⟨here, later⟩ := along
      refine ⟨extend pool turn resting here, ih ?_ ?_ later⟩
      · exact fun other => step_resting resting (within turn List.mem_cons_self)
      · exact fun other member => within other (List.mem_cons_of_mem turn member)

end Program

/-- An automaton which the tasks of a program follow. Its moves keep what is shared, and
what the phases of the other sessions rely on. -/
structure Discipline {State : Type u} {Error : Type v} {Result : Type w}
    {Session Job Note : Type*} (program : Program State Error Result Session Job Note)
    (Phase : Type*) where
  shared : State → Prop
  holds : Phase → State → Prop
  move : Session → Phase → State → State → Phase → Prop
  agrees : Phase → Note → Prop
  ends : Phase → Prop
  begins : ∀ session job, program.accepts session job = true →
    ∃ phase, agrees phase (program.opening session job) ∧ (∀ state, shared state → holds phase state) ∧
      Task.Follows holds (move session) phase (program.task session job) fun _ later => ends later
  moves : ∀ {session phase before after later note}, move session phase before after later →
    agrees phase note → shared after ∧ holds later after ∧
      agrees later (program.record note before after)
  stable : ∀ {session phase before after later other}, move session phase before after later →
    holds other before → holds other after

namespace Discipline

variable {State : Type u} {Error : Type v} {Result : Type w} {Session Job Note Phase : Type*}
  {program : Program State Error Result Session Job Note} (discipline : Discipline program Phase)

/-- Every busy session is in a phase which agrees with its note. -/
structure Tracked (pool : Pool State Error Result Session Note) : Prop where
  shared : discipline.shared pool.state
  phases : ∀ session running, pool.active session = some running →
    ∃ phase, discipline.agrees phase running.note ∧ discipline.holds phase pool.state ∧
      Task.Follows discipline.holds (discipline.move session) phase running.rest
        fun _ later => discipline.ends later

variable {discipline} {pool : Pool State Error Result Session Note}

theorem tracked_idle {state : State} (shared : discipline.shared state) :
    discipline.Tracked (.idle state) where
  shared := shared
  phases := by
    intro session running here
    cases here

variable [DecidableEq Session]

/-- One session changes; the phases of the others survive. -/
theorem Tracked.update (tracked : discipline.Tracked pool) {state : State}
    (shared : discipline.shared state)
    (stable : ∀ phase, discipline.holds phase pool.state → discipline.holds phase state)
    {session : Session} {changed : Option (Running State Error Result Note)}
    (own : ∀ running, changed = some running → ∃ phase, discipline.agrees phase running.note ∧
      discipline.holds phase state ∧
        Task.Follows discipline.holds (discipline.move session) phase running.rest
          fun _ later => discipline.ends later) :
    discipline.Tracked ⟨state, Function.update pool.active session changed⟩ where
  shared := shared
  phases := by
    intro other running here
    dsimp only at here
    by_cases same : other = session
    · subst same
      rw [Function.update_self] at here
      exact own running here
    · rw [Function.update_of_ne same] at here
      obtain ⟨phase, agrees, holds, follows⟩ := tracked.phases other running here
      exact ⟨phase, agrees, stable phase holds, follows⟩

/-- An invariant of the state and the notes which survives new jobs, moves of tracked
sessions and their ends holds along every allowed run. -/
theorem invariant_along
    {allowed : Pool State Error Result Session Note → Turn Session Job → Prop}
    (Inv : State → (Session → Note) → Prop)
    (received : ∀ state notes session job, Inv state notes → notes session = program.blank →
      program.accepts session job = true →
        Inv state (Function.update notes session (program.opening session job)))
    (moved : ∀ pool session phase later, allowed pool (.advance session) →
      Inv pool.state (program.note pool) →
      discipline.agrees phase (program.note pool session) → discipline.holds phase pool.state →
      discipline.move session phase pool.state (pool.upcoming session) later →
        Inv (pool.upcoming session) (Function.update (program.note pool) session
          (program.record (program.note pool session) pool.state (pool.upcoming session))))
    (ended : ∀ state notes session phase, Inv state notes →
      discipline.agrees phase (notes session) → discipline.holds phase state →
      discipline.ends phase → Inv state (Function.update notes session program.blank))
    {state : State} (shared : discipline.shared state) (initial : Inv state fun _ => program.blank)
    {turns : List (Turn Session Job)} (along : program.machine.Along allowed (.idle state) turns) :
    Inv (program.machine.final (.idle state) turns).state
      (program.note (program.machine.final (.idle state) turns)) := by
  have both := program.machine.invariant_along
    (fun pool => discipline.Tracked pool ∧ Inv pool.state (program.note pool)) ?_
    ⟨tracked_idle shared, initial⟩ along
  · exact both.2
  rintro pool turn ⟨tracked, holds⟩ allow
  cases turn with
  | receive session job =>
      change discipline.Tracked (program.step pool (.receive session job)) ∧
        Inv (program.step pool (.receive session job)).state
          (program.note (program.step pool (.receive session job)))
      cases resting : pool.active session with
      | some running =>
          simp only [Program.step, resting]
          exact ⟨tracked, holds⟩
      | none =>
          by_cases accepted : program.accepts session job = true
          · simp only [Program.step, resting, accepted, if_true]
            obtain ⟨phase, agrees, begins, follows⟩ := discipline.begins session job accepted
            constructor
            · apply tracked.update tracked.shared fun _ => id
              rintro _ ⟨⟩
              exact ⟨phase, agrees, begins _ tracked.shared, follows⟩
            · rw [Program.note_update]
              have blank : program.note pool session = program.blank := by
                simp [Program.note, resting]
              exact received pool.state _ session job holds blank accepted
          · simp only [Program.step, resting, accepted]
            exact ⟨tracked, holds⟩
  | advance session =>
      change discipline.Tracked (program.step pool (.advance session)) ∧
        Inv (program.step pool (.advance session)).state
          (program.note (program.step pool (.advance session)))
      cases busy : pool.active session with
      | none =>
          simp only [Program.step, busy]
          exact ⟨tracked, holds⟩
      | some running =>
          obtain ⟨phase, agrees, here, follows⟩ := tracked.phases session running busy
          have note := program.note_of_active busy
          obtain ⟨rest, own⟩ := running
          cases rest with
          | done outcome =>
              simp only [Program.step, busy]
              constructor
              · apply tracked.update tracked.shared fun _ => id
                rintro _ ⟨⟩
              · rw [Program.note_update]
                exact ended pool.state _ session phase holds (note ▸ agrees) here follows
          | atomic act next =>
              obtain ⟨later, move, rest⟩ := follows pool.state here
              have upcoming : pool.upcoming session = act pool.state := by
                simp [Pool.upcoming, busy]
              obtain ⟨kept, reached, agreesNow⟩ := discipline.moves move agrees
              simp only [Program.step, busy]
              constructor
              · apply tracked.update kept fun _ => discipline.stable move
                rintro _ ⟨⟩
                exact ⟨later, agreesNow, reached, rest⟩
              · rw [Program.note_update]
                have next := moved pool session phase later allow holds (note ▸ agrees) here
                  (upcoming ▸ move)
                rw [upcoming, note] at next
                exact next

end Discipline

end Direlera.Library
