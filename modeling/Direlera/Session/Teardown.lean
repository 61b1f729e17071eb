import Direlera.Library.Transducer
import Direlera.Lobby.State

/-!
# Sessions of one address

The session manager, the tasks of the sessions and the client map as one step relation. A
session is known by its incarnation, the position of its task among all tasks; the code knows
it by its address alone. A task which goes down spares the sessions which came after it on its
address if no session begins before the earlier ones have left the sessions map, and nobody
logs in before the earlier ones are gone.
-/

namespace Direlera.Session

open Direlera.Library Direlera.Lobby Direlera.Sync

/-! ## The manager and its tasks -/

/-- Which session of all a task belongs to. -/
abbrev Incarnation := Nat

/-- Where a session task is. -/
inductive Phase where
  /-- `rx.recv()`. -/
  | listening
  /-- `process_packet_in_session`. -/
  | handling (data : Bytes)
  /-- The channel is closed or nothing was heard for too long. -/
  | inspecting
  /-- `handle_quit_game`. -/
  | quitting
  /-- `remove_client` of the client which was seen. -/
  | removing
  /-- The final cleanup of the sessions map. -/
  | unlisting
  /-- The final `remove_client`. -/
  | purging
  | terminated
deriving DecidableEq, Repr

/-- A session task with its channel. -/
structure SessionTask where
  addr : SocketAddr
  channel : List Bytes
  phase : Phase
deriving DecidableEq, Repr

/-- Where the loop of `SessionManager::run` is. -/
inductive Loop where
  | selecting
  /-- A datagram for a session whose sender was cloned. -/
  | forwarding (session : Incarnation) (data : Bytes)
  /-- `spawn_session_handler`, before the insertion. -/
  | spawning (addr : SocketAddr) (data : Bytes)
  /-- `spawn_session_handler`, after the insertion. -/
  | launching (addr : SocketAddr) (data : Bytes)
deriving DecidableEq, Repr

/-- A `ClientInfo`: the session in which its login was handled, and its game. -/
structure Account where
  creator : Incarnation
  gameId : Option UInt32
deriving DecidableEq, Repr

/-- `SessionManager` with its channels, the session tasks, and `clients_by_addr`. -/
structure Hub where
  packets : List (SocketAddr × Bytes)
  closes : List SocketAddr
  loop : Loop
  sessions : SocketAddr → Option Incarnation
  tasks : List SessionTask
  clients : SocketAddr → Option Account

/-- What may happen next; an event which is not enabled changes nothing. -/
inductive Event where
  /-- The dispatcher queues a datagram. -/
  | datagram (addr : SocketAddr) (data : Bytes)
  /-- `close_session`, by whomever. -/
  | requestClose (addr : SocketAddr)
  | takePacket
  | takeClose
  | forward
  | insert
  | launch
  /-- The cleanup task removes the entry of an address which was silent for too long. -/
  | sweep (addr : SocketAddr)
  | receive (session : Incarnation)
  /-- `add_client` in the datagram which a session handles. -/
  | login (session : Incarnation)
  /-- Some handler changes the game of a client. -/
  | setGame (addr : SocketAddr) (gameId : Option UInt32)
  /-- Some handler removes a client. -/
  | dismiss (addr : SocketAddr)
  | handled (session : Incarnation)
  | timeOut (session : Incarnation)
  | closed (session : Incarnation)
  | inspect (session : Incarnation)
  /-- A section of `handle_quit_game` in a teardown. -/
  | leaveGame (session : Incarnation)
  | left (session : Incarnation)
  | remove (session : Incarnation)
  | unlist (session : Incarnation)
  | purge (session : Incarnation)
deriving DecidableEq, Repr

namespace Hub

/-- Nothing happened yet. -/
def start : Hub := ⟨[], [], .selecting, fun _ => none, [], fun _ => none⟩

/-- The capacity of the channels of the manager. -/
def managerCapacity : Nat := 1000

/-- The capacity of the channel of a session. -/
def sessionCapacity : Nat := 100

variable (hub : Hub)

/-- Somebody may still send to a session: its entry, or the loop with a clone. -/
def hasSender (session : Incarnation) (addr : SocketAddr) : Bool :=
  hub.sessions addr = some session ||
    match hub.loop with
    | .forwarding other _ => decide (other = session)
    | _ => false

/-- The task of a session moves on. -/
def advance (session : Incarnation) (task : SessionTask) (phase : Phase) : Hub :=
  { hub with tasks := hub.tasks.set session { task with phase } }

/-- The client of an address is replaced. -/
def setClient (addr : SocketAddr) (client : Option Account) : Hub :=
  { hub with clients := Function.update hub.clients addr client }

/-- The client of an address is put into a game or out of it. -/
def regame (addr : SocketAddr) (gameId : Option UInt32) : Hub :=
  hub.setClient addr ((hub.clients addr).map fun client => { client with gameId })

/-- Handle an event of a task, if the task is there and in the phase for it. -/
def inPhase (session : Incarnation) (act : SessionTask → Hub) : Hub :=
  match hub.tasks[session]? with
  | some task => act task
  | none => hub

/-- One event. -/
def step : Event → Hub
  | .datagram addr data =>
      if hub.packets.length < managerCapacity then
        { hub with packets := hub.packets ++ [(addr, data)] }
      else hub
  | .requestClose addr =>
      if hub.closes.length < managerCapacity then { hub with closes := hub.closes ++ [addr] }
      else hub
  | .takePacket =>
      match hub.loop, hub.packets with
      | .selecting, (addr, data) :: rest =>
          match hub.sessions addr with
          | some session => { hub with packets := rest, loop := .forwarding session data }
          | none => { hub with packets := rest, loop := .spawning addr data }
      | _, _ => hub
  | .takeClose =>
      match hub.loop, hub.closes with
      | .selecting, addr :: rest =>
          { hub with closes := rest, sessions := Function.update hub.sessions addr none }
      | _, _ => hub
  | .forward =>
      match hub.loop with
      | .forwarding session data =>
          match hub.tasks[session]? with
          | some task =>
              if task.phase = .terminated then { hub with loop := .selecting }
              else if task.channel.length < sessionCapacity then
                { hub with
                  loop := .selecting
                  tasks := hub.tasks.set session { task with channel := task.channel ++ [data] } }
              else hub
          | none => { hub with loop := .selecting }
      | _ => hub
  | .insert =>
      match hub.loop with
      | .spawning addr data =>
          { hub with
            loop := .launching addr data
            sessions := Function.update hub.sessions addr (some hub.tasks.length) }
      | _ => hub
  | .launch =>
      match hub.loop with
      | .launching addr data =>
          { hub with loop := .selecting, tasks := hub.tasks ++ [⟨addr, [data], .listening⟩] }
      | _ => hub
  | .sweep addr => { hub with sessions := Function.update hub.sessions addr none }
  | .receive session => hub.inPhase session fun task =>
      match task.phase, task.channel with
      | .listening, data :: rest =>
          { hub with
            tasks := hub.tasks.set session { task with channel := rest, phase := .handling data } }
      | _, _ => hub
  | .login session => hub.inPhase session fun task =>
      match task.phase with
      | .handling _ => hub.setClient task.addr (some ⟨session, none⟩)
      | _ => hub
  | .setGame addr gameId => hub.regame addr gameId
  | .dismiss addr => hub.setClient addr none
  | .handled session => hub.inPhase session fun task =>
      match task.phase with
      | .handling _ => hub.advance session task .listening
      | _ => hub
  | .timeOut session => hub.inPhase session fun task =>
      if task.phase = .listening ∧ task.channel = [] then hub.advance session task .inspecting
      else hub
  | .closed session => hub.inPhase session fun task =>
      if task.phase = .listening ∧ task.channel = [] ∧ hub.hasSender session task.addr = false then
        hub.advance session task .inspecting
      else hub
  | .inspect session => hub.inPhase session fun task =>
      if task.phase = .inspecting then
        match hub.clients task.addr with
        | some client =>
            hub.advance session task (if client.gameId.isSome then .quitting else .removing)
        | none => hub.advance session task .unlisting
      else hub
  | .leaveGame session => hub.inPhase session fun task =>
      if task.phase = .quitting then hub.regame task.addr none else hub
  | .left session => hub.inPhase session fun task =>
      if task.phase = .quitting then hub.advance session task .removing else hub
  | .remove session => hub.inPhase session fun task =>
      if task.phase = .removing then
        (hub.setClient task.addr none).advance session task .unlisting
      else hub
  | .unlist session => hub.inPhase session fun task =>
      if task.phase = .unlisting then
        ({ hub with sessions := Function.update hub.sessions task.addr none } : Hub).advance session
          task .purging
      else hub
  | .purge session => hub.inPhase session fun task =>
      if task.phase = .purging then
        (hub.setClient task.addr none).advance session task .terminated
      else hub

/-- The events of a server, one after the other. -/
def machine : Transducer Hub Event Unit where
  step hub event := ((), hub.step event)

/-! ## What a teardown takes away -/

/-- What a teardown takes away belongs to no later session. -/
def Spares : Event → Prop
  | .leaveGame session => ∀ task ∈ hub.tasks[session]?, task.phase = .quitting →
      ∀ client ∈ hub.clients task.addr, client.creator ≤ session
  | .remove session => ∀ task ∈ hub.tasks[session]?, task.phase = .removing →
      ∀ client ∈ hub.clients task.addr, client.creator ≤ session
  | .unlist session => ∀ task ∈ hub.tasks[session]?, task.phase = .unlisting →
      ∀ entry ∈ hub.sessions task.addr, entry ≤ session
  | .purge session => ∀ task ∈ hub.tasks[session]?, task.phase = .purging →
      ∀ client ∈ hub.clients task.addr, client.creator ≤ session
  | _ => True

instance decidableSpares : ∀ event, Decidable (hub.Spares event)
  | .leaveGame session | .remove session | .purge session =>
      inferInstanceAs (Decidable (∀ task ∈ hub.tasks[session]?, _ →
        ∀ client ∈ hub.clients task.addr, client.creator ≤ session))
  | .unlist session => inferInstanceAs (Decidable (∀ task ∈ hub.tasks[session]?, _ →
      ∀ entry ∈ hub.sessions task.addr, entry ≤ session))
  | .datagram _ _ | .requestClose _ | .takePacket | .takeClose | .forward | .insert | .launch
  | .sweep _ | .receive _ | .login _ | .setGame _ _ | .dismiss _ | .handled _ | .timeOut _
  | .closed _ | .inspect _ | .left _ => .isTrue trivial

end Hub

/-- The address for which a session is about to be inserted. -/
def Loop.spawns : Loop → Option SocketAddr
  | .spawning addr _ => some addr
  | _ => none

/-- A task which has not left the sessions map. -/
def Phase.listed : Phase → Bool
  | .purging | .terminated => false
  | _ => true

namespace Hub

/-- No session is inserted while a task of its address has not left the sessions map, and
nobody logs in while an earlier task of its address is not gone. -/
def Waits (hub : Hub) : Event → Prop
  | .insert => ∀ addr ∈ hub.loop.spawns, ∀ task ∈ hub.tasks, task.addr = addr →
      task.phase.listed = false
  | .login session => ∀ task ∈ hub.tasks[session]?, ∀ earlier < session,
      ∀ other ∈ hub.tasks[earlier]?, other.addr = task.addr → other.phase = .terminated
  | _ => True

instance decidableWaits (hub : Hub) : ∀ event, Decidable (hub.Waits event)
  | .insert => inferInstanceAs (Decidable (∀ addr ∈ hub.loop.spawns, ∀ task ∈ hub.tasks,
      task.addr = addr → task.phase.listed = false))
  | .login session => inferInstanceAs (Decidable (∀ task ∈ hub.tasks[session]?,
      ∀ earlier < session, ∀ other ∈ hub.tasks[earlier]?, other.addr = task.addr → _))
  | .datagram _ _ | .requestClose _ | .takePacket | .takeClose | .forward | .launch
  | .sweep _ | .receive _ | .setGame _ _ | .dismiss _ | .handled _ | .timeOut _
  | .closed _ | .inspect _ | .leaveGame _ | .left _ | .remove _ | .unlist _ | .purge _ =>
      .isTrue trivial

end Hub

/-- What a task which is not gone relies on: the entry of its address is not that of a later
session while the task is listed, and the client of its address was not created in a later
session. -/
structure InOrder (sessions : SocketAddr → Option Incarnation) (tasks : List SessionTask)
    (clients : SocketAddr → Option Account) : Prop where
  inserted : ∀ addr entry, sessions addr = some entry → entry ≤ tasks.length
  created : ∀ addr client, clients addr = some client → client.creator < tasks.length
  entries : ∀ session task, tasks[session]? = some task → task.phase.listed = true →
    ∀ entry, sessions task.addr = some entry → entry ≤ session
  owners : ∀ session task, tasks[session]? = some task → task.phase ≠ .terminated →
    ∀ client, clients task.addr = some client → client.creator ≤ session

namespace InOrder

variable {sessions : SocketAddr → Option Incarnation} {tasks : List SessionTask}
  {clients : SocketAddr → Option Account}

/-- A task moves on, but not back. -/
theorem replace (inOrder : InOrder sessions tasks clients) {session : Incarnation}
    {task after : SessionTask} (here : tasks[session]? = some task) (same : after.addr = task.addr)
    (listed : after.phase.listed = true → task.phase.listed = true)
    (runs : after.phase ≠ .terminated → task.phase ≠ .terminated) :
    InOrder sessions (tasks.set session after) clients := by
  have split : ∀ other changed, (tasks.set session after)[other]? = some changed →
      (other = session ∧ changed = after) ∨ tasks[other]? = some changed := by
    intro other changed there
    rw [List.getElem?_set] at there
    split at there
    next equal =>
      split at there
      · exact .inl ⟨equal.symm, (Option.some.inj there).symm⟩
      · cases there
    next => exact .inr there
  constructor
  · intro addr entry listed
    rw [List.length_set]
    exact inOrder.inserted addr entry listed
  · intro addr client known
    rw [List.length_set]
    exact inOrder.created addr client known
  · intro other changed there stays entry found
    rcases split other changed there with ⟨rfl, rfl⟩ | there
    · rw [same] at found
      exact inOrder.entries other task here (listed stays) entry found
    · exact inOrder.entries other changed there stays entry found
  · intro other changed there stays client found
    rcases split other changed there with ⟨rfl, rfl⟩ | there
    · rw [same] at found
      exact inOrder.owners other task here (runs stays) client found
    · exact inOrder.owners other changed there stays client found

/-- An entry is removed. -/
theorem forget (inOrder : InOrder sessions tasks clients) (addr : SocketAddr) :
    InOrder (Function.update sessions addr none) tasks clients := by
  have kept : ∀ other entry, Function.update sessions addr none other = some entry →
      sessions other = some entry := by
    intro other entry here
    by_cases same : other = addr
    · simp [same] at here
    · rwa [Function.update_of_ne same] at here
  exact ⟨fun other entry here => inOrder.inserted other entry (kept other entry here),
    inOrder.created,
    fun session task there stays entry here =>
      inOrder.entries session task there stays entry (kept task.addr entry here),
    inOrder.owners⟩

/-- A client is removed or changed. -/
theorem setClient (inOrder : InOrder sessions tasks clients) (addr : SocketAddr)
    {client : Option Account} (older : ∀ after, client = some after →
      ∃ before, clients addr = some before ∧ after.creator = before.creator) :
    InOrder sessions tasks (Function.update clients addr client) := by
  have kept : ∀ other after, Function.update clients addr client other = some after →
      ∃ before, clients other = some before ∧ after.creator = before.creator := by
    intro other after here
    by_cases same : other = addr
    · subst same
      rw [Function.update_self] at here
      exact older after here
    · rw [Function.update_of_ne same] at here
      exact ⟨after, here, rfl⟩
  constructor
  · exact inOrder.inserted
  · intro other after here
    obtain ⟨before, there, same⟩ := kept other after here
    exact same ▸ inOrder.created other before there
  · exact inOrder.entries
  · intro session task there runs after here
    obtain ⟨before, known, same⟩ := kept task.addr after here
    exact same ▸ inOrder.owners session task there runs before known

/-- A session is inserted where every task has left the sessions map. -/
theorem insert (inOrder : InOrder sessions tasks clients) {addr : SocketAddr}
    (free : ∀ task ∈ tasks, task.addr = addr → task.phase.listed = false) :
    InOrder (Function.update sessions addr (some tasks.length)) tasks clients := by
  constructor
  · intro other entry here
    by_cases same : other = addr
    · subst same
      rw [Function.update_self] at here
      exact Nat.le_of_eq (Option.some.inj here).symm
    · rw [Function.update_of_ne same] at here
      exact inOrder.inserted other entry here
  · exact inOrder.created
  · intro session task there listed entry here
    by_cases same : task.addr = addr
    · rw [free task (List.mem_of_getElem? there) same] at listed
      cases listed
    · rw [Function.update_of_ne same] at here
      exact inOrder.entries session task there listed entry here
  · exact inOrder.owners

/-- The task of the session which was inserted last. -/
theorem launch (inOrder : InOrder sessions tasks clients) (task : SessionTask) :
    InOrder sessions (tasks ++ [task]) clients := by
  have split : ∀ session other, (tasks ++ [task])[session]? = some other →
      tasks[session]? = some other ∨ session = tasks.length := by
    intro session other there
    by_cases old : session < tasks.length
    · rw [List.getElem?_append_left old] at there
      exact .inl there
    · have inside := (List.getElem?_eq_some_iff.mp there).1
      rw [List.length_append, List.length_singleton] at inside
      omega
  constructor
  · intro addr entry here
    rw [List.length_append, List.length_singleton]
    exact Nat.le_succ_of_le (inOrder.inserted addr entry here)
  · intro addr client here
    rw [List.length_append, List.length_singleton]
    exact Nat.lt_succ_of_lt (inOrder.created addr client here)
  · intro session other there listed entry here
    rcases split session other there with old | rfl
    · exact inOrder.entries session other old listed entry here
    · exact inOrder.inserted other.addr entry here
  · intro session other there runs client here
    rcases split session other there with old | rfl
    · exact inOrder.owners session other old runs client here
    · exact Nat.le_of_lt (inOrder.created other.addr client here)

/-- A client is created where every earlier task is gone. -/
theorem login (inOrder : InOrder sessions tasks clients) {session : Incarnation}
    {task : SessionTask} (here : tasks[session]? = some task)
    (gone : ∀ earlier < session, ∀ other ∈ tasks[earlier]?, other.addr = task.addr →
      other.phase = .terminated) (gameId : Option UInt32) :
    InOrder sessions tasks (Function.update clients task.addr (some ⟨session, gameId⟩)) := by
  constructor
  · exact inOrder.inserted
  · intro addr client known
    by_cases same : addr = task.addr
    · subst same
      rw [Function.update_self] at known
      obtain rfl := Option.some.inj known
      exact (List.getElem?_eq_some_iff.mp here).1
    · rw [Function.update_of_ne same] at known
      exact inOrder.created addr client known
  · exact inOrder.entries
  · intro other changed there runs client known
    by_cases same : changed.addr = task.addr
    · rw [same, Function.update_self] at known
      obtain rfl := Option.some.inj known
      by_contra earlier
      exact runs (gone other (Nat.lt_of_not_le earlier) changed there same)
    · rw [Function.update_of_ne same] at known
      exact inOrder.owners other changed there runs client known

end InOrder

/-! ## Every order of events -/

namespace Hub

/-- What the tasks of a hub rely on. -/
abbrev Ordered (hub : Hub) : Prop := InOrder hub.sessions hub.tasks hub.clients

variable {hub : Hub}

theorem ordered_start : start.Ordered := by
  constructor
  · rintro addr entry ⟨⟩
  · rintro addr client ⟨⟩
  · rintro session task ⟨⟩
  · rintro session task ⟨⟩

/-- An event of a task keeps the order, if what it does to its task does. -/
theorem Ordered.inPhase (ordered : hub.Ordered) (session : Incarnation) {act : SessionTask → Hub}
    (acts : ∀ task, hub.tasks[session]? = some task → (act task).Ordered) :
    (hub.inPhase session act).Ordered := by
  unfold Hub.inPhase
  cases here : hub.tasks[session]? with
  | none => exact ordered
  | some task => exact acts task here

theorem Ordered.advance (ordered : hub.Ordered) {session : Incarnation} {task : SessionTask}
    (here : hub.tasks[session]? = some task) {phase : Phase}
    (listed : phase.listed = true → task.phase.listed = true)
    (runs : phase ≠ .terminated → task.phase ≠ .terminated) :
    (hub.advance session task phase).Ordered :=
  ordered.replace here rfl listed runs

theorem Ordered.regame (ordered : hub.Ordered) (addr : SocketAddr) (gameId : Option UInt32) :
    (hub.regame addr gameId).Ordered := by
  apply ordered.setClient
  intro after changed
  obtain ⟨before, known, rfl⟩ := Option.map_eq_some_iff.mp changed
  exact ⟨before, known, rfl⟩

theorem Ordered.dismiss (ordered : hub.Ordered) (addr : SocketAddr) :
    (hub.setClient addr none).Ordered :=
  ordered.setClient addr (by rintro after ⟨⟩)

/-- An event which waits keeps the order. -/
theorem Ordered.step (ordered : hub.Ordered) {event : Event} (waits : hub.Waits event) :
    (hub.step event).Ordered := by
  cases event with
  | datagram addr data =>
      simp only [Hub.step]
      split
      · exact ordered
      · exact ordered
  | requestClose addr =>
      simp only [Hub.step]
      split
      · exact ordered
      · exact ordered
  | takePacket =>
      simp only [Hub.step]
      split
      · split
        · exact ordered
        · exact ordered
      · exact ordered
  | takeClose =>
      simp only [Hub.step]
      split
      next addr rest _ _ => exact ordered.forget addr
      next => exact ordered
  | forward =>
      simp only [Hub.step]
      split
      next session data _ =>
        cases here : hub.tasks[session]? with
        | none => exact ordered
        | some task =>
            dsimp only
            split
            · exact ordered
            · split
              · exact ordered.replace here rfl id id
              · exact ordered
      next => exact ordered
  | insert =>
      simp only [Hub.step]
      split
      next addr data spawning =>
        have free := waits addr (by rw [spawning]; rfl)
        exact InOrder.insert ordered free
      next => exact ordered
  | launch =>
      simp only [Hub.step]
      split
      next addr data _ => exact InOrder.launch ordered _
      next => exact ordered
  | sweep addr => exact ordered.forget addr
  | receive session =>
      apply ordered.inPhase
      intro task here
      split
      next data rest listening _ =>
        exact ordered.replace here rfl (by simp [listening, Phase.listed]) (by simp [listening])
      next => exact ordered
  | login session =>
      apply ordered.inPhase
      intro task here
      split
      next data handling => exact InOrder.login ordered here (waits task here) none
      next => exact ordered
  | setGame addr gameId => exact ordered.regame addr gameId
  | dismiss addr => exact ordered.dismiss addr
  | handled session =>
      apply ordered.inPhase
      intro task here
      split
      next data handling =>
        exact ordered.advance here (by simp [handling, Phase.listed]) (by simp [handling])
      next => exact ordered
  | timeOut session =>
      apply ordered.inPhase
      intro task here
      split
      next listens =>
        exact ordered.advance here (by simp [listens.1, Phase.listed]) (by simp [listens.1])
      next => exact ordered
  | closed session =>
      apply ordered.inPhase
      intro task here
      split
      next listens =>
        exact ordered.advance here (by simp [listens.1, Phase.listed]) (by simp [listens.1])
      next => exact ordered
  | inspect session =>
      apply ordered.inPhase
      intro task here
      split
      next inspects =>
        have listed : task.phase.listed = true := by rw [inspects]; rfl
        have runs : task.phase ≠ .terminated := by rw [inspects]; simp
        split
        · exact ordered.advance here (fun _ => listed) fun _ => runs
        · exact ordered.advance here (fun _ => listed) fun _ => runs
      next => exact ordered
  | leaveGame session =>
      apply ordered.inPhase
      intro task here
      split
      · exact ordered.regame task.addr none
      · exact ordered
  | left session =>
      apply ordered.inPhase
      intro task here
      split
      next quits => exact ordered.advance here (by simp [quits, Phase.listed]) (by simp [quits])
      next => exact ordered
  | remove session =>
      apply ordered.inPhase
      intro task here
      split
      next removes =>
        exact (ordered.dismiss task.addr).advance here (by simp [removes, Phase.listed])
          (by simp [removes])
      next => exact ordered
  | unlist session =>
      apply ordered.inPhase
      intro task here
      split
      next unlists =>
        have forgot : ({ hub with
            sessions := Function.update hub.sessions task.addr none } : Hub).Ordered :=
          ordered.forget task.addr
        exact forgot.advance here (by simp [Phase.listed]) (by simp [unlists])
      next => exact ordered
  | purge session =>
      apply ordered.inPhase
      intro task here
      split
      next purges =>
        exact (ordered.dismiss task.addr).advance here (by simp [Phase.listed]) (by simp)
      next => exact ordered

/-- In order, what a teardown takes away belongs to no later session. -/
theorem Ordered.spares (ordered : hub.Ordered) (event : Event) : hub.Spares event := by
  cases event with
  | leaveGame session =>
      intro task here quits client known
      exact ordered.owners session task here (by simp [quits]) client known
  | remove session =>
      intro task here removes client known
      exact ordered.owners session task here (by simp [removes]) client known
  | unlist session =>
      intro task here unlists entry found
      exact ordered.entries session task here (by simp [unlists, Phase.listed]) entry found
  | purge session =>
      intro task here purges client known
      exact ordered.owners session task here (by simp [purges]) client known
  | _ => trivial

/-- In every order of events in which sessions are inserted, and clients created, only after
the earlier tasks of their address went, every teardown takes away only what is its own or
older. -/
theorem teardown_spares {events : List Event} (waits : machine.Along Waits start events) :
    machine.Along Spares start events :=
  machine.along_of_invariant Ordered (fun _ _ ordered => ordered.step)
    (fun _ event ordered _ => ordered.spares event) ordered_start waits

/-- A datagram of address 1 begins a session, in which the client logs in. -/
def connects (session : Incarnation) : List Event :=
  [.datagram 1 [0], .takePacket, .insert, .launch, .receive session, .login session]

/-- A close request for address 1 ends a session to its end. -/
def disconnects (session : Incarnation) : List Event :=
  [.requestClose 1, .takeClose, .closed session, .inspect session, .leaveGame session,
    .left session, .remove session, .unlist session, .purge session]

/-- Client 1 reconnects after its first session is gone. -/
def reconnectsLater : List Event :=
  connects 0 ++ [.setGame 1 (some 5), .handled 0] ++ disconnects 0 ++ connects 1 ++ [.handled 1] ++
    disconnects 1

theorem teardown_spares_later : machine.Along Spares start reconnectsLater :=
  teardown_spares (by decide +kernel)

/-- The first session of client 1 is closed, and before its task looks for a client the next
session begins, in which the client logs in and joins a game. -/
def reconnectsSoon : List Event :=
  connects 0 ++ [.handled 0, .requestClose 1, .takeClose, .closed 0] ++ connects 1 ++
    [.setGame 1 (some 5), .inspect 0]

theorem teardown_hits_next_session :
    ¬(machine.final start reconnectsSoon).Spares (.leaveGame 0) ∧
      ¬(machine.final start (reconnectsSoon ++ [.left 0])).Spares (.remove 0) ∧
        ¬(machine.final start (reconnectsSoon ++ [.left 0, .remove 0])).Spares (.unlist 0) := by
  decide +kernel

end Hub

end Direlera.Session
