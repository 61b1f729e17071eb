import Direlera.Clients.Logins

/-!
# Sections of errands

What the sections of an errand do to the client maps, said once: a login draws an id and adds
its client, and every other section changes clients in place, unbinds, discards or reorders.
A field of the clients which no change in place touches is retained, and only messages of
certain types are sent.
-/

namespace Direlera.Clients

open Direlera.Library Direlera.Lobby Direlera.Sync Direlera.Wire

variable {Value : Type}

/-- A change of a client keeps a field. -/
def Touch.Keeps (field : ClientInfo → Value) (touch : Touch) : Prop :=
  ∀ client, field (touch.change client) = field client

/-- Making datagrams keeps a field. -/
def Unsent (field : ClientInfo → Value) : Prop :=
  ∀ packetType data, (Touch.packet packetType data).Keeps field

/-- Errands may make datagrams, answer and reject logins, and tell who leaves. -/
structure Covers (field : ClientInfo → Value) (sends : UInt8 → Prop) : Prop where
  unsent : Unsent field
  answers : sends Msg.serverToClientAck
  rejects : sends Msg.connectionRejected
  leaves : sends Msg.userQuit

/-- The game flow which an errand runs through. -/
def Errand.flow : Errand → GameFlow
  | .login _ _ _ flow => flow
  | .userQuit _ flow => flow
  | .endSession _ flow => flow
  | .reap flow => flow
  | .other flow => flow
  | .hear _ => .idle
  | .rehash _ _ => .idle

/-- Messages of certain types are queued, and none is taken away. -/
def Posts (sends : UInt8 → Prop) (before after : Directory) : Prop :=
  ∃ more, after.notices = before.notices ++ more ∧ ∀ notice ∈ more, sends notice.packetType

theorem Posts.of_eq {sends : UInt8 → Prop} {before after : Directory}
    (same : after.notices = before.notices) : Posts sends before after :=
  ⟨[], same.trans (List.append_nil _).symm, fun _ member => absurd member List.not_mem_nil⟩

theorem Posts.of_append {sends : UInt8 → Prop} {before after : Directory} {notice : Notice}
    (queued : after.notices = before.notices ++ [notice]) (allowed : sends notice.packetType) :
    Posts sends before after := by
  refine ⟨[notice], queued, fun other member => ?_⟩
  rw [List.mem_singleton.mp member]
  exact allowed

/-- A section which adds nobody and draws no id. -/
inductive Works (field : ClientInfo → Value) (sends : UInt8 → Prop) (before : Directory) :
    Directory → Prop
  | aside {after : Directory} (byAddr : after.byAddr = before.byAddr)
      (byId : after.byId = before.byId) (nextSessionId : after.nextSessionId = before.nextSessionId)
      (nextUserId : after.nextUserId = before.nextUserId) (posts : Posts sends before after) :
      Works field sends before after
  | touch (touches : SessionId → Touch) (keeps : ∀ session, (touches session).Keeps field)
      (more : List Notice) (allowed : ∀ notice ∈ more, sends notice.packetType) :
      Works field sends before
        { before.touch touches with notices := before.notices ++ more }
  | unbind (addr : SocketAddr) :
      Works field sends before { before with byAddr := before.byAddr.erase addr }
  | discard (session : SessionId) (activeSessions : Int) :
      Works field sends before { before with byId := before.byId.erase session, activeSessions }
  | remove (addr : SocketAddr) : Works field sends before (before.removeClient addr)
  | rehash (addrs : EntryMap.Order SocketAddr SessionId)
      (ids : EntryMap.Order SessionId ClientInfo) : Works field sends before (before.rehash addrs ids)

/-! ## What is retained -/

/-- No address is bound anew, and every client left keeps a field. -/
structure Retains (field : ClientInfo → Value) (before after : Directory) : Prop where
  bound : ∀ addr session, after.byAddr.lookup addr = some session →
    before.byAddr.lookup addr = some session
  known : ∀ session client, after.byId.lookup session = some client →
    ∃ earlier, before.byId.lookup session = some earlier ∧ field earlier = field client
  drawn : after.nextSessionId = before.nextSessionId

section Retains

variable {field : ClientInfo → Value} {sends : UInt8 → Prop} {before after : Directory}

/-- Bindings and clients which are erased. -/
theorem Retains.of_lookup
    (bound : ∀ addr session, after.byAddr.lookup addr = some session →
      before.byAddr.lookup addr = some session)
    (known : ∀ session client, after.byId.lookup session = some client →
      before.byId.lookup session = some client)
    (drawn : after.nextSessionId = before.nextSessionId) : Retains field before after where
  bound := bound
  known := fun session client here => ⟨client, known session client here, rfl⟩
  drawn := drawn

theorem Retains.refl (field : ClientInfo → Value) (directory : Directory) :
    Retains field directory directory :=
  .of_lookup (fun _ _ => id) (fun _ _ => id) rfl

theorem Retains.trans {middle : Directory} (first : Retains field before middle)
    (second : Retains field middle after) : Retains field before after where
  bound := fun addr session here => first.bound addr session (second.bound addr session here)
  known := by
    intro session client here
    obtain ⟨between, there, same⟩ := second.known session client here
    obtain ⟨earlier, found, equal⟩ := first.known session between there
    exact ⟨earlier, found, equal.trans same⟩
  drawn := second.drawn.trans first.drawn

/-- Whoever is connected was connected before. -/
theorem Retains.find (retains : Retains field before after) {addr : SocketAddr}
    {client : ClientInfo} (here : after.find addr = some client) :
    ∃ earlier, before.find addr = some earlier ∧ field earlier = field client := by
  obtain ⟨session, bound, known⟩ := Option.bind_eq_some_iff.mp here
  obtain ⟨earlier, there, same⟩ := retains.known session client known
  exact ⟨earlier, Option.bind_eq_some_iff.mpr ⟨session, retains.bound addr session bound, there⟩,
    same⟩

theorem Works.retains (works : Works field sends before after) : Retains field before after := by
  cases works with
  | aside byAddr byId nextSessionId nextUserId posts =>
      refine .of_lookup ?_ ?_ nextSessionId
      · intro addr session here
        rwa [byAddr] at here
      · intro session client here
        rwa [byId] at here
  | touch touches keeps more allowed =>
      refine ⟨fun _ _ here => here, ?_, rfl⟩
      intro session client here
      change (before.byId.amend fun session => (touches session).change).lookup session = _ at here
      rw [EntryMap.lookup_amend] at here
      obtain ⟨earlier, there, rfl⟩ := Option.map_eq_some_iff.mp here
      exact ⟨earlier, there, (keeps session earlier).symm⟩
  | unbind addr => exact .of_lookup (fun _ _ => EntryMap.lookup_of_erase) (fun _ _ => id) rfl
  | discard session activeSessions =>
      exact .of_lookup (fun _ _ => id) (fun _ _ => EntryMap.lookup_of_erase) rfl
  | remove addr =>
      unfold Directory.removeClient
      cases before.byAddr.lookup addr with
      | none => exact .of_lookup (fun _ _ => id) (fun _ _ => id) rfl
      | some session =>
          exact .of_lookup (fun _ _ => EntryMap.lookup_of_erase)
            (fun _ _ => EntryMap.lookup_of_erase) rfl
  | rehash addrs ids =>
      refine .of_lookup ?_ ?_ rfl
      · intro addr session here
        rwa [Directory.rehash, EntryMap.lookup_reorder] at here
      · intro session client here
        rwa [Directory.rehash, EntryMap.lookup_reorder] at here

theorem Works.nextUserId (works : Works field sends before after) :
    after.nextUserId = before.nextUserId := by
  cases works with
  | aside byAddr byId nextSessionId nextUserId posts => exact nextUserId
  | remove addr =>
      unfold Directory.removeClient
      cases before.byAddr.lookup addr <;> rfl
  | _ => rfl

theorem Works.posts (works : Works field sends before after) : Posts sends before after := by
  cases works with
  | aside byAddr byId nextSessionId nextUserId posts => exact posts
  | touch touches keeps more allowed => exact ⟨more, rfl, allowed⟩
  | remove addr =>
      unfold Directory.removeClient
      cases before.byAddr.lookup addr <;> exact .of_eq rfl
  | unbind | discard | rehash => exact .of_eq rfl

end Retains

/-! ## Section by section -/

/-- Every section of a task adds nobody and draws no id. -/
abbrev Working {Result : Type} (field : ClientInfo → Value) (sends : UInt8 → Prop)
    (task : Access Result) : Prop :=
  Task.Each (Works field sends) task

section Working

variable {field : ClientInfo → Value} {sends : UInt8 → Prop} {Result : Type}

theorem working_aside {act : Directory → Except Report Result × Directory}
    (byAddr : ∀ directory, (act directory).2.byAddr = directory.byAddr)
    (byId : ∀ directory, (act directory).2.byId = directory.byId)
    (nextSessionId : ∀ directory, (act directory).2.nextSessionId = directory.nextSessionId)
    (nextUserId : ∀ directory, (act directory).2.nextUserId = directory.nextUserId)
    (posts : ∀ directory, Posts sends directory (act directory).2) :
    Working field sends (.critical act) :=
  Task.each_critical fun directory => .aside (byAddr directory) (byId directory)
    (nextSessionId directory) (nextUserId directory) (posts directory)

theorem Works.refl (directory : Directory) : Works field sends directory directory :=
  .aside rfl rfl rfl rfl (.of_eq rfl)

/-- Changing clients without sending anything. -/
theorem Works.touched {directory : Directory} (touches : SessionId → Touch)
    (keeps : ∀ session, (touches session).Keeps field) :
    Works field sends directory (directory.touch touches) := by
  have works : Works field sends directory
      { directory.touch touches with notices := directory.notices ++ [] } :=
    .touch touches keeps [] fun _ member => absurd member List.not_mem_nil
  rwa [List.append_nil] at works

theorem working_inspect (read : Directory → Result) :
    Working field sends (.inspect read : Access Result) :=
  Task.each_inspect Works.refl read

theorem working_updateClient (addr : SocketAddr) {touch : Touch} (keeps : touch.Keeps field) :
    Working field sends (updateClient addr touch) := by
  apply Task.Each.bind (working_inspect _)
  rintro (_ | session)
  · exact Task.each_fail _
  apply Task.each_critical
  intro directory
  split
  · apply Works.touched fun other => if other = session then touch else .none
    intro other
    split
    · exact keeps
    · exact fun _ => rfl
  · exact .refl directory

theorem working_sendPacket (unsent : Unsent field) (addr : SocketAddr) (packetType : UInt8)
    (data : Bytes) (allowed : sends packetType) :
    Working field sends (sendPacket addr packetType data) := by
  apply Task.Each.bind (working_updateClient addr (unsent packetType data))
  intro _
  exact working_aside (fun _ => rfl) (fun _ => rfl) (fun _ => rfl) (fun _ => rfl)
    fun _ => .of_append rfl allowed

theorem works_announce (unsent : Unsent field) (directory : Directory) (addrs : List SocketAddr)
    (packetType : UInt8) (data : Bytes) (allowed : sends packetType) :
    Works field sends directory (directory.announce addrs packetType data) := by
  refine .touch _ (fun session => ?_) _ (List.forall_mem_singleton.mpr allowed)
  unfold Directory.addressed
  split
  · exact unsent packetType data
  · exact fun _ => rfl

theorem working_broadcastPacket (unsent : Unsent field) (packetType : UInt8) (data : Bytes)
    (allowed : sends packetType) : Working field sends (broadcastPacket packetType data) := by
  apply Task.Each.bind (working_inspect _)
  intro addrs
  exact Task.each_critical fun directory =>
    works_announce unsent directory addrs packetType data allowed

theorem working_rejectLogin (allowed : sends Msg.connectionRejected) (src : SocketAddr)
    (message : Bytes) : Working field sends (rejectLogin src message) :=
  working_aside (fun _ => rfl) (fun _ => rfl) (fun _ => rfl) (fun _ => rfl)
    fun _ => .of_append rfl allowed

theorem working_closeSession (addr : SocketAddr) : Working field sends (closeSession addr) :=
  working_aside (fun _ => rfl) (fun _ => rfl) (fun _ => rfl) (fun _ => rfl) fun _ => .of_eq rfl

theorem working_playThrough {flow : GameFlow}
    (keeps : ∀ touch ∈ flow.touches, touch.2.Keeps field) : Working field sends (playThrough flow) := by
  apply Task.Each.bind
  · obtain ⟨touches, outcome⟩ := flow
    induction touches with
    | nil => exact Task.each_pure _
    | cons touch rest ih =>
        obtain ⟨first, others⟩ := List.forall_mem_cons.mp keeps
        refine Task.Each.bind ?_ fun _ => ih others
        exact Task.Each.bind (working_updateClient touch.1 first).attempt fun _ =>
          Task.each_pure ()
  · exact fun _ => trivial

theorem working_findClientByUsername (username : Bytes) :
    Working field sends (findClientByUsername username) := by
  apply Task.Each.bind (working_inspect _)
  rintro (_ | ⟨session, client⟩)
  · exact Task.each_pure none
  apply Task.Each.bind (working_inspect _)
  rintro (_ | addr)
  · exact Task.each_pure none
  · exact Task.each_pure (some (addr, client))

theorem working_removeClientByUsername (username : Bytes) :
    Working field sends (removeClientByUsername username) := by
  apply Task.Each.bind (working_inspect _)
  rintro (_ | ⟨session, client⟩)
  · exact Task.each_pure none
  apply Task.Each.bind
  · apply Task.each_critical
    intro directory
    cases directory.holder session with
    | none => exact .refl directory
    | some addr => exact .unbind addr
  rintro (_ | addr)
  · exact Task.each_pure none
  apply Task.each_critical
  intro directory
  cases directory.byId.lookup session with
  | none => exact .refl directory
  | some client => exact .discard session _

theorem working_removeClient (addr : SocketAddr) : Working field sends (removeClient addr) :=
  Task.each_critical fun _ => .remove addr

theorem working_evict (covers : Covers field sends) (username : Bytes) :
    Working field sends (evict username) := by
  apply Task.Each.bind (working_removeClientByUsername username)
  rintro (_ | ⟨addr, evicted⟩)
  · exact Task.each_pure ()
  · exact Task.Each.bind (working_broadcastPacket covers.unsent _ _ covers.leaves) fun _ => working_closeSession addr

theorem working_dismiss (covers : Covers field sends) (addr : SocketAddr) (reason : Bytes) :
    Working field sends (dismiss addr reason) := by
  apply Task.Each.bind (working_removeClient addr)
  rintro (_ | removed)
  · exact Task.each_pure ()
  · exact working_broadcastPacket covers.unsent _ _ covers.leaves

theorem working_expel (covers : Covers field sends) (addr : SocketAddr) (client : ClientInfo)
    (reason : Bytes) {flow : GameFlow} (plays : Working field sends (playThrough flow)) :
    Working field sends (expel addr client reason flow) := by
  unfold expel
  split
  · exact Task.Each.bind plays.attempt fun _ => working_dismiss covers addr reason
  · exact working_dismiss covers addr reason

theorem working_userQuit (covers : Covers field sends) (src : SocketAddr) (data : Bytes)
    {flow : GameFlow} (plays : Working field sends (playThrough flow)) :
    Working field sends (userQuit src data flow) := by
  apply Task.Each.bind plays
  intro _
  exact Task.Each.bind (working_dismiss covers src _) fun _ => working_closeSession src

theorem working_endSession (covers : Covers field sends) (addr : SocketAddr) (reason : Bytes)
    {flow : GameFlow} (plays : Working field sends (playThrough flow)) :
    Working field sends (endSession addr reason flow) := by
  have removes : Working field sends (do let _ ← removeClient addr : Access Unit) :=
    Task.Each.bind (working_removeClient addr) fun _ => Task.each_pure ()
  apply Task.Each.bind (working_inspect _)
  rintro (_ | client)
  · exact removes
  · exact Task.Each.bind (working_expel covers addr client reason plays) fun _ => removes

theorem working_reap (covers : Covers field sends) (addr : SocketAddr) {flow : GameFlow}
    (plays : Working field sends (playThrough flow)) : Working field sends (reap addr flow) := by
  apply Task.Each.bind (working_inspect _)
  rintro (_ | client)
  · exact Task.Each.bind (working_removeClient addr) fun _ => Task.each_pure ()
  · exact working_expel covers addr client _ plays

/-- No errand but a login draws an id or adds a client. -/
theorem working_runErrand (covers : Covers field sends) (src : SocketAddr) {errand : Errand}
    (keeps : ∀ touch ∈ errand.flow.touches, touch.2.Keeps field)
    (other : ∀ data now later flow, errand ≠ .login data now later flow) :
    Working field sends (runErrand src errand).erase := by
  have plays : Working field sends (playThrough errand.flow) := working_playThrough keeps
  cases errand with
  | login data now later flow => exact absurd rfl (other data now later flow)
  | userQuit data flow =>
      rw [runErrand, Labelled.erase_ofTask]
      exact working_userQuit covers src data plays
  | endSession reason flow =>
      rw [runErrand, Labelled.erase_ofTask]
      exact working_endSession covers src reason plays
  | reap flow =>
      rw [runErrand, Labelled.erase_ofTask]
      exact working_reap covers src plays
  | other flow =>
      rw [runErrand, Labelled.erase_ofTask]
      exact plays
  | hear now =>
      rw [runErrand, Labelled.erase_ofTask]
      apply Task.each_critical
      intro directory
      unfold Directory.hear
      split
      · exact .refl directory
      · split
        · exact .aside rfl rfl rfl rfl (.of_eq rfl)
        · exact .refl directory
  | rehash addrs ids =>
      rw [runErrand, Labelled.erase_ofTask]
      exact Task.each_critical fun _ => .rehash addrs ids

end Working

/-! ## Logins -/

/-- A section of an errand: a login draws a user id or adds its client, and nothing else does. -/
inductive Clerks (field : ClientInfo → Value) (sends : UInt8 → Prop) (before : Directory) :
    Option Enrolment → Directory → Prop
  | work {after : Directory} (works : Works field sends before after) : Clerks field sends before none after
  | draw : Clerks field sends before none { before with nextUserId := before.nextUserId + 1 }
  | enrol (src : SocketAddr) (username emulatorName : Bytes) (connType : UInt8) (userId : UInt16)
      (now : Nat) : Clerks field sends before (some ⟨src, username⟩)
        (before.enrol src username emulatorName connType userId now)

/-- Every section of a labelled task is one of an errand. -/
abbrev Clerking {Result : Type} (field : ClientInfo → Value) (sends : UInt8 → Prop)
    (task : Clerical Result) : Prop :=
  Labelled.Each (fun enrolment before after _ => Clerks field sends before enrolment after) task

section Clerking

variable {field : ClientInfo → Value} {sends : UInt8 → Prop} {Result : Type}

theorem clerking_ofTask {task : Access Result} (working : Working field sends task) :
    Clerking field sends (.ofTask task) :=
  Labelled.each_ofTask working fun _ _ works => .work works

theorem clerking_enrol (covers : Covers field sends) (src : SocketAddr) (username emulatorName : Bytes)
    (connType : UInt8) (now : Nat) :
    Clerking field sends (enrol src username emulatorName connType now) := by
  apply Labelled.Each.bind
  · exact fun _ => ⟨.draw, trivial⟩
  intro userId
  apply Labelled.Each.bind
  · exact fun _ => ⟨.enrol src username emulatorName connType userId now, trivial⟩
  · exact fun _ => clerking_ofTask (working_sendPacket covers.unsent src _ _ covers.answers)

theorem clerking_userLogin (covers : Covers field sends) (src : SocketAddr) (data : Bytes)
    (now later : Nat) {flow : GameFlow} (plays : Working field sends (playThrough flow)) :
    Clerking field sends (userLogin src data now later flow) := by
  have rejects : ∀ message, Clerking field sends (.ofTask (rejectLogin src message)) := fun message =>
    clerking_ofTask (working_rejectLogin covers.rejects src message)
  unfold userLogin
  obtain ⟨name, emulatorName, connType⟩ := parseLogin data
  dsimp only
  have enrols := clerking_enrol covers src (name.take 31) emulatorName connType later
  split
  · exact rejects _
  · apply Labelled.Each.bind (clerking_ofTask (working_findClientByUsername _))
    rintro (_ | ⟨oldAddr, old⟩)
    · exact enrols
    · apply Labelled.Each.bind (clerking_ofTask (working_inspect _))
      intro lastActive
      split
      · exact rejects _
      · have evicts := clerking_ofTask (working_evict covers (name.take 31))
        split
        · apply Labelled.Each.bind (clerking_ofTask plays.attempt)
          intro _
          exact Labelled.Each.bind evicts fun _ => enrols
        · exact Labelled.Each.bind evicts fun _ => enrols

/-- Every section of an errand is a section of an errand. -/
theorem clerking_runErrand (covers : Covers field sends) (src : SocketAddr) {errand : Errand}
    (keeps : ∀ touch ∈ errand.flow.touches, touch.2.Keeps field) :
    Clerking field sends (runErrand src errand) := by
  have works : (∀ data now later flow, errand ≠ .login data now later flow) →
      Working field sends (runErrand src errand).erase := working_runErrand covers src keeps
  cases errand with
  | login data now later flow =>
      exact clerking_userLogin covers src data now later (working_playThrough keeps)
  | _ =>
      simp only [runErrand, Labelled.erase_ofTask] at works
      exact clerking_ofTask (works (by simp))

end Clerking

end Direlera.Clients
