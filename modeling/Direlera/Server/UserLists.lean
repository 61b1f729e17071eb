import Direlera.Lobby.UserLists
import Direlera.Server.Dispatch

/-!
# User lists of a server

Every task of a server keeps the user lists of the clients equal to the directory, as long as
logins come from new addresses under fresh ids and snapshots fit their length field.
-/

namespace Direlera.Lobby.ClientRegistry

variable {registry : ClientRegistry} {session : SessionId} {addr : SocketAddr}

theorem mem_of_holder (held : registry.holder session = some addr) :
    (addr, session) ∈ registry.byAddr := by
  obtain ⟨entry, found, rfl⟩ := Option.map_eq_some_iff.mp held
  have same : entry.2 = session := of_decide_eq_true
    (List.find?_some (p := fun entry : SocketAddr × SessionId => entry.2 = session) found)
  rw [← same]
  exact List.mem_of_find?_eq_some found

/-- The holder of a session leads to it. -/
theorem find_of_holder (held : registry.holder session = some addr) :
    registry.find addr = registry.byId session := by
  rw [find, session_of_mem (mem_of_holder held), Option.bind_some]

/-- To forget the holder of a session, and then the session, is to remove the holder. -/
theorem find_forget (held : registry.holder session = some addr) :
    ((registry.forgetAddr addr).forgetSession session).find =
      Function.update registry.find addr none := by
  have member := mem_of_holder held
  have unheld : session ∉ (registry.forgetAddr addr).byAddr.map Prod.snd := by
    intro listed
    obtain ⟨entry, kept, same⟩ := List.mem_map.mp listed
    obtain ⟨here, away⟩ := List.mem_filter.mp kept
    rw [registry.session_inj here member same] at away
    simp at away
  have sessions : ∀ other, ((registry.forgetAddr addr).forgetSession session).session other =
      (registry.forgetAddr addr).session other := by
    intro other
    rw [forgetSession, dif_pos unheld]
    rfl
  have clients : ((registry.forgetAddr addr).forgetSession session).byId =
      Function.update registry.byId session none := by
    rw [forgetSession, dif_pos unheld]
    rfl
  ext1 other
  rw [find, sessions, clients]
  by_cases same : other = addr
  · have gone : (registry.forgetAddr addr).session other = none := by
      refine List.lookup_eq_none_iff.mpr fun entry kept => ?_
      have away := of_decide_eq_true (List.mem_filter.mp kept).2
      rw [same]
      simpa using Ne.symm away
    rw [gone, same, Function.update_self, Option.bind_none]
  · have kept : (registry.forgetAddr addr).session other = registry.session other :=
      lookup_without same registry.byAddr
    rw [kept, Function.update_of_ne same, find]
    cases there : registry.session other with
    | none => rfl
    | some known =>
        have different : known ≠ session := by
          rintro rfl
          exact same (congrArg Prod.fst
            (registry.session_inj (registry.mem_of_session there) member rfl))
        rw [Option.bind_some, Option.bind_some, Function.update_of_ne different]

end Direlera.Lobby.ClientRegistry

namespace Direlera.Server

open Direlera.Clients (parseLogin lanConnectionType sessionAliveThresholdSecs)
open Direlera.Library Direlera.Lobby Direlera.Sync Direlera.Wire

/-! ## Tasks which log nobody in -/

/-- The user lists are kept up, nobody is known who was not known before, and no user id is
drawn. -/
structure ServerState.Narrows (before after : ServerState) : Prop where
  lobby : before.lobby.Narrows after.lobby
  nextUserId : after.nextUserId = before.nextUserId

section Narrowing

variable {Result Next : Type} {state next last : ServerState} {addr src : SocketAddr}
  {reason : Bytes}

theorem ServerState.Narrows.refl (state : ServerState) : state.Narrows state := ⟨.refl _, rfl⟩

theorem ServerState.Narrows.trans (first : state.Narrows next) (second : next.Narrows last) :
    state.Narrows last :=
  ⟨first.lobby.trans second.lobby, second.nextUserId.trans first.nextUserId⟩

theorem ServerState.Narrows.absent (narrows : state.Narrows next)
    (nobody : state.lobby.profiles addr = none) : next.lobby.profiles addr = none :=
  Option.eq_none_iff_forall_ne_some.mpr fun profile known =>
    Option.eq_none_iff_forall_ne_some.mp nobody profile (narrows.lobby.fewer addr profile known)

/-- A task narrows if its parts do where they run. -/
theorem narrows_bind {task : Service Result} {continuation : Result → Service Next}
    (first : state.Narrows (task.run state).2)
    (later : ∀ result, (task.run state).1 = .ok result →
      (task.run state).2.Narrows ((continuation result).run (task.run state).2).2) :
    state.Narrows ((task >>= continuation).run state).2 := by
  rw [Task.run_bind]
  rcases ran : task.run state with ⟨outcome, next⟩
  rw [ran] at first later
  cases outcome with
  | ok result => exact first.trans (later result rfl)
  | error report => exact first

theorem narrows_attempt {task : Service Result} (narrows : state.Narrows (task.run state).2) :
    state.Narrows (task.attempt.run state).2 := by
  rw [Task.run_attempt]
  exact narrows

theorem narrows_forEach {Item : Type} {body : Item → Service Unit}
    (each : ∀ item (state : ServerState), state.Narrows ((body item).run state).2)
    (items : List Item) (state : ServerState) : state.Narrows ((Task.forEach items body).run state).2 := by
  induction items generalizing state with
  | nil => exact .refl state
  | cons item rest ih => exact narrows_bind (each item state) fun _ _ => ih _

theorem narrows_inLobby {task : Handler Result}
    (narrows : state.lobby.Narrows (task.run state.lobby).2) :
    state.Narrows ((inLobby task).run state).2 := by
  rw [run_inLobby]
  exact ⟨narrows, rfl⟩

/-- Handlers which tell nothing of users. -/
theorem narrows_tells {types : List UInt8} {task : Handler Result} (tells : Tells types task)
    (unheard : userDisplay.Ignores types) (state : ServerState) :
    state.Narrows ((inLobby task).run state).2 :=
  narrows_inLobby (tells.narrows unheard state.lobby)

theorem tells_closeSession (addr : SocketAddr) : Tells [] (closeSession addr) :=
  tells_critical (fun _ => rfl) fun _ => rfl

theorem narrows_closeSession (addr : SocketAddr) (state : ServerState) :
    state.Narrows ((inLobby (closeSession addr)).run state).2 :=
  narrows_tells (tells_closeSession addr) (by decide) state

theorem narrows_handleQuitGame (addr : SocketAddr) (state : ServerState) :
    state.Narrows ((inLobby (handleQuitGame addr)).run state).2 :=
  narrows_tells (tells_handleQuitGame addr) (by decide) state

/-! ## Leaving -/

/-- A removal and its notice, as the tasks make them. -/
theorem narrows_dismiss (short : reason.length ≤ receiveBuffer) (addr : SocketAddr)
    (state : ServerState) :
    state.Narrows ((dismiss addr reason).run state).2 ∧
      ((dismiss addr reason).run state).2.lobby.profiles addr = none := by
  have removes : (inLobby (removeClient addr)).run state =
      (.ok (state.lobby.clients.find addr), _) := run_inLobby (removeClient addr) state
  obtain ⟨last, told, narrows, gone⟩ := (removes_remove state.lobby addr).farewell short
  rw [dismiss, Task.run_bind_ok removes]
  cases found : state.lobby.clients.find addr with
  | none =>
      rw [found] at told
      obtain rfl := congrArg Prod.snd told
      exact ⟨⟨narrows, rfl⟩, gone⟩
  | some client =>
      rw [found] at told
      have told : (broadcastPacket Msg.userQuit
        (buildUserQuitPacket client.username client.userId reason)).run _ = (.ok (), last) := told
      dsimp only
      rw [Task.run_bind, Task.run_attempt, run_inLobby]
      change state.Narrows { state with lobby := ((broadcastPacket Msg.userQuit
        (buildUserQuitPacket client.username client.userId reason)).run
          { state.lobby with clients := state.lobby.clients.remove addr }).2 } ∧
        ((broadcastPacket Msg.userQuit
          (buildUserQuitPacket client.username client.userId reason)).run
            { state.lobby with clients := state.lobby.clients.remove addr }).2.profiles addr = none
      rw [told]
      exact ⟨⟨narrows, rfl⟩, gone⟩

theorem narrows_expel (short : reason.length ≤ receiveBuffer) (addr : SocketAddr)
    (client : ClientInfo) (state : ServerState) :
    state.Narrows ((expel addr client reason).run state).2 ∧
      ((expel addr client reason).run state).2.lobby.profiles addr = none := by
  unfold expel
  split
  · have quits : (inLobby (handleQuitGame addr)).attempt.run state = (.ok _, _) :=
      Task.run_attempt _ _
    obtain ⟨narrows, gone⟩ := narrows_dismiss short addr ((inLobby (handleQuitGame addr)).run state).2
    rw [Task.run_bind_ok quits]
    exact ⟨(narrows_handleQuitGame addr state).trans narrows, gone⟩
  · exact narrows_dismiss short addr state

/-- To remove nobody changes nothing. -/
theorem narrows_removeClient (nobody : state.lobby.profiles addr = none) :
    state.Narrows ((inLobby (removeClient addr)).run state).2 := by
  have removes := removes_remove state.lobby addr
  refine narrows_inLobby ⟨fun introduced => ?_, fun other profile here => (removes.known here).2⟩
  exact introduced.absent removes (Option.map_eq_none_iff.mp nobody)

theorem narrows_endClosed (addr : SocketAddr) (state : ServerState) :
    state.Narrows ((endClosed addr).run state).2 := by
  have got : (inLobby (getClient addr)).run state = (.ok (state.lobby.clients.find addr), state) :=
    run_inLobby (getClient addr) state
  rw [endClosed, Task.run_bind_ok got]
  cases found : state.lobby.clients.find addr with
  | none =>
      have nobody : state.lobby.profiles addr = none := by rw [AppState.profiles, found]; rfl
      exact narrows_bind (narrows_removeClient nobody) fun _ _ => .refl _
  | some client =>
      obtain ⟨narrows, gone⟩ :=
        narrows_expel (show (ascii "disconnected").length ≤ receiveBuffer by decide) addr client state
      refine narrows_bind narrows fun _ _ => narrows_bind (narrows_removeClient gone) fun _ _ => .refl _

/-- The notice of a timeout concerns no display of users. -/
theorem narrows_notice (data : Bytes) (state : ServerState) :
    state.Narrows ((inLobby <| broadcastPacket Msg.globalChat data).attempt.run state).2 :=
  narrows_attempt (narrows_tells (tells_broadcastPacket (List.mem_singleton_self _) data)
    (by decide) state)

theorem narrows_endTimedOut (spelling : Spelling) (cachedIdentity : Option (Bytes × UInt16))
    (addr : SocketAddr) (state : ServerState) :
    state.Narrows ((endTimedOut spelling cachedIdentity addr).run state).2 := by
  have got : (inLobby (getClient addr)).run state = (.ok (state.lobby.clients.find addr), state) :=
    run_inLobby (getClient addr) state
  rw [endTimedOut, Task.run_bind_ok got]
  cases found : state.lobby.clients.find addr with
  | none =>
      have nobody : state.lobby.profiles addr = none := by rw [AppState.profiles, found]; rfl
      cases cachedIdentity with
      | none => exact narrows_bind (narrows_removeClient nobody) fun _ _ => .refl _
      | some identity =>
          obtain ⟨name, userId⟩ := identity
          have told := narrows_notice (timeoutNotice spelling name userId addr) state
          refine narrows_bind told fun _ _ => ?_
          exact narrows_bind (narrows_removeClient (told.absent nobody)) fun _ _ => .refl _
  | some client =>
      have told := narrows_notice
        (timeoutNotice spelling (spelling.name client.username) client.userId addr) state
      obtain ⟨narrows, gone⟩ := narrows_expel
        (show (ascii "timeout").length ≤ receiveBuffer by decide) addr client ((inLobby <|
          broadcastPacket Msg.globalChat (timeoutNotice spelling (spelling.name client.username)
            client.userId addr)).attempt.run state).2
      refine narrows_bind told fun _ _ => narrows_bind narrows fun _ _ => ?_
      exact narrows_bind (narrows_removeClient gone) fun _ _ => .refl _

theorem narrows_reap (addr : SocketAddr) (state : ServerState) :
    state.Narrows ((reap addr).run state).2 := by
  have got : (inLobby (getClient addr)).run state = (.ok (state.lobby.clients.find addr), state) :=
    run_inLobby (getClient addr) state
  rw [reap, Task.run_bind_ok got]
  cases found : state.lobby.clients.find addr with
  | none =>
      have nobody : state.lobby.profiles addr = none := by rw [AppState.profiles, found]; rfl
      exact narrows_bind (narrows_removeClient nobody) fun _ _ => .refl _
  | some client => exact (narrows_expel (by decide) addr client state).1

/-! ## Evictions -/

/-- The client which leads to the session of a name is removed, if there is one. -/
theorem run_removeClientByUsername (ids : Iteration) (username : Bytes) (state : ServerState) :
    (removeClientByUsername ids username).run state = (.ok none, state) ∨
      ∃ addr client lobby, (removeClientByUsername ids username).run state =
        (.ok (some (addr, client)), { state with lobby }) ∧
          state.lobby.clients.find addr = some client ∧ state.lobby.Removes addr lobby := by
  have looked : (Task.inspect fun state : ServerState => state.named ids username : Service _).run
      state = (.ok (state.named ids username), state) := rfl
  rw [removeClientByUsername, Task.run_bind_ok looked]
  cases state.named ids username with
  | none => exact .inl rfl
  | some entry =>
      obtain ⟨session, client⟩ := entry
      dsimp only
      cases held : state.lobby.clients.holder session with
      | none =>
          left
          rw [Task.run_bind, run_inLobby, Task.run_critical, held]
          rfl
      | some addr =>
          have found := ClientRegistry.find_of_holder held
          obtain ⟨known, here, there⟩ := state.lobby.clients.find_of_session
            (ClientRegistry.session_of_mem (ClientRegistry.mem_of_holder held))
          refine .inr ⟨addr, known, { state.lobby with
            clients := (state.lobby.clients.forgetAddr addr).forgetSession session }, ?_, here,
            ⟨ClientRegistry.find_forget held, rfl⟩⟩
          rw [Task.run_bind, run_inLobby, Task.run_critical, held]
          dsimp only
          rw [run_inLobby, Task.run_critical]
          change (Except.ok ((state.lobby.clients.byId session).map fun client => (addr, client)), _) = _
          rw [there]
          rfl

/-- Whoever is evicted is announced, like whoever quits. -/
theorem narrows_evict (ids : Iteration) (username : Bytes) (state : ServerState) :
    state.Narrows ((evict ids username).run state).2 := by
  rcases run_removeClientByUsername ids username state with
    none | ⟨addr, client, lobby, removed, found, removes⟩
  · rw [evict, Task.run_bind_ok none]
    exact .refl state
  · obtain ⟨last, told, narrows, _⟩ := removes.farewell
      (show (ascii "reconnected").length ≤ receiveBuffer by decide)
    rw [found] at told
    have told : (broadcastPacket Msg.userQuit (buildUserQuitPacket client.username client.userId
      (ascii "reconnected"))).run lobby = (.ok (), last) := told
    have announced : (inLobby <| broadcastPacket Msg.userQuit (buildUserQuitPacket client.username
        client.userId (ascii "reconnected"))).run { state with lobby } =
          (.ok (), { state with lobby := last }) := by
      rw [run_inLobby]
      dsimp only
      rw [told]
    rw [evict, Task.run_bind_ok removed]
    dsimp only
    rw [Task.run_bind_ok announced]
    have evicted : state.Narrows { state with lobby := last } := ⟨narrows, rfl⟩
    exact evicted.trans (narrows_closeSession addr _)

/-! ## Resending -/

/-- The last datagram of a client is sent once more. -/
theorem narrows_again {client : ClientInfo} {packet : Bytes}
    (found : state.lobby.clients.find addr = some client)
    (sent : client.packetGenerator.lastSent = some packet) :
    state.Narrows ((inLobby (sendMessage none addr packet)).attempt.run state).2 := by
  refine narrows_attempt (narrows_inLobby ⟨fun introduced => ?_, fun _ _ known => known⟩)
  exact introduced.unmoved (Display.unmoved_of_resend introduced.steady found sent)

theorem narrows_resend (addr : SocketAddr) (state : ServerState) :
    state.Narrows ((resend addr).run state).2 := by
  have looked : (inLobby <| Task.inspect fun lobby : AppState => (lobby.clients.find addr).bind
      fun client => client.packetGenerator.lastSent).run state = (.ok _, state) :=
    run_inLobby _ state
  rw [resend, Task.run_bind_ok looked]
  dsimp only
  cases sent : (state.lobby.clients.find addr).bind fun client => client.packetGenerator.lastSent with
  | none => exact .refl state
  | some packet =>
      obtain ⟨client, found, sent⟩ := Option.bind_eq_some_iff.mp sent
      exact narrows_bind (narrows_again found sent) fun _ _ => .refl _

theorem narrows_watch (stalled dead : List SocketAddr) (state : ServerState) :
    state.Narrows ((watch stalled dead).run state).2 :=
  narrows_bind (narrows_forEach narrows_resend stalled state) fun _ _ =>
    narrows_forEach narrows_closeSession dead _

/-- What is pending is sent to clients which do not change meanwhile. -/
theorem narrows_pending (entries : List (SocketAddr × Bytes)) (state : ServerState)
    (pending : ∀ entry ∈ entries, ∃ client, state.lobby.clients.find entry.1 = some client ∧
      client.packetGenerator.lastSent = some entry.2) :
    state.Narrows ((Task.forEach entries fun (addr, data) => do
      let _ ← (inLobby (sendMessage none addr data)).attempt).run state).2 := by
  induction entries generalizing state with
  | nil => exact .refl state
  | cons entry rest ih =>
      obtain ⟨⟨client, found, sent⟩, others⟩ := List.forall_mem_cons.mp pending
      exact narrows_bind (narrows_bind (narrows_again found sent) fun _ _ => .refl _)
        fun _ _ => ih _ others

theorem narrows_resendLogins (state : ServerState) :
    state.Narrows (resendLogins.run state).2 := by
  have looked : (inLobby <| Task.inspect fun lobby : AppState =>
      (lobby.clients.byAddr.map Prod.fst).filterMap (pendingLogin lobby.clients)).run state =
        (.ok _, state) := run_inLobby _ state
  rw [resendLogins, Task.run_bind_ok looked]
  refine narrows_pending _ state fun entry member => ?_
  obtain ⟨addr, _, chosen⟩ := List.mem_filterMap.mp member
  obtain ⟨client, found, chosen⟩ := Option.bind_eq_some_iff.mp chosen
  obtain ⟨_, chosen⟩ := Option.ite_none_right_eq_some.mp chosen
  obtain ⟨packet, sent, rfl⟩ := Option.map_eq_some_iff.mp chosen
  exact ⟨client, found, sent⟩

end Narrowing

/-! ## Logins -/

/-- Nobody is at the address, and nobody has the user id which is drawn next. -/
def ServerState.Vacant (state : ServerState) (src : SocketAddr) : Prop :=
  state.lobby.profiles src = none ∧
    ∀ addr ∈ state.lobby.clients.byAddr.map Prod.fst, ∀ profile ∈ state.lobby.profiles addr,
      profile.userId ≠ state.nextUserId

/-- The client of a name with its address, if it has one. -/
def ServerState.holding (state : ServerState) (ids : Iteration) (username : Bytes) :
    Option (SocketAddr × ClientInfo) :=
  (state.named ids username).bind fun entry =>
    (state.lobby.clients.holder entry.1).map fun addr => (addr, entry.2)

/-- The checks of `handle_user_login` turn a login down. -/
def ServerState.Refuses (state : ServerState) (reading : LoginReading) (data : Bytes) : Prop :=
  (parseLogin data).2.2 ≠ lanConnectionType ∨
    ∃ held ∈ state.holding reading.found ((parseLogin data).1.take 31),
      reading.now - state.activity held.2.sessionId < sessionAliveThresholdSecs

/-- What has to be known of a message for the user lists to be kept up. -/
structure ServerState.Accepts (state : ServerState) (reading : Reading) (src : SocketAddr)
    (message : ParsedMessage) : Prop where
  short : message.data.length ≤ receiveBuffer
  login : message.messageType = Msg.userLogin →
    state.Refuses reading.login message.data ∨ state.Vacant src
  ack : message.messageType = Msg.clientToServerAck → state.lobby.AckFits src

theorem accepts_iff (state : ServerState) (reading : Reading) (src : SocketAddr)
    (message : ParsedMessage) :
    state.Accepts reading src message ↔ message.data.length ≤ receiveBuffer ∧
      (message.messageType = Msg.userLogin →
        state.Refuses reading.login message.data ∨ state.Vacant src) ∧
      (message.messageType = Msg.clientToServerAck → state.lobby.AckFits src) :=
  ⟨fun accepts => ⟨accepts.short, accepts.login, accepts.ack⟩,
    fun ⟨short, login, ack⟩ => ⟨short, login, ack⟩⟩

instance (state : ServerState) (src : SocketAddr) : Decidable (state.Vacant src) :=
  inferInstanceAs (Decidable (_ ∧ ∀ addr ∈ state.lobby.clients.byAddr.map Prod.fst,
    ∀ profile ∈ state.lobby.profiles addr, profile.userId ≠ state.nextUserId))

instance (state : ServerState) (reading : LoginReading) (data : Bytes) :
    Decidable (state.Refuses reading data) :=
  inferInstanceAs (Decidable (_ ∨ ∃ held ∈ state.holding reading.found _, _))

instance (state : ServerState) (reading : Reading) (src : SocketAddr) (message : ParsedMessage) :
    Decidable (state.Accepts reading src message) :=
  decidable_of_iff _ (accepts_iff state reading src message).symm

section Logins

variable {Result : Type} {state next : ServerState} {src : SocketAddr}

theorem ServerState.Vacant.narrows (vacant : state.Vacant src) (narrows : state.Narrows next) :
    next.Vacant src := by
  refine ⟨narrows.absent vacant.1, fun addr _ profile known => ?_⟩
  have before := narrows.lobby.fewer addr profile known
  rw [narrows.nextUserId]
  exact vacant.2 addr (registered_of_profile before) profile before

/-- A task which goes on after one which narrows. -/
theorem introduced_after {task : Service Result} {continuation : Result → Service Unit}
    (introduced : state.lobby.Introduced) (narrows : state.Narrows (task.run state).2)
    (later : ∀ result next, state.Narrows next → next.lobby.Introduced →
      ((continuation result).run next).2.lobby.Introduced) :
    ((task >>= continuation).run state).2.lobby.Introduced := by
  rw [Task.run_bind]
  rcases ran : task.run state with ⟨outcome, next⟩
  rw [ran] at narrows
  have still := narrows.lobby.introduced introduced
  cases outcome with
  | ok result => exact later result next narrows still
  | error report => exact still

/-- Whoever is turned down is told so, outside the numbering of any client. -/
theorem narrows_rejectLogin (message : Bytes) (state : ServerState) :
    state.Narrows ((rejectLogin src message).run state).2 := by
  refine narrows_inLobby (narrows_of_unmoved ?_)
  have carries : Carries Msg.connectionRejected
      (buildConnectionRejectedPacket (ascii "server") 0 message) _ :=
    ⟨.login [] [] 0 0 0, rfl⟩
  exact Display.unmoved_of_stray carries (by decide) state.lobby src

/-- A client which logs in at a vacant address is not listed before its handshake. -/
theorem introduced_enrol (introduced : state.lobby.Introduced) (vacant : state.Vacant src)
    {username : Bytes} (plain : 0 ∉ username) (short : username.length ≤ 31)
    (emulatorName : Bytes) (connType : UInt8) (now : Nat) :
    ((enrol src username emulatorName connType now).run state).2.lobby.Introduced := by
  let client : ClientInfo :=
    .login username emulatorName connType state.nextUserId state.nextSessionId
  let joined : AppState := { state.lobby with clients := state.lobby.clients.add src client }
  have added : joined.Introduced := by
    by_cases unused : client.sessionId ∉ state.lobby.clients.byAddr.map Prod.snd
    · have clients : joined.clients.find =
          Function.update state.lobby.clients.find src (some client) := by
        ext1 addr
        by_cases same : addr = src
        · rw [same, Function.update_self]
          exact state.lobby.clients.find_add unused
        · rw [Function.update_of_ne same]
          exact state.lobby.clients.find_add_of_ne same client
      exact introduced.add clients rfl vacant.1
        (fun addr profile known => vacant.2 addr (registered_of_profile known) profile known)
        rfl ⟨plain, short⟩ rfl
    · have same : joined = state.lobby := by
        simp only [joined, ClientRegistry.add, dif_neg unused]
      rw [same]
      exact introduced
  have tells : Tells [Msg.serverToClientAck]
      (sendPacket src Msg.serverToClientAck buildServerToClientAckPacket) :=
    tells_sendPacket (List.mem_singleton_self _) src _
  have taken : takeNextUserId.run state =
      (.ok state.nextUserId, { state with nextUserId := state.nextUserId + 1 }) := rfl
  rw [enrol, Task.run_bind_ok taken, Task.run_bind, Task.run_critical]
  dsimp only
  rw [run_inLobby]
  exact added.unmoved (tells _ userDisplay (by decide) joined)

theorem plain_parseLogin (data : Bytes) : 0 ∉ (parseLogin data).1.take 31 :=
  fun member => (readStringBytes_spec data).1 (List.mem_of_mem_take member)

/-- A stale client of the name is evicted first. -/
theorem introduced_replace (introduced : state.lobby.Introduced) (vacant : state.Vacant src)
    {name : Bytes} (plain : 0 ∉ name.take 31) (emulatorName : Bytes) (connType : UInt8)
    (ids : Iteration) (later : Nat) :
    ((do
      evict ids (name.take 31)
      enrol src (name.take 31) emulatorName connType later).run state).2.lobby.Introduced :=
  introduced_after introduced (narrows_evict ids (name.take 31) state) fun _ _ narrows still =>
    introduced_enrol still (vacant.narrows narrows) plain (List.length_take_le 31 name) emulatorName
      connType later

theorem run_findClientByUsername (ids : Iteration) (username : Bytes) (state : ServerState) :
    (findClientByUsername ids username).run state = (.ok (state.holding ids username), state) := by
  rw [findClientByUsername, Task.run_bind, Task.run_inspect, ServerState.holding]
  cases state.named ids username with
  | none => rfl
  | some entry =>
      dsimp only
      rw [Task.run_bind, Task.run_inspect, Option.bind_some]
      cases state.lobby.clients.holder entry.1 <;> rfl

/-- A login which is turned down, or which comes from a vacant address, keeps the lists up. -/
theorem introduced_handleUserLogin (introduced : state.lobby.Introduced)
    {reading : LoginReading} {data : Bytes}
    (accepts : state.Refuses reading data ∨ state.Vacant src) :
    ((handleUserLogin reading data src).run state).2.lobby.Introduced := by
  have plain := plain_parseLogin data
  have refused : ∀ message, ((rejectLogin src message).run state).2.lobby.Introduced :=
    fun message => (narrows_rejectLogin message state).lobby.introduced introduced
  unfold ServerState.Refuses at accepts
  unfold handleUserLogin
  generalize parseLogin data = login at accepts plain ⊢
  obtain ⟨name, emulatorName, connType⟩ := login
  dsimp only at accepts plain ⊢
  split
  · exact refused _
  next admitted =>
    replace accepts := accepts.imp_left (Or.resolve_left · admitted)
    rw [Task.run_bind_ok (run_findClientByUsername reading.found (name.take 31) state)]
    cases found : state.holding reading.found (name.take 31) with
    | none =>
        exact introduced_enrol introduced (accepts.resolve_left (by simp [found])) plain
          (List.length_take_le 31 name) emulatorName connType reading.later
    | some held =>
        obtain ⟨addr, old⟩ := held
        dsimp only
        rw [Task.run_bind, Task.run_inspect]
        dsimp only
        split
        · exact refused _
        next stale =>
          have vacant := accepts.resolve_left (by simpa [found] using stale)
          split
          · refine introduced_after introduced (narrows_attempt (narrows_handleQuitGame addr state))
              fun _ _ narrows still => ?_
            exact introduced_replace still (vacant.narrows narrows) plain emulatorName connType
              reading.removed reading.later
          · exact introduced_replace introduced vacant plain emulatorName connType reading.removed
              reading.later

end Logins

/-! ## Messages -/

section Messages

variable {config : Config} {state : ServerState} {src : SocketAddr} {message : ParsedMessage}

theorem introduced_dispatch {condition : Prop} [Decidable condition] {handled next : Service Unit}
    (here : condition → (handled.run state).2.lobby.Introduced)
    (later : ¬condition → (next.run state).2.lobby.Introduced) :
    ((if condition then handled else next).run state).2.lobby.Introduced := by
  split
  next holds => exact here holds
  next fails => exact later fails

/-- Every message which is accepted keeps the lists up. -/
theorem introduced_handleMessage (introduced : state.lobby.Introduced) {reading : Reading}
    (accepts : state.Accepts reading src message) :
    ((handleMessage config reading src message).run state).2.lobby.Introduced := by
  have narrows {next : ServerState} (narrows : state.Narrows next) : next.lobby.Introduced :=
    narrows.lobby.introduced introduced
  unfold handleMessage
  refine introduced_dispatch (fun _ => narrows (narrows_inLobby ?_)) fun _ => ?_
  · exact narrows_handleUserQuit accepts.short src state.lobby
  refine introduced_dispatch (fun login => ?_) fun _ => ?_
  · exact introduced_handleUserLogin introduced (accepts.login login)
  refine introduced_dispatch (fun ack => ?_) fun _ => ?_
  · rw [run_inLobby]
    exact introduced.ack reading.ack (accepts.ack ack)
  refine introduced_dispatch (fun _ => narrows ?_) fun _ => ?_
  · exact narrows_tells (tells_handleGlobalChat message.data src) (by decide) state
  refine introduced_dispatch (fun _ => narrows ?_) fun _ => ?_
  · exact narrows_tells (tells_handleGameChat message.data src) (by decide) state
  refine introduced_dispatch (fun _ => introduced) fun _ => ?_
  refine introduced_dispatch (fun _ => narrows ?_) fun _ => ?_
  · exact narrows_tells (tells_handleCreateGame message.data src) (by decide) state
  refine introduced_dispatch (fun _ => narrows ?_) fun _ => ?_
  · exact narrows_handleQuitGame src state
  refine introduced_dispatch (fun _ => narrows ?_) fun _ => ?_
  · exact narrows_tells (tells_handleJoinGame message.data src) (by decide) state
  refine introduced_dispatch (fun _ => narrows ?_) fun _ => ?_
  · exact narrows_tells (tells_handleKickUser message.data src) (by decide) state
  refine introduced_dispatch (fun _ => narrows ?_) fun _ => ?_
  · exact narrows_tells (tells_handleStartGame config message.data src) (by decide) state
  refine introduced_dispatch (fun _ => narrows ?_) fun _ => ?_
  · exact narrows_tells (tells_handleGameData message.data src) (by decide) state
  refine introduced_dispatch (fun _ => narrows ?_) fun _ => ?_
  · exact narrows_tells (tells_handleGameCache message.data src) (by decide) state
  refine introduced_dispatch (fun _ => narrows ?_) fun _ => ?_
  · exact narrows_tells (tells_handleDropGame src) (by decide) state
  refine introduced_dispatch (fun _ => narrows ?_) fun _ => introduced
  exact narrows_tells (tells_handleReadyToPlaySignal message.data src) (by decide) state

end Messages

/-! ## Whole runs -/

/-- A session handles messages one after another, each to its end. -/
def heeding (config : Config) (src : SocketAddr) :
    Transducer ServerState (Reading × ParsedMessage) (Except Report Unit) where
  step state due := (handleMessage config due.1 src due.2).run state

/-- The tasks of a server do their work one after another, each to its end. -/
def duties (config : Config) (spelling : Spelling) :
    Transducer ServerState Work (Except Report Unit) where
  step state work := (perform config spelling work).run state

/-- Every message of a datagram is accepted where it is handled. -/
def ServerState.Minds (config : Config) (state : ServerState) : Work → Prop
  | .packet addr now due => (heeding config addr).Along
      (fun state entry => state.Accepts entry.1 addr entry.2)
      ((updateClientActivity addr now).run state).2 due
  | _ => True

instance decidableMinds (config : Config) (state : ServerState) :
    ∀ work, Decidable (state.Minds config work)
  | .packet addr now due => (heeding config addr).decidableAlong
      ((updateClientActivity addr now).run state).2 due
  | .closed _ => .isTrue trivial
  | .timedOut _ _ => .isTrue trivial
  | .reap _ => .isTrue trivial
  | .watch _ _ => .isTrue trivial
  | .resendLogins => .isTrue trivial

section Runs

variable {config : Config} {spelling : Spelling} {state : ServerState}

theorem run_heeding (src : SocketAddr) (due : List (Reading × ParsedMessage))
    (state : ServerState) :
    (Task.forEach due fun (reading, message) => do
      let _ ← (handleMessage config reading src message).attempt).run state =
        (.ok (), (heeding config src).final state due) := by
  induction due generalizing state with
  | nil => rfl
  | cons entry rest ih =>
      have handled : ((handleMessage config entry.1 src entry.2).attempt.run state) = (.ok _, _) :=
        Task.run_attempt _ _
      rw [Task.run_forEach_cons (Task.run_bind_ok handled), ih]
      rfl

/-- Whatever the server is busy with, the lists are kept up. -/
theorem introduced_perform (introduced : state.lobby.Introduced) (work : Work)
    (minds : state.Minds config work) :
    ((perform config spelling work).run state).2.lobby.Introduced := by
  cases work with
  | packet addr now due =>
      obtain ⟨activity, noted⟩ := run_updateClientActivity addr now state
      change ((heeding config addr).Along _ ((updateClientActivity addr now).run state).2 due) at minds
      rw [noted] at minds
      have still : ({ state with activity } : ServerState).lobby.Introduced := introduced
      rw [perform, handlePacket, Task.run_bind_ok noted, run_heeding]
      exact (heeding config addr).invariant_along (fun state => state.lobby.Introduced)
        (fun _ _ introduced accepts => introduced_handleMessage introduced accepts) still minds
  | closed addr => exact (narrows_endClosed addr state).lobby.introduced introduced
  | timedOut addr cachedIdentity =>
      exact (narrows_endTimedOut spelling cachedIdentity addr state).lobby.introduced introduced
  | reap addr => exact (narrows_reap addr state).lobby.introduced introduced
  | watch stalled dead => exact (narrows_watch stalled dead state).lobby.introduced introduced
  | resendLogins => exact (narrows_resendLogins state).lobby.introduced introduced

theorem introduced_new : ServerState.new.lobby.Introduced where
  distinct := fun _ _ _ _ known => nomatch known
  named := fun _ _ known => nomatch known
  steady := fun _ _ found => nomatch found
  fresh := fun _ _ here => nomatch here

/-- Every client whose handshake is complete lists exactly the clients whose handshake is
complete, by their ids, with their names, pings and connection types. -/
theorem user_lists_agree (config : Config) (spelling : Spelling) {works : List Work}
    (minds : (duties config spelling).Along (ServerState.Minds config) .new works)
    {addr : SocketAddr} {client : ClientInfo}
    (found : ((duties config spelling).final .new works).lobby.clients.find addr = some client)
    (complete : client.complete = true) (userId : UInt16) (listing : UserListing) :
    userDisplay.shown ((duties config spelling).final .new works).lobby addr userId = some listing ↔
      ∃ other user, ((duties config spelling).final .new works).lobby.clients.find other = some user ∧
        user.complete = true ∧ user.userId = userId ∧
          listing = ⟨user.username, user.ping, user.connType⟩ := by
  have introduced := (duties config spelling).invariant_along (fun state => state.lobby.Introduced)
    (fun _ work introduced minds => introduced_perform introduced work minds) introduced_new minds
  have known : (((duties config spelling).final .new works).lobby.profiles addr).any
      Profile.complete = true := by
    rw [← complete_of_profile, found]
    exact complete
  rw [introduced.fresh addr _ (if_pos known), directory_iff introduced.distinct]
  constructor
  · rintro ⟨other, profile, here, completes, entry⟩
    obtain ⟨user, there, rfl⟩ := Option.map_eq_some_iff.mp here
    exact ⟨other, user, there, completes, congrArg Prod.fst entry, (congrArg Prod.snd entry).symm⟩
  · rintro ⟨other, user, there, completes, rfl, rfl⟩
    exact ⟨other, user.profile, by rw [AppState.profiles, there]; rfl, completes, rfl⟩

/-- Messages which are handled at time 0, with the maps in order. -/
def calmly (messages : List (UInt8 × Bytes)) : List (Reading × ParsedMessage) :=
  let unsorted : Iteration := ⟨id, fun entries => .refl entries⟩
  messages.map fun (messageType, data) =>
    (⟨⟨0, 0, unsorted, unsorted⟩, ⟨0, [], unsorted, unsorted⟩⟩,
      ⟨0, .ofNat (data.length + 1), messageType, data⟩)

/-- Two users come to the end of their handshakes, a third one logs in, and one more quits. -/
def threeUsers : List Work :=
  let acks := List.replicate 4 (Msg.clientToServerAck, [])
  [.packet 1 0 (calmly ((Msg.userLogin, [65, 0, 0, 1]) :: acks)),
    .packet 2 0 (calmly ((Msg.userLogin, [66, 0, 0, 1]) :: acks)),
    .packet 3 0 (calmly [(Msg.userLogin, [67, 0, 0, 1])]),
    .packet 4 0 (calmly ((Msg.userLogin, [68, 0, 0, 1]) :: acks ++ [(Msg.userQuit, [0, 0, 0, 0])])),
    .watch [1] [], .resendLogins]

/-- Log lines which nobody reads. -/
def unspelled : Spelling := ⟨id, fun _ => []⟩

theorem user_lists_agree_three_users :
    userDisplay.shown ((duties oneFrame unspelled).final .new threeUsers).lobby 1 2 =
      some ⟨[66], 0, 1⟩ := by
  have minds : (duties oneFrame unspelled).Along (ServerState.Minds oneFrame) .new threeUsers := by
    decide +kernel
  have shows : (((duties oneFrame unspelled).final .new threeUsers).lobby.clients.find 1).any
      ClientInfo.complete = true := by
    decide +kernel
  have shown : (((duties oneFrame unspelled).final .new threeUsers).lobby.clients.find 2).any
      (fun user => user.complete && decide (user.userId = 2 ∧
        (⟨[66], 0, 1⟩ : UserListing) = ⟨user.username, user.ping, user.connType⟩)) = true := by
    decide +kernel
  obtain ⟨client, found, complete⟩ := (Option.any_eq_true _ _).mp shows
  obtain ⟨user, there, listed⟩ := (Option.any_eq_true _ _).mp shown
  obtain ⟨completes, same⟩ := Bool.and_eq_true_iff.mp listed
  obtain ⟨userId, listing⟩ := of_decide_eq_true same
  exact (user_lists_agree oneFrame unspelled minds found complete 2 _).mpr
    ⟨2, user, there, completes, userId, listing⟩

end Runs

end Direlera.Server
