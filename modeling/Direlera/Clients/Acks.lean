import Direlera.Clients.Sections
import Direlera.Lobby.Handshake

/-!
# Acknowledgements among errands

Clients acknowledge while others log in, quit and time out. The labels of the handler say what
is left for it to send, and every login has a record: who logged in, how many acknowledgements
were counted for it, and what their handlers sent.
-/

namespace Direlera.Clients

open Direlera.Library Direlera.Lobby Direlera.Sync Direlera.Wire

/-! ## The handler -/

/-- What the handler of an acknowledgement reads besides the client maps: the measured ping,
the listed games, and the encoded lines of the welcome message. -/
structure Findings where
  ping : UInt32
  games : List StatusGame
  welcome : List Bytes

/-- Where a message goes, and its type. -/
abbrev Heading := Option SocketAddr × UInt8

def Notice.heading (notice : Notice) : Heading := (notice.addr, notice.packetType)

/-- A login adds its client, an acknowledgement is counted for a session, and what is still to
be sent for it is looked up, made into a datagram of the session which was found, and queued. -/
inductive AckStep where
  | enrol (enrolment : Enrolment)
  | count (session : SessionId)
  | prepare (session : SessionId) (todo : List Heading)
  | make (session found : SessionId) (todo : List Heading)
  | queue (session : SessionId) (notice : Notice) (todo : List Heading)
deriving DecidableEq, Repr

/-- A handler whose sections may count or answer acknowledgements. -/
abbrev Handling (Result : Type) := Labelled Directory AckStep Report Result

/-- One more acknowledgement. -/
def Touch.acknowledge (ping : UInt32) : Touch where
  change := ClientInfo.acknowledge ping
  username client := by
    unfold ClientInfo.acknowledge
    split <;> rfl
  sessionId client := by
    unfold ClientInfo.acknowledge
    split <;> rfl

/-- `send_packet` on behalf of a session, with what comes later. -/
def tell (session : SessionId) (src : SocketAddr) (packetType : UInt8) (data : Bytes)
    (todo : List Heading) : Handling Unit := do
  let some found ← Labelled.inspect (.prepare session ((some src, packetType) :: todo))
      fun directory => directory.byAddr.lookup src
    | .fail (.message "Client not found in addr_map")
  Labelled.critical (.make session found ((some src, packetType) :: todo)) fun directory =>
    if (directory.byId.lookup found).isSome then
      (.ok (), directory.touch fun other =>
        if other = found then .packet packetType data else .none)
    else (.error (.message "Client not found in id_map"), directory)
  Labelled.critical (.queue session ⟨some src, packetType, data⟩ todo) fun directory =>
    (.ok (), directory.notify src packetType data)

/-- `broadcast_packet` on behalf of a session, with what comes later. -/
def proclaim (session : SessionId) (packetType : UInt8) (data : Bytes) (todo : List Heading) :
    Handling Unit := do
  let addrs ← Labelled.inspect (.prepare session ((none, packetType) :: todo)) fun directory =>
    directory.byAddr.keys
  Labelled.critical (.queue session ⟨none, packetType, data⟩ todo) fun directory =>
    (.ok (), directory.announce addrs packetType data)

/-- One message after the other. -/
def tellEach (session : SessionId) (src : SocketAddr) (packetType : UInt8) :
    List Bytes → Handling Unit
  | [] => pure ()
  | data :: rest => do
      tell session src packetType data (rest.map fun _ => (some src, packetType))
      tellEach session src packetType rest

/-- The fully logged-in users except the requesting one. -/
def Directory.visibleUsers (directory : Directory) (src : SocketAddr) : List StatusUser :=
  directory.byAddr.entries.filterMap fun entry =>
    if entry.1 = src then none
    else (directory.byId.lookup entry.2).bind fun client =>
      if client.complete then some client.statusUser else none

/-- The body of `USER_JOINED`. -/
def userJoined (client : ClientInfo) : Bytes :=
  putBytesWithNull client.username ++ putU16Le client.userId ++ putU32Le client.ping ++
    [client.connType]

/-- What a client is told whose handshake is complete. -/
def welcome (findings : Findings) (src : SocketAddr) (session : SessionId) : Handling Unit := do
  let lines := makeServerInformation findings.welcome
  let later := lines.map fun _ => (some src, Msg.serverInformation)
  let status ← Labelled.inspect
    (.prepare session ((some src, Msg.serverStatus) :: (none, Msg.userJoined) :: later))
    fun directory => buildServerStatus (directory.visibleUsers src) findings.games
  tell session src Msg.serverStatus status ((none, Msg.userJoined) :: later)
  let some client ← Labelled.inspect (.prepare session ((none, Msg.userJoined) :: later))
      fun directory => directory.find src
    | .fail (.message "Client not found")
  proclaim session Msg.userJoined (userJoined client) later
  tellEach session src Msg.serverInformation lines

/-- What is done about the count; its mean round trip time cannot be computed for 0. -/
def respond (findings : Findings) (src : SocketAddr) (session : SessionId) (ackCount : UInt16) :
    Handling Unit :=
  if ackCount = 0 then .fail (.panic "divide by zero error when dividing duration by scalar")
  else if numAcksForSpeedTest < ackCount then welcome findings src session
  else tell session src Msg.serverToClientAck buildServerToClientAckPacket []

/-- `handle_client_to_server_ack`. -/
def clientToServerAck (findings : Findings) (src : SocketAddr) : Handling Unit := do
  let some session ← .ofTask (Task.inspect fun directory : Directory => directory.byAddr.lookup src)
    | .fail (.message "Client not found in addr_map")
  -- `last_ping_time` is set from the login on, so that every acknowledgement counts
  let ackCount ← Labelled.critical (.count session) fun directory : Directory =>
    match directory.byId.lookup session with
    | none => (.error (.message "Client not found in id_map"), directory)
    | some client => (.ok (client.ackCount + 1), directory.touch fun other =>
        if other = session then .acknowledge findings.ping else .none)
  respond findings src session ackCount

theorem erase_tell (session : SessionId) (src : SocketAddr) (packetType : UInt8) (data : Bytes)
    (todo : List Heading) :
    (tell session src packetType data todo).erase = sendPacket src packetType data := by
  simp only [tell, sendPacket, updateClient, Labelled.erase_bind, Labelled.erase_inspect,
    Task.bind_assoc]
  refine congrArg _ (funext fun found => ?_)
  cases found with
  | none => rfl
  | some found => simp only [Labelled.erase_bind, Labelled.erase_critical]

theorem erase_proclaim (session : SessionId) (packetType : UInt8) (data : Bytes)
    (todo : List Heading) :
    (proclaim session packetType data todo).erase = broadcastPacket packetType data := rfl

/-! ## Duties -/

/-- What a session may be busy with; no errand touches the count of acknowledgements. A reaper
may be after any address. -/
inductive Duty where
  | errand (errand : Errand)
      (keeps : ∀ touch ∈ errand.flow.touches, touch.2.Keeps fun client => client.ackCount)
  | ack (findings : Findings)
  | reap (addr : SocketAddr) (flow : GameFlow)
      (keeps : ∀ touch ∈ flow.touches, touch.2.Keeps fun client => client.ackCount)

/-- A duty of a session, section by section. -/
def runDuty (src : SocketAddr) : Duty → Handling Unit
  | .errand errand _ => (runErrand src errand).relabel .enrol
  | .ack findings => clientToServerAck findings src
  | .reap addr flow _ => .ofTask (reap addr flow)

/-- Complete duties, one after the other. -/
def duties : Transducer Directory (SocketAddr × Duty) (Except Report Unit) where
  step directory duty := (runDuty duty.1 duty.2).erase.run directory

/-! ## What sections do -/

/-- What the handler of an acknowledgement sends, with so many lines of welcome. -/
def answer (src : SocketAddr) (lines : Nat) (ackCount : UInt16) : List Heading :=
  if numAcksForSpeedTest < ackCount then
    (some src, Msg.serverStatus) :: (none, Msg.userJoined) ::
      List.replicate lines (some src, Msg.serverInformation)
  else [(some src, Msg.serverToClientAck)]

/-- The next section, when so much is left to be sent. -/
def upNext (session : SessionId) : List Heading → Option AckStep
  | [] => none
  | heading :: todo => some (.prepare session (heading :: todo))

/-- No section of an acknowledgement comes next. -/
def Elsewhere (next : Option AckStep) : Prop :=
  next = none ∨ ∃ enrolment, next = some (.enrol enrolment)

/-- What comes after something was looked up which is needed to send the first of a list. -/
inductive Prepares (src : SocketAddr) (before : Directory) (session : SessionId) :
    List Heading → Option AckStep → Prop
  | more (todo : List Heading) : Prepares src before session todo (some (.prepare session todo))
  | found {found : SessionId} (bound : before.byAddr.lookup src = some found)
      (todo : List Heading) : Prepares src before session todo (some (.make session found todo))
  | made (notice : Notice) (todo : List Heading) :
      Prepares src before session (notice.heading :: todo) (some (.queue session notice todo))
  | lost (unknown : before.find src = none) (todo : List Heading) :
      Prepares src before session todo none

/-- The messages which complete a handshake. -/
def Completing (packetType : UInt8) : Prop :=
  packetType = Msg.serverStatus ∨ packetType = Msg.userJoined ∨ packetType = Msg.serverInformation

instance (packetType : UInt8) : Decidable (Completing packetType) :=
  inferInstanceAs (Decidable (_ ∨ _))

/-- A section of a duty: an acknowledgement is counted for a known client, its messages are
queued one after the other, and the handler ends early only if its client is gone. Errands do
not complete handshakes. -/
inductive Acts (src : SocketAddr) (before : Directory) :
    Option AckStep → Directory → Option AckStep → Prop
  | errand {after : Directory} {next : Option AckStep}
      (retains : Retains (fun client => client.ackCount) before after)
      (posts : Posts (fun packetType => ¬Completing packetType) before after)
      (away : Elsewhere next) : Acts src before none after next
  | enrol (enrolment : Enrolment) (emulatorName : Bytes) (connType : UInt8) (userId : UInt16)
      (now : Nat) {next : Option AckStep} (away : Elsewhere next) :
      Acts src before (some (.enrol enrolment))
        (before.enrol enrolment.src enrolment.username emulatorName connType userId now) next
  | begins {session : SessionId} (bound : before.byAddr.lookup src = some session) :
      Acts src before none before (some (.count session))
  | uncounted {session : SessionId} (unknown : before.byId.lookup session = none) :
      Acts src before (some (.count session)) before none
  | counted {session : SessionId} {client : ClientInfo}
      (known : before.byId.lookup session = some client) (ping : UInt32) (lines : Nat)
      {next : Option AckStep} (goesOn : next = if client.ackCount + 1 = 0 then none
        else some (.prepare session (answer src lines (client.ackCount + 1)))) :
      Acts src before (some (.count session))
        (before.touch fun other => if other = session then .acknowledge ping else .none) next
  | prepare {session : SessionId} {todo : List Heading} {next : Option AckStep}
      (prepares : Prepares src before session todo next) :
      Acts src before (some (.prepare session todo)) before next
  | unmade {session found : SessionId} (unknown : before.byId.lookup found = none)
      (todo : List Heading) : Acts src before (some (.make session found todo)) before none
  | make {session found : SessionId} {after : Directory}
      (retains : Retains (fun client => client.ackCount) before after)
      (quiet : after.notices = before.notices) (notice : Notice) (todo : List Heading) :
      Acts src before (some (.make session found (notice.heading :: todo))) after
        (some (.queue session notice todo))
  | queue {session : SessionId} {notice : Notice} {after : Directory}
      (retains : Retains (fun client => client.ackCount) before after)
      (queued : after.notices = before.notices ++ [notice]) (todo : List Heading) :
      Acts src before (some (.queue session notice todo)) after (upNext session todo)

/-- Every section of a handler does what its label says. -/
abbrev Acting {Result : Type} (src : SocketAddr) (task : Handling Result) : Prop :=
  Labelled.Each (fun label before after next => Acts src before label after next) task

section Acting

variable {Result : Type} {src : SocketAddr}

/-- Errands complete no handshake. -/
theorem covers_ackCount :
    Covers (fun client => client.ackCount) fun packetType => ¬Completing packetType :=
  ⟨fun _ _ _ => rfl, by decide, by decide, by decide⟩

/-- Changing nothing but the queue. -/
theorem retains_notify (directory : Directory) (addr : SocketAddr) (packetType : UInt8)
    (data : Bytes) : Retains (fun client => client.ackCount) directory
      (directory.notify addr packetType data) :=
  .of_lookup (fun _ _ => id) (fun _ _ => id) rfl

theorem retains_announce (directory : Directory) (addrs : List SocketAddr) (packetType : UInt8)
    (data : Bytes) : Retains (fun client => client.ackCount) directory
      (directory.announce addrs packetType data) := by
  have works : Works (fun client => client.ackCount) (fun _ => True) directory
      (directory.announce addrs packetType data) :=
    works_announce covers_ackCount.unsent directory addrs packetType data trivial
  exact works.retains

/-- Changing a client for a datagram. -/
theorem retains_packet (directory : Directory) (found : SessionId) (packetType : UInt8)
    (data : Bytes) : Retains (fun client => client.ackCount) directory (directory.touch
      fun other => if other = found then .packet packetType data else .none) := by
  have works : Works (fun client => client.ackCount) (fun _ => True) directory (directory.touch
      fun other => if other = found then .packet packetType data else .none) := by
    refine .touched _ fun other => ?_
    split
    · exact covers_ackCount.unsent packetType data
    · exact fun _ => rfl
  exact works.retains

/-- A message is looked up, made and queued, and then what is left is sent. -/
theorem acting_tell_bind (session : SessionId) (packetType : UInt8) (data : Bytes)
    {todo : List Heading} {continuation : Unit → Handling Result}
    (label : (continuation ()).label = upNext session todo)
    (later : Acting src (continuation ())) :
    Acting src (tell session src packetType data todo >>= continuation) := by
  rw [tell, Labelled.bind_assoc]
  refine Labelled.each_inspect_bind fun directory => ?_
  cases bound : directory.byAddr.lookup src with
  | none =>
      have unknown : directory.find src = none := by rw [Directory.find, bound, Option.bind_none]
      exact ⟨.prepare (.lost unknown _), trivial⟩
  | some found =>
      refine ⟨.prepare (.found bound _), ?_⟩
      change Acting src (_ >>= _ >>= _)
      rw [Labelled.bind_assoc]
      refine Labelled.each_critical_bind (fun before error failed => ?_)
        fun before result succeeded => ?_
      · split at failed
        · cases failed
        next unknown =>
          rw [if_neg unknown]
          exact .unmade (Option.not_isSome_iff_eq_none.mp unknown) _
      · split at succeeded
        next known =>
          rw [if_pos known]
          refine ⟨.make (retains_packet before found packetType data) rfl
            ⟨some src, packetType, data⟩ todo, fun directory => ⟨?_, later⟩⟩
          change Acts src directory (some (.queue session ⟨some src, packetType, data⟩ todo)) _
            (continuation ()).label
          rw [label]
          exact .queue (retains_notify directory src packetType data) rfl todo
        · cases succeeded

theorem acting_tell (session : SessionId) (packetType : UInt8) (data : Bytes) :
    Acting src (tell session src packetType data []) := by
  rw [← Labelled.bind_pure (tell session src packetType data [])]
  exact acting_tell_bind session packetType data rfl trivial

theorem acting_proclaim_bind (session : SessionId) (packetType : UInt8) (data : Bytes)
    {todo : List Heading} {continuation : Unit → Handling Result}
    (label : (continuation ()).label = upNext session todo)
    (later : Acting src (continuation ())) :
    Acting src (proclaim session packetType data todo >>= continuation) := by
  rw [proclaim, Labelled.bind_assoc]
  refine Labelled.each_inspect_bind fun directory => ?_
  refine ⟨.prepare (.made ⟨none, packetType, data⟩ todo), fun directory => ⟨?_, later⟩⟩
  change Acts src directory (some (.queue session ⟨none, packetType, data⟩ todo)) _
    (continuation ()).label
  rw [label]
  exact .queue (retains_announce directory _ packetType data) rfl todo

theorem label_tellEach (session : SessionId) (packetType : UInt8) (lines : List Bytes) :
    (tellEach session src packetType lines).label =
      upNext session (lines.map fun _ => (some src, packetType)) := by
  cases lines with
  | nil => rfl
  | cons data rest => rfl

theorem acting_tellEach (session : SessionId) (packetType : UInt8) (lines : List Bytes) :
    Acting src (tellEach session src packetType lines) := by
  induction lines with
  | nil => exact Labelled.each_pure ()
  | cons data rest ih =>
      exact acting_tell_bind session packetType data (label_tellEach session packetType rest) ih

theorem acting_welcome (findings : Findings) (session : SessionId) :
    Acting src (welcome findings src session) := by
  refine Labelled.each_inspect_bind fun directory => ⟨.prepare (.more _), ?_⟩
  refine acting_tell_bind session Msg.serverStatus _ rfl ?_
  refine Labelled.each_inspect_bind fun directory => ?_
  cases found : directory.find src with
  | none => exact ⟨.prepare (.lost found _), trivial⟩
  | some client =>
      refine ⟨.prepare (.more _), ?_⟩
      exact acting_proclaim_bind session Msg.userJoined (userJoined client)
        (label_tellEach session Msg.serverInformation _) (acting_tellEach session _ _)

theorem acting_respond (findings : Findings) (session : SessionId) (ackCount : UInt16) :
    Acting src (respond findings src session ackCount) := by
  unfold respond
  split
  · exact Labelled.each_fail _
  · split
    · exact acting_welcome findings session
    · exact acting_tell session _ _

/-- Unless the count is 0, everything is still to be sent. -/
theorem label_respond (findings : Findings) (session : SessionId) (ackCount : UInt16) :
    (respond findings src session ackCount).label = if ackCount = 0 then none
      else some (.prepare session
        (answer src (makeServerInformation findings.welcome).length ackCount)) := by
  unfold respond answer
  split
  · rfl
  · split
    · rw [← List.map_const']
      rfl
    · rfl

theorem acting_clientToServerAck (findings : Findings) :
    Acting src (clientToServerAck findings src) := by
  intro directory
  cases bound : directory.byAddr.lookup src with
  | none =>
      simp only [bound]
      exact ⟨.errand (.refl _ directory) (.of_eq rfl) (.inl rfl), trivial⟩
  | some session =>
      simp only [bound]
      refine ⟨.begins bound, ?_⟩
      refine Labelled.each_critical_bind (fun before error failed => ?_)
        fun before ackCount succeeded => ?_
      · cases known : before.byId.lookup session with
        | none =>
            simp only
            exact .uncounted known
        | some client =>
            simp only [known] at failed
            cases failed
      · cases known : before.byId.lookup session with
        | none =>
            simp only [known] at succeeded
            cases succeeded
        | some client =>
            simp only [known] at succeeded ⊢
            obtain rfl := Except.ok.inj succeeded
            exact ⟨.counted known findings.ping _ (label_respond findings session _),
              acting_respond findings session _⟩

theorem acting_runDuty (src : SocketAddr) (duty : Duty) : Acting src (runDuty src duty) := by
  cases duty with
  | errand errand keeps =>
      refine Labelled.Each.relabel ((clerking_runErrand covers_ackCount src keeps).mono ?_)
      intro enrolment before after next clerks
      have away : Elsewhere (next.map AckStep.enrol) := by
        cases next with
        | none => exact .inl rfl
        | some enrolment => exact .inr ⟨enrolment, rfl⟩
      cases clerks with
      | work works => exact .errand works.retains works.posts away
      | draw =>
          exact .errand (.of_lookup (fun _ _ => id) (fun _ _ => id) rfl) (.of_eq rfl) away
      | enrol src username emulatorName connType userId now =>
          exact .enrol ⟨src, username⟩ emulatorName connType userId now away
  | ack findings => exact acting_clientToServerAck findings
  | reap addr flow keeps =>
      exact Labelled.each_ofTask (working_reap covers_ackCount addr (working_playThrough keeps))
        fun before after works => .errand works.retains works.posts (.inl rfl)

/-- No duty begins with an acknowledgement's section after its first. -/
theorem elsewhere_runDuty (src : SocketAddr) (duty : Duty) : Elsewhere (runDuty src duty).label := by
  cases duty with
  | errand errand keeps =>
      rw [runDuty, Labelled.label_relabel]
      cases (runErrand src errand).label with
      | none => exact .inl rfl
      | some enrolment => exact .inr ⟨enrolment, rfl⟩
  | ack findings => exact .inl rfl
  | reap addr flow keeps =>
      rw [runDuty]
      cases reap addr flow with
      | done outcome => exact .inl rfl
      | atomic act next => exact .inl rfl

end Acting

end Direlera.Clients
