import Direlera.Clients.Usernames

/-!
# Drawing user ids

A login draws its user id in one section and adds its client in a later one, and the sections of
other sessions may come between. The labels here say which id a login is about to add; nothing
else changes the ids of clients or the counter.
-/

namespace Direlera.Clients

open Direlera.Library Direlera.Lobby Direlera.Sync Direlera.Wire

/-! ## Labelled logins -/

/-- A change of a client keeps its user id. -/
def Touch.KeepsUserId (touch : Touch) : Prop :=
  ∀ client, (touch.change client).userId = client.userId

/-- An errand which changes no user id, as no handler does. -/
abbrev Chore := {errand : Errand // ∀ touch ∈ errand.flow.touches, touch.2.KeepsUserId}

/-- A login draws a user id, or adds the client with the id which it drew. -/
inductive IdStep where
  | draw
  | add (userId : UInt16)
deriving DecidableEq, Repr

/-- `enrol`, with its labels. -/
def drawAndEnrol (src : SocketAddr) (username emulatorName : Bytes) (connType : UInt8)
    (now : Nat) : Labelled Directory IdStep Report Unit := do
  let userId ← Labelled.critical .draw fun directory : Directory =>
    (.ok directory.nextUserId, { directory with nextUserId := directory.nextUserId + 1 })
  Labelled.critical (.add userId) fun directory =>
    (.ok (), directory.enrol src username emulatorName connType userId now)
  .ofTask (sendPacket src Msg.serverToClientAck buildServerToClientAckPacket)

/-- `handle_user_login`, with the labels of its enrolment. -/
def drawingLogin (src : SocketAddr) (data : Bytes) (now later : Nat) (flow : GameFlow) :
    Labelled Directory IdStep Report Unit := do
  let (name, emulatorName, connType) := parseLogin data
  if connType ≠ lanConnectionType then
    .ofTask (rejectLogin src (ascii "Only LAN connection type is allowed."))
  else
    let username := name.take 31
    match ← .ofTask (findClientByUsername username) with
    | some (_, old) =>
        let lastActive ← .ofTask (Task.inspect fun directory : Directory =>
          directory.activity old.sessionId)
        if now - lastActive < sessionAliveThresholdSecs then
          .ofTask (rejectLogin src (ascii "Username is already in use."))
        else if old.gameId.isSome then
          let _ ← .ofTask (playThrough flow).attempt
          .ofTask (evict username)
          drawAndEnrol src username emulatorName connType later
        else
          .ofTask (evict username)
          drawAndEnrol src username emulatorName connType later
    | none => drawAndEnrol src username emulatorName connType later

/-- A chore of a session. -/
def runChore (src : SocketAddr) (chore : Chore) : Labelled Directory IdStep Report Unit :=
  match chore.1 with
  | .login data now later flow => drawingLogin src data now later flow
  | errand => .ofTask (runErrand src errand).erase

/-- Without its labels a chore is the errand. -/
theorem erase_runChore (src : SocketAddr) (chore : Chore) :
    (runChore src chore).erase = (runErrand src chore.1).erase := by
  obtain ⟨errand, keeps⟩ := chore
  cases errand with
  | login data now later flow =>
      simp only [runChore, runErrand, drawingLogin, userLogin]
      obtain ⟨name, emulatorName, connType⟩ := parseLogin data
      have enrols : (drawAndEnrol src (name.take 31) emulatorName connType later).erase =
          (enrol src (name.take 31) emulatorName connType later).erase := by
        simp only [drawAndEnrol, enrol, Labelled.erase_bind, Labelled.erase_critical,
          Labelled.erase_ofTask]
        rfl
      dsimp only
      split
      · rfl
      · simp only [Labelled.erase_bind, Labelled.erase_ofTask]
        refine congrArg _ (funext fun found => ?_)
        cases found with
        | none => exact enrols
        | some known =>
            simp only [Labelled.erase_bind, Labelled.erase_ofTask]
            refine congrArg _ (funext fun lastActive => ?_)
            split
            · rfl
            · split <;> simp only [Labelled.erase_bind, Labelled.erase_ofTask, enrols]
  | _ => exact Labelled.erase_ofTask _

/-! ## Sections which add nobody -/

/-- No address is bound anew, every client left keeps its user id, and so does the counter. -/
structure Steady (before after : Directory) : Prop where
  bound : ∀ addr session, after.byAddr.lookup addr = some session →
    before.byAddr.lookup addr = some session
  known : ∀ session client, after.byId.lookup session = some client →
    ∃ earlier, before.byId.lookup session = some earlier ∧ earlier.userId = client.userId
  drawn : after.nextSessionId = before.nextSessionId
  counter : after.nextUserId = before.nextUserId

namespace Steady

variable {before after : Directory}

/-- The datagrams of a broadcast change no user id. -/
theorem keepsUserId_addressed (directory : Directory) (addrs : List SocketAddr)
    (packetType : UInt8) (data : Bytes) (session : SessionId) :
    (directory.addressed addrs packetType data session).KeepsUserId := by
  unfold Directory.addressed
  split
  · exact fun _ => rfl
  · exact fun _ => rfl

theorem of_works (works : Works (fun client => client.userId) (fun _ => True) before after) :
    Steady before after :=
  ⟨works.retains.bound, works.retains.known, works.retains.drawn, works.nextUserId⟩

end Steady

/-- Every section of a task is steady. -/
abbrev Steadying {Result : Type} (task : Access Result) : Prop := Task.Each Steady task

section Steadying

variable {Result : Type}

theorem Working.steadying {task : Access Result}
    (working : Working (fun client => client.userId) (fun _ => True) task) : Steadying task :=
  Task.Each.mono working fun _ _ => .of_works

/-- Making a datagram keeps the user id. -/
theorem covers_userId : Covers (fun client => client.userId) fun _ => True :=
  ⟨fun _ _ _ => rfl, trivial, trivial, trivial⟩

end Steadying

/-! ## What sections do with user ids -/

/-- A section draws an id, adds a client with the id drawn before, or is steady; only a draw is
followed by adding a client. -/
inductive Draws (src : SocketAddr) (before : Directory) :
    Option IdStep → Directory → Option IdStep → Prop
  | steady {after : Directory} {next : Option IdStep} (steady : Steady before after)
      (idle : ∀ userId, next ≠ some (.add userId)) : Draws src before none after next
  | draw : Draws src before (some .draw)
      { before with nextUserId := before.nextUserId + 1 } (some (.add before.nextUserId))
  | add (username emulatorName : Bytes) (connType : UInt8) (userId : UInt16) (now : Nat)
      {next : Option IdStep} (idle : ∀ other, next ≠ some (.add other)) :
      Draws src before (some (.add userId))
        (before.enrol src username emulatorName connType userId now) next

/-- Every section of a chore does with user ids what its labels say. -/
abbrev Drawing {Result : Type} (src : SocketAddr) (task : Labelled Directory IdStep Report Result) :
    Prop :=
  Labelled.Each (fun label before after next => Draws src before label after next) task

section Drawing

variable {Result Next : Type} {src : SocketAddr}

theorem drawing_ofTask {task : Access Result} (steadying : Steadying task) :
    Drawing src (.ofTask task) :=
  Labelled.each_ofTask steadying fun _ _ steady => .steady steady (by simp)

/-- Steady sections, and then something which does not begin by adding a client. -/
theorem drawing_ofTask_bind {task : Access Result}
    {continuation : Result → Labelled Directory IdStep Report Next} (steadying : Steadying task)
    (begins : ∀ result userId, (continuation result).label ≠ some (.add userId))
    (later : ∀ result, Drawing src (continuation result)) :
    Drawing src (.ofTask task >>= continuation) :=
  Labelled.each_ofTask_bind steadying
    (fun _ _ steady => ⟨.steady steady (by simp), fun result => .steady steady (begins result)⟩)
    later

theorem label_ofTask (task : Access Result) :
    (.ofTask task : Labelled Directory IdStep Report Result).label = none := by
  cases task <;> rfl

theorem begins_ofTask_bind {task : Access Result}
    {continuation : Result → Labelled Directory IdStep Report Next}
    (begins : ∀ result userId, (continuation result).label ≠ some (.add userId))
    (userId : UInt16) : (.ofTask task >>= continuation).label ≠ some (.add userId) := by
  cases task with
  | done outcome =>
      cases outcome with
      | ok result => exact begins result userId
      | error error => rintro ⟨⟩
  | atomic act next => rintro ⟨⟩

theorem drawing_drawAndEnrol (src : SocketAddr) (username emulatorName : Bytes)
    (connType : UInt8) (now : Nat) :
    Drawing src (drawAndEnrol src username emulatorName connType now) := by
  intro directory
  refine ⟨.draw, fun later => ⟨.add username emulatorName connType directory.nextUserId now ?_, ?_⟩⟩
  · intro userId
    change (Labelled.ofTask (sendPacket src Msg.serverToClientAck
      buildServerToClientAckPacket) : Labelled Directory IdStep Report Unit).label ≠ _
    rw [label_ofTask]
    simp
  · exact drawing_ofTask (working_sendPacket covers_userId.unsent src _ _ trivial).steadying

theorem drawing_drawingLogin (src : SocketAddr) (data : Bytes) (now later : Nat)
    {flow : GameFlow} (keeps : ∀ touch ∈ flow.touches, touch.2.KeepsUserId) :
    Drawing src (drawingLogin src data now later flow) := by
  have rejects : ∀ message, Drawing src (.ofTask (rejectLogin src message)) := fun message =>
    drawing_ofTask (working_rejectLogin covers_userId.rejects src message).steadying
  unfold drawingLogin
  obtain ⟨name, emulatorName, connType⟩ := parseLogin data
  dsimp only
  have enrols := drawing_drawAndEnrol src (name.take 31) emulatorName connType later
  have begins : ∀ userId, (drawAndEnrol src (name.take 31) emulatorName connType later).label ≠
      some (.add userId) := by
    rintro userId ⟨⟩
  have evicts : Drawing src (do
      .ofTask (evict (name.take 31))
      drawAndEnrol src (name.take 31) emulatorName connType later) :=
    drawing_ofTask_bind (working_evict covers_userId _).steadying (fun _ => begins) fun _ => enrols
  have evictsBegin : ∀ userId, (do
      .ofTask (evict (name.take 31))
      drawAndEnrol src (name.take 31) emulatorName connType later :
        Labelled Directory IdStep Report Unit).label ≠ some (.add userId) :=
    begins_ofTask_bind fun _ => begins
  split
  · exact rejects _
  · apply drawing_ofTask_bind (working_findClientByUsername _).steadying
    · rintro (_ | ⟨oldAddr, old⟩) userId
      · exact begins userId
      · rintro ⟨⟩
    rintro (_ | ⟨oldAddr, old⟩)
    · exact enrols
    · apply drawing_ofTask_bind (working_inspect _).steadying
      · intro lastActive userId
        split
        · rintro ⟨⟩
        · split
          · exact begins_ofTask_bind (fun _ => evictsBegin) userId
          · exact evictsBegin userId
      intro lastActive
      split
      · exact rejects _
      · split
        · exact drawing_ofTask_bind (working_playThrough keeps).steadying.attempt
            (fun _ => evictsBegin) fun _ => evicts
        · exact evicts

theorem drawing_runChore (src : SocketAddr) (chore : Chore) : Drawing src (runChore src chore) := by
  obtain ⟨errand, keeps⟩ := chore
  cases errand with
  | login data now later flow => exact drawing_drawingLogin src data now later keeps
  | _ => exact drawing_ofTask (working_runErrand covers_userId src keeps (by simp)).steadying

/-- No chore begins by adding a client. -/
theorem begins_runChore (src : SocketAddr) (chore : Chore) (userId : UInt16) :
    (runChore src chore).label ≠ some (.add userId) := by
  obtain ⟨errand, keeps⟩ := chore
  cases errand with
  | login data now later flow =>
      simp only [runChore, drawingLogin]
      split
      · rw [label_ofTask]
        simp
      · rintro ⟨⟩
  | _ =>
      refine fun adding => absurd ((label_ofTask _).symm.trans adding) ?_
      simp

end Drawing

end Direlera.Clients
