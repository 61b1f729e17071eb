import Direlera.Clients.Directory
import Direlera.Lobby.Handlers

/-!
# Logins, quits and timeouts

The handlers which work on the client maps, section by section. Everything else which a server
does changes clients in place; a `GameFlow` stands for the part of it which a handler here runs
through. The section in which a login adds its client carries an `Enrolment`.
-/

namespace Direlera.Clients

open Direlera.Library Direlera.Lobby Direlera.Sync Direlera.Wire

/-- A handler on the client maps or a part of one. -/
abbrev Access (Result : Type) := Task Directory Report Result

/-- A login adds its client. -/
structure Enrolment where
  src : SocketAddr
  username : Bytes
deriving DecidableEq, Repr

/-- A handler whose sections may add a client. -/
abbrev Clerical (Result : Type) := Labelled Directory Enrolment Report Result

/-! ## Methods -/

/-- `get_client`. -/
def getClient (addr : SocketAddr) : Access (Option ClientInfo) :=
  .inspect fun directory => directory.find addr

/-- `update_client`. -/
def updateClient (addr : SocketAddr) (touch : Touch) : Access Unit := do
  let some session ← Task.inspect fun directory : Directory => directory.byAddr.lookup addr
    | .fail (.message "Client not found in addr_map")
  .critical fun directory =>
    if (directory.byId.lookup session).isSome then
      (.ok (), directory.touch fun other => if other = session then touch else .none)
    else (.error (.message "Client not found in id_map"), directory)

/-- `find_client_by_username`. -/
def findClientByUsername (username : Bytes) : Access (Option (SocketAddr × ClientInfo)) := do
  let some (session, client) ← Task.inspect fun directory : Directory => directory.named username
    | return none
  let some addr ← Task.inspect fun directory : Directory => directory.holder session | return none
  return some (addr, client)

/-- `remove_client_by_username`. -/
def removeClientByUsername (username : Bytes) : Access (Option (SocketAddr × ClientInfo)) := do
  let some (session, _) ← Task.inspect fun directory : Directory => directory.named username
    | return none
  let some addr ← Task.critical fun directory : Directory =>
      match directory.holder session with
      | none => (.ok none, directory)
      | some addr => (.ok (some addr), { directory with byAddr := directory.byAddr.erase addr })
    | return none
  .critical fun directory =>
    match directory.byId.lookup session with
    | none => (.ok none, directory)
    | some client => (.ok (some (addr, client)), { directory with
        byId := directory.byId.erase session
        activeSessions := directory.activeSessions - 1 })

/-- `remove_client`. -/
def removeClient (addr : SocketAddr) : Access (Option ClientInfo) :=
  .critical fun directory => (.ok (directory.find addr), directory.removeClient addr)

/-- `next_user_id`: fetch and add, which wraps around. -/
def takeNextUserId : Access UInt16 :=
  .critical fun directory =>
    (.ok directory.nextUserId, { directory with nextUserId := directory.nextUserId + 1 })

/-- `close_session`. -/
def closeSession (addr : SocketAddr) : Access Unit :=
  .critical fun directory =>
    (.ok (), { directory with sessionCloseTx := directory.sessionCloseTx ++ [addr] })

/-- `send_packet`. -/
def sendPacket (addr : SocketAddr) (packetType : UInt8) (data : Bytes) : Access Unit := do
  updateClient addr (.packet packetType data)
  .critical fun directory => (.ok (), directory.notify addr packetType data)

/-- `broadcast_packet`. -/
def broadcastPacket (packetType : UInt8) (data : Bytes) : Access Unit := do
  let addrs ← Task.inspect fun directory : Directory => directory.byAddr.keys
  .critical fun directory => (.ok (), directory.announce addrs packetType data)

/-! ## Games -/

/-- What a game flow, such as `handle_quit_game`, does to clients, and how it ends. -/
structure GameFlow where
  touches : List (SocketAddr × Touch)
  outcome : Except Report Unit

/-- A flow without effects. -/
def GameFlow.idle : GameFlow := ⟨[], .ok ()⟩

/-- Run through a game flow. -/
def playThrough (flow : GameFlow) : Access Unit := do
  Task.forEach flow.touches fun touch => do
    let _ ← (updateClient touch.1 touch.2).attempt
  .done flow.outcome

/-! ## Logging in -/

/-- `SESSION_ALIVE_THRESHOLD_SECS`. -/
def sessionAliveThresholdSecs : Nat := 30

/-- `LAN_CONNECTION_TYPE`. -/
def lanConnectionType : UInt8 := 1

/-- The username, the emulator name and the connection type of a login. -/
def parseLogin (data : Bytes) : Bytes × Bytes × UInt8 :=
  let (username, buf) := readStringBytes data
  let (emulatorName, buf) := readStringBytes buf
  (username, emulatorName, (getU8 buf).1)

/-- `reject_login`. -/
def rejectLogin (src : SocketAddr) (message : Bytes) : Access Unit :=
  .critical fun directory => (.ok (), directory.notify src Msg.connectionRejected
    (buildConnectionRejectedPacket (ascii "server") 0 message))

/-- The stale session of a name is evicted. -/
def evict (username : Bytes) : Access Unit := do
  match ← removeClientByUsername username with
  | some (addr, evicted) =>
      broadcastPacket Msg.userQuit
        (buildUserQuitPacket evicted.username evicted.userId (ascii "reconnected"))
      closeSession addr
  | none => return ()

/-- `Uuid::new_v4`, which never draws an id again, and the section of `add_client`. -/
def Directory.enrol (directory : Directory) (src : SocketAddr) (username emulatorName : Bytes)
    (connType : UInt8) (userId : UInt16) (now : Nat) : Directory :=
  ({ directory with
      nextSessionId := directory.nextSessionId + 1
      activity := Function.update directory.activity directory.nextSessionId now } : Directory)
    |>.addClient src (.login username emulatorName connType userId directory.nextSessionId)

/-- The part of `handle_user_login` after the checks of the name. -/
def enrol (src : SocketAddr) (username emulatorName : Bytes) (connType : UInt8) (now : Nat) :
    Clerical Unit := do
  let userId ← .ofTask takeNextUserId
  Labelled.critical ⟨src, username⟩ fun directory =>
    (.ok (), directory.enrol src username emulatorName connType userId now)
  .ofTask (sendPacket src Msg.serverToClientAck buildServerToClientAckPacket)

/-- `handle_user_login`, with the times which it reads and the flow in which a stale client
quits its game. -/
def userLogin (src : SocketAddr) (data : Bytes) (now later : Nat) (flow : GameFlow) :
    Clerical Unit := do
  let (name, emulatorName, connType) := parseLogin data
  if connType ≠ lanConnectionType then
    .ofTask (rejectLogin src (ascii "Only LAN connection type is allowed."))
  else
    let username := name.take 31
    match ← .ofTask (findClientByUsername username) with
    | some (_, old) =>
        let lastActive ← .ofTask (Task.inspect fun directory : Directory =>
          directory.activity old.sessionId)
        if now - lastActive < sessionAliveThresholdSecs then
          .ofTask (rejectLogin src (ascii "Username is already in use."))
        else if old.gameId.isSome then
          let _ ← .ofTask (playThrough flow).attempt
          .ofTask (evict username)
          enrol src username emulatorName connType later
        else
          .ofTask (evict username)
          enrol src username emulatorName connType later
    | none => enrol src username emulatorName connType later

/-! ## Leaving -/

/-- A client is removed, and the lobby hears why. -/
def dismiss (addr : SocketAddr) (reason : Bytes) : Access Unit := do
  match ← removeClient addr with
  | some removed =>
      broadcastPacket Msg.userQuit (buildUserQuitPacket removed.username removed.userId reason)
  | none => return ()

/-- `handle_user_quit`. -/
def userQuit (src : SocketAddr) (data : Bytes) (flow : GameFlow) : Access Unit := do
  playThrough flow
  dismiss src (parseUserQuit data)
  closeSession src

/-- A client quits its game, if it is in one, and is removed. -/
def expel (addr : SocketAddr) (client : ClientInfo) (reason : Bytes) (flow : GameFlow) :
    Access Unit := do
  if client.gameId.isSome then
    let _ ← (playThrough flow).attempt
    dismiss addr reason
  else dismiss addr reason

/-- The end of `handle_session`, when its channel closes or nothing was heard for too long. -/
def endSession (addr : SocketAddr) (reason : Bytes) (flow : GameFlow) : Access Unit := do
  match ← getClient addr with
  | some client => expel addr client reason flow
  | none => pure ()
  let _ ← removeClient addr

/-- The part of the cleanup task which removes a client. -/
def reap (addr : SocketAddr) (flow : GameFlow) : Access Unit := do
  match ← getClient addr with
  | some client => expel addr client (ascii "timeout") flow
  | none =>
      let _ ← removeClient addr

/-! ## Errands -/

/-- What a session may be busy with, as far as the client maps are concerned. Besides, the
maps may iterate in another order at any time. -/
inductive Errand where
  | login (data : Bytes) (now later : Nat) (flow : GameFlow)
  | userQuit (data : Bytes) (flow : GameFlow)
  | endSession (reason : Bytes) (flow : GameFlow)
  | reap (flow : GameFlow)
  | other (flow : GameFlow)
  | hear (now : Nat)
  | rehash (addrs : EntryMap.Order SocketAddr SessionId) (ids : EntryMap.Order SessionId ClientInfo)

/-- An errand of a session, section by section. -/
def runErrand (src : SocketAddr) : Errand → Clerical Unit
  | .login data now later flow => userLogin src data now later flow
  | .userQuit data flow => .ofTask (userQuit src data flow)
  | .endSession reason flow => .ofTask (endSession src reason flow)
  | .reap flow => .ofTask (reap src flow)
  | .other flow => .ofTask (playThrough flow)
  | .hear now => .ofTask (.critical fun directory => (.ok (), directory.hear src now))
  | .rehash addrs ids => .ofTask (.critical fun directory => (.ok (), directory.rehash addrs ids))

/-- Complete errands, one after the other. -/
def clerk : Transducer Directory (SocketAddr × Errand) (Except Report Unit) where
  step directory errand := (runErrand errand.1 errand.2).erase.run directory

end Direlera.Clients
