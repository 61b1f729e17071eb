import Direlera.Library.Guarded
import Direlera.Lobby.Decoders
import Direlera.Server.Users

/-!
# The tasks of a server

Session tasks, the cleanup task and the resending tasks work on the one state, section by
section. Which addresses a watchdog finds stalled or silent is left to its caller.
-/

namespace Direlera.Wire.Msg

def clientToServerAck : UInt8 := 0x06
def clientKeepAlive : UInt8 := 0x09

end Direlera.Wire.Msg

namespace Direlera.Server

open Direlera.Library Direlera.Lobby Direlera.Sync Direlera.Wire

/-! ## Messages -/

/-- What the handler of a message reads besides the state. -/
structure Reading where
  login : LoginReading
  ack : Surroundings

/-- `handle_message`. Messages of other types are ignored. -/
def handleMessage (config : Config) (reading : Reading) (src : SocketAddr)
    (message : ParsedMessage) : Service Unit :=
  if message.messageType = Msg.userQuit then inLobby (handleUserQuit message.data src)
  else if message.messageType = Msg.userLogin then handleUserLogin reading.login message.data src
  else if message.messageType = Msg.clientToServerAck then
    inLobby (handleClientToServerAck reading.ack src)
  else if message.messageType = Msg.globalChat then inLobby (handleGlobalChat message.data src)
  else if message.messageType = Msg.gameChat then inLobby (handleGameChat message.data src)
  else if message.messageType = Msg.clientKeepAlive then inLobby handleClientKeepAlive
  else if message.messageType = Msg.createGame then inLobby (handleCreateGame message.data src)
  else if message.messageType = Msg.quitGame then inLobby (handleQuitGame src)
  else if message.messageType = Msg.joinGame then inLobby (handleJoinGame message.data src)
  else if message.messageType = Msg.kickUser then inLobby (handleKickUser message.data src)
  else if message.messageType = Msg.startGame then
    inLobby (handleStartGame config message.data src)
  else if message.messageType = Msg.gameData then inLobby (handleGameData message.data src)
  else if message.messageType = Msg.gameCache then inLobby (handleGameCache message.data src)
  else if message.messageType = Msg.dropGame then inLobby (handleDropGame src)
  else if message.messageType = Msg.readyToPlay then
    inLobby (handleReadyToPlaySignal message.data src)
  else return ()

/-- `update_client_activity`. -/
def updateClientActivity (addr : SocketAddr) (now : Nat) : Service Unit :=
  .critical fun state =>
    match (state.lobby.clients.session addr).filter fun session =>
        (state.lobby.clients.byId session).isSome with
    | none => (.ok (), state)
    | some session => (.ok (), { state with activity := Function.update state.activity session now })

/-- What a session does with a datagram: it notes the time, and handles the messages which are
due, each to its end or to its first error. -/
def handlePacket (config : Config) (addr : SocketAddr) (now : Nat)
    (due : List (Reading × ParsedMessage)) : Service Unit := do
  updateClientActivity addr now
  Task.forEach due fun (reading, message) => do
    let _ ← (handleMessage config reading addr message).attempt

/-! ## Leaving -/

/-- A client is removed, and the lobby hears why. -/
def dismiss (addr : SocketAddr) (reason : Bytes) : Service Unit := do
  match ← inLobby (removeClient addr) with
  | some removed =>
      let _ ← (inLobby <| broadcastPacket Msg.userQuit
        (buildUserQuitPacket removed.username removed.userId reason)).attempt
  | none => return ()

/-- A client quits its game, if it is in one, and is removed. -/
def expel (addr : SocketAddr) (client : ClientInfo) (reason : Bytes) : Service Unit := do
  if client.gameId.isSome then
    let _ ← (inLobby (handleQuitGame addr)).attempt
    dismiss addr reason
  else dismiss addr reason

/-- How a name and an address are spelled in a notice: `bytes_for_log`, and the `Display` of
an address. -/
structure Spelling where
  name : Bytes → Bytes
  addr : SocketAddr → Bytes

/-- `[Server] name (#user_id, addr) timed out (keepalive not received)`. -/
def timeoutNotice (spelling : Spelling) (name : Bytes) (userId : UInt16) (addr : SocketAddr) :
    Bytes :=
  buildGlobalChatPacket (ascii "Server") (ascii "[Server] " ++ name ++ ascii " (#" ++
    ascii (toString userId) ++ ascii ", " ++ spelling.addr addr ++
    ascii ") timed out (keepalive not received)")

/-- The end of `handle_session` when its channel was closed. -/
def endClosed (addr : SocketAddr) : Service Unit := do
  match ← inLobby (getClient addr) with
  | some client => expel addr client (ascii "disconnected")
  | none => pure ()
  let _ ← inLobby (removeClient addr)

/-- The end of `handle_session` when nothing was heard for too long. A client which is gone
already is named as the session remembers it. -/
def endTimedOut (spelling : Spelling) (cachedIdentity : Option (Bytes × UInt16))
    (addr : SocketAddr) : Service Unit := do
  match ← inLobby (getClient addr), cachedIdentity with
  | some client, _ =>
      let _ ← (inLobby <| broadcastPacket Msg.globalChat
        (timeoutNotice spelling (spelling.name client.username) client.userId addr)).attempt
      expel addr client (ascii "timeout")
  | none, some (name, userId) =>
      let _ ← (inLobby <| broadcastPacket Msg.globalChat
        (timeoutNotice spelling name userId addr)).attempt
  | none, none => pure ()
  let _ ← inLobby (removeClient addr)

/-- The part of the cleanup task which removes a client. -/
def reap (addr : SocketAddr) : Service Unit := do
  match ← inLobby (getClient addr) with
  | some client => expel addr client (ascii "timeout")
  | none =>
      let _ ← inLobby (removeClient addr)

/-! ## Resending -/

/-- The last datagram of a client is sent once more. -/
def resend (addr : SocketAddr) : Service Unit := do
  let some data ← inLobby <| .inspect fun lobby =>
      (lobby.clients.find addr).bind fun client => client.packetGenerator.lastSent
    | return ()
  let _ ← (inLobby (sendMessage none addr data)).attempt

/-- One round of `start_stall_resend_task` after its scan. -/
def watch (stalled dead : List SocketAddr) : Service Unit := do
  Task.forEach stalled resend
  Task.forEach dead fun addr => inLobby (closeSession addr)

/-- A client whose handshake is not complete, and what it was last sent. -/
def pendingLogin (clients : ClientRegistry) (addr : SocketAddr) : Option (SocketAddr × Bytes) :=
  (clients.find addr).bind fun client =>
    if client.gameId.isNone ∧ client.ackCount ≤ numAcksForSpeedTest then
      client.packetGenerator.lastSent.map fun data => (addr, data)
    else none

/-- One round of `start_login_resend_task`. -/
def resendLogins : Service Unit := do
  let pending ← inLobby <| .inspect fun lobby =>
    (lobby.clients.byAddr.map Prod.fst).filterMap (pendingLogin lobby.clients)
  Task.forEach pending fun (addr, data) => do
    let _ ← (inLobby (sendMessage none addr data)).attempt

/-! ## Tasks -/

/-- What a task of the server may be busy with. -/
inductive Work where
  | packet (addr : SocketAddr) (now : Nat) (due : List (Reading × ParsedMessage))
  | closed (addr : SocketAddr)
  | timedOut (addr : SocketAddr) (cachedIdentity : Option (Bytes × UInt16))
  | reap (addr : SocketAddr)
  | watch (stalled dead : List SocketAddr)
  | resendLogins

/-- What is done about it, section by section. -/
def perform (config : Config) (spelling : Spelling) : Work → Service Unit
  | .packet addr now due => handlePacket config addr now due
  | .closed addr => endClosed addr
  | .timedOut addr cachedIdentity => endTimedOut spelling cachedIdentity addr
  | .reap addr => reap addr
  | .watch stalled dead => watch stalled dead
  | .resendLogins => resendLogins

/-- Any number of tasks take turns, section by section. -/
abbrev tasks (config : Config) (spelling : Spelling) (Worker : Type) :
    Program ServerState Report Unit Worker Work Unit :=
  .plain fun _ => perform config spelling

end Direlera.Server
