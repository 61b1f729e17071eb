import Direlera.Clients.Logins
import Direlera.Server.State

/-!
# Logging in

`handle_user_login` on the whole state, section by section. A stale client of the same name
quits its game and is evicted first.
-/

namespace Direlera.Server

open Direlera.Clients (parseLogin lanConnectionType sessionAliveThresholdSecs)
open Direlera.Library Direlera.Lobby Direlera.Sync Direlera.Wire

/-- The first entry of `clients_by_id` with a name. -/
def ServerState.named (state : ServerState) (ids : Iteration) (username : Bytes) :
    Option (SessionId × ClientInfo) :=
  (ids.order (List.range state.nextSessionId)).findSome? fun session =>
    (state.lobby.clients.byId session).bind fun client =>
      if client.username = username then some (session, client) else none

/-- `find_client_by_username`. -/
def findClientByUsername (ids : Iteration) (username : Bytes) :
    Service (Option (SocketAddr × ClientInfo)) := do
  let some (session, client) ← Task.inspect fun state : ServerState => state.named ids username
    | return none
  let some addr ← Task.inspect fun state : ServerState => state.lobby.clients.holder session
    | return none
  return some (addr, client)

/-- `remove_client_by_username`. -/
def removeClientByUsername (ids : Iteration) (username : Bytes) :
    Service (Option (SocketAddr × ClientInfo)) := do
  let some (session, _) ← Task.inspect fun state : ServerState => state.named ids username
    | return none
  let some addr ← inLobby <| .critical fun lobby =>
      match lobby.clients.holder session with
      | none => (.ok none, lobby)
      | some addr => (.ok (some addr), { lobby with clients := lobby.clients.forgetAddr addr })
    | return none
  inLobby <| .critical fun lobby =>
    (.ok ((lobby.clients.byId session).map fun client => (addr, client)),
      { lobby with clients := lobby.clients.forgetSession session })

/-- `next_user_id`: fetch and add, which wraps around. -/
def takeNextUserId : Service UInt16 :=
  .critical fun state =>
    (.ok state.nextUserId, { state with nextUserId := state.nextUserId + 1 })

/-- `reject_login`. -/
def rejectLogin (src : SocketAddr) (message : Bytes) : Service Unit :=
  inLobby <| sendMessage none src (UDPPacketGenerator.new.makeSendPacket Msg.connectionRejected
    (buildConnectionRejectedPacket (ascii "server") 0 message)).1

/-- The stale session of a name is evicted. -/
def evict (ids : Iteration) (username : Bytes) : Service Unit := do
  match ← removeClientByUsername ids username with
  | some (addr, evicted) =>
      inLobby <| broadcastPacket Msg.userQuit
        (buildUserQuitPacket evicted.username evicted.userId (ascii "reconnected"))
      inLobby <| closeSession addr
  | none => return ()

/-- `Uuid::new_v4`, which never draws an id again, and the section of `add_client`. -/
def ServerState.enrol (state : ServerState) (src : SocketAddr) (username emulatorName : Bytes)
    (connType : UInt8) (userId : UInt16) (now : Nat) : ServerState :=
  { state with
    lobby := { state.lobby with
      clients := state.lobby.clients.add src
        (.login username emulatorName connType userId state.nextSessionId) }
    nextSessionId := state.nextSessionId + 1
    activity := Function.update state.activity state.nextSessionId now }

/-- The part of `handle_user_login` after the checks of the name. -/
def enrol (src : SocketAddr) (username emulatorName : Bytes) (connType : UInt8) (now : Nat) :
    Service Unit := do
  let userId ← takeNextUserId
  Task.critical fun state : ServerState =>
    (.ok (), state.enrol src username emulatorName connType userId now)
  inLobby <| sendPacket src Msg.serverToClientAck buildServerToClientAckPacket

/-- What a login reads besides the state: the time, twice, and the orders in which
`clients_by_id` is searched for the name. -/
structure LoginReading where
  now : Nat
  later : Nat
  found : Iteration
  removed : Iteration

/-- `handle_user_login`. -/
def handleUserLogin (reading : LoginReading) (data : Bytes) (src : SocketAddr) : Service Unit := do
  let (name, emulatorName, connType) := parseLogin data
  if connType ≠ lanConnectionType then
    rejectLogin src (ascii "Only LAN connection type is allowed.")
  else
    let username := name.take 31
    match ← findClientByUsername reading.found username with
    | some (addr, old) =>
        let lastActive ← Task.inspect fun state : ServerState => state.activity old.sessionId
        if reading.now - lastActive < sessionAliveThresholdSecs then
          rejectLogin src (ascii "Username is already in use.")
        else if old.gameId.isSome then
          let _ ← (inLobby (handleQuitGame addr)).attempt
          evict reading.removed username
          enrol src username emulatorName connType reading.later
        else
          evict reading.removed username
          enrol src username emulatorName connType reading.later
    | none => enrol src username emulatorName connType reading.later

end Direlera.Server
