import Direlera.Lobby.Server
import Direlera.Wire.ServerStatus

/-!
# The handshake

A client acknowledges until the server has its ping; it is then sent the list of users and
games, and from then on hears every broadcast. `lobby` handles acknowledgements and messages,
one after the other, each to its end.
-/

namespace Direlera.Lobby

open Direlera.Library Direlera.Sync Direlera.Wire

/-- An order in which a hash map yields its entries. -/
structure Iteration where
  order : List Nat → List Nat
  rearranges : ∀ entries, (order entries).Perm entries

/-- What the handler of an acknowledgement reads besides the state: the measured ping, the
encoded lines of the welcome message, and the orders of the two hash maps. -/
structure Surroundings where
  ping : UInt32
  welcome : List Bytes
  users : Iteration
  games : Iteration

/-- The games in the map, behind their references; a game is stored under its own id. -/
def GameTable.refs (table : GameTable) : List GameRef :=
  (List.range table.next).filter fun ref => table.byId (table.arena ref).gameId = some ref

/-- A client in the list of users. -/
def ClientInfo.statusUser (client : ClientInfo) : StatusUser :=
  ⟨client.username, client.ping, client.playerStatus, client.userId, client.connType⟩

/-- A game in the list of games. -/
def GameInfo.statusGame (game : GameInfo) : StatusGame :=
  ⟨game.gameName, game.gameId, game.emulatorName, game.owner, game.numPlayers, game.maxPlayers,
    game.gameStatus⟩

/-- A client whose handshake is complete. -/
def ClientInfo.complete (client : ClientInfo) : Bool :=
  decide (numAcksForSpeedTest < client.ackCount)

/-- How an address is listed for another one: as its user, once that is fully logged in. -/
def AppState.visibleUser (state : AppState) (src addr : SocketAddr) : Option StatusUser :=
  if addr = src then none
  else (state.clients.find addr).bind fun client =>
    if client.complete then some client.statusUser else none

/-- The fully logged-in users except the requesting one. -/
def AppState.visibleUsers (state : AppState) (users : Iteration) (src : SocketAddr) :
    List StatusUser :=
  (users.order (state.clients.byAddr.map Prod.fst)).filterMap (state.visibleUser src)

/-- `make_server_status`. -/
def makeServerStatus (users games : Iteration) (src : SocketAddr) : Handler Bytes := do
  let refs ← Task.inspect fun state : AppState => games.order state.games.refs
  let visible ← Task.inspect fun state : AppState => state.visibleUsers users src
  let listed ← Task.collect refs fun ref =>
    Task.inspect fun state : AppState => (state.games.arena ref).statusGame
  return buildServerStatus visible listed

/-- `make_user_joined`. -/
def makeUserJoined (src : SocketAddr) : Handler Bytes := do
  let some client ← getClient src | .fail (.message "Client not found")
  return putBytesWithNull client.username ++ putU16Le client.userId ++ putU32Le client.ping ++
    [client.connType]

/-- `make_server_information`: one body for each line. -/
def makeServerInformation (welcome : List Bytes) : List Bytes :=
  welcome.map fun line => ascii "Server" ++ [0] ++ putBytesWithNull line

/-- One more acknowledgement. The count wraps around; the mean is then not computed. -/
def ClientInfo.acknowledge (ping : UInt32) (client : ClientInfo) : ClientInfo :=
  if client.ackCount + 1 = 0 then { client with ackCount := 0 }
  else { client with ackCount := client.ackCount + 1, ping }

/-- What a client is told whose handshake is complete. -/
def welcomeClient (surroundings : Surroundings) (src : SocketAddr) : Handler Unit := do
  let status ← makeServerStatus surroundings.users surroundings.games src
  sendPacket src Msg.serverStatus status
  let joined ← makeUserJoined src
  broadcastPacket Msg.userJoined joined
  Task.forEach (makeServerInformation surroundings.welcome) fun information =>
    sendPacket src Msg.serverInformation information

/-- `handle_client_to_server_ack`. The time of the last ping is set from the login on. -/
def handleClientToServerAck (surroundings : Surroundings) (src : SocketAddr) : Handler Unit := do
  let ackCount ← updateClient src fun client =>
    (client.ackCount + 1, client.acknowledge surroundings.ping)
  if ackCount = 0 then .fail (.panic "divide by zero error when dividing duration by scalar")
  else if numAcksForSpeedTest < ackCount then welcomeClient surroundings src
  else sendPacket src Msg.serverToClientAck buildServerToClientAckPacket

/-- What a logged-in client sends to the lobby. -/
inductive Arrival where
  | request (request : Request)
  | ack (surroundings : Surroundings)

/-- `handle_message` for a logged-in client. -/
def handleArrival (config : Config) (src : SocketAddr) : Arrival → Handler Unit
  | .request request => handleMessage config src request
  | .ack surroundings => handleClientToServerAck surroundings src

/-- Complete handler runs, one after the other. -/
def lobby (config : Config) : Transducer AppState (SocketAddr × Arrival) (Except Report Unit) where
  step state arrival := (handleArrival config arrival.1 arrival.2).run state

end Direlera.Lobby
