import Direlera.Library.Task
import Direlera.Lobby.State

/-!
# Access to the shared state

The methods of `AppState` and the handler utilities as tasks; what the source does
while it holds a lock is one section. Durations, spans, metrics and the pacing
statistics of a player are left out.
-/

namespace Direlera.Lobby

open Direlera.Library Direlera.Sync Direlera.Wire

/-- A handler or a part of one. -/
abbrev Handler (Result : Type) := Task AppState Report Result

/-! ## Clients -/

/-- `get_client`. -/
def getClient (addr : SocketAddr) : Handler (Option ClientInfo) :=
  .inspect fun state => state.clients.find addr

/-- `update_client`; the change of a client may record a handed response. -/
def updateClientLogging {Result : Type} (handed : List TargetOutput) (addr : SocketAddr)
    (change : ClientInfo → Result × ClientInfo) : Handler Result := do
  let some session ← Task.inspect fun state : AppState => state.clients.session addr
    | .fail (.message "Client not found in addr_map")
  .critical fun state =>
    match state.clients.byId session with
    | none => (.error (.message "Client not found in id_map"), state)
    | some client =>
        (.ok (change client).1,
          { state with
            clients := state.clients.update session fun client => (change client).2
            handed := state.handed ++ handed })

/-- `update_client`. -/
def updateClient {Result : Type} (addr : SocketAddr) (change : ClientInfo → Result × ClientInfo) :
    Handler Result :=
  updateClientLogging [] addr change

/-- `with_client_mut`. -/
def withClientMut (addr : SocketAddr) (change : ClientInfo → ClientInfo) : Handler Unit :=
  updateClient addr fun client => ((), change client)

/-- `remove_client`. -/
def removeClient (addr : SocketAddr) : Handler (Option ClientInfo) :=
  .critical fun state =>
    (.ok (state.clients.find addr), { state with clients := state.clients.remove addr })

/-- `get_all_client_addrs`. -/
def getAllClientAddrs : Handler (List SocketAddr) :=
  .inspect fun state => state.clients.byAddr.map Prod.fst

/-- `close_session`. -/
def closeSession (addr : SocketAddr) : Handler Unit :=
  .critical fun state =>
    (.ok (), { state with sessionCloseTx := state.sessionCloseTx ++ [addr] })

/-- `fetch_client_info`. -/
def fetchClientInfo (src : SocketAddr) : Handler ClientInfo := do
  let some client ← getClient src | .fail (.message "Client not found: addr")
  return client

/-! ## Games -/

/-- `AppState::next_game_id`: fetch and add, which wraps around. -/
def takeNextGameId : Handler UInt32 :=
  .critical fun state => (.ok state.nextGameId, { state with nextGameId := state.nextGameId + 1 })

/-- `add_game`. -/
def addGame (gameId : UInt32) (game : GameInfo) : Handler Unit :=
  .critical fun state => (.ok (), { state with games := state.games.insert gameId game })

/-- `remove_game`. -/
def removeGame (gameId : UInt32) : Handler Unit :=
  .critical fun state => (.ok (), { state with games := state.games.remove gameId })

/-- `get_game_arc`. -/
def getGameArc (gameId : UInt32) : Handler (Option GameRef) :=
  .inspect fun state => state.games.byId gameId

/-- Work under the lock of a game. -/
def lockGame {Result : Type} (ref : GameRef) (act : GameInfo → Except Report Result × GameInfo) :
    Handler Result :=
  .critical fun state =>
    ((act (state.games.arena ref)).1,
      { state with games := state.games.write ref (act (state.games.arena ref)).2 })

/-- `get_game`. -/
def getGame (gameId : UInt32) : Handler (Option GameInfo) := do
  let some ref ← getGameArc gameId | return none
  let game ← Task.inspect fun state : AppState => state.games.arena ref
  return some game

/-- `with_game_mut`. -/
def withGameMut (src : SocketAddr) (change : GameInfo → GameInfo) : Handler Unit := do
  let some client ← getClient src | .fail (.message "Client not found")
  let some gameId := client.gameId | .fail (.message "Game ID not found for client")
  let some ref ← getGameArc gameId | .fail (.panic "Game not found")
  lockGame ref fun game => (.ok (), change game)

/-- `fetch_game_info`. -/
def fetchGameInfo (src : SocketAddr) : Handler GameInfo := do
  let some client ← getClient src | .fail (.message "Client not found: addr")
  let some gameId := client.gameId | .fail (.message "Game ID not found for client: addr")
  let some game ← getGame gameId | .fail (.message "Game not found: game_id")
  return game

/-- `resolve_in_game`: the game of a client and its slot in it. -/
def resolveInGame (src : SocketAddr) : Handler (Option (UInt32 × Nat)) := do
  let some gameId ← Task.inspect fun state : AppState => (state.clients.find src).bind fun client =>
      client.gameId
    | return none
  let some ref ← getGameArc gameId | return none
  let some playerId ← Task.inspect fun state : AppState => (state.games.arena ref).position src
    | return none
  return some (gameId, playerId)

/-! ## Sending -/

/-- `tx.send`; the receiving end lives as long as the server. -/
def sendMessage (frame : Option Frame) (addr : SocketAddr) (data : Bytes) : Handler Unit :=
  .critical fun state =>
    (.ok (), { state with
      tx := state.tx ++
        [⟨data, addr, frame, (state.clients.find addr).bind fun client => client.gameId⟩] })

/-- Make the next datagram of a client. -/
def ClientInfo.makeSendPacket (packetType : UInt8) (data : Bytes) (client : ClientInfo) :
    Bytes × ClientInfo :=
  let (packet, packetGenerator) := client.packetGenerator.makeSendPacket packetType data
  (packet, { client with packetGenerator })

/-- `send_packet`. -/
def sendPacket (addr : SocketAddr) (packetType : UInt8) (data : Bytes) : Handler Unit := do
  let packet ← updateClient addr fun client => client.makeSendPacket packetType data
  sendMessage none addr packet

/-- The message type and the body of an engine response. -/
def responsePacket : ServerResponse → UInt8 × Bytes
  | .gameData data => (Msg.gameData, buildGameDataPacket data)
  | .gameCache position => (Msg.gameCache, buildGameCachePacket position)

/-- `send_packet` of an engine response. -/
def sendOutput (output : TargetOutput) : Handler Unit := do
  let (packetType, data) := responsePacket output.frame.response
  let packet ← updateClientLogging [output] output.addr fun client =>
    client.makeSendPacket packetType data
  sendMessage (some output.frame) output.addr packet

/-- Datagrams for those of the addressed clients which are selected. -/
def makePackets (selected : ClientInfo → Bool) (packetType : UInt8) (data : Bytes) :
    List SocketAddr → ClientRegistry → List (SocketAddr × Bytes) × ClientRegistry
  | [], registry => ([], registry)
  | addr :: rest, registry =>
      match registry.session addr, registry.find addr with
      | some session, some client =>
          if selected client then
            let registry := registry.update session fun client =>
              (client.makeSendPacket packetType data).2
            let (packets, registry) := makePackets selected packetType data rest registry
            ((addr, (client.makeSendPacket packetType data).1) :: packets, registry)
          else makePackets selected packetType data rest registry
      | _, _ => makePackets selected packetType data rest registry

/-- Make the datagrams of selected clients in one section, then queue them. -/
def broadcast (selected : ClientInfo → Bool) (packetType : UInt8) (data : Bytes)
    (addrs : List SocketAddr) : Handler Unit := do
  let packets ← Task.critical fun state : AppState =>
    let (packets, clients) := makePackets selected packetType data addrs state.clients
    (.ok packets, { state with clients })
  Task.forEach packets fun (addr, packet) => sendMessage none addr packet

/-- `NUM_ACKS_FOR_SPEED_TEST`. -/
def numAcksForSpeedTest : UInt16 := 3

/-- `broadcast_packet`: to every client which has finished its login. -/
def broadcastPacket (packetType : UInt8) (data : Bytes) : Handler Unit := do
  let addrs ← getAllClientAddrs
  broadcast (fun client => decide (numAcksForSpeedTest < client.ackCount)) packetType data addrs

/-- `broadcast_packet_to_game`: to the listed players which are still in the game. -/
def broadcastPacketToGame (gameId : UInt32) (packetType : UInt8) (data : Bytes) : Handler Unit := do
  let some game ← getGame gameId | .fail (.message "Game not found")
  broadcast (fun client => decide (client.gameId = some gameId)) packetType data
    (game.players.map GamePlayerInfo.addr)

/-! ## Message bodies -/

/-- `build_join_game_response`. -/
def buildJoinGameResponse (user : ClientInfo) : Bytes :=
  putEmptyString ++ putU32Le 0 ++ putBytesWithNull user.username ++ putU32Le user.ping ++
    putU16Le user.userId ++ [user.connType]

/-- `build_new_game_notification`. -/
def buildNewGameNotification (username gameName emulatorName : Bytes) (gameId : UInt32) : Bytes :=
  putBytesWithNull username ++ putBytesWithNull gameName ++ putBytesWithNull emulatorName ++
    putU32Le gameId

/-- `make_player_information`: every listed player but the requester. -/
def makePlayerInformation (src : SocketAddr) (game : GameInfo) : Handler Bytes := do
  let others ← Task.collect (game.players.filter fun player => player.addr ≠ src) fun player => do
    let client ← getClient player.addr
    let ping := match client with
      | some client => client.ping
      | none => 0
    return putBytesWithNull player.username ++ putU32Le ping ++ putU16Le player.userId ++
      [player.connType]
  return putEmptyString ++ putU32Le (.ofNat (game.players.length - 1)) ++ others.flatten

/-- `make_update_game_status`. -/
def makeUpdateGameStatus (game : GameInfo) : Bytes :=
  putEmptyString ++ putU32Le game.gameId ++ [game.gameStatus, game.numPlayers, game.maxPlayers]

end Direlera.Lobby
