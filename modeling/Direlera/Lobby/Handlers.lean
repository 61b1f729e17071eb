import Direlera.Lobby.Access
import Direlera.Lobby.Room

/-!
# The message handlers

Each handler follows its source section by section; an early return keeps what was
done before it. Log lines are left out.
-/

namespace Direlera.Lobby

open Direlera.Library Direlera.Sync Direlera.Wire

/-! ## Creating and joining -/

/-- The opening check of `handle_create_game`: whether the client is listed in its game.
A stale `game_id` is cleared. -/
def checkAlreadyInGame (src : SocketAddr) : Handler Bool := do
  let some client ← getClient src | return false
  let some existingGameId := client.gameId | return false
  let existingGame ← getGame existingGameId
  if existingGame.any fun game => game.lists src then
    return true
  else
    withClientMut src fun client => { client with gameId := none }
    return false

/-- The fresh game of its creator. -/
def createdGame (gameId : UInt32) (gameName : Bytes) (src : SocketAddr) (client : Member) :
    GameInfo where
  gameId := gameId
  gameName := gameName
  emulatorName := client.emulatorName
  owner := client.username
  ownerUserId := client.userId
  numPlayers := 1
  maxPlayers := 4
  gameStatus := gameStatusWaiting
  players := [⟨src, client.username, client.userId, client.connType, false⟩]
  syncManager := none

/-- The notifications of `handle_create_game`. -/
def announceCreatedGame (src : SocketAddr) (gameId : UInt32) (game : GameInfo)
    (client : ClientInfo) : Handler Unit := do
  broadcastPacket Msg.createGame
    (buildNewGameNotification client.username game.gameName client.emulatorName gameId)
  broadcastPacket Msg.updateGameStatus (makeUpdateGameStatus game)
  let playersInfo ← makePlayerInformation src game
  sendPacket src Msg.playerInformation playersInfo
  let some client ← getClient src | .fail (.message "Client not found")
  sendPacket src Msg.joinGame (buildJoinGameResponse client)

/-- The game name of a create request, cut to 127 bytes. -/
def parseCreateGame (data : Bytes) : Bytes :=
  let (_, buf) := readStringBytes data
  let (gameName, _) := readStringBytes buf
  gameName.take 127

/-- `handle_create_game`. -/
def handleCreateGame (data : Bytes) (src : SocketAddr) : Handler Unit := do
  if ← checkAlreadyInGame src then
    return ()
  else
    let gameId ← takeNextGameId
    let client ← fetchClientInfo src
    let game := createdGame gameId (parseCreateGame data) src client.toMember
    addGame gameId game
    withClientMut src fun client => { client with gameId := some gameId }
    announceCreatedGame src gameId game client

/-- The game id of a join request, unless the payload is malformed. -/
def parseJoinGame (data : Bytes) : Option UInt32 :=
  let (_, buf) := readStringBytes data
  if buf.length < 11 then none
  else
    let (gameId, buf) := getU32Le buf
    let (_, buf) := readStringBytes buf
    if buf.length < 7 then none else some gameId

/-- The notifications of `handle_join_game`. -/
def announceJoinedGame (src : SocketAddr) (gameId : UInt32) : Handler Unit := do
  let some game ← getGame gameId | .fail (.message "Game not found")
  let addrs ← getAllClientAddrs
  Task.forEach addrs fun addr => sendPacket addr Msg.updateGameStatus (makeUpdateGameStatus game)
  let playersInfo ← makePlayerInformation src game
  sendPacket src Msg.playerInformation playersInfo
  let some client ← getClient src | .fail (.message "Client not found")
  broadcastPacketToGame gameId Msg.joinGame (buildJoinGameResponse client)

/-- Whether a waiting game has room for one more player. -/
def GameInfo.joinable (game : GameInfo) : Bool :=
  game.gameStatus == gameStatusWaiting && game.syncManager.isNone &&
    decide (game.numPlayers < game.maxPlayers)

/-- `handle_join_game`. -/
def handleJoinGame (data : Bytes) (src : SocketAddr) : Handler Unit := do
  let some gameId := parseJoinGame data | return ()
  let some client ← getClient src | .fail (.message "Client not found")
  if client.gameId.isSome then
    return ()
  else
    let some game ← getGame gameId | return ()
    if game.joinable then
      withClientMut src fun client => { client with gameId := some gameId }
      withGameMut src fun game =>
        game.seat ⟨src, client.username, client.userId, client.connType, false⟩
      announceJoinedGame src gameId
    else return ()

/-! ## Dropping -/

/-- The frames of a game's engine with the addresses of their slots. -/
def GameInfo.targets (game : GameInfo) (frames : List Frame) : List TargetOutput :=
  frames.filterMap game.target

/-- The section of `execute_drop_game` which marks the slot. It returns the released
frames, the players by slot, and whether the game ended; when it did, the new status is
broadcast before the lock is released. -/
def markDropped (gameId : UInt32) (ref : GameRef) (playerId : Nat) (state : AppState) :
    Except Report (List Frame × List GamePlayerInfo × Bool) × AppState :=
  let game := state.games.arena ref
  match game.syncManager with
  | none => (.error (.message "Sync manager not found"), state)
  | some sync =>
      match sync.call gameId (.drop playerId) with
      | (.error error, sync) =>
          (.error (.sync "Failed to mark player dropped" error),
            { state with
              games := state.games.write ref { game with syncManager := some sync }
              calls := state.calls ++ [(gameId, Call.drop playerId)] })
      | (.ok frames, sync) =>
          let marked := { game with syncManager := some sync }
          let logged := { state with
            calls := state.calls ++ [(gameId, Call.drop playerId)]
            produced := state.produced ++ game.targets frames }
          if sync.allPlayersDropped then
            let status := broadcastPacket Msg.updateGameStatus (makeUpdateGameStatus marked.finish)
            match status.run { logged with games := state.games.write ref marked.finish } with
            | (.ok _, state) => (.ok (frames, game.players, true), state)
            | (.error error, state) => (.error error, state)
          else
            (.ok (frames, game.players, false),
              { logged with games := state.games.write ref marked })

/-- Send one released frame to the player of its slot. -/
def sendFrame (players : List GamePlayerInfo) (frame : Frame) : Handler Unit :=
  match players[frame.slot]? with
  | none => .fail (.message "Invalid player_id")
  | some player => sendOutput ⟨player.addr, frame⟩

/-- The part of `execute_drop_game` after the lock, in a room which stays open. -/
def announceDrop (gameId : UInt32) (username : Bytes) (playerId : Nat) (frames : List Frame)
    (players : List GamePlayerInfo) : Handler Bool := do
  Task.forEach players fun player =>
    withClientMut player.addr fun client => { client with playerStatus := playerStatusIdle }
  broadcastPacketToGame gameId Msg.dropGame
    (buildDropGamePacket username (.ofNat (playerId + 1)))
  Task.forEach frames (sendFrame players)
  return true

/-- The slot of the dropping player, if the game is being played. -/
def dropperSlot (src : SocketAddr) (game : GameInfo) : Option Nat :=
  if game.gameStatus = gameStatusPlaying then game.position src else none

/-- `execute_drop_game`. -/
def executeDropGame (gameId : UInt32) (src : SocketAddr) : Handler Bool := do
  let some client ← getClient src | .fail (.message "Client not found")
  let some ref ← getGameArc gameId | return false
  let some playerId ← Task.inspect fun state : AppState => dropperSlot src (state.games.arena ref)
    | return false
  let some ref ← getGameArc gameId | .fail (.message "Game not found")
  let (frames, players, allDropped) ← Task.critical (markDropped gameId ref playerId)
  if allDropped then
    let game ← getGame gameId
    if game.all fun game => game.players.isEmpty then
      removeGame gameId
      broadcastPacket Msg.closeGame (buildCloseGamePacket gameId)
      return true
    else announceDrop gameId client.username playerId frames players
  else announceDrop gameId client.username playerId frames players

/-- `handle_drop_game`. -/
def handleDropGame (src : SocketAddr) : Handler Unit := do
  let some (gameId, _) ← resolveInGame src | return ()
  let _ ← executeDropGame gameId src

/-! ## Leaving -/

/-- The client returns to the lobby. -/
def ClientInfo.toLobby (client : ClientInfo) : ClientInfo :=
  { client with gameId := none, playerStatus := playerStatusIdle }

/-- Tell the lobby the new status of a game, if it still exists. -/
def announceStatus (gameId : UInt32) : Handler Unit := do
  let some game ← getGame gameId | return ()
  broadcastPacket Msg.updateGameStatus (makeUpdateGameStatus game)

/-- What follows a quit, by its outcome. -/
def settleQuit (gameId : UInt32) (src : SocketAddr) (quitData : Bytes) :
    GameInfo.QuitOutcome → Handler Unit
  | .playing => do
      let _ ← (executeDropGame gameId src).attempt
      match ← getGame gameId with
      | some game =>
          broadcastPacketToGame gameId Msg.quitGame quitData
          broadcastPacket Msg.updateGameStatus (makeUpdateGameStatus game)
      | none => broadcastPacket Msg.quitGame quitData
  | .waitingClosed => do
      removeGame gameId
      broadcastPacket Msg.closeGame (buildCloseGamePacket gameId)
      broadcastPacket Msg.quitGame quitData
  | .waitingOpen => do
      broadcastPacketToGame gameId Msg.quitGame quitData
      announceStatus gameId

/-- Announce the new host, if ownership migrated and the room still exists. -/
def announceOwner (gameId : UInt32) : Option Bytes → Handler Unit
  | none => return ()
  | some owner => do
      let some _ ← getGame gameId | return ()
      broadcastPacketToGame gameId Msg.gameChat
        (buildGameChatPacket (ascii "Server") (owner ++ ascii " is now the room host"))

/-- `handle_quit_game`. -/
def handleQuitGame (src : SocketAddr) : Handler Unit := do
  let some client ← getClient src | return ()
  let some gameId := client.gameId | return ()
  let some ref ← getGameArc gameId | return ()
  withClientMut src ClientInfo.toLobby
  let (outcome, newOwner) ← lockGame ref fun game => (.ok (game.leave src).1, (game.leave src).2)
  settleQuit gameId src (buildQuitGamePacket client.username client.userId) outcome
  announceOwner gameId newOwner

/-- The message of a user quit. -/
def parseUserQuit (data : Bytes) : Bytes :=
  let (_, buf) := readStringBytes data
  (readStringBytes (if 2 ≤ buf.length then buf.drop 2 else buf)).1

/-- `handle_user_quit`. -/
def handleUserQuit (data : Bytes) (src : SocketAddr) : Handler Unit := do
  handleQuitGame src
  match ← removeClient src with
  | some client =>
      broadcastPacket Msg.userQuit
        (buildUserQuitPacket client.username client.userId (parseUserQuit data))
  | none => pure ()
  closeSession src

/-- The user id of a kick request, unless the payload is malformed. -/
def parseKickUser (data : Bytes) : Option UInt16 :=
  let (_, buf) := readStringBytes data
  if buf.length < 2 then none else some (getU16Le buf).1

/-- The client of a user id. -/
def ClientRegistry.findByUserId (registry : ClientRegistry) (userId : UInt16) :
    Option (SocketAddr × ClientInfo) :=
  registry.byAddr.findSome? fun (addr, session) =>
    (registry.byId session).bind fun client =>
      if client.userId = userId then some (addr, client) else none

/-- The notifications of `handle_kick_user`. -/
def announceKick (gameId : UInt32) (addr : SocketAddr) (quitData : Bytes) : Handler Unit := do
  sendPacket addr Msg.quitGame quitData
  let some game ← getGame gameId | return ()
  broadcastPacketToGame gameId Msg.quitGame quitData
  broadcastPacket Msg.updateGameStatus (makeUpdateGameStatus game)

/-- The part of `handle_kick_user` after its checks. -/
def kickFrom (gameId : UInt32) (addr : SocketAddr) (quitData : Bytes) : Handler Unit := do
  let some ref ← getGameArc gameId | return ()
  let _ ← (withClientMut addr ClientInfo.toLobby).attempt
  let outcome ← lockGame ref fun game => (.ok (game.leave addr).1.1, (game.leave addr).2)
  if outcome = .playing then
    let _ ← (executeDropGame gameId addr).attempt
    announceKick gameId addr quitData
  else announceKick gameId addr quitData

/-- `handle_kick_user`. -/
def handleKickUser (data : Bytes) (src : SocketAddr) : Handler Unit := do
  let some userId := parseKickUser data | return ()
  let some requester ← getClient src | .fail (.message "Requester not found")
  let some requesterGameId := requester.gameId | .fail (.message "Requester not in a game")
  let some game ← getGame requesterGameId | .fail (.message "Game not found")
  if game.lists src = true ∧ game.ownerUserId = requester.userId then
    let some (addr, kicked) ← Task.inspect fun state : AppState => state.clients.findByUserId userId
      | return ()
    let some target ← getClient addr | return ()
    if target.gameId = some requesterGameId then
      kickFrom requesterGameId addr (buildQuitGamePacket kicked.username kicked.userId)
    else return ()
  else return ()

/-! ## Starting -/

/-- `auto_game_delay_frames`. -/
def autoGameDelayFrames (pingMs : UInt32) (connType : UInt8) : Nat :=
  let conn := if connType.toFloat < 1.0 then 1.0 else connType.toFloat
  let frames := (60.0 / conn * (pingMs.toFloat / 1000.0)).floor.toUInt64.toNat + 1
  max frames 1

/-- `EMULINKER_STARTUP_PADDING_FRAMES`. -/
def emulinkerStartupPaddingFrames : Nat := 5

/-- `emulinker_startup_warmup_frames`. -/
def emulinkerStartupWarmupFrames (highestDelay playerDelay : Nat) : Nat :=
  highestDelay + (highestDelay - playerDelay) + emulinkerStartupPaddingFrames

/-- Advertised delays and startup warmups of the players, from their pings. -/
def sizeDelays (config : Config) (players : List GamePlayerInfo) (pings : List UInt32) :
    List Nat × List Nat :=
  match config.fixedGameDelay with
  | some delay =>
      let fixed := delay.toNat
      if fixed = 0 then
        (players.map fun player => player.connType.toNat, List.replicate players.length 0)
      else (List.replicate players.length fixed, List.replicate players.length fixed)
  | none =>
      let frameDelays := List.zipWith (fun player ping => autoGameDelayFrames ping player.connType)
        players pings
      let highestDelay := frameDelays.max?.getD 1
      let warmups := frameDelays.map (emulinkerStartupWarmupFrames highestDelay)
      let shared := highestDelay + config.sharedGameDelayWindowMarginFrames.toNat
      if config.sameGameDelay || config.sharedGameDelayWindow then
        (List.replicate players.length shared, warmups)
      else (frameDelays, warmups)

/-- The pings of the players, asked for only when delays are sized from them. -/
def fetchPings (config : Config) (players : List GamePlayerInfo) : Handler (List UInt32) :=
  match config.fixedGameDelay with
  | some _ => return []
  | none => Task.collect players fun player => do
      let client ← getClient player.addr
      match client with
      | some client => return client.ping
      | none => return 0

/-- `Game delays: P1=.., P2=..`. -/
def delaysText (advertised : List Nat) : String :=
  "Game delays: " ++ ", ".intercalate
    (advertised.mapIdx fun slot delay => "P" ++ toString (slot + 1) ++ "=" ++ toString delay)

/-- The notifications of `handle_start_game`. -/
def announceStart (gameId : UInt32) (src : SocketAddr) (players : List GamePlayerInfo)
    (advertised : List Nat) : Handler Unit := do
  Task.forEach players fun player =>
    withClientMut player.addr fun client => { client with playerStatus := playerStatusIdle }
  let game ← fetchGameInfo src
  broadcastPacket Msg.updateGameStatus (makeUpdateGameStatus game)
  Task.forEach game.players.zipIdx fun (player, slot) =>
    let delay := advertised.getD slot player.connType.toNat
    sendPacket player.addr Msg.startGame
      (buildStartGamePacket (.ofNat delay) (.ofNat (slot + 1)) (.ofNat game.players.length))
  broadcastPacketToGame gameId Msg.gameChat
    (buildGameChatPacket (ascii "Server") (ascii (delaysText advertised)))

/-- The part of `handle_start_game` after its checks. -/
def startFrom (config : Config) (gameId : UInt32) (src : SocketAddr) : Handler Unit := do
  withGameMut src GameInfo.purge
  let before ← fetchGameInfo src
  let delays := before.players.map fun player => player.connType.toNat
  let pings ← fetchPings config before.players
  let (advertised, startupWarmups) := sizeDelays config before.players pings
  withGameMut src fun game => game.begin delays startupWarmups config.disableOutputCache
  announceStart gameId src before.players advertised

/-- `handle_start_game`. -/
def handleStartGame (config : Config) (data : Bytes) (src : SocketAddr) : Handler Unit := do
  if (readStringBytes data).2.length < 4 then
    return ()
  else
    let some client ← getClient src | .fail (.message "Client not found")
    let some gameId := client.gameId | .fail (.message "Client not in a game")
    let some game ← getGame gameId | .fail (.message "Game not found")
    if game.lists src then
      if game.syncManager.isSome then
        broadcastPacketToGame gameId Msg.gameChat
          (buildGameChatPacket client.username (ascii "Game is already started"))
      else if game.ownerUserId = client.userId then
        startFrom config gameId src
      else return ()
    else return ()

/-! ## Playing -/

/-- The section of `handle_game_data` and `handle_game_cache`: feed the engine and look
up the address of every response. The three errors are the caller's. -/
def processInput {Failure : Type} (notInitialized : Failure) (engineError : GameSyncError → Failure)
    (invalidPlayer : Nat → Nat → Failure) (gameId : UInt32) (ref : GameRef) (playerId : Nat)
    (input : ClientInput) (state : AppState) :
    Except Failure (List TargetOutput) × AppState :=
  let game := state.games.arena ref
  match game.syncManager with
  | none => (.error notInitialized, state)
  | some sync =>
      let (result, sync) := sync.call gameId (.input playerId input)
      let stepped := { state with
        games := state.games.write ref { game with syncManager := some sync }
        calls := state.calls ++ [(gameId, Call.input playerId input)] }
      match result with
      | .error error => (.error (engineError error), stepped)
      | .ok frames =>
          match frames.find? fun frame => (game.target frame).isNone with
          | some frame => (.error (invalidPlayer frame.slot game.players.length), stepped)
          | none =>
              (.ok (game.targets frames),
                { stepped with produced := state.produced ++ game.targets frames })

/-- The literal input of a game data message, unless the payload is malformed. -/
def parseGameData (data : Bytes) : Option Bytes :=
  if data.length < 3 then none
  else
    let (_, buf) := getU8 data
    let (dataLength, buf) := getU16Le buf
    if buf.length < dataLength.toNat then none else some (buf.take dataLength.toNat)

/-- `handle_game_data`. -/
def handleGameData (data : Bytes) (src : SocketAddr) : Handler Unit := do
  let some gameData := parseGameData data | return ()
  let some (gameId, playerId) ← resolveInGame src | return ()
  let some ref ← getGameArc gameId | .fail (.panic "Game not found")
  let targetOutputs ← Task.critical (processInput (Report.message "SimpleGameSync not initialized")
    (Report.sync "Game sync error") (fun _ _ => .message "Invalid player_id")
    gameId ref playerId (.gameData gameData))
  Task.forEach targetOutputs sendOutput

/-- The cache position of a game cache message, unless the payload is malformed. -/
def parseGameCache (data : Bytes) : Option UInt8 :=
  if data.length < 2 then none else some (getU8 (getU8 data).2).1

/-- The section of `handle_game_cache` keeps the engine's error to inspect it. -/
def processCache (gameId : UInt32) (ref : GameRef) (playerId : Nat) (position : UInt8) :
    Handler (Except GameSyncError (List TargetOutput)) :=
  .critical fun state =>
    let (result, next) := processInput (.bufferInconsistency "sync_manager not initialized") id
      .invalidPlayerId gameId ref playerId (.gameCache position) state
    (.ok result, next)

/-- `handle_game_cache`. -/
def handleGameCache (data : Bytes) (src : SocketAddr) : Handler Unit := do
  let some position := parseGameCache data | return ()
  let some (gameId, playerId) ← resolveInGame src | return ()
  let some ref ← getGameArc gameId | .fail (.panic "Game not found")
  match ← processCache gameId ref playerId position with
  | .ok targetOutputs => Task.forEach targetOutputs sendOutput
  | .error (.cachePositionNotFound playerId position) =>
      sendPacket src Msg.gameChat (buildGameChatPacket (ascii "Server")
        (ascii "Game Data Error! Game state will be inconsistent!"))
      .fail (.sync "Cache miss" (.cachePositionNotFound playerId position))
  | .error error => .fail (.sync "Game sync error" error)

/-- `handle_ready_to_play_signal`. -/
def handleReadyToPlaySignal (data : Bytes) (src : SocketAddr) : Handler Unit := do
  if data.isEmpty then
    return ()
  else
    let alreadyPlaying ← updateClient src fun client =>
      if client.playerStatus = playerStatusPlaying then (true, client)
      else (false, { client with playerStatus := playerStatusNetSync })
    if alreadyPlaying then
      return ()
    else
      let game ← fetchGameInfo src
      broadcastPacket Msg.updateGameStatus (makeUpdateGameStatus game)
      let allReady ← Task.inspect fun state : AppState => game.players.all fun player =>
        (state.clients.find player.addr).any fun client => client.playerStatus == playerStatusNetSync
      if allReady then
        Task.forEach game.players fun player => do
          let _ ← (withClientMut player.addr fun client =>
            { client with playerStatus := playerStatusPlaying }).attempt
        broadcastPacketToGame game.gameId Msg.readyToPlay buildReadyToPlayPacket
      else return ()

end Direlera.Lobby
