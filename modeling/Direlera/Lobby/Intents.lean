import Direlera.Library.Labelled
import Direlera.Lobby.Server

/-!
# What a section is about to do to a game

Joining, starting and playing look a game up in one section and work on it in a later one.
The later sections carry an `Intent`: what the handler is about to do to which game, as the
sections before it found it. Without the intents the handlers are those of the server.
-/

namespace Direlera.Lobby

open Direlera.Library Direlera.Sync Direlera.Wire

/-- What a handler may read of its copy of a game before it decides to change the game. -/
structure GameCopy where
  players : List GamePlayerInfo
  numPlayers : UInt8
  maxPlayers : UInt8
  gameStatus : UInt8
  live : Bool
deriving DecidableEq, Repr

/-- The copy of a game. -/
def GameInfo.copy (game : GameInfo) : GameCopy :=
  ⟨game.players, game.numPlayers, game.maxPlayers, game.gameStatus, game.syncManager.isSome⟩

/-- What a section is about to do to a game. -/
inductive Intent where
  /-- `handle_join_game` adds its player to the game behind a reference, after it checked a
  copy. -/
  | push (ref : GameRef) (player : GamePlayerInfo) (checked : GameCopy)
  /-- `handle_start_game` drops the tombstones of a game, after it checked a copy. -/
  | purge (ref : GameRef) (checked : GameCopy)
  /-- `handle_start_game` installs the engine which it sized for a snapshot of the players. -/
  | install (ref : GameRef) (players : List GamePlayerInfo)
  /-- `resolve_in_game` looks for the slot of the sender in the game behind a reference. -/
  | locate (gameId : UInt32) (ref : GameRef)
  /-- `update_game` looks up the game in which the sender has a slot. -/
  | lookUp (gameId : UInt32) (slot : Nat)
  /-- `update_game` feeds the input of a slot to the engine of the game behind a reference. -/
  | feed (ref : GameRef) (slot : Nat)
deriving DecidableEq, Repr

/-- A handler whose sections carry intents. -/
abbrev Intentional (Result : Type) := Labelled AppState Intent Report Result

/-! ## The handlers with their intents -/

/-- `lockGame` with an intent. -/
def lockGameTo {Result : Type} (intent : Intent) (ref : GameRef)
    (act : GameInfo → Except Report Result × GameInfo) : Intentional Result :=
  .critical intent fun state =>
    ((act (state.games.arena ref)).1,
      { state with games := state.games.write ref (act (state.games.arena ref)).2 })

/-- `with_game_mut`. -/
def withGameMutTo (intent : GameRef → Intent) (src : SocketAddr) (change : GameInfo → GameInfo) :
    Intentional Unit := do
  let some client ← .ofTask (getClient src) | .fail (.message "Client not found")
  let some gameId := client.gameId | .fail (.message "Game ID not found for client")
  let some ref ← .ofTask (getGameArc gameId) | .fail (.panic "Game not found")
  lockGameTo (intent ref) ref fun game => (.ok (), change game)

/-- `handle_join_game`. -/
def joinGame (data : Bytes) (src : SocketAddr) : Intentional Unit := do
  let some gameId := parseJoinGame data | return ()
  let some client ← .ofTask (getClient src) | .fail (.message "Client not found")
  if client.gameId.isSome then
    return ()
  else
    let some game ← .ofTask (getGame gameId) | return ()
    if game.joinable then
      .ofTask (withClientMut src fun client => { client with gameId := some gameId })
      let player : GamePlayerInfo := ⟨src, client.username, client.userId, client.connType, false⟩
      withGameMutTo (fun ref => .push ref player game.copy) src fun game => game.seat player
      .ofTask (announceJoinedGame src gameId)
    else return ()

/-- The part of `handle_start_game` after its checks of a copy. -/
def startGameFrom (config : Config) (checked : GameCopy) (gameId : UInt32) (src : SocketAddr) :
    Intentional Unit := do
  withGameMutTo (fun ref => .purge ref checked) src GameInfo.purge
  let before ← .ofTask (fetchGameInfo src)
  let delays := before.players.map fun player => player.connType.toNat
  let pings ← .ofTask (fetchPings config before.players)
  let (advertised, startupWarmups) := sizeDelays config before.players pings
  withGameMutTo (fun ref => .install ref before.players) src fun game =>
    game.begin delays startupWarmups config.disableOutputCache
  .ofTask (announceStart gameId src before.players advertised)

/-- `handle_start_game`. -/
def startGame (config : Config) (data : Bytes) (src : SocketAddr) : Intentional Unit := do
  if (readStringBytes data).2.length < 4 then
    return ()
  else
    let some client ← .ofTask (getClient src) | .fail (.message "Client not found")
    let some gameId := client.gameId | .fail (.message "Client not in a game")
    let some game ← .ofTask (getGame gameId) | .fail (.message "Game not found")
    if game.lists src then
      if game.syncManager.isSome then
        .ofTask (broadcastPacketToGame gameId Msg.gameChat
          (buildGameChatPacket client.username (ascii "Game is already started")))
      else if game.ownerUserId = client.userId then
        startGameFrom config game.copy gameId src
      else return ()
    else return ()

/-- `resolve_in_game`. -/
def resolveSlot (src : SocketAddr) : Intentional (Option (UInt32 × Nat)) := do
  let some gameId ← .ofTask (Task.inspect fun state : AppState =>
      (state.clients.find src).bind fun client => client.gameId)
    | return none
  let some ref ← .ofTask (getGameArc gameId) | return none
  let some playerId ← Labelled.inspect (.locate gameId ref) fun state : AppState =>
      (state.games.arena ref).position src
    | return none
  return some (gameId, playerId)

/-- `update_game` with the input of a slot. -/
def updateGameTo {Result : Type} (gameId : UInt32) (playerId : Nat)
    (act : GameRef → AppState → Except Report Result × AppState) : Intentional Result := do
  let some ref ← Labelled.inspect (.lookUp gameId playerId) fun state : AppState =>
      state.games.byId gameId
    | .fail (.panic "Game not found")
  .critical (.feed ref playerId) (act ref)

/-- `handle_game_data`. -/
def gameData (data : Bytes) (src : SocketAddr) : Intentional Unit := do
  let some gameData := parseGameData data | return ()
  let some (gameId, playerId) ← resolveSlot src | return ()
  let targetOutputs ← updateGameTo gameId playerId fun ref =>
    processInput (Report.message "SimpleGameSync not initialized")
      (Report.sync "Game sync error") (fun _ _ => .message "Invalid player_id")
      gameId ref playerId (.gameData gameData)
  .ofTask (Task.forEach targetOutputs sendOutput)

/-- `handle_game_cache`. -/
def gameCache (data : Bytes) (src : SocketAddr) : Intentional Unit := do
  let some position := parseGameCache data | return ()
  let some (gameId, playerId) ← resolveSlot src | return ()
  let processed ← updateGameTo gameId playerId fun ref state =>
    let (result, next) := processInput (.bufferInconsistency "sync_manager not initialized") id
      .invalidPlayerId gameId ref playerId (.gameCache position) state
    (.ok result, next)
  match processed with
  | .ok targetOutputs => .ofTask (Task.forEach targetOutputs sendOutput)
  | .error (.cachePositionNotFound playerId position) =>
      .ofTask (sendPacket src Msg.gameChat (buildGameChatPacket (ascii "Server")
        (ascii "Game Data Error! Game state will be inconsistent!")))
      .fail (.sync "Cache miss" (.cachePositionNotFound playerId position))
  | .error error => .fail (.sync "Game sync error" error)

/-! ## Without the intents -/

theorem erase_withGameMutTo (intent : GameRef → Intent) (src : SocketAddr)
    (change : GameInfo → GameInfo) :
    (withGameMutTo intent src change).erase = withGameMut src change := by
  unfold withGameMutTo withGameMut
  rw [Labelled.erase_bind, Labelled.erase_ofTask]
  congr 1
  funext client
  cases client with
  | none => rfl
  | some client =>
      dsimp only
      cases client.gameId with
      | none => rfl
      | some gameId =>
          dsimp only
          rw [Labelled.erase_bind, Labelled.erase_ofTask]
          congr 1
          funext ref
          cases ref with
          | none => rfl
          | some ref => rfl

theorem erase_joinGame (data : Bytes) (src : SocketAddr) :
    (joinGame data src).erase = handleJoinGame data src := by
  unfold joinGame handleJoinGame
  cases parseJoinGame data with
  | none => rfl
  | some gameId =>
      dsimp only
      rw [Labelled.erase_bind, Labelled.erase_ofTask]
      congr 1
      funext client
      cases client with
      | none => rfl
      | some client =>
          dsimp only
          split
          · rfl
          · rw [Labelled.erase_bind, Labelled.erase_ofTask]
            congr 1
            funext game
            cases game with
            | none => rfl
            | some game =>
                dsimp only
                split
                · simp only [Labelled.erase_bind, Labelled.erase_ofTask, erase_withGameMutTo]
                · rfl

theorem erase_startGameFrom (config : Config) (checked : GameCopy) (gameId : UInt32)
    (src : SocketAddr) :
    (startGameFrom config checked gameId src).erase = startFrom config gameId src := by
  simp only [startGameFrom, startFrom, Labelled.erase_bind, Labelled.erase_ofTask,
    erase_withGameMutTo]

theorem erase_startGame (config : Config) (data : Bytes) (src : SocketAddr) :
    (startGame config data src).erase = handleStartGame config data src := by
  unfold startGame handleStartGame
  split
  · rfl
  · rw [Labelled.erase_bind, Labelled.erase_ofTask]
    congr 1
    funext client
    cases client with
    | none => rfl
    | some client =>
        dsimp only
        cases client.gameId with
        | none => rfl
        | some gameId =>
            dsimp only
            rw [Labelled.erase_bind, Labelled.erase_ofTask]
            congr 1
            funext game
            cases game with
            | none => rfl
            | some game =>
                dsimp only
                split
                · split
                  · exact Labelled.erase_ofTask _
                  · split
                    · exact erase_startGameFrom config game.copy gameId src
                    · rfl
                · rfl

theorem erase_resolveSlot (src : SocketAddr) : (resolveSlot src).erase = resolveInGame src := by
  unfold resolveSlot resolveInGame
  rw [Labelled.erase_bind, Labelled.erase_ofTask]
  congr 1
  funext gameId
  cases gameId with
  | none => rfl
  | some gameId =>
      dsimp only
      rw [Labelled.erase_bind, Labelled.erase_ofTask]
      congr 1
      funext ref
      cases ref with
      | none => rfl
      | some ref =>
          dsimp only
          rw [Labelled.erase_bind, Labelled.erase_inspect]
          congr 1
          funext playerId
          cases playerId with
          | none => rfl
          | some playerId => rfl

theorem erase_updateGameTo {Result : Type} (gameId : UInt32) (playerId : Nat)
    (act : GameRef → AppState → Except Report Result × AppState) :
    (updateGameTo gameId playerId act).erase = (do
      let some ref ← getGameArc gameId | .fail (.panic "Game not found")
      .critical (act ref)) := by
  unfold updateGameTo
  rw [Labelled.erase_bind]
  congr 1
  funext ref
  cases ref with
  | none => rfl
  | some ref => rfl

/-- What follows the lookup of a game is done after it. -/
theorem getGameArc_bind {Result Next : Type} (gameId : UInt32)
    (act : GameRef → AppState → Except Report Result × AppState)
    (continuation : Result → Handler Next) :
    ((do
      let some ref ← getGameArc gameId | .fail (.panic "Game not found")
      Task.critical (act ref)) >>= continuation) = (do
      let some ref ← getGameArc gameId | .fail (.panic "Game not found")
      Task.critical (act ref) >>= continuation) := by
  rw [Task.bind_assoc]
  congr 1
  funext ref
  cases ref with
  | none => rfl
  | some ref => rfl

theorem erase_gameData (data : Bytes) (src : SocketAddr) :
    (gameData data src).erase = handleGameData data src := by
  unfold gameData handleGameData
  cases parseGameData data with
  | none => rfl
  | some input =>
      dsimp only
      rw [Labelled.erase_bind, erase_resolveSlot]
      congr 1
      funext resolved
      cases resolved with
      | none => rfl
      | some resolved =>
          dsimp only
          simp only [Labelled.erase_bind, erase_updateGameTo, Labelled.erase_ofTask]
          rewrite [getGameArc_bind]
          rfl

theorem erase_gameCache (data : Bytes) (src : SocketAddr) :
    (gameCache data src).erase = handleGameCache data src := by
  unfold gameCache handleGameCache
  cases parseGameCache data with
  | none => rfl
  | some position =>
      dsimp only
      rw [Labelled.erase_bind, erase_resolveSlot]
      congr 1
      funext resolved
      cases resolved with
      | none => rfl
      | some resolved =>
          dsimp only
          rw [Labelled.erase_bind, erase_updateGameTo, getGameArc_bind]
          congr 1
          funext ref
          cases ref with
          | none => rfl
          | some ref =>
              dsimp only
              congr 1
              funext processed
              cases processed with
              | ok targetOutputs => exact Labelled.erase_ofTask _
              | error error =>
                  cases error with
                  | cachePositionNotFound playerId position =>
                      dsimp only
                      rw [Labelled.erase_bind, Labelled.erase_ofTask]
                      rfl
                  | invalidPlayerId _ _ | bufferInconsistency _ => rfl

/-! ## Sessions -/

/-- What a session may be busy with: a message of its client, or the part of a login which
tears down the stale session of another address. -/
inductive Errand where
  | handle (request : Request)
  | evict (old : SocketAddr)
deriving DecidableEq, Repr

/-- The part of `handle_user_login` which evicts a stale session, with its client already
found by name. -/
def evictStale (old : SocketAddr) : Handler Unit := do
  let _ ← (handleQuitGame old).attempt
  match ← removeClient old with
  | some evicted =>
      broadcastPacket Msg.userQuit
        (buildUserQuitPacket evicted.username evicted.userId (ascii "reconnected"))
      closeSession old
  | none => return ()

/-- An errand of a session. -/
def runErrand (config : Config) (src : SocketAddr) : Errand → Handler Unit
  | .handle request => handleMessage config src request
  | .evict old => evictStale old

/-- An errand with its intents. -/
def intentions (config : Config) (src : SocketAddr) : Errand → Intentional Unit
  | .handle (.joinGame data) => joinGame data src
  | .handle (.startGame data) => startGame config data src
  | .handle (.gameData data) => gameData data src
  | .handle (.gameCache data) => gameCache data src
  | errand => .ofTask (runErrand config src errand)

/-- Without the intents a session runs the handlers of the server. -/
theorem erase_intentions (config : Config) (src : SocketAddr) (errand : Errand) :
    (intentions config src errand).erase = runErrand config src errand := by
  cases errand with
  | evict old => exact Labelled.erase_ofTask _
  | handle request =>
      cases request with
      | joinGame data => exact erase_joinGame data src
      | startGame data => exact erase_startGame config data src
      | gameData data => exact erase_gameData data src
      | gameCache data => exact erase_gameCache data src
      | createGame _ | quitGame _ | userQuit _ | kickUser _ | dropGame _ | readyToPlay _ =>
          exact Labelled.erase_ofTask _

/-- The sessions of a server, which take errands in any order and take turns section by
section. -/
abbrev rooms (config : Config) :
    Program AppState Report Unit SocketAddr Errand (Option (Intentional Unit)) :=
  .labelled (intentions config)

/-- The sessions of a server with what is left of their errands. -/
abbrev RoomPool := LabelledPool AppState Intent Report Unit SocketAddr

end Direlera.Lobby
