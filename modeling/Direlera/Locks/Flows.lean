import Direlera.Library.LockFlows

/-!
# The locks of the server

What every function of the server does with its locks, as its source does it: a guard is given
back at the end of its block, and a function may return after each of its steps. Sending into a
channel takes no lock. A `Scene` says which of the two sections may occur which nest their
locks against each other: the list of users and games for a client whose handshake is complete,
and the end of a game whose last player drops.
-/

namespace Direlera.Locks

open Direlera.Library LockFlow

/-- The locks of `SessionManager` and `AppState`; a game is behind its own one. -/
inductive Lock where
  | sessions
  | clientsByAddr
  | clientsById
  | games
  | game (ref : Nat)
deriving DecidableEq, Repr

/-- What an execution does with these locks. -/
abbrev Flow := LockFlow Lock

/-- Which sections may occur. -/
structure Scene where
  status : Bool
  lastDrop : Bool
deriving DecidableEq, Repr

/-! ## `AppState` -/

/-- Look a client up: through its address, and if that is known through its session. -/
def lookUpClient : Flow := read .clientsByAddr (maybe (read .clientsById skip))

/-- Both client maps, to read them together. -/
def readClients (body : Flow) : Flow := read .clientsByAddr (read .clientsById body)

/-- Lock any one game. -/
def lockGame (body : Flow) : Flow := pick fun ref => write (.game ref) body

/-- `get_client`. -/
def getClient : Flow := lookUpClient

/-- `add_client`. -/
def addClient : Flow := write .clientsByAddr (write .clientsById skip)

/-- `remove_client`. -/
def removeClient : Flow := write .clientsByAddr (maybe (write .clientsById skip))

/-- `remove_client_by_username`. -/
def removeClientByUsername : Flow :=
  steps [read .clientsById skip, write .clientsByAddr skip, write .clientsById skip]

/-- `find_client_by_username`. -/
def findClientByUsername : Flow := steps [read .clientsById skip, read .clientsByAddr skip]

/-- `update_client_activity`. -/
def updateClientActivity : Flow := lookUpClient

/-- `get_all_client_addrs`. -/
def getAllClientAddrs : Flow := read .clientsByAddr skip

/-- `add_game`. -/
def addGame : Flow := write .games skip

/-- `get_game`. -/
def getGame : Flow := steps [read .games skip, lockGame skip]

/-- `remove_game`. -/
def removeGame : Flow := steps [write .games skip, lockGame skip]

/-- `update_game`. -/
def updateGame : Flow := steps [read .games skip, lockGame skip]

/-- `get_game_arc`. -/
def getGameArc : Flow := read .games skip

/-- `update_client`. -/
def updateClient : Flow := steps [read .clientsByAddr skip, write .clientsById skip]

/-! ## Utilities of the handlers -/

/-- `make_player_information`. -/
def makePlayerInformation : Flow := many getClient

/-- `make_user_joined`. -/
def makeUserJoined : Flow := getClient

/-- `send_packet`. -/
def sendPacket : Flow := updateClient

/-- `broadcast_packet`. -/
def broadcastPacket : Flow :=
  steps [getAllClientAddrs, read .clientsByAddr (write .clientsById skip)]

/-- `broadcast_packet_to_game`. -/
def broadcastPacketToGame : Flow :=
  steps [getGame, read .clientsByAddr (write .clientsById skip)]

/-- `make_server_status`: it locks every game while it holds both client maps. -/
def makeServerStatus : Flow := readClients (steps [read .games skip, many (lockGame skip)])

/-- `fetch_client_info`. -/
def fetchClientInfo : Flow := getClient

/-- `fetch_game_info`. -/
def fetchGameInfo : Flow := steps [getClient, getGame]

/-- `resolve_in_game`. -/
def resolveInGame : Flow := steps [lookUpClient, read .games skip, lockGame skip]

/-- `with_client_mut`. -/
def withClientMut : Flow := updateClient

/-- `with_game_mut`. -/
def withGameMut : Flow := steps [getClient, updateGame]

/-! ## Handlers of games -/

/-- `handle_create_game`. -/
def handleCreateGame : Flow :=
  steps [getClient, maybe (steps [getGame, withClientMut]), fetchClientInfo, addGame,
    withClientMut, broadcastPacket, broadcastPacket, makePlayerInformation, sendPacket, getClient,
    sendPacket]

/-- `handle_join_game`. -/
def handleJoinGame : Flow :=
  steps [getClient, getGame, withClientMut, withGameMut, getGame, getAllClientAddrs,
    many sendPacket, makePlayerInformation, sendPacket, getClient, broadcastPacketToGame]

/-- The section of `execute_drop_game` which marks a player. When it was the last one, the new
status is broadcast before the game is unlocked. -/
def markDropped (scene : Scene) : Flow := lockGame (maybeWhen scene.lastDrop broadcastPacket)

/-- `execute_drop_game`. -/
def executeDropGame (scene : Scene) : Flow :=
  steps [getClient, getGameArc, lockGame skip, getGameArc, markDropped scene,
    oneOf [
      steps [getGame, removeGame, broadcastPacket],
      steps [maybe getGame, many withClientMut, broadcastPacketToGame, many sendPacket]]]

/-- `handle_drop_game`. -/
def handleDropGame (scene : Scene) : Flow := steps [resolveInGame, executeDropGame scene]

/-- `handle_quit_game`. -/
def handleQuitGame (scene : Scene) : Flow :=
  steps [getClient, getGameArc, withClientMut, lockGame skip,
    oneOf [
      steps [executeDropGame scene, getGame, maybe broadcastPacketToGame, broadcastPacket],
      steps [removeGame, broadcastPacket, broadcastPacket],
      steps [broadcastPacketToGame, getGame, broadcastPacket]],
    maybe (steps [getGame, broadcastPacketToGame])]

/-- `handle_start_game`. -/
def handleStartGame : Flow :=
  steps [getClient, getGame,
    oneOf [
      broadcastPacketToGame,
      steps [withGameMut, fetchGameInfo, many getClient, withGameMut, many withClientMut,
        fetchGameInfo, broadcastPacket, many sendPacket, broadcastPacketToGame]]]

/-- `handle_kick_user`. -/
def handleKickUser (scene : Scene) : Flow :=
  steps [getClient, getGame, readClients skip, getClient, getGameArc, withClientMut,
    lockGame skip, maybe (executeDropGame scene), sendPacket, getGame, broadcastPacketToGame,
    broadcastPacket]

/-! ## Handlers of players' input -/

/-- `handle_game_data`. -/
def handleGameData : Flow := steps [resolveInGame, updateGame, many sendPacket]

/-- `handle_game_cache`; a cache miss is answered by one packet. -/
def handleGameCache : Flow := steps [resolveInGame, updateGame, many sendPacket]

/-- `handle_ready_to_play_signal`. -/
def handleReadyToPlaySignal : Flow :=
  steps [updateClient, fetchGameInfo, broadcastPacket, readClients skip, many updateClient,
    broadcastPacketToGame]

/-! ## Handlers of users -/

/-- `handle_user_login`. -/
def handleUserLogin (scene : Scene) : Flow :=
  steps [findClientByUsername, maybe (handleQuitGame scene),
    maybe (steps [removeClientByUsername, broadcastPacket]), addClient, sendPacket]

/-- `handle_user_quit`. -/
def handleUserQuit (scene : Scene) : Flow :=
  steps [handleQuitGame scene, removeClient, maybe broadcastPacket]

/-- `handle_global_chat`. -/
def handleGlobalChat : Flow := steps [getClient, broadcastPacket]

/-- `handle_game_chat`. -/
def handleGameChat : Flow := steps [getClient, getGame, broadcastPacketToGame]

/-- What a client is told whose handshake is complete. -/
def welcomeClient : Flow :=
  steps [makeServerStatus, sendPacket, makeUserJoined, broadcastPacket, many sendPacket]

/-- `handle_client_to_server_ack`. -/
def handleClientToServerAck (scene : Scene) : Flow :=
  steps [updateClient, oneOf [sendPacket, maybeWhen scene.status welcomeClient]]

/-- `handle_client_keep_alive`. -/
def handleClientKeepAlive : Flow := skip

/-- `handle_message`; an unknown message is only logged. -/
def handleMessage (scene : Scene) : Flow :=
  oneOf [handleUserQuit scene, handleUserLogin scene, handleClientToServerAck scene,
    handleGlobalChat, handleGameChat, handleClientKeepAlive, handleCreateGame,
    handleQuitGame scene, handleJoinGame, handleKickUser scene, handleStartGame,
    handleGameData, handleGameCache, handleDropGame scene, handleReadyToPlaySignal]

/-! ## Tasks of the server -/

/-- `process_packet_in_session`: the messages of a packet, and those which waited for them. -/
def processPacketInSession (scene : Scene) : Flow := many (handleMessage scene)

/-- One round of `handle_session` with a packet. -/
def receivePacket (scene : Scene) : Flow :=
  steps [write .sessions skip, updateClientActivity, processPacketInSession scene,
    maybe getClient]

/-- A client quits its game, if it is in one, is removed, and the lobby hears why. -/
def expel (scene : Scene) : Flow :=
  steps [maybe (handleQuitGame scene), removeClient, maybe broadcastPacket]

/-- `handle_session`: its packets, its end by a closed channel or by silence, and the cleanup. -/
def handleSession (scene : Scene) : Flow :=
  steps [many (receivePacket scene), getClient,
    oneOf [expel scene, steps [broadcastPacket, maybe (expel scene)]],
    write .sessions skip, removeClient]

/-- `SessionManager::run`. -/
def sessionManagerRun : Flow :=
  many (oneOf [steps [read .sessions skip, write .sessions skip], write .sessions skip])

/-- `start_cleanup_task`. -/
def startCleanupTask (scene : Scene) : Flow :=
  many (steps [write .sessions skip,
    many (steps [getClient, oneOf [expel scene, removeClient]])])

/-- `start_stall_resend_task`. -/
def startStallResendTask : Flow :=
  many (steps [read .games skip, many (lockGame skip), many (readClients skip)])

/-- `start_login_resend_task`. -/
def startLoginResendTask : Flow := many (readClients skip)

/-- `collect` of the master list: every game is locked while the map of games is held. -/
def collect : Flow := steps [read .clientsById skip, read .games (many (lockGame skip))]

/-- `master_list::run`. -/
def masterListRun : Flow := many collect

/-- The tasks which the server spawns; there is one `session` for each address. -/
inductive ServerTask where
  | session
  | sessionManager
  | cleanup
  | stallResend
  | loginResend
  | masterList
deriving DecidableEq, Repr

/-- What a task does with the locks. -/
def ServerTask.flow (scene : Scene) : ServerTask → Flow
  | .session => handleSession scene
  | .sessionManager => sessionManagerRun
  | .cleanup => startCleanupTask scene
  | .stallResend => startStallResendTask
  | .loginResend => startLoginResendTask
  | .masterList => masterListRun

/-! ## Nesting -/

/-- Which lock is taken while which other one is held. -/
inductive Nests (scene : Scene) : Lock → Lock → Prop where
  | clients : Nests scene .clientsByAddr .clientsById
  | collect (ref : Nat) : Nests scene .games (.game ref)
  | statusGames (status : scene.status = true) {map : Lock}
      (client : map = .clientsByAddr ∨ map = .clientsById) : Nests scene map .games
  | statusGame (status : scene.status = true) {map : Lock}
      (client : map = .clientsByAddr ∨ map = .clientsById) (ref : Nat) :
      Nests scene map (.game ref)
  | lastDrop (lastDrop : scene.lastDrop = true) {map : Lock}
      (client : map = .clientsByAddr ∨ map = .clientsById) (ref : Nat) :
      Nests scene (.game ref) map

end Direlera.Locks
