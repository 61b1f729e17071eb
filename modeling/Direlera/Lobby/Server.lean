import Direlera.Lobby.Handlers

/-!
# The server

`handleMessage` dispatches a message to its handler, and `server` handles one message
after the other, each to its end.
-/

namespace Direlera.Lobby

open Direlera.Library Direlera.Sync

/-- A message of a client which has logged in, with its payload. -/
inductive Request where
  | createGame (data : Bytes)
  | joinGame (data : Bytes)
  | quitGame (data : Bytes)
  | userQuit (data : Bytes)
  | kickUser (data : Bytes)
  | startGame (data : Bytes)
  | dropGame (data : Bytes)
  | gameData (data : Bytes)
  | gameCache (data : Bytes)
  | readyToPlay (data : Bytes)
deriving DecidableEq, Repr

/-- The input which a message carries to the engine. -/
def Request.input : Request → Option ClientInput
  | .gameData data => (parseGameData data).map .gameData
  | .gameCache data => (parseGameCache data).map .gameCache
  | _ => none

/-- `handle_message`. -/
def handleMessage (config : Config) (src : SocketAddr) : Request → Handler Unit
  | .createGame data => handleCreateGame data src
  | .joinGame data => handleJoinGame data src
  | .quitGame _ => handleQuitGame src
  | .userQuit data => handleUserQuit data src
  | .kickUser data => handleKickUser data src
  | .startGame data => handleStartGame config data src
  | .dropGame _ => handleDropGame src
  | .gameData data => handleGameData data src
  | .gameCache data => handleGameCache data src
  | .readyToPlay data => handleReadyToPlaySignal data src

/-- Complete handler runs, one after the other. -/
def server (config : Config) : Transducer AppState (SocketAddr × Request) (Except Report Unit) where
  step state request := (handleMessage config request.1 request.2).run state

end Direlera.Lobby
