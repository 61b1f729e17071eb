import Direlera.Lobby.View

/-!
# Chat and keep-alive messages

The handlers of messages which concern neither games nor logins. A chat line is relayed with
the name of its sender; a keep-alive message is not answered.
-/

namespace Direlera.Lobby

open Direlera.Library Direlera.Sync Direlera.Wire

/-- The line of a chat message. -/
def parseChat (data : Bytes) : Bytes := (readStringBytes (readStringBytes data).2).1

/-- `handle_global_chat`. -/
def handleGlobalChat (data : Bytes) (src : SocketAddr) : Handler Unit := do
  let username := match ← getClient src with
    | some client => client.username
    | none => ascii "Unknown"
  broadcastPacket Msg.globalChat (buildGlobalChatPacket username (parseChat data))

/-- `handle_game_chat`. A line with a byte `0x11` is skipped. -/
def handleGameChat (data : Bytes) (src : SocketAddr) : Handler Unit := do
  let some client ← getClient src | .fail (.message "Client not found")
  let some gameId := client.gameId
    | .fail (.message "Client attempted game chat but not in a game")
  let some game ← getGame gameId | .fail (.message "Game not found")
  if game.lists src then
    if (parseChat data).contains 0x11 then
      return ()
    else
      broadcastPacketToGame gameId Msg.gameChat
        (buildGameChatPacket client.username (parseChat data))
  else return ()

/-- `handle_client_keep_alive`: the session already noted that the client is there. -/
def handleClientKeepAlive : Handler Unit := return ()

/-! ## What chat leaves alone -/

theorem quiet_handleGlobalChat (data : Bytes) (src : SocketAddr) :
    Quiet (handleGlobalChat data src) :=
  (quiet_inspect _).bind fun _ => quiet_broadcastPacket _ _

theorem quiet_handleGameChat (data : Bytes) (src : SocketAddr) :
    Quiet (handleGameChat data src) := by
  refine (quiet_inspect _).bind fun client => ?_
  cases client with
  | none => exact quiet_fail _
  | some client =>
      dsimp only
      cases client.gameId with
      | none => exact quiet_fail _
      | some gameId =>
          refine (quiet_getGame gameId).bind fun game => ?_
          cases game with
          | none => exact quiet_fail _
          | some game =>
              dsimp only
              split
              · split
                · exact quiet_pure ()
                · exact quiet_broadcastPacketToGame gameId _ _
              · exact quiet_pure ()

end Direlera.Lobby
