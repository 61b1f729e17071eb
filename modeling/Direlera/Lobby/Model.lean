import Direlera.Lobby.View

/-!
# The lobby as one store

`Hall` forgets sessions, shared references and connections: members by address, rooms
by game id, and the engine responses sent so far. Each message is a function on it.
`AppState.hall` is the hall which a state stands for.
-/

namespace Direlera.Lobby

open Direlera.Library Direlera.Sync Direlera.Wire

/-- Members, rooms and sent engine responses. -/
@[ext]
structure Hall where
  roster : List SocketAddr
  member : SocketAddr → Option Member
  room : UInt32 → Option GameInfo
  nextGameId : UInt32
  deliveries : List Delivery

/-- The hall of a view. -/
def View.hall (view : View) : Hall where
  roster := view.byAddr.map Prod.fst
  member addr := (view.byAddr.lookup addr).bind view.member
  room gameId := (view.games.byId gameId).map view.games.arena
  nextGameId := view.nextGameId
  deliveries := view.deliveries

/-- The hall which a state stands for. -/
def AppState.hall (state : AppState) : Hall := state.view.hall

namespace Hall

/-- Put a member into a game, or back into the lobby. -/
def setGame (hall : Hall) (addr : SocketAddr) (gameId : Option UInt32) : Hall :=
  { hall with
    member := Function.update hall.member addr
      ((hall.member addr).map fun member => { member with gameId }) }

/-- Open, change or close a room. -/
def setRoom (hall : Hall) (gameId : UInt32) (game : Option GameInfo) : Hall :=
  { hall with room := Function.update hall.room gameId game }

/-- Forget a member. -/
def forget (hall : Hall) (addr : SocketAddr) : Hall :=
  { hall with
    roster := hall.roster.filter fun other => other ≠ addr
    member := Function.update hall.member addr none }

/-- Send one response to a member. -/
def send (hall : Hall) (output : TargetOutput) (member : Member) : Hall :=
  { hall with
    deliveries := hall.deliveries ++ [⟨output.addr, output.frame, member.gameId⟩] }

/-- Send responses in order until one has no address or no member. -/
def deliver (hall : Hall) : List (Option TargetOutput) → Hall
  | [] => hall
  | none :: _ => hall
  | some output :: rest =>
      match hall.member output.addr with
      | none => hall
      | some member => (hall.send output member).deliver rest

/-! ## Messages -/

/-- Whether a member is listed in the game it is in. -/
def listed (hall : Hall) (addr : SocketAddr) : Bool :=
  match (hall.member addr).bind Member.gameId with
  | some gameId => (hall.room gameId).any fun game => game.lists addr
  | none => false

/-- Creating a game draws the next id, whether or not a game has it already. -/
def create (hall : Hall) (gameName : Bytes) (src : SocketAddr) : Hall :=
  if hall.listed src then hall
  else
    let drawn : Hall := { hall with nextGameId := hall.nextGameId + 1 }
    match hall.member src with
    | none => drawn
    | some member =>
        (drawn.setRoom hall.nextGameId (createdGame hall.nextGameId gameName src member)).setGame
          src hall.nextGameId

/-- Joining a waiting game with a free seat. -/
def join (hall : Hall) (gameId : UInt32) (src : SocketAddr) : Hall :=
  match hall.member src, hall.room gameId with
  | some member, some game =>
      if member.gameId = none ∧ game.joinable = true then
        (hall.setGame src gameId).setRoom gameId
          (game.seat ⟨src, member.username, member.userId, member.connType, false⟩)
      else hall
  | _, _ => hall

/-- Send the frames which a drop released, if all players by slot are registered. -/
def release (hall : Hall) (game : GameInfo) (frames : List Frame) : Hall :=
  if game.players.all fun player => (hall.member player.addr).isSome then
    hall.deliver (frames.map game.target)
  else hall

/-- The slot of a dropping player is marked in the engine of its game. -/
def drop (hall : Hall) (gameId : UInt32) (src : SocketAddr) : Hall :=
  match hall.member src, hall.room gameId with
  | some _, some game =>
      match dropperSlot src game, game.syncManager with
      | some slot, some sync =>
          match sync.call gameId (.drop slot) with
          | (.error _, sync) => hall.setRoom gameId (some { game with syncManager := some sync })
          | (.ok frames, sync) =>
              let marked : GameInfo := { game with syncManager := some sync }
              if sync.allPlayersDropped then
                if marked.finish.players.isEmpty then hall.setRoom gameId none
                else (hall.setRoom gameId (some marked.finish)).release game frames
              else (hall.setRoom gameId (some marked)).release game frames
      | _, _ => hall
  | _, _ => hall

/-- What follows a quit, by its outcome. -/
def settle (hall : Hall) (gameId : UInt32) (addr : SocketAddr) : GameInfo.QuitOutcome → Hall
  | .playing => hall.drop gameId addr
  | .waitingClosed => hall.setRoom gameId none
  | .waitingOpen => hall

/-- A member leaves its room; a live game drops its slot. -/
def leave (hall : Hall) (gameId : UInt32) (addr : SocketAddr) : Hall :=
  match hall.room gameId with
  | none => hall
  | some game =>
      ((hall.setGame addr none).setRoom gameId (game.leave addr).2).settle gameId addr
        (game.leave addr).1.1

/-- Quitting the game one is in. -/
def quit (hall : Hall) (src : SocketAddr) : Hall :=
  match (hall.member src).bind Member.gameId with
  | some gameId => hall.leave gameId src
  | none => hall

/-- The address of a user id. -/
def findByUserId (hall : Hall) (userId : UInt16) : Option SocketAddr :=
  hall.roster.find? fun addr => (hall.member addr).any fun member => member.userId = userId

/-- A kicked member leaves, but an emptied waiting room stays open. -/
def expel (hall : Hall) (gameId : UInt32) (addr : SocketAddr) : Hall :=
  match hall.room gameId with
  | none => hall
  | some game =>
      let moved := (hall.setGame addr none).setRoom gameId (game.leave addr).2
      if (game.leave addr).1.1 = .playing then moved.drop gameId addr else moved

/-- The owner kicks a member of its own game. -/
def kick (hall : Hall) (userId : UInt16) (src : SocketAddr) : Hall :=
  match hall.member src with
  | none => hall
  | some requester =>
      match requester.gameId with
      | none => hall
      | some gameId =>
          match hall.room gameId, hall.findByUserId userId with
          | some game, some addr =>
              if game.lists src = true ∧ game.ownerUserId = requester.userId ∧
                  (hall.member addr).bind Member.gameId = some gameId then
                hall.expel gameId addr
              else hall
          | _, _ => hall

/-- The pings which size the delays of a game. -/
def pings (hall : Hall) (config : Config) (players : List GamePlayerInfo) : List UInt32 :=
  match config.fixedGameDelay with
  | some _ => []
  | none => players.map fun player => ((hall.member player.addr).map Member.ping).getD 0

/-- The owner of a waiting game starts it. -/
def start (hall : Hall) (config : Config) (src : SocketAddr) : Hall :=
  match hall.member src with
  | none => hall
  | some member =>
      match member.gameId with
      | none => hall
      | some gameId =>
          match hall.room gameId with
          | none => hall
          | some game =>
              if game.lists src = true ∧ game.syncManager.isSome = false ∧
                  game.ownerUserId = member.userId then
                let players := game.purge.players
                hall.setRoom gameId (game.purge.begin
                  (players.map fun player => player.connType.toNat)
                  (sizeDelays config players (hall.pings config players)).2
                  config.disableOutputCache)
              else hall

/-- The game of a member and its slot there. -/
def resolve (hall : Hall) (src : SocketAddr) : Option (UInt32 × Nat) :=
  ((hall.member src).bind Member.gameId).bind fun gameId =>
    (hall.room gameId).bind fun game => (game.position src).map fun slot => (gameId, slot)

/-- An input of a slot is fed to the engine of its game, and its responses are sent. -/
def feed (hall : Hall) (gameId : UInt32) (slot : Nat) (input : ClientInput) : Hall :=
  match hall.room gameId with
  | none => hall
  | some game =>
      match game.syncManager with
      | none => hall
      | some sync =>
          let stepped := hall.setRoom gameId
            (some { game with syncManager := some (sync.call gameId (.input slot input)).2 })
          match (sync.call gameId (.input slot input)).1 with
          | .error _ => stepped
          | .ok frames =>
              if frames.all fun frame => (game.target frame).isSome then
                stepped.deliver (frames.map game.target)
              else stepped

/-- An input of a player. -/
def play (hall : Hall) (input : ClientInput) (src : SocketAddr) : Hall :=
  match hall.resolve src with
  | none => hall
  | some (gameId, slot) => hall.feed gameId slot input

/-- What a message does. -/
def handle (config : Config) (hall : Hall) (src : SocketAddr) : Request → Hall
  | .createGame data => hall.create (parseCreateGame data) src
  | .joinGame data =>
      match parseJoinGame data with
      | some gameId => hall.join gameId src
      | none => hall
  | .quitGame _ => hall.quit src
  | .userQuit _ => (hall.quit src).forget src
  | .kickUser data =>
      match parseKickUser data with
      | some userId => hall.kick userId src
      | none => hall
  | .startGame data =>
      if (readStringBytes data).2.length < 4 then hall else hall.start config src
  | .dropGame _ =>
      match hall.resolve src with
      | some (gameId, _) => hall.drop gameId src
      | none => hall
  | .gameData data =>
      match parseGameData data with
      | some bytes => hall.play (.gameData bytes) src
      | none => hall
  | .gameCache data =>
      match parseGameCache data with
      | some position => hall.play (.gameCache position) src
      | none => hall
  | .readyToPlay _ => hall

end Hall

end Direlera.Lobby
