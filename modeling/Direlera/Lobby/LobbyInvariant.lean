import Direlera.Lobby.Membership

/-!
# The lobby invariant

Clients, rooms, engines and owners agree after every complete handler run, as long as no
game id is drawn twice and no stranger joins a room which a kick has emptied.
-/

namespace Direlera.Lobby

open Direlera.Library Direlera.Sync

namespace Hall

variable {hall : Hall} {gameId : UInt32} {game : GameInfo} {src : SocketAddr}

/-! ## Owners -/

/-- Every room with players is owned by one of them. -/
def Owned (hall : Hall) : Prop := ∀ gameId game, hall.room gameId = some game → game.Owned

theorem Owned.setRoom (owned : hall.Owned) {room : Option GameInfo}
    (ok : ∀ game, room = some game → game.Owned) (gameId : UInt32) :
    (hall.setRoom gameId room).Owned := by
  intro other game there
  rw [room_setRoom] at there
  split at there
  · exact ok game there
  · exact owned other game there

theorem Owned.of_eq {after : Hall} (owned : hall.Owned) (room : after.room = hall.room) :
    after.Owned := by
  rw [Owned, room]
  exact owned

theorem Owned.create (owned : hall.Owned) (gameName : Bytes) (src : SocketAddr) :
    (hall.create gameName src).Owned := by
  unfold Hall.create
  split
  · exact owned
  · split
    · exact owned.of_eq rfl
    · have drawn : Owned { hall with nextGameId := hall.nextGameId + 1 } := owned
      refine drawn.setRoom ?_ _
      rintro _ ⟨⟩
      exact GameInfo.createdGame_owned _ _ _ _

/-- A message which joins an empty room comes from its owner on record. -/
def JoinsOwnRoom (hall : Hall) (src : SocketAddr) : Request → Prop
  | .joinGame data => ∀ gameId member game, parseJoinGame data = some gameId →
      hall.member src = some member → hall.room gameId = some game → member.gameId = none →
        game.joinable = true → game.inRoom = [] → member.userId = game.ownerUserId
  | _ => True

theorem Owned.join (owned : hall.Owned) (sound : hall.Sound nobody)
    (welcome : ∀ member game, hall.member src = some member → hall.room gameId = some game →
      member.gameId = none → game.joinable = true → game.inRoom = [] →
        member.userId = game.ownerUserId) : (hall.join gameId src).Owned := by
  unfold Hall.join
  split
  next member game known here =>
    split
    next free =>
      obtain ⟨idle, joinable⟩ := free
      have unlisted := unlisted_of_idle sound here known idle joinable
      have moved : (hall.setGame src gameId).Owned := owned
      refine moved.setRoom ?_ gameId
      rintro _ ⟨⟩
      exact (owned gameId game here).seat rfl unlisted (welcome member game known here idle joinable)
    next => exact owned
  next => exact owned

theorem Owned.drop (owned : hall.Owned) (gameId : UInt32) (src : SocketAddr) :
    (hall.drop gameId src).Owned := by
  rcases hall.drop_cases gameId src with ⟨sameRoom, _⟩ |
    ⟨game, sync, slot, here, _, _, room, sameRoom, outcome⟩
  · exact owned.of_eq sameRoom
  · refine Owned.of_eq (owned.setRoom ?_ gameId) sameRoom
    rintro after rfl
    rcases outcome with same | same | ⟨same, _⟩
    · exact Option.some.inj same ▸ owned gameId game here
    · exact Option.some.inj same ▸ GameInfo.finish_owned _
    · simp at same

theorem Owned.depart (owned : hall.Owned) (sound : hall.Sound nobody)
    (here : hall.room gameId = some game) (addr : SocketAddr) :
    (hall.depart gameId addr game).Owned := by
  have moved : (hall.setGame addr none).Owned := owned
  refine moved.setRoom ?_ gameId
  rintro _ ⟨⟩
  exact GameInfo.leave_owned (sound.rooms gameId game here).distinct addr

theorem Owned.leave (owned : hall.Owned) (sound : hall.Sound nobody) (gameId : UInt32)
    (addr : SocketAddr) : (hall.leave gameId addr).Owned := by
  cases here : hall.room gameId with
  | none => simpa [Hall.leave, here] using owned
  | some game =>
      rw [leave_of_room here]
      have departed := owned.depart sound here addr
      cases (game.leave addr).1.1 with
      | playing => exact departed.drop gameId addr
      | waitingOpen => exact departed
      | waitingClosed => exact departed.setRoom (by simp) gameId

theorem Owned.quit (owned : hall.Owned) (sound : hall.Sound nobody) (src : SocketAddr) :
    (hall.quit src).Owned := by
  unfold Hall.quit
  split
  · exact owned.leave sound _ src
  · exact owned

theorem Owned.expel (owned : hall.Owned) (sound : hall.Sound nobody) (gameId : UInt32)
    (addr : SocketAddr) : (hall.expel gameId addr).Owned := by
  cases here : hall.room gameId with
  | none => simpa [Hall.expel, here] using owned
  | some game =>
      rw [expel_of_room here]
      have departed := owned.depart sound here addr
      split
      · exact departed.drop gameId addr
      · exact departed

theorem Owned.start (owned : hall.Owned) (config : Config) (src : SocketAddr) :
    (hall.start config src).Owned := by
  rcases hall.start_cases config src with same | ⟨gameId, game, warmups, here, begun⟩
  · rw [same]
    exact owned
  · rw [begun]
    refine owned.setRoom ?_ gameId
    rintro _ ⟨⟩
    have before := owned gameId game here
    rw [GameInfo.Owned, GameInfo.inRoom_begin]
    exact before

theorem Owned.feed (owned : hall.Owned) (gameId : UInt32) (slot : Nat) (input : ClientInput) :
    (hall.feed gameId slot input).Owned := by
  rcases hall.feed_cases gameId slot input with same | ⟨game, sync, here, _, _, room⟩
  · rw [same]
    exact owned
  · refine Owned.of_eq (owned.setRoom ?_ gameId) room
    rintro _ ⟨⟩
    exact owned gameId game here

/-- Every message keeps rooms owned, if it joins no stranger's empty room. -/
theorem Owned.handle (owned : hall.Owned) (sound : hall.Sound nobody) (config : Config)
    (src : SocketAddr) (request : Request) (welcome : hall.JoinsOwnRoom src request) :
    (hall.handle config src request).Owned := by
  apply hall.handle_elim config src request
  case unchanged => exact owned
  case created => exact fun _ _ => owned.create _ src
  case joined =>
    rintro data gameId rfl parsed
    exact owned.join sound fun member game known here => welcome gameId member game parsed known here
  case quitted => exact fun _ _ => owned.quit sound src
  case forgotten => exact fun _ _ => (owned.quit sound src).of_eq rfl
  case expelled => exact fun _ _ gameId addr _ _ _ => owned.expel sound gameId addr
  case started => exact fun _ _ => owned.start config src
  case dropped => exact fun _ gameId _ _ _ => owned.drop gameId src
  case fed => exact fun input gameId slot _ _ => owned.feed gameId slot input

end Hall

/-! ## Runs -/

/-- What clients, players and engine of one game agree on. -/
structure GameInfo.Agrees (game : GameInfo) : Prop where
  distinct : (game.players.map GamePlayerInfo.addr).Nodup
  counted : game.numPlayers.toNat = game.players.countP fun player => !player.leftRoom
  capacity : game.numPlayers ≤ game.maxPlayers
  live : game.syncManager.isSome = true ↔ game.gameStatus = gameStatusPlaying
  waits : game.syncManager = none → game.gameStatus = gameStatusWaiting ∧
    ∀ player ∈ game.players, player.leftRoom = false
  engine : ∀ sync, game.syncManager = some sync → game.players.length = sync.playerCount ∧
    ∀ (slot : Nat) (player : GamePlayerInfo), game.players[slot]? = some player →
      player.leftRoom = true → sync.engine.isPlayerDropped slot = true
  owned : (∃ player ∈ game.players, player.leftRoom = false) →
    ∃ player ∈ game.players, player.leftRoom = false ∧ player.userId = game.ownerUserId

/-- The lobby membership invariant. -/
structure AppState.Membership (state : AppState) : Prop where
  inGame : ∀ addr client, state.clients.find addr = some client → ∀ gameId,
    (client.gameId = some gameId ↔ ∃ game, state.games.find gameId = some game ∧
      ∃ player ∈ game.players, player.addr = addr ∧ player.leftRoom = false)
  registered : ∀ gameId game, state.games.find gameId = some game → ∀ player ∈ game.players,
    player.leftRoom = false → ∃ client, state.clients.find player.addr = some client
  games : ∀ gameId game, state.games.find gameId = some game → game.Agrees

/-- What the invariant is proved from. -/
structure AppState.InOrder (state : AppState) : Prop where
  sound : state.hall.Sound Hall.nobody
  anchored : state.hall.Anchored
  owned : state.hall.Owned

/-- A message draws no game id in use and joins no stranger's empty room. -/
def AppState.Orderly (state : AppState) (request : SocketAddr × Request) : Prop :=
  state.hall.DrawsUnusedId request.1 request.2 ∧ state.hall.JoinsOwnRoom request.1 request.2

theorem GameInfo.RoomOk.agrees {game : GameInfo} {gameId : UInt32}
    (ok : game.RoomOk (Hall.nobody gameId)) (owned : game.Owned) : game.Agrees where
  distinct := ok.distinct
  counted := by
    rw [List.countP_eq_length_filter]
    exact ok.counted
  capacity := by
    have few := (List.length_filter_le (fun player : GamePlayerInfo => !player.leftRoom)
      game.players).trans ok.bounded
    rw [ok.seats, UInt8.le_iff_toNat_le, ok.counted]
    exact few
  live := by
    cases running : game.syncManager with
    | none => simp [(ok.waiting running).1, gameStatusWaiting, gameStatusPlaying]
    | some sync => simp [(ok.playing sync running).1]
  waits := ok.waiting
  engine := by
    intro sync running
    have serves := (ok.playing sync running).2
    exact ⟨serves.sized.symm, fun slot player here left => serves.tombstones slot player here left id⟩
  owned := by
    rintro ⟨player, listed, here⟩
    have someone : game.inRoom ≠ [] :=
      List.ne_nil_of_mem (GameInfo.mem_inRoom.mpr ⟨listed, here⟩)
    obtain ⟨owner, inRoom, owns⟩ := owned someone
    obtain ⟨present, stays⟩ := GameInfo.mem_inRoom.mp inRoom
    exact ⟨owner, present, stays, owns⟩

theorem hall_gameOf (state : AppState) (addr : SocketAddr) :
    state.hall.gameOf addr = (state.clients.find addr).bind fun client => client.gameId := by
  rw [Hall.gameOf, hall_member, Option.bind_map]
  rfl

theorem AppState.InOrder.membership {state : AppState} (inOrder : state.InOrder) :
    state.Membership where
  inGame := by
    intro addr client known gameId
    have here : state.hall.gameOf addr = client.gameId := by simp [hall_gameOf, known]
    rw [← here]
    constructor
    · intro inGame
      obtain ⟨game, there, player, listed, same⟩ := inOrder.anchored addr gameId inGame
      have seated := inOrder.sound.seated gameId game there player listed
      exact ⟨game, there, player, listed, same, seated.mpr (same ▸ inGame)⟩
    · rintro ⟨game, there, player, listed, same, stays⟩
      have seated := inOrder.sound.seated gameId game there player listed
      exact same ▸ seated.mp stays
  registered := by
    intro gameId game there player listed stays
    have inGame := (inOrder.sound.seated gameId game there player listed).mp stays
    rw [hall_gameOf] at inGame
    obtain ⟨client, known, _⟩ := Option.bind_eq_some_iff.mp inGame
    exact ⟨client, known⟩
  games := fun gameId game there =>
    (inOrder.sound.rooms gameId game there).agrees (inOrder.owned gameId game there)

theorem AppState.Opening.sound {state : AppState} (opening : state.Opening) :
    state.hall.Sound Hall.nobody where
  rooms := by simp [opening.noGames]
  seated := by simp [opening.noGames]
  lan := by
    intro addr member known
    rw [hall_member] at known
    obtain ⟨client, found, rfl⟩ := Option.map_eq_some_iff.mp known
    exact opening.lan addr client found

theorem AppState.Opening.inOrder {state : AppState} (opening : state.Opening) : state.InOrder where
  sound := opening.sound
  anchored := by
    intro addr gameId inGame
    rw [hall_gameOf] at inGame
    obtain ⟨client, found, inGame⟩ := Option.bind_eq_some_iff.mp inGame
    simp [opening.inLobby addr client found] at inGame
  owned := by simp [Hall.Owned, opening.noGames]

/-- A complete handler run keeps the lobby in order. -/
theorem AppState.InOrder.step {state : AppState} (inOrder : state.InOrder) (config : Config)
    (request : SocketAddr × Request) (orderly : state.Orderly request) :
    ((server config).step state request).2.InOrder := by
  have step := hall_step config state request
  constructor
  · rw [step]
    exact inOrder.sound.handle config request.1 request.2
  · rw [step]
    exact inOrder.anchored.handle inOrder.sound config request.1 request.2 orderly.1
  · rw [step]
    exact inOrder.owned.handle inOrder.sound config request.1 request.2 orderly.2

/-- After every run of complete handlers the lobby membership invariant holds, if no
message draws a game id in use or joins a stranger's empty room. -/
theorem membership_invariant (config : Config) {start : AppState} (opening : start.Opening)
    {requests : List (SocketAddr × Request)}
    (orderly : (server config).Along AppState.Orderly start requests) :
    ((server config).final start requests).Membership := by
  refine AppState.InOrder.membership ?_
  refine (server config).invariant_along AppState.InOrder ?_ opening.inOrder orderly
  intro state request inOrder orderlyHere
  exact inOrder.step config request orderlyHere

/-- A fixed delay of one frame for everybody. -/
def oneFrame : Config := ⟨some 1, false, false, 0, false⟩

/-- Two clients in the lobby. -/
def twoClients : AppState := lanLobby [1, 2] (by decide)

theorem twoClients_opening : twoClients.Opening := lanLobby_opening [1, 2] (by decide)

/-- The first client creates game 1. -/
def createsFirst : SocketAddr × Request := (1, .createGame [0, 71, 0])

/-- The second client joins game 1. -/
def joinsFirst : SocketAddr × Request := (2, .joinGame [0, 1, 0, 0, 0, 0, 0, 0, 0, 0, 0, 0, 1])

/-- Three clients in the lobby. -/
def threeClients : AppState := lanLobby [1, 2, 3] (by decide)

theorem threeClients_opening : threeClients.Opening := lanLobby_opening [1, 2, 3] (by decide)

/-- A client joins game 1. -/
def joins (src : SocketAddr) : SocketAddr × Request :=
  (src, .joinGame [0, 1, 0, 0, 0, 0, 0, 0, 0, 0, 0, 0, 1])

/-- The invariant after the owner of a shared room quits. -/
theorem membership_invariant_owner_quits :
    ((server oneFrame).final twoClients
      [createsFirst, joinsFirst, (1, .quitGame [])]).Membership := by
  refine membership_invariant oneFrame twoClients_opening ?_
  refine ⟨⟨fun _ _ game here => ?_, trivial⟩, ⟨trivial, ?_⟩, ⟨trivial, trivial⟩, trivial⟩
  · have noGame : twoClients.hall.room twoClients.hall.nextGameId = none := rfl
    cases noGame.symm.trans here
  · intro gameId member game parsed _ here _ _ empty
    obtain rfl : gameId = 1 := Option.some.inj (parsed.symm.trans (by decide))
    have seated : (((server oneFrame).step twoClients createsFirst).2.hall.room 1).all
        (fun game => !game.inRoom.isEmpty) = true := by decide +kernel
    rw [here] at seated
    simp [empty] at seated

/-- The only player of a waiting room kicks itself, which leaves the room open but empty;
whoever joins it finds a game owned by somebody else. -/
theorem membership_broken_by_self_kick :
    twoClients.Opening ∧
      ¬((server oneFrame).final twoClients
        [createsFirst, (1, .kickUser [0, 1, 0]), joinsFirst]).Membership := by
  refine ⟨twoClients_opening, fun membership => ?_⟩
  generalize reached : (server oneFrame).final twoClients
    [createsFirst, (1, .kickUser [0, 1, 0]), joinsFirst] = state at membership
  have orphaned : (state.games.find 1).any (fun game =>
      game.players.any (fun player => !player.leftRoom) &&
        !game.players.any fun player =>
          !player.leftRoom && player.userId == game.ownerUserId) = true := by
    rw [← reached]
    decide +kernel
  obtain ⟨game, here, orphan⟩ := (Option.any_eq_true ..).mp orphaned
  simp only [Bool.and_eq_true, List.any_eq_true, Bool.not_eq_eq_eq_not, Bool.not_true,
    List.any_eq_false] at orphan
  obtain ⟨someone, nobodyOwns⟩ := orphan
  obtain ⟨owner, listed, stays, owns⟩ := (membership.games 1 game here).owned someone
  exact nobodyOwns owner listed (by simp [stays, owns])

end Direlera.Lobby
