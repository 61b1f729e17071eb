import Direlera.Lobby.LobbyInvariant

/-!
# Rooms with somebody in them

Whoever leaves last closes the room: a waiting one at once, and a live one with the drop, since
the engine has dropped every tombstone by then. Only `handle_kick_user` closes no waiting room,
so a room stays without players when its owner is alone there and kicks itself.
-/

namespace Direlera.Lobby

open Direlera.Library Direlera.Sync

/-! ## The last drop of a game -/

namespace SyncManager

variable {sync : SyncManager} {players : List GamePlayerInfo} {late : SocketAddr → Prop}

/-- A drop of a slot of the engine succeeds. -/
theorem call_drop_ok {slot : Nat} (inRange : slot < sync.playerCount) (gameId : UInt32) :
    ∃ frames, (sync.call gameId (.drop slot)).1 = .ok frames := by
  change ∃ frames, ((sync.engine.markPlayerDropped slot).1.map _) = .ok frames
  simp only [DelayedGameSync.markPlayerDropped, CachedGameSync.markPlayerDropped,
    SimplestGameSync.markPlayerDropped, inRange, dif_pos]
  exact ⟨_, rfl⟩

/-- If everybody has left and nobody is late, everybody has dropped. -/
theorem Serves.allPlayersDropped (serves : sync.Serves late players)
    (left : ∀ player ∈ players, player.leftRoom = true ∧ ¬late player.addr) :
    sync.allPlayersDropped = true := by
  refine decide_eq_true fun slot => ?_
  have inRange : slot.val < players.length := serves.sized ▸ slot.isLt
  obtain ⟨gone, onTime⟩ := left _ (List.getElem_mem inRange)
  have dropped := serves.tombstones slot _ (List.getElem?_eq_getElem inRange) gone onTime
  simpa [DelayedGameSync.isPlayerDropped, SimplestGameSync.isPlayerDropped] using dropped

end SyncManager

/-- A waiting room which stays open has players. -/
theorem GameInfo.players_of_open {game : GameInfo} {addr : SocketAddr}
    (stays : (game.leave addr).1.1 = .waitingOpen) : (game.leave addr).2.players ≠ [] := by
  cases running : game.syncManager with
  | some sync => simp [GameInfo.leave, running] at stays
  | none =>
      simp only [GameInfo.leave, running] at stays ⊢
      generalize GameInfo.migrateOwnerIfNeeded _ = migrated at stays ⊢
      intro empty
      simp [empty] at stays

namespace GameInfo

variable {game : GameInfo} {late : SocketAddr → Prop} {addr : SocketAddr} {sync : SyncManager}
  {slot : Nat}

/-- A listed player has a slot of the engine. -/
theorem RoomOk.slot_lt (ok : game.RoomOk late) (running : game.syncManager = some sync)
    (found : dropperSlot addr game = some slot) : slot < sync.playerCount := by
  obtain ⟨dropper, there, _⟩ := position_some (Hall.dropperSlot_eq_some.mp found).2
  exact (ok.playing sync running).2.sized ▸ (List.getElem?_eq_some_iff.mp there).1

/-- The drop of the last one to leave drops the last slot. -/
theorem RoomOk.dropsAll (ok : game.RoomOk late) (running : game.syncManager = some sync)
    (found : dropperSlot addr game = some slot) (onlyLate : ∀ who, late who → who = addr)
    (empty : game.inRoom = []) (gameId : UInt32) :
    (sync.call gameId (.drop slot)).2.allPlayersDropped = true := by
  obtain ⟨dropper, there, isDropper⟩ := position_some (Hall.dropperSlot_eq_some.mp found).2
  refine ((ok.playing sync running).2.call ok.distinct gameId (.drop slot)).allPlayersDropped ?_
  intro player member
  constructor
  · by_contra stays
    have present := mem_inRoom.mpr ⟨member, by simpa using stays⟩
    simp [empty] at present
  · rintro ⟨wasLate, onTime⟩
    exact onTime slot dropper rfl there (isDropper.trans (onlyLate _ wasLate).symm)

end GameInfo

namespace Hall

variable {hall : Hall} {gameId : UInt32} {game : GameInfo} {addr src : SocketAddr}

/-- The drop of a listed player closes its game if all have dropped and nobody is in the room. -/
theorem room_drop_of_last {sync : SyncManager} {slot : Nat} (here : hall.room gameId = some game)
    (registered : (hall.member addr).isSome = true) (running : game.syncManager = some sync)
    (found : dropperSlot addr game = some slot) (inRange : slot < sync.playerCount)
    (everyone : (sync.call gameId (.drop slot)).2.allPlayersDropped = true)
    (empty : game.inRoom = []) :
    (hall.drop gameId addr).room = (hall.setRoom gameId none).room := by
  obtain ⟨member, known⟩ := Option.isSome_iff_exists.mp registered
  obtain ⟨frames, succeeds⟩ := SyncManager.call_drop_ok inRange gameId
  obtain ⟨next, called⟩ : ∃ next, sync.call gameId (.drop slot) = (.ok frames, next) :=
    ⟨_, Prod.ext succeeds rfl⟩
  have nobody : ({ game with syncManager := some next } : GameInfo).finish.players = [] := by
    rw [GameInfo.players_finish]
    exact empty
  rw [called] at everyone
  simp only [Hall.drop, known, here, found, running, called, everyone, nobody, if_true,
    List.isEmpty_nil]

/-! ## Every message -/

/-- Somebody is in every room. -/
def Occupied (hall : Hall) : Prop :=
  ∀ gameId game, hall.room gameId = some game → game.inRoom ≠ []

/-- One room changes. -/
theorem Occupied.change {after : Hall} (occupied : hall.Occupied) (gameId : UInt32)
    (others : ∀ other, other ≠ gameId → after.room other = hall.room other)
    (here : ∀ game, after.room gameId = some game → game.inRoom ≠ []) : after.Occupied := by
  intro other game there
  by_cases same : other = gameId
  · subst same
    exact here game there
  · exact occupied other game (others other same ▸ there)

theorem Occupied.of_eq {after : Hall} (occupied : hall.Occupied) (room : after.room = hall.room) :
    after.Occupied := by
  rw [Occupied, room]
  exact occupied

theorem Occupied.setRoom (occupied : hall.Occupied) {room : Option GameInfo}
    (ok : ∀ game, room = some game → game.inRoom ≠ []) (gameId : UInt32) :
    (hall.setRoom gameId room).Occupied := by
  refine occupied.change gameId (fun other different => ?_) fun game there => ok game ?_
  · rw [room_setRoom, if_neg different]
  · rwa [room_setRoom, if_pos rfl] at there

theorem Occupied.create (occupied : hall.Occupied) (gameName : Bytes) (src : SocketAddr) :
    (hall.create gameName src).Occupied := by
  unfold Hall.create
  split
  · exact occupied
  · split
    · exact occupied.of_eq rfl
    · have drawn : Occupied { hall with nextGameId := hall.nextGameId + 1 } := occupied
      refine drawn.setRoom ?_ _
      rintro _ ⟨⟩
      simp [createdGame, GameInfo.inRoom]

theorem Occupied.join (occupied : hall.Occupied) (gameId : UInt32) (src : SocketAddr) :
    (hall.join gameId src).Occupied := by
  unfold Hall.join
  split
  next member game known here =>
    split
    next =>
      have moved : (hall.setGame src gameId).Occupied := occupied
      refine moved.setRoom ?_ gameId
      rintro _ ⟨⟩
      have someone := occupied gameId game here
      unfold GameInfo.seat
      split
      · exact someone
      · simp only [GameInfo.inRoom, List.filter_append] at someone ⊢
        exact List.append_ne_nil_of_left_ne_nil someone _
    next => exact occupied
  next => exact occupied

theorem Occupied.drop (occupied : hall.Occupied) (gameId : UInt32) (src : SocketAddr) :
    (hall.drop gameId src).Occupied := by
  rcases hall.drop_cases gameId src with ⟨sameRoom, _⟩ |
    ⟨game, sync, slot, here, _, _, room, sameRoom, outcome⟩
  · exact occupied.of_eq sameRoom
  · have someone := occupied gameId game here
    refine Occupied.of_eq (occupied.setRoom ?_ gameId) sameRoom
    rintro after rfl
    rcases outcome with same | same | ⟨same, _⟩
    · exact Option.some.inj same ▸ someone
    · obtain rfl := Option.some.inj same
      intro empty
      rw [GameInfo.inRoom, GameInfo.players_finish] at empty
      obtain ⟨player, inRoom⟩ := List.exists_mem_of_ne_nil _ someone
      have stays := (GameInfo.mem_inRoom.mp inRoom).2
      exact absurd (List.filter_eq_nil_iff.mp empty player inRoom) (by simp [stays])
    · simp at same

theorem room_depart_self (hall : Hall) (gameId : UInt32) (addr : SocketAddr) (game : GameInfo) :
    (hall.depart gameId addr game).room gameId = some (game.leave addr).2 :=
  Function.update_self ..

theorem room_depart_of_ne (hall : Hall) (addr : SocketAddr) (game : GameInfo) {other : UInt32}
    (different : other ≠ gameId) : (hall.depart gameId addr game).room other = hall.room other :=
  Function.update_of_ne different ..

/-- Leaving a live game keeps somebody in the room or closes it. -/
theorem Occupied.leaveLive (occupied : hall.Occupied) (sound : hall.Sound nobody)
    (here : hall.room gameId = some game) (live : game.syncManager.isSome = true)
    (inGame : hall.gameOf addr = some gameId) :
    ((hall.depart gameId addr game).drop gameId addr).Occupied := by
  have distinct := (sound.rooms gameId game here).distinct
  have left := room_depart_self hall gameId addr game
  by_cases empty : (game.leave addr).2.inRoom = []
  · -- Everybody else had left before, so that the drop of the last one ends the game.
    obtain ⟨sync, running⟩ := Option.isSome_iff_exists.mp live
    have runs := (game.leave_keeps addr).1.trans running
    have ok := (sound.depart here inGame).rooms gameId _ left
    obtain ⟨status, _⟩ := ok.playing sync runs
    obtain ⟨player, inRoom⟩ := List.exists_mem_of_ne_nil _ (occupied gameId game here)
    have last : player.addr = addr := by
      rw [GameInfo.inRoom_leave distinct] at empty
      simpa using List.filter_eq_nil_iff.mp empty player inRoom
    have listed : addr ∈ (game.leave addr).2.players.map GamePlayerInfo.addr := by
      rw [(game.leave_keeps addr).2 live, ← last]
      exact List.mem_map_of_mem (GameInfo.mem_inRoom.mp inRoom).1
    obtain ⟨slot, found⟩ : ∃ slot, (game.leave addr).2.position addr = some slot := by
      refine Option.ne_none_iff_exists'.mp fun missing => ?_
      obtain ⟨entry, member, same⟩ := List.mem_map.mp listed
      exact GameInfo.position_none missing entry member same
    have drops := dropperSlot_eq_some.mpr ⟨status, found⟩
    have everyone := ok.dropsAll runs drops (fun who wasLate => wasLate.2.2) empty gameId
    have closed := room_drop_of_last left (member_depart inGame gameId game) runs
      drops (ok.slot_lt runs drops) everyone empty
    refine occupied.change gameId ?_ ?_
    · intro other different
      rw [closed, room_setRoom, if_neg different, room_depart_of_ne hall addr game different]
    · intro after there
      rw [closed, room_setRoom, if_pos rfl] at there
      cases there
  · refine Occupied.drop ?_ gameId addr
    refine occupied.change gameId (fun other => room_depart_of_ne hall addr game) ?_
    intro after there
    obtain rfl := Option.some.inj (left.symm.trans there)
    exact empty

theorem Occupied.leave (occupied : hall.Occupied) (sound : hall.Sound nobody)
    (inGame : hall.gameOf addr = some gameId) : (hall.leave gameId addr).Occupied := by
  cases here : hall.room gameId with
  | none => simpa [Hall.leave, here] using occupied
  | some game =>
      rw [leave_of_room here]
      have playing := game.leave_playing_iff addr
      cases outcome : (game.leave addr).1.1 with
      | playing => exact occupied.leaveLive sound here (playing.mp outcome) inGame
      | waitingOpen =>
          refine occupied.change gameId (fun other => room_depart_of_ne hall addr game) ?_
          intro after there
          obtain rfl := Option.some.inj ((room_depart_self hall gameId addr game).symm.trans there)
          have idle : game.syncManager = none := by simpa [outcome] using playing
          have ok := (sound.depart here inGame).rooms gameId _ there
          rw [ok.inRoom_waiting ((game.leave_keeps addr).1.trans idle)]
          exact GameInfo.players_of_open outcome
      | waitingClosed =>
          refine occupied.change gameId ?_ ?_
          · intro other different
            rw [Hall.settle, room_setRoom, if_neg different,
              room_depart_of_ne hall addr game different]
          · intro after there
            rw [Hall.settle, room_setRoom, if_pos rfl] at there
            cases there

theorem Occupied.quit (occupied : hall.Occupied) (sound : hall.Sound nobody) (src : SocketAddr) :
    (hall.quit src).Occupied := by
  unfold Hall.quit
  split
  next gameId inGame => exact occupied.leave sound inGame
  next => exact occupied

/-- A kick empties no room, unless it expels the last one from a waiting room. -/
theorem Occupied.expel_iff (occupied : hall.Occupied) (sound : hall.Sound nobody)
    (here : hall.room gameId = some game) (inGame : hall.gameOf addr = some gameId) :
    (hall.expel gameId addr).Occupied ↔
      ¬(game.syncManager = none ∧ ∀ player ∈ game.players, player.addr = addr) := by
  rw [expel_of_room here]
  have playing := game.leave_playing_iff addr
  by_cases live : game.syncManager.isSome = true
  · rw [if_pos (playing.mpr live)]
    refine iff_of_true (occupied.leaveLive sound here live inGame) ?_
    rintro ⟨idle, _⟩
    simp [idle] at live
  · have idle : game.syncManager = none := by simpa using live
    have ok := sound.rooms gameId game here
    rw [if_neg fun plays => live (playing.mp plays)]
    have others :
        (game.leave addr).2.inRoom ≠ [] ↔ ¬∀ player ∈ game.players, player.addr = addr := by
      rw [GameInfo.inRoom_leave ok.distinct, ok.inRoom_waiting idle, ne_eq, List.filter_eq_nil_iff]
      simp
    constructor
    · rintro occupiedThen ⟨_, alone⟩
      exact others.mp (occupiedThen gameId _ (room_depart_self hall gameId addr game)) alone
    · intro shared
      refine occupied.change gameId (fun other => room_depart_of_ne hall addr game) ?_
      intro after there
      obtain rfl := Option.some.inj ((room_depart_self hall gameId addr game).symm.trans there)
      exact others.mpr fun alone => shared ⟨idle, alone⟩

theorem Occupied.start (occupied : hall.Occupied) (config : Config) (src : SocketAddr) :
    (hall.start config src).Occupied := by
  rcases hall.start_cases config src with same | ⟨gameId, game, warmups, here, begun⟩
  · rw [same]
    exact occupied
  · rw [begun]
    refine occupied.setRoom ?_ gameId
    rintro _ ⟨⟩
    rw [GameInfo.inRoom_begin]
    exact occupied gameId game here

theorem Occupied.feed (occupied : hall.Occupied) (gameId : UInt32) (slot : Nat)
    (input : ClientInput) : (hall.feed gameId slot input).Occupied := by
  rcases hall.feed_cases gameId slot input with same | ⟨game, sync, here, _, _, room⟩
  · rw [same]
    exact occupied
  · refine Occupied.of_eq (occupied.setRoom ?_ gameId) room
    rintro _ ⟨⟩
    exact occupied gameId game here

/-- An owner which is alone in its waiting room kicks itself. -/
def LoneSelfKick (hall : Hall) (src : SocketAddr) : Request → Prop
  | .kickUser data => ∃ userId gameId game, parseKickUser data = some userId ∧
      hall.kickTarget userId src = some (gameId, src) ∧ hall.room gameId = some game ∧
        game.syncManager = none ∧ ∀ player ∈ game.players, player.addr = src
  | _ => False

/-- Who kicks is listed in the game. -/
theorem lists_of_kickTarget {userId : UInt16}
    (target : hall.kickTarget userId src = some (gameId, addr)) :
    ∃ game, hall.room gameId = some game ∧ game.lists src = true := by
  simp only [kickTarget, Option.bind_eq_some_iff, Option.ite_none_right_eq_some, Option.some.injEq,
    Prod.mk.injEq] at target
  obtain ⟨_, _, _, _, game, here, _, _, allowed, rfl, rfl⟩ := target
  exact ⟨game, here, allowed.1⟩

/-- A message keeps somebody in every room exactly if it is no lone owner's kick of itself. -/
theorem Occupied.handle_iff (occupied : hall.Occupied) (sound : hall.Sound nobody)
    (config : Config) (src : SocketAddr) (request : Request) :
    (hall.handle config src request).Occupied ↔ ¬hall.LoneSelfKick src request := by
  constructor
  · intro kept lone
    cases request with
    | kickUser data =>
        obtain ⟨userId, gameId, game, parsed, target, here, alone⟩ := lone
        simp only [Hall.handle, parsed, kick_eq, target] at kept
        exact (occupied.expel_iff sound here (gameOf_kickTarget target)).mp kept alone
    | _ => exact lone
  · intro shared
    apply hall.handle_elim config src request
    case unchanged => exact occupied
    case created => exact fun _ _ => occupied.create _ src
    case joined => exact fun _ gameId _ _ => occupied.join gameId src
    case quitted => exact fun _ _ => occupied.quit sound src
    case forgotten => exact fun _ _ => (occupied.quit sound src).of_eq rfl
    case expelled =>
      rintro data userId gameId addr rfl parsed target
      obtain ⟨game, here, lists⟩ := lists_of_kickTarget target
      refine (occupied.expel_iff sound here (gameOf_kickTarget target)).mpr ?_
      rintro ⟨idle, alone⟩
      obtain ⟨player, member, same⟩ := List.any_eq_true.mp lists
      obtain rfl : addr = src := (alone player member).symm.trans (of_decide_eq_true same)
      exact shared ⟨userId, gameId, game, parsed, target, here, idle, alone⟩
    case started => exact fun _ _ => occupied.start config src
    case dropped => exact fun _ gameId _ _ _ => occupied.drop gameId src
    case fed => exact fun input gameId slot _ _ => occupied.feed gameId slot input

end Hall

/-! ## Runs -/

/-- Every game has a player who has not left. -/
def AppState.Occupied (state : AppState) : Prop :=
  ∀ gameId game, state.games.find gameId = some game →
    ∃ player ∈ game.players, player.leftRoom = false

/-- The owner of a waiting game in which nobody else is kicks itself. -/
def AppState.LoneSelfKick (state : AppState) (request : SocketAddr × Request) : Prop :=
  state.hall.LoneSelfKick request.1 request.2

theorem occupied_hall (state : AppState) : state.Occupied ↔ state.hall.Occupied := by
  have someone : ∀ game : GameInfo,
      (∃ player ∈ game.players, player.leftRoom = false) ↔ game.inRoom ≠ [] := by
    intro game
    simp [GameInfo.inRoom, List.filter_eq_nil_iff]
  simp only [AppState.Occupied, Hall.Occupied, someone, hall_room]

/-- After every handler run every game has a player in the room, exactly as long as no owner which
is alone in its waiting room kicks itself. -/
theorem rooms_occupied_iff (config : Config) {start : AppState} (opening : start.Opening)
    (requests : List (SocketAddr × Request)) :
    (∀ count, ((server config).final start (requests.take count)).Occupied) ↔
      (server config).Along (fun state request => ¬state.LoneSelfKick request) start requests := by
  apply (server config).forall_take_iff_along (fun state => state.hall.Sound Hall.nobody)
    AppState.Occupied
  · intro state request sound
    rw [hall_step]
    exact sound.handle config request.1 request.2
  · intro state request sound occupied
    rw [occupied_hall, hall_step]
    exact ((occupied_hall state).mp occupied).handle_iff sound config request.1 request.2
  · exact opening.sound
  · intro gameId game here
    rw [opening.noGames] at here
    cases here

/-- Somebody is in the room when its owner quits it. -/
theorem rooms_occupied_until_quit :
    ((server oneFrame).final twoClients [createsFirst, joinsFirst, (1, .quitGame [])]).Occupied :=
  (rooms_occupied_iff oneFrame twoClients_opening
    [createsFirst, joinsFirst, (1, .quitGame [])]).mpr ⟨id, id, id, trivial⟩ 3

/-- The creator of a game kicks itself, and the game stays. -/
theorem room_emptied_by_self_kick :
    twoClients.Opening ∧
      ¬((server oneFrame).final twoClients [createsFirst, (1, .kickUser [0, 1, 0])]).Occupied := by
  refine ⟨twoClients_opening, fun occupied => ?_⟩
  have deserted : (((server oneFrame).final twoClients
      [createsFirst, (1, .kickUser [0, 1, 0])]).games.find 1).any
        (fun game => game.players.isEmpty) = true := by
    decide +kernel
  obtain ⟨game, here, empty⟩ := (Option.any_eq_true ..).mp deserted
  obtain ⟨player, member, _⟩ := occupied 1 game here
  rw [List.isEmpty_iff.mp empty] at member
  cases member

end Direlera.Lobby
