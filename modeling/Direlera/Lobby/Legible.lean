import Direlera.Lobby.Boards
import Direlera.Lobby.LobbyInvariant

/-!
# Legible names

No name of a client, a game or a player has a terminator inside, so that a message in which
it stands is read back. Names come from texts of datagrams, which end before one.
-/

namespace Direlera.Lobby

open Direlera.Library Direlera.Sync Direlera.Wire

/-- `main_socket`'s buffer: no datagram is longer. -/
def receiveBuffer : Nat := 4096

/-- A text ends before its terminator, and is part of what was read. -/
theorem readStringBytes_spec (buf : Bytes) :
    0 ∉ (readStringBytes buf).1 ∧
      (readStringBytes buf).1.length + (readStringBytes buf).2.length ≤ buf.length := by
  induction buf with
  | nil => exact ⟨List.not_mem_nil, Nat.le_refl 0⟩
  | cons byte rest ih =>
      rw [readStringBytes]
      split
      next => exact ⟨List.not_mem_nil, by simp⟩
      next other =>
        obtain ⟨plain, short⟩ := ih
        refine ⟨by simpa [plain] using Ne.symm other, ?_⟩
        simp only [List.length_cons]
        omega

/-- The names of a client, as its login cuts them. -/
structure Member.Legible (member : Member) : Prop where
  username : 0 ∉ member.username
  emulatorName : 0 ∉ member.emulatorName
  usernameShort : member.username.length ≤ 31
  emulatorNameShort : member.emulatorName.length ≤ receiveBuffer

/-- The names of a game and of its players. -/
structure GameInfo.Legible (game : GameInfo) : Prop where
  gameName : 0 ∉ game.gameName
  emulatorName : 0 ∉ game.emulatorName
  owner : 0 ∉ game.owner
  players : ∀ player ∈ game.players, 0 ∉ player.username

namespace GameInfo

variable {game : GameInfo}

theorem parseCreateGame_plain (data : Bytes) : 0 ∉ parseCreateGame data := by
  intro member
  exact (readStringBytes_spec (readStringBytes data).2).1 (List.mem_of_mem_take member)

theorem createdGame_legible (gameId : UInt32) (data : Bytes) (src : SocketAddr) {client : Member}
    (legible : client.Legible) : (createdGame gameId (parseCreateGame data) src client).Legible where
  gameName := parseCreateGame_plain data
  emulatorName := legible.emulatorName
  owner := legible.username
  players := by simpa [createdGame] using legible.username

/-- Fewer players, or the same under other flags, have no other names. -/
theorem Legible.recount (legible : game.Legible) {players : List GamePlayerInfo}
    (names : ∀ player ∈ players, ∃ listed ∈ game.players, listed.username = player.username)
    (count : Nat) : (game.recount players count).Legible where
  gameName := legible.gameName
  emulatorName := legible.emulatorName
  owner := legible.owner
  players := by
    intro player member
    obtain ⟨listed, there, same⟩ := names player member
    exact same ▸ legible.players listed there

/-- A new owner is a player. -/
theorem Legible.migrate (legible : game.Legible) : game.migrateOwnerIfNeeded.2.Legible := by
  unfold migrateOwnerIfNeeded
  split
  · exact legible
  · split
    next => exact legible
    next player found =>
      have owner := legible.players player (List.mem_of_find?_eq_some found)
      exact ⟨legible.gameName, legible.emulatorName, owner, legible.players⟩

theorem Legible.leave (legible : game.Legible) (distinct : (game.players.map GamePlayerInfo.addr).Nodup)
    (addr : SocketAddr) : (game.leave addr).2.Legible := by
  rw [leave_spec distinct]
  apply Legible.migrate
  cases game.syncManager with
  | some sync =>
      refine legible.recount (fun player member => ?_) _
      obtain ⟨listed, there, rfl⟩ := List.mem_map.mp member
      refine ⟨listed, there, ?_⟩
      split <;> rfl
  | none =>
      exact legible.recount (fun player member => ⟨player, List.mem_of_mem_filter member, rfl⟩) _

theorem Legible.purge (legible : game.Legible) : game.purge.Legible :=
  legible.recount (fun player member => ⟨player, (mem_inRoom.mp member).1, rfl⟩) _

theorem Legible.setSync (legible : game.Legible) (syncManager : Option SyncManager)
    (gameStatus : UInt8) : ({ game with syncManager, gameStatus } : GameInfo).Legible :=
  ⟨legible.gameName, legible.emulatorName, legible.owner, legible.players⟩

theorem Legible.finish (legible : game.Legible) : game.finish.Legible :=
  (legible.setSync none gameStatusWaiting).purge.migrate

theorem Legible.seat (legible : game.Legible) {player : GamePlayerInfo}
    (plain : 0 ∉ player.username) : (game.seat player).Legible := by
  unfold GameInfo.seat
  split
  · exact legible
  · refine ⟨legible.gameName, legible.emulatorName, legible.owner, ?_⟩
    simpa [or_imp, forall_and] using ⟨legible.players, plain⟩

end GameInfo

namespace Hall

variable {hall after : Hall} {gameId : UInt32} {game : GameInfo}

/-- All names in the hall. -/
structure Legible (hall : Hall) : Prop where
  members : ∀ addr member, hall.member addr = some member → member.Legible
  rooms : ∀ gameId game, hall.room gameId = some game → game.Legible

theorem Legible.of_eq (legible : hall.Legible) (member : after.member = hall.member)
    (room : after.room = hall.room) : after.Legible := by
  constructor
  · rw [member]
    exact legible.members
  · rw [room]
    exact legible.rooms

theorem Legible.setGame (legible : hall.Legible) (addr : SocketAddr) (moved : Option UInt32) :
    (hall.setGame addr moved).Legible where
  rooms := legible.rooms
  members := by
    intro other member known
    simp only [Hall.setGame] at known
    by_cases same : other = addr
    · subst same
      rw [Function.update_self] at known
      obtain ⟨before, there, rfl⟩ := Option.map_eq_some_iff.mp known
      obtain ⟨username, emulatorName, usernameShort, emulatorNameShort⟩ := legible.members other before there
      exact ⟨username, emulatorName, usernameShort, emulatorNameShort⟩
    · rw [Function.update_of_ne same] at known
      exact legible.members other member known

theorem Legible.forget (legible : hall.Legible) (addr : SocketAddr) :
    (hall.forget addr).Legible where
  rooms := legible.rooms
  members := by
    intro other member known
    simp only [Hall.forget] at known
    by_cases same : other = addr
    · simp [same] at known
    · rw [Function.update_of_ne same] at known
      exact legible.members other member known

theorem Legible.setRoom (legible : hall.Legible) {room : Option GameInfo}
    (here : ∀ game, room = some game → game.Legible) : (hall.setRoom gameId room).Legible where
  members := legible.members
  rooms := by
    intro other game there
    rw [room_setRoom] at there
    split at there
    · exact here game there
    · exact legible.rooms other game there

theorem Legible.drop (legible : hall.Legible) (gameId : UInt32) (src : SocketAddr) :
    (hall.drop gameId src).Legible := by
  rcases hall.drop_cases gameId src with ⟨sameRoom, _⟩ |
    ⟨game, sync, slot, here, _, _, room, sameRoom, outcome⟩
  · exact legible.of_eq (member_drop ..) sameRoom
  · have known := legible.rooms gameId game here
    have changed : (hall.setRoom gameId room).Legible := by
      refine legible.setRoom ?_
      rintro after rfl
      rcases outcome with same | same | ⟨same, _⟩
      · exact Option.some.inj same ▸ known.setSync _ _
      · exact Option.some.inj same ▸ (known.setSync _ game.gameStatus).finish
      · cases same
    exact changed.of_eq (member_drop ..) sameRoom

theorem Legible.depart (legible : hall.Legible) (sound : hall.Sound nobody)
    (here : hall.room gameId = some game) (addr : SocketAddr) :
    (hall.depart gameId addr game).Legible := by
  refine (legible.setGame addr none).setRoom ?_
  rintro _ ⟨⟩
  exact (legible.rooms gameId game here).leave (sound.rooms gameId game here).distinct addr

theorem Legible.quit (legible : hall.Legible) (sound : hall.Sound nobody) (src : SocketAddr) :
    (hall.quit src).Legible := by
  unfold Hall.quit
  split
  next gameId inGame =>
    cases here : hall.room gameId with
    | none => exact legible.of_eq (by simp [Hall.leave, here]) (by simp [Hall.leave, here])
    | some game =>
        rw [leave_of_room here]
        have departed := legible.depart sound here src
        cases (game.leave src).1.1 with
        | playing => exact departed.drop gameId src
        | waitingOpen => exact departed
        | waitingClosed => exact departed.setRoom (by simp)
  next => exact legible

theorem Legible.expel (legible : hall.Legible) (sound : hall.Sound nobody) (gameId : UInt32)
    (addr : SocketAddr) : (hall.expel gameId addr).Legible := by
  cases here : hall.room gameId with
  | none => exact legible.of_eq (by simp [Hall.expel, here]) (by simp [Hall.expel, here])
  | some game =>
      rw [expel_of_room here]
      split
      · exact (legible.depart sound here addr).drop gameId addr
      · exact legible.depart sound here addr

/-- Every message keeps the names legible. -/
theorem Legible.handle (legible : hall.Legible) (sound : hall.Sound nobody) (config : Config)
    (src : SocketAddr) (request : Request) : (hall.handle config src request).Legible := by
  apply hall.handle_elim config src request
  case unchanged => exact legible
  case created =>
    intro data _
    unfold Hall.create
    split
    · exact legible
    · have drawn : Legible { hall with nextGameId := hall.nextGameId + 1 } :=
        ⟨legible.members, legible.rooms⟩
      split
      next => exact drawn
      next member known =>
        refine (drawn.setRoom ?_).setGame src _
        rintro _ ⟨⟩
        exact GameInfo.createdGame_legible _ data src (legible.members src member known)
  case joined =>
    intro data gameId _ _
    unfold Hall.join
    split
    next member game known here =>
      split
      next =>
        refine (legible.setGame src _).setRoom ?_
        rintro _ ⟨⟩
        exact (legible.rooms gameId game here).seat (legible.members src member known).username
      next => exact legible
    next => exact legible
  case quitted => exact fun _ _ => legible.quit sound src
  case forgotten => exact fun _ _ => (legible.quit sound src).forget src
  case expelled => exact fun _ _ gameId addr _ _ _ => legible.expel sound gameId addr
  case started =>
    intro data _
    rcases hall.start_cases config src with same | ⟨gameId, game, warmups, here, begun⟩
    · rw [same]
      exact legible
    · rw [begun]
      refine legible.setRoom ?_
      rintro _ ⟨⟩
      exact (legible.rooms gameId game here).purge.setSync _ _
  case dropped => exact fun _ gameId _ _ _ => legible.drop gameId src
  case fed =>
    intro input gameId slot _ _
    rcases hall.feed_cases gameId slot input with same | ⟨game, sync, here, _, member, room⟩
    · rw [same]
      exact legible
    · have changed : (hall.setRoom gameId (some { game with
          syncManager := some (sync.call gameId (.input slot input)).2 })).Legible := by
        refine legible.setRoom ?_
        rintro _ ⟨⟩
        exact (legible.rooms gameId game here).setSync _ _
      exact changed.of_eq member room

end Hall

end Direlera.Lobby
