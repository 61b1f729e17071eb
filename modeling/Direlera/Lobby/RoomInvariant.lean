import Direlera.Lobby.Handlers
import Direlera.Sync.RoundShape

/-!
# What holds of a room

`RoomOk` ties the players of a game to its counter, its owner, its status and its
engine. Everything which a handler does to a game under its lock keeps it. A player
which is `late` has left the room while its slot is still to be dropped.
-/

namespace Direlera.Lobby

open Direlera.Sync

/-- No address has two slots. -/
theorem slot_unique {players : List GamePlayerInfo}
    (distinct : (players.map GamePlayerInfo.addr).Nodup) {slot other : Nat}
    {player twin : GamePlayerInfo} (here : players[slot]? = some player)
    (there : players[other]? = some twin) (same : player.addr = twin.addr) : slot = other := by
  have inRange := (List.getElem?_eq_some_iff.mp here).1
  refine (List.getElem?_inj (by simpa using inRange) distinct).mp ?_
  simp [here, there, same]

/-! ## The engine of a room -/

namespace SyncManager

variable {sync : SyncManager} {players : List GamePlayerInfo} {late : SocketAddr → Prop}

/-- The engine has one slot per player and has dropped every tombstone which is not late. -/
structure Serves (sync : SyncManager) (late : SocketAddr → Prop) (players : List GamePlayerInfo) :
    Prop where
  sized : sync.playerCount = players.length
  settled : sync.engine.Settled
  tombstones : ∀ (slot : Nat) (player : GamePlayerInfo), players[slot]? = some player →
    player.leftRoom = true → ¬late player.addr → sync.engine.isPlayerDropped slot = true

/-- A call drops the slot which it names and no other. -/
theorem call_isPlayerDropped (settled : sync.engine.Settled) (gameId : UInt32) (request : Call)
    (slot : Nat) :
    (sync.call gameId request).2.engine.isPlayerDropped slot =
      (sync.engine.isPlayerDropped slot ||
        decide (slot < sync.playerCount ∧ request = .drop slot)) := by
  obtain ⟨rounds, shape⟩ := settled.call request
  change ((DelayedGameSync.machine sync.playerCount).step sync.engine request).2.isPlayerDropped
    slot = _
  by_cases inRange : slot < sync.playerCount
  · have dropped := shape.dropped ⟨slot, inRange⟩
    simpa [DelayedGameSync.isPlayerDropped, SimplestGameSync.isPlayerDropped, inRange] using dropped
  · simp [DelayedGameSync.isPlayerDropped, SimplestGameSync.isPlayerDropped, inRange]

/-- After a call only those are late whom it did not drop. -/
theorem Serves.call (serves : sync.Serves late players)
    (distinct : (players.map GamePlayerInfo.addr).Nodup) (gameId : UInt32) (request : Call) :
    (sync.call gameId request).2.Serves (fun addr => late addr ∧
      ∀ (slot : Nat) (player : GamePlayerInfo), request = .drop slot →
        players[slot]? = some player → player.addr ≠ addr) players where
  sized := serves.sized
  settled := (serves.settled.call request).choose_spec.settled
  tombstones := by
    intro slot player here left onTime
    rw [call_isPlayerDropped serves.settled]
    by_cases wasLate : late player.addr
    · push Not at onTime
      obtain ⟨dropped, other, named, there, same⟩ := onTime wasLate
      have sameSlot := slot_unique distinct there here same
      have inRange : slot < sync.playerCount :=
        serves.sized ▸ (List.getElem?_eq_some_iff.mp here).1
      simp [named, sameSlot, inRange]
    · simp [serves.tombstones slot player here left wasLate]

end SyncManager

/-! ## The players of a room -/

/-- Mark the entries of an address as left. -/
def markLeft (addr : SocketAddr) (players : List GamePlayerInfo) : List GamePlayerInfo :=
  players.map fun player => if player.addr = addr then { player with leftRoom := true } else player

section Players

variable {players : List GamePlayerInfo} (addr : SocketAddr)

/-- Erasing the first entry of an address leaves the other addresses. -/
theorem eraseIdx_position (distinct : (players.map GamePlayerInfo.addr).Nodup) :
    (match players.findIdx? fun player => decide (player.addr = addr) with
      | some slot => players.eraseIdx slot
      | none => players) = players.filter fun player => player.addr ≠ addr := by
  induction players with
  | nil => rfl
  | cons player rest ih =>
      obtain ⟨fresh, distinct⟩ := List.nodup_cons.mp distinct
      have ih := ih distinct
      by_cases same : player.addr = addr
      · have others : ∀ other ∈ rest, other.addr ≠ addr := by
          intro other member equal
          exact fresh (same.trans equal.symm ▸ List.mem_map_of_mem member)
        simpa [List.findIdx?_cons, same] using (List.filter_eq_self.mpr (by simpa using others)).symm
      · cases found : rest.findIdx? fun player => decide (player.addr = addr) with
        | none => simpa [List.findIdx?_cons, same, found] using ih
        | some slot => simpa [List.findIdx?_cons, same, found] using ih

/-- Marking the first entry of an address marks all of them. -/
theorem modify_position (distinct : (players.map GamePlayerInfo.addr).Nodup) :
    (match players.findIdx? fun player => decide (player.addr = addr) with
      | some slot => players.modify slot fun player => { player with leftRoom := true }
      | none => players) = markLeft addr players := by
  induction players with
  | nil => rfl
  | cons player rest ih =>
      obtain ⟨fresh, distinct⟩ := List.nodup_cons.mp distinct
      have ih := ih distinct
      by_cases same : player.addr = addr
      · have others : markLeft addr rest = rest := by
          refine (List.map_congr_left fun other member => ?_).trans (List.map_id rest)
          have different : other.addr ≠ addr := by
            intro equal
            exact fresh (same.trans equal.symm ▸ List.mem_map_of_mem member)
          simp [different]
        simpa [List.findIdx?_cons, same, markLeft] using others.symm
      · cases found : rest.findIdx? fun player => decide (player.addr = addr) with
        | none => simpa [List.findIdx?_cons, same, found, markLeft] using ih
        | some slot => simpa [List.findIdx?_cons, same, found, markLeft] using ih

@[simp] theorem map_addr_markLeft :
    (markLeft addr players).map GamePlayerInfo.addr = players.map GamePlayerInfo.addr := by
  simp only [markLeft, List.map_map]
  refine List.map_congr_left fun player _ => ?_
  by_cases same : player.addr = addr <;> simp [same]

@[simp] theorem length_markLeft : (markLeft addr players).length = players.length :=
  List.length_map ..

/-- The others stay in the room. -/
theorem inRoom_markLeft :
    (markLeft addr players).filter (fun player => !player.leftRoom) =
      (players.filter fun player => !player.leftRoom).filter fun player => player.addr ≠ addr := by
  induction players with
  | nil => rfl
  | cons player rest ih =>
      have ih := ih
      simp only [markLeft] at ih
      by_cases same : player.addr = addr
      · cases left : player.leftRoom <;> simp [markLeft, same, left, ih]
      · cases left : player.leftRoom <;> simp [markLeft, same, left, ih]

end Players

namespace GameInfo

/-- What holds of a game between messages, its owner aside. -/
structure RoomOk (late : SocketAddr → Prop) (game : GameInfo) : Prop where
  distinct : (game.players.map GamePlayerInfo.addr).Nodup
  counted : game.numPlayers.toNat = game.inRoom.length
  seats : game.maxPlayers = 4
  bounded : game.players.length ≤ 4
  lan : ∀ player ∈ game.players, player.connType = 1
  waiting : game.syncManager = none →
    game.gameStatus = gameStatusWaiting ∧ ∀ player ∈ game.players, player.leftRoom = false
  playing : ∀ sync, game.syncManager = some sync →
    game.gameStatus = gameStatusPlaying ∧ sync.Serves late game.players

/-- A player in the room owns the game, unless the room is empty. -/
def Owned (game : GameInfo) : Prop :=
  game.inRoom ≠ [] → ∃ player ∈ game.inRoom, player.userId = game.ownerUserId

variable {game : GameInfo} {late : SocketAddr → Prop} {addr : SocketAddr}

/-- The slot of an address holds it. -/
theorem position_some {slot : Nat} (found : game.position addr = some slot) :
    ∃ player, game.players[slot]? = some player ∧ player.addr = addr := by
  obtain ⟨inRange, here, _⟩ := List.findIdx?_eq_some_iff_getElem.mp found
  exact ⟨game.players[slot], List.getElem?_eq_getElem inRange, by simpa using here⟩

/-- An address without a slot is not listed. -/
theorem position_none (missing : game.position addr = none) :
    ∀ player ∈ game.players, player.addr ≠ addr := by
  simpa [position] using missing

theorem mem_inRoom {player : GamePlayerInfo} :
    player ∈ game.inRoom ↔ player ∈ game.players ∧ player.leftRoom = false := by
  simp [inRoom]

/-- Everyone is in the room of a waiting game. -/
theorem RoomOk.inRoom_waiting (ok : game.RoomOk late) (idle : game.syncManager = none) :
    game.inRoom = game.players :=
  List.filter_eq_self.mpr fun player member => by
    simp [(ok.waiting idle).2 player member]

/-! ## Ownership -/

/-- Migration changes the owner alone, to somebody in the room. -/
theorem migrateOwnerIfNeeded_spec (game : GameInfo) :
    ∃ owner ownerUserId, game.migrateOwnerIfNeeded.2 = { game with owner, ownerUserId } ∧
      ({ game with owner, ownerUserId } : GameInfo).Owned := by
  unfold migrateOwnerIfNeeded
  split
  next present =>
    obtain ⟨player, member, here⟩ := List.any_eq_true.mp present
    simp only [Bool.and_eq_true, Bool.not_eq_eq_eq_not, Bool.not_true, beq_iff_eq] at here
    exact ⟨game.owner, game.ownerUserId, rfl, fun _ => ⟨player, mem_inRoom.mpr ⟨member, here.1⟩, here.2⟩⟩
  next =>
    split
    next nobody =>
      refine ⟨game.owner, game.ownerUserId, rfl, fun someone => absurd ?_ someone⟩
      exact List.filter_eq_nil_iff.mpr (by simpa using nobody)
    next player found =>
      refine ⟨player.username, player.userId, rfl, fun _ => ⟨player, mem_inRoom.mpr ?_, rfl⟩⟩
      exact ⟨List.mem_of_find?_eq_some found, by simpa using List.find?_some found⟩

@[simp] theorem players_migrate (game : GameInfo) :
    game.migrateOwnerIfNeeded.2.players = game.players := by
  obtain ⟨_, _, same, _⟩ := game.migrateOwnerIfNeeded_spec
  rw [same]

@[simp] theorem syncManager_migrate (game : GameInfo) :
    game.migrateOwnerIfNeeded.2.syncManager = game.syncManager := by
  obtain ⟨_, _, same, _⟩ := game.migrateOwnerIfNeeded_spec
  rw [same]

@[simp] theorem inRoom_migrate (game : GameInfo) :
    game.migrateOwnerIfNeeded.2.inRoom = game.inRoom := by
  simp [inRoom]

theorem RoomOk.migrate (ok : game.RoomOk late) : game.migrateOwnerIfNeeded.2.RoomOk late := by
  obtain ⟨owner, ownerUserId, same, _⟩ := game.migrateOwnerIfNeeded_spec
  rw [same]
  exact ⟨ok.distinct, ok.counted, ok.seats, ok.bounded, ok.lan, ok.waiting, ok.playing⟩

/-- After migration somebody in the room owns the game. -/
theorem owned_migrate (game : GameInfo) : game.migrateOwnerIfNeeded.2.Owned := by
  obtain ⟨owner, ownerUserId, same, owned⟩ := game.migrateOwnerIfNeeded_spec
  rw [same]
  exact owned

/-! ## Opening and joining -/

/-- A created game is in order. -/
theorem createdGame_roomOk (gameId : UInt32) (gameName : Bytes) (src : SocketAddr)
    {client : Member} (lan : client.connType = 1) :
    (createdGame gameId gameName src client).RoomOk late where
  distinct := by simp [createdGame]
  counted := rfl
  seats := rfl
  bounded := by simp [createdGame]
  lan := by simpa [createdGame] using lan
  waiting := by simp [createdGame]
  playing := by simp [createdGame]

theorem createdGame_owned (gameId : UInt32) (gameName : Bytes) (src : SocketAddr)
    (client : Member) : (createdGame gameId gameName src client).Owned := by
  simp [Owned, createdGame, inRoom]

/-- A joinable game waits and has a free seat. -/
theorem joinable_iff :
    game.joinable = true ↔ game.gameStatus = gameStatusWaiting ∧ game.syncManager = none ∧
      game.numPlayers < game.maxPlayers := by
  simp [joinable, and_assoc]

theorem inRoom_seat {player : GamePlayerInfo} (here : player.leftRoom = false)
    (unlisted : game.lists player.addr = false) :
    (game.seat player).inRoom = game.inRoom ++ [player] := by
  simp [seat, inRoom, unlisted, here]

/-- A joined game is in order. -/
theorem RoomOk.seat (ok : game.RoomOk late) (joinable : game.joinable = true)
    {player : GamePlayerInfo} (here : player.leftRoom = false) (lan : player.connType = 1)
    (unlisted : game.lists player.addr = false) : (game.seat player).RoomOk late := by
  obtain ⟨status, idle, free⟩ := joinable_iff.mp joinable
  have everyone := ok.inRoom_waiting idle
  have counted := ok.counted
  have room : game.players.length < 4 := by
    rw [ok.seats, UInt8.lt_iff_toNat_lt, counted, everyone] at free
    exact free
  have seated : game.seat player =
      { game with numPlayers := game.numPlayers + 1, players := game.players ++ [player] } := by
    simp [GameInfo.seat, unlisted]
  have fresh : ∀ other ∈ game.players, other.addr ≠ player.addr := by
    simpa [lists] using unlisted
  have everyoneToo := inRoom_seat here unlisted
  rw [seated, everyone] at everyoneToo
  rw [seated]
  constructor
  · rw [List.map_append, List.nodup_append]
    refine ⟨ok.distinct, List.nodup_singleton _, ?_⟩
    simpa using fresh
  · have one : (1 : UInt8).toNat = 1 := rfl
    rw [everyoneToo, List.length_append, List.length_singleton, UInt8.toNat_add, counted, everyone,
      one]
    omega
  · exact ok.seats
  · rw [List.length_append]
    exact room
  · simpa [or_imp, forall_and] using ⟨ok.lan, lan⟩
  · intro _
    refine ⟨status, ?_⟩
    simpa [or_imp, forall_and] using ⟨(ok.waiting idle).2, here⟩
  · intro sync running
    simp [idle] at running

/-- A joined game keeps its owner; an empty one is owned if its joiner is on record. -/
theorem Owned.seat (owned : game.Owned) {player : GamePlayerInfo} (here : player.leftRoom = false)
    (unlisted : game.lists player.addr = false)
    (welcome : game.inRoom = [] → player.userId = game.ownerUserId) :
    (game.seat player).Owned := by
  have sameOwner : (game.seat player).ownerUserId = game.ownerUserId := by
    simp only [GameInfo.seat, unlisted]
    rfl
  intro _
  rw [inRoom_seat here unlisted, sameOwner]
  by_cases someone : game.inRoom = []
  · exact ⟨player, by simp, welcome someone⟩
  · obtain ⟨owner, member, owns⟩ := owned someone
    exact ⟨owner, List.mem_append_left _ member, owns⟩

/-! ## Leaving -/

/-- A count of seats fits its byte. -/
theorem toNat_count {count : Nat} (few : count ≤ 4) : (UInt8.ofNat count).toNat = count := by
  rw [UInt8.toNat_ofNat']
  exact Nat.mod_eq_of_lt (by omega)

/-- What leaving does to the players of a game. -/
theorem leave_spec (distinct : (game.players.map GamePlayerInfo.addr).Nodup) (addr : SocketAddr) :
    (game.leave addr).2 =
      (match game.syncManager with
        | some _ =>
            let players := markLeft addr game.players
            game.recount players (players.countP fun player : GamePlayerInfo => !player.leftRoom)
        | none =>
            let players := game.players.filter fun player : GamePlayerInfo => player.addr ≠ addr
            game.recount players players.length).migrateOwnerIfNeeded.2 := by
  have erased := eraseIdx_position addr distinct
  have marked := modify_position addr distinct
  cases running : game.syncManager with
  | some sync =>
      simp only [leave, running, position]
      rewrite [← marked]
      rfl
  | none =>
      simp only [leave, running, position]
      rewrite [← erased]
      rfl

/-- Leaving keeps the engine, and in a live game the addresses by slot. -/
theorem leave_keeps (game : GameInfo) (addr : SocketAddr) :
    (game.leave addr).2.syncManager = game.syncManager ∧
      (game.syncManager.isSome = true → (game.leave addr).2.players.map GamePlayerInfo.addr =
        game.players.map GamePlayerInfo.addr) := by
  cases running : game.syncManager with
  | none => simp [leave, running, recount]
  | some sync =>
      simp only [leave, running, syncManager_migrate, players_migrate, recount, true_and]
      intro _
      cases game.position addr with
      | none => rfl
      | some slot =>
          apply List.ext_getElem?
          intro i
          by_cases same : slot = i
          · subst same
            simp [Function.comp_def]
          · simp [same]

/-- Whether leaving meant leaving a live game. -/
theorem leave_playing_iff (game : GameInfo) (addr : SocketAddr) :
    (game.leave addr).1.1 = .playing ↔ game.syncManager.isSome = true := by
  cases running : game.syncManager with
  | some sync => simp [leave, running]
  | none =>
      simp only [leave, running, Option.isSome_none, Bool.false_eq_true, iff_false]
      generalize List.isEmpty _ = closed
      cases closed <;> simp

/-- The others stay in the room. -/
theorem inRoom_leave (distinct : (game.players.map GamePlayerInfo.addr).Nodup)
    (addr : SocketAddr) :
    (game.leave addr).2.inRoom = game.inRoom.filter fun player => player.addr ≠ addr := by
  rw [leave_spec distinct, inRoom_migrate]
  cases game.syncManager with
  | some sync => exact inRoom_markLeft addr
  | none =>
      simp only [recount, inRoom, List.filter_filter]
      exact List.filter_congr fun player _ => by rw [Bool.and_comm]

theorem leave_owned (distinct : (game.players.map GamePlayerInfo.addr).Nodup)
    (addr : SocketAddr) : (game.leave addr).2.Owned := by
  rw [leave_spec distinct]
  exact owned_migrate _

/-- A left game is in order; the leaver of a live one is late. -/
theorem RoomOk.leave (ok : game.RoomOk late) (addr : SocketAddr) :
    (game.leave addr).2.RoomOk fun other =>
      late other ∨ game.syncManager.isSome = true ∧ other = addr := by
  rw [leave_spec ok.distinct]
  cases running : game.syncManager with
  | some sync =>
      obtain ⟨status, serves⟩ := ok.playing sync running
      refine RoomOk.migrate ⟨?_, ?_, ok.seats, ?_, ?_, ?_, ?_⟩
      · simpa [recount] using ok.distinct
      · have few := List.length_filter_le (fun player : GamePlayerInfo => !player.leftRoom)
          (markLeft addr game.players)
        have bounded := ok.bounded
        rw [length_markLeft] at few
        simp only [recount, inRoom, List.countP_eq_length_filter]
        exact toNat_count (few.trans bounded)
      · simpa [recount] using ok.bounded
      · intro player member
        obtain ⟨original, listed, rfl⟩ := List.mem_map.mp member
        by_cases same : original.addr = addr <;> simpa [same] using ok.lan original listed
      · intro idle
        simp [recount, running] at idle
      · intro current same
        obtain rfl : current = sync := by simpa [recount, running] using same.symm
        refine ⟨status, ?_, serves.settled, ?_⟩
        · simpa [recount] using serves.sized
        · intro slot player here left onTime
          obtain ⟨original, listed, rfl⟩ :
              ∃ original, game.players[slot]? = some original ∧
                (if original.addr = addr then { original with leftRoom := true } else original) =
                  player := by
            simpa [recount, markLeft] using here
          by_cases same : original.addr = addr
          · simp [same] at onTime
          · simp only [same, if_false] at left onTime
            exact serves.tombstones slot original listed left fun wasLate => onTime (.inl wasLate)
  | none =>
      have stays := (ok.waiting running).2
      have few := List.length_filter_le (fun player : GamePlayerInfo => decide (player.addr ≠ addr))
        game.players
      have bounded := ok.bounded
      refine RoomOk.migrate ⟨?_, ?_, ok.seats, ?_, ?_, ?_, ?_⟩
      · exact ok.distinct.sublist (List.filter_sublist.map _)
      · have everyone : (game.players.filter fun player => decide (player.addr ≠ addr)).filter
            (fun player => !player.leftRoom) =
              game.players.filter fun player => decide (player.addr ≠ addr) :=
          List.filter_eq_self.mpr fun player member => by
            simp [stays player (List.mem_filter.mp member).1]
        simp only [recount, inRoom, everyone]
        exact toNat_count (few.trans bounded)
      · exact few.trans bounded
      · exact fun player member => ok.lan player (List.mem_filter.mp member).1
      · exact fun _ => ⟨(ok.waiting running).1,
          fun player member => stays player (List.mem_filter.mp member).1⟩
      · intro sync same
        simp [recount, running] at same

/-! ## Playing -/

/-- A call on the engine keeps a live game in order; those whom it dropped are not late. -/
theorem RoomOk.call (ok : game.RoomOk late) {sync : SyncManager}
    (running : game.syncManager = some sync) (gameId : UInt32) (request : Call) :
    ({ game with syncManager := some (sync.call gameId request).2 } : GameInfo).RoomOk
      fun other => late other ∧ ∀ (slot : Nat) (player : GamePlayerInfo), request = .drop slot →
        game.players[slot]? = some player → player.addr ≠ other where
  distinct := ok.distinct
  counted := ok.counted
  seats := ok.seats
  bounded := ok.bounded
  lan := ok.lan
  waiting := by simp
  playing := by
    intro current same
    obtain rfl : (sync.call gameId request).2 = current := by simpa using same
    exact ⟨(ok.playing sync running).1, (ok.playing sync running).2.call ok.distinct gameId request⟩

/-- Fewer may be late. -/
theorem RoomOk.imp {sooner : SocketAddr → Prop} (ok : game.RoomOk late)
    (onTime : ∀ player ∈ game.players, late player.addr → sooner player.addr) :
    game.RoomOk sooner where
  distinct := ok.distinct
  counted := ok.counted
  seats := ok.seats
  bounded := ok.bounded
  lan := ok.lan
  waiting := ok.waiting
  playing := by
    intro sync running
    obtain ⟨status, serves⟩ := ok.playing sync running
    refine ⟨status, serves.sized, serves.settled, ?_⟩
    intro slot player here left early
    exact serves.tombstones slot player here left fun wasLate =>
      early (onTime player (List.mem_of_getElem? here) wasLate)

/-! ## Starting and ending -/

/-- An ended game is in order. -/
theorem RoomOk.finish (ok : game.RoomOk late) {sooner : SocketAddr → Prop} :
    game.finish.RoomOk sooner := by
  have few := List.length_filter_le (fun player : GamePlayerInfo => !player.leftRoom) game.players
  have stays : ∀ player ∈ game.inRoom, player.leftRoom = false :=
    fun player member => (mem_inRoom.mp member).2
  refine RoomOk.migrate ⟨?_, ?_, ok.seats, ?_, ?_, ?_, ?_⟩
  · exact ok.distinct.sublist (List.filter_sublist.map _)
  · have everyone : game.inRoom.filter (fun player => !player.leftRoom) = game.inRoom :=
      List.filter_eq_self.mpr fun player member => by simp [stays player member]
    change (UInt8.ofNat game.inRoom.length).toNat =
      (game.inRoom.filter fun player => !player.leftRoom).length
    rw [everyone]
    exact toNat_count (few.trans ok.bounded)
  · exact few.trans ok.bounded
  · exact fun player member => ok.lan player (mem_inRoom.mp member).1
  · exact fun _ => ⟨rfl, stays⟩
  · intro sync running
    cases running

theorem inRoom_purge (game : GameInfo) : game.purge.inRoom = game.inRoom := by
  simp [purge, recount, inRoom]

theorem players_finish (game : GameInfo) : game.finish.players = game.inRoom := by
  rw [finish, players_migrate]
  rfl

theorem finish_owned (game : GameInfo) : game.finish.Owned := owned_migrate _

/-- The delays of LAN players are 1. -/
theorem delays_lan {players : List GamePlayerInfo} (lan : ∀ player ∈ players, player.connType = 1) :
    (fun slot : Fin (players.map fun player => player.connType.toNat).length =>
      (players.map fun player => player.connType.toNat)[slot]) = fun _ => 1 := by
  funext slot
  obtain ⟨player, member, same⟩ := List.mem_map.mp (List.getElem_mem slot.isLt)
  exact same.symm.trans (by simp [lan player member])

/-- A started game is in order. -/
theorem RoomOk.begin (ok : game.RoomOk late) (warmups : List Nat) (disableOutputCache : Bool)
    {sooner : SocketAddr → Prop} :
    (game.purge.begin (game.purge.players.map fun player => player.connType.toNat) warmups
      disableOutputCache).RoomOk sooner where
  distinct := ok.distinct.sublist (List.filter_sublist.map _)
  counted := by
    change (UInt8.ofNat game.inRoom.length).toNat = game.purge.inRoom.length
    rw [inRoom_purge]
    exact toNat_count ((List.length_filter_le _ _).trans ok.bounded)
  seats := ok.seats
  bounded := (List.length_filter_le _ _).trans ok.bounded
  lan := fun player member => ok.lan player (mem_inRoom.mp member).1
  waiting := by simp [GameInfo.begin]
  playing := by
    intro sync running
    have paced := delays_lan fun player (member : player ∈ game.purge.players) =>
      ok.lan player (mem_inRoom.mp member).1
    obtain rfl := Option.some.inj running
    refine ⟨rfl, ?_, ?_, ?_⟩
    · simp [GameInfo.begin, purge, recount]
    · simp only [paced]
      exact DelayedGameSync.start_settled _ _
    · intro slot player here left
      have stayed := (mem_inRoom.mp (List.mem_of_getElem? here : player ∈ game.inRoom)).2
      simp [left] at stayed

theorem inRoom_begin (game : GameInfo) (delays warmups : List Nat) (disableOutputCache : Bool) :
    (game.purge.begin delays warmups disableOutputCache).inRoom = game.inRoom :=
  game.inRoom_purge

end GameInfo

end Direlera.Lobby
