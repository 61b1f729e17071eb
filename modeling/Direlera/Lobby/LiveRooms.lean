import Direlera.Lobby.Statuses

/-!
# Live rooms between two messages

A message which neither starts a game nor signals readiness leaves the players of a live
game as they were, unless somebody leaves the game or drops in it.
-/

namespace Direlera.Lobby

open Direlera.Library Direlera.Sync Direlera.Wire

namespace GameInfo

/-- The engine has dropped a slot. -/
def dropped (game : GameInfo) (slot : Nat) : Bool :=
  game.syncManager.any fun sync => sync.engine.isPlayerDropped slot

/-- A fresh engine has dropped nobody. -/
theorem dropped_begin (game : GameInfo) (delays warmups : List Nat) (disableOutputCache : Bool)
    (slot : Nat) : (game.begin delays warmups disableOutputCache).dropped slot = false := by
  change (if inRange : slot < delays.length then false else false) = false
  split <;> rfl

/-- A live game later on; it has the same players unless all of them were disturbed. -/
structure Continues (disturbed : SocketAddr → Prop) (before after : GameInfo) : Prop where
  live : before.syncManager.isSome = true
  stays : ∀ player ∈ after.inRoom, player ∈ before.inRoom
  untouched : ∀ player ∈ after.players, ¬disturbed player.addr →
    after.players = before.players ∧ ∀ slot, after.dropped slot = before.dropped slot

variable {disturbed : SocketAddr → Prop} {before middle after : GameInfo}

theorem Continues.refl (live : before.syncManager.isSome = true) :
    before.Continues disturbed before :=
  ⟨live, fun _ => id, fun _ _ _ => ⟨rfl, fun _ => rfl⟩⟩

theorem Continues.trans (first : before.Continues disturbed middle)
    (second : middle.Continues disturbed after) : before.Continues disturbed after where
  live := first.live
  stays := fun player inRoom => first.stays player (second.stays player inRoom)
  untouched := by
    intro player listed calm
    obtain ⟨samePlayers, sameDropped⟩ := second.untouched player listed calm
    obtain ⟨players, dropped⟩ := first.untouched player (samePlayers ▸ listed) calm
    exact ⟨samePlayers.trans players, fun slot => (sameDropped slot).trans (dropped slot)⟩

@[simp] theorem gameId_migrate (game : GameInfo) :
    game.migrateOwnerIfNeeded.2.gameId = game.gameId := by
  unfold migrateOwnerIfNeeded
  split
  · rfl
  · split <;> rfl

@[simp] theorem gameId_finish (game : GameInfo) : game.finish.gameId = game.gameId :=
  gameId_migrate _

@[simp] theorem gameId_leave (game : GameInfo) (addr : SocketAddr) :
    (game.leave addr).2.gameId = game.gameId := by
  cases running : game.syncManager with
  | some sync =>
      simp only [leave, running, gameId_migrate]
      rfl
  | none =>
      simp only [leave, running, gameId_migrate]
      rfl

@[simp] theorem gameId_seat (game : GameInfo) (player : GamePlayerInfo) :
    (game.seat player).gameId = game.gameId := by
  unfold seat
  split <;> rfl

end GameInfo

namespace Hall

variable {disturbed : SocketAddr → Prop} {before middle after : Hall} {gameId : UInt32}
  {game : GameInfo}

/-- Every live game was live before, and continues. -/
def Continues (disturbed : SocketAddr → Prop) (before after : Hall) : Prop :=
  ∀ gameId game, after.room gameId = some game → game.syncManager.isSome = true →
    ∃ earlier, before.room gameId = some earlier ∧ earlier.Continues disturbed game

theorem continues_of_eq (room : after.room = before.room) : before.Continues disturbed after := by
  intro gameId game here live
  exact ⟨game, room ▸ here, .refl live⟩

theorem Continues.trans (first : before.Continues disturbed middle)
    (second : middle.Continues disturbed after) : before.Continues disturbed after := by
  intro gameId game here live
  obtain ⟨between, there, later⟩ := second gameId game here live
  obtain ⟨earlier, known, sooner⟩ := first gameId between there later.live
  exact ⟨earlier, known, sooner.trans later⟩

/-- One room may change if it continues, or is not live afterwards. -/
theorem continues_setRoom {room : Option GameInfo}
    (here : ∀ game, room = some game → game.syncManager.isSome = true →
      ∃ earlier, before.room gameId = some earlier ∧ earlier.Continues disturbed game) :
    before.Continues disturbed (before.setRoom gameId room) := by
  intro other game there live
  rw [room_setRoom] at there
  split at there
  next same => exact same ▸ here game there live
  next => exact ⟨game, there, .refl live⟩

/-- A drop disturbs the players of its game. -/
theorem continues_drop (src : SocketAddr)
    (disturbs : ∀ game, before.room gameId = some game → ∀ player ∈ game.players,
      disturbed player.addr) : before.Continues disturbed (before.drop gameId src) := by
  rcases before.drop_cases gameId src with ⟨sameRoom, _⟩ |
    ⟨game, sync, slot, here, running, _, room, sameRoom, outcome⟩
  · exact continues_of_eq sameRoom
  · refine (continues_setRoom ?_).trans (continues_of_eq sameRoom)
    rintro after rfl live
    refine ⟨game, here, by simp [running], ?_, ?_⟩
    · rcases outcome with same | same | ⟨same, _⟩
      · obtain rfl := Option.some.inj same
        exact fun player inRoom => inRoom
      · obtain rfl := Option.some.inj same
        simp [GameInfo.finish, GameInfo.purge, GameInfo.recount] at live
      · simp at same
    · rcases outcome with same | same | ⟨same, _⟩
      · obtain rfl := Option.some.inj same
        exact fun player listed calm => (calm (disturbs game here player listed)).elim
      · obtain rfl := Option.some.inj same
        simp [GameInfo.finish, GameInfo.purge, GameInfo.recount] at live
      · simp at same

/-- A departure disturbs the players of the game, if it is live. -/
theorem continues_depart (ok : game.RoomOk (nobody gameId)) (here : before.room gameId = some game)
    (addr : SocketAddr) (disturbs : ∀ player ∈ game.players, disturbed player.addr) :
    before.Continues disturbed (before.depart gameId addr game) := by
  have moved : before.Continues disturbed (before.setGame addr none) := continues_of_eq rfl
  refine moved.trans (continues_setRoom ?_)
  rintro after ⟨⟩ live
  obtain ⟨sameSync, sameAddrs⟩ := game.leave_keeps addr
  rw [sameSync] at live
  refine ⟨game, here, live, ?_, ?_⟩
  · rw [GameInfo.inRoom_leave ok.distinct]
    exact fun player inRoom => (List.mem_filter.mp inRoom).1
  · intro player listed calm
    have listedBefore : player.addr ∈ game.players.map GamePlayerInfo.addr :=
      sameAddrs live ▸ List.mem_map_of_mem listed
    obtain ⟨original, known, same⟩ := List.mem_map.mp listedBefore
    exact (calm (same ▸ disturbs original known)).elim

/-- What a departure leaves disturbed is still listed. -/
theorem disturbs_departed (addr : SocketAddr) (live : game.syncManager.isSome = true)
    (disturbs : ∀ player ∈ game.players, disturbed player.addr) :
    ∀ after, (before.depart gameId addr game).room gameId = some after →
      ∀ player ∈ after.players, disturbed player.addr := by
  intro after there player listed
  obtain rfl : (game.leave addr).2 = after := by simpa [depart, setRoom] using there
  have listedBefore : player.addr ∈ game.players.map GamePlayerInfo.addr :=
    (game.leave_keeps addr).2 live ▸ List.mem_map_of_mem listed
  obtain ⟨original, known, same⟩ := List.mem_map.mp listedBefore
  exact same ▸ disturbs original known

theorem continues_leave (sound : before.Sound nobody) (addr : SocketAddr)
    (disturbs : ∀ game, before.room gameId = some game → ∀ player ∈ game.players,
      disturbed player.addr) : before.Continues disturbed (before.leave gameId addr) := by
  cases here : before.room gameId with
  | none => exact continues_of_eq (by simp [leave, here])
  | some game =>
      rw [leave_of_room here]
      have departed := continues_depart (sound.rooms gameId game here) here addr (disturbs game here)
      cases outcome : (game.leave addr).1.1 with
      | playing =>
          have live := (game.leave_playing_iff addr).mp outcome
          exact departed.trans
            (continues_drop addr (disturbs_departed addr live (disturbs game here)))
      | waitingOpen => exact departed
      | waitingClosed => exact departed.trans (continues_setRoom (by simp))

theorem continues_expel (sound : before.Sound nobody) (addr : SocketAddr)
    (disturbs : ∀ game, before.room gameId = some game → ∀ player ∈ game.players,
      disturbed player.addr) : before.Continues disturbed (before.expel gameId addr) := by
  cases here : before.room gameId with
  | none => exact continues_of_eq (by simp [expel, here])
  | some game =>
      rw [expel_of_room here]
      have departed := continues_depart (sound.rooms gameId game here) here addr (disturbs game here)
      split
      next playing =>
        have live := (game.leave_playing_iff addr).mp playing
        exact departed.trans
          (continues_drop addr (disturbs_departed addr live (disturbs game here)))
      next => exact departed

/-- An input drops nobody. -/
theorem continues_feed (sound : before.Sound nobody) (gameId : UInt32) (slot : Nat)
    (input : ClientInput) : before.Continues disturbed (before.feed gameId slot input) := by
  rcases before.feed_cases gameId slot input with same | ⟨game, sync, here, running, _, room⟩
  · exact continues_of_eq (congrArg Hall.room same)
  · refine (continues_setRoom ?_).trans (continues_of_eq room)
    rintro _ ⟨⟩ _
    have settled := ((sound.rooms gameId game here).playing sync running).2.settled
    refine ⟨game, here, by simp [running], fun player inRoom => inRoom, fun _ _ _ => ⟨rfl, ?_⟩⟩
    intro other
    have kept := SyncManager.call_isPlayerDropped settled gameId (.input slot input) other
    simpa [GameInfo.dropped, running] using kept

/-- Whoever a departing member's game lists is disturbed. -/
theorem disturbs_listed {hall : Hall} {src leaver : SocketAddr} {request : Request}
    (departs : hall.departure src request = some (gameId, leaver)) :
    ∀ game, hall.room gameId = some game → ∀ player ∈ game.players,
      hall.disturbs src request player.addr = true := by
  intro game here player listed
  simp only [disturbs, departs, Option.any_some, here, GameInfo.lists, List.any_eq_true]
  exact ⟨player, listed, by simp⟩

/-- Who leaves or drops is in the game. -/
theorem gameOf_departure {hall : Hall} {src leaver : SocketAddr} {request : Request}
    (departs : hall.departure src request = some (gameId, leaver)) :
    hall.gameOf leaver = some gameId := by
  have playing : (hall.gameOf src).map (fun gameId => (gameId, src)) = some (gameId, leaver) →
      hall.gameOf leaver = some gameId := by
    intro here
    obtain ⟨_, inGame, same⟩ := Option.map_eq_some_iff.mp here
    obtain ⟨rfl, rfl⟩ := Prod.mk.inj same
    exact inGame
  cases request with
  | quitGame data => exact playing departs
  | userQuit data => exact playing departs
  | kickUser data =>
      obtain ⟨userId, _, target⟩ := Option.bind_eq_some_iff.mp departs
      exact gameOf_kickTarget target
  | dropGame data =>
      obtain ⟨place, resolved, same⟩ := Option.map_eq_some_iff.mp departs
      obtain ⟨rfl, rfl⟩ := Prod.mk.inj same
      exact (resolve_eq_some resolved).1
  | _ => simp [departure] at departs

/-- A plain message continues live games; those which it disturbs are the players of a game
which somebody leaves or drops in. -/
theorem continues_handle {hall : Hall} (sound : hall.Sound nobody) (config : Config)
    (src : SocketAddr) {request : Request} (plain : request.isPlain = true) :
    hall.Continues (fun addr => hall.disturbs src request addr = true)
      (hall.handle config src request) := by
  have quitted : (∀ gameId, hall.gameOf src = some gameId →
      hall.departure src request = some (gameId, src)) →
        hall.Continues (fun addr => hall.disturbs src request addr = true) (hall.quit src) := by
    intro departs
    unfold quit
    split
    next gameId inGame => exact continues_leave sound src (disturbs_listed (departs gameId inGame))
    next => exact continues_of_eq rfl
  apply hall.handle_elim config src request
  case unchanged => exact continues_of_eq rfl
  case created =>
    intro data _
    unfold create
    split
    · exact continues_of_eq rfl
    · split
      · exact continues_of_eq rfl
      · have drawn : hall.Continues (fun addr => hall.disturbs src request addr = true)
            { hall with nextGameId := hall.nextGameId + 1 } := continues_of_eq rfl
        refine (drawn.trans (continues_setRoom ?_)).trans (continues_of_eq rfl)
        rintro _ ⟨⟩ live
        simp [createdGame] at live
  case joined =>
    intro data gameId _ _
    unfold join
    split
    next member game known here =>
      split
      next free =>
        have moved : hall.Continues (fun addr => hall.disturbs src request addr = true)
            (hall.setGame src gameId) := continues_of_eq rfl
        refine moved.trans (continues_setRoom ?_)
        rintro _ ⟨⟩ live
        have idle := (GameInfo.joinable_iff.mp free.2).2.1
        simp [GameInfo.seat] at live
        split at live <;> simp [idle] at live
      next => exact continues_of_eq rfl
    next => exact continues_of_eq rfl
  case quitted =>
    rintro data rfl
    exact quitted fun gameId inGame => by simp [departure, inGame]
  case forgotten =>
    rintro data rfl
    refine (quitted fun gameId inGame => ?_).trans (continues_of_eq rfl)
    simp [departure, inGame]
  case expelled =>
    rintro data userId gameId addr rfl parsed target
    have departs : hall.departure src (.kickUser data) = some (gameId, addr) := by
      simp [departure, parsed, target]
    exact continues_expel sound addr (disturbs_listed departs)
  case started =>
    rintro data rfl
    simp [Request.isPlain] at plain
  case dropped =>
    rintro data gameId slot rfl resolved
    have departs : hall.departure src (.dropGame data) = some (gameId, src) := by
      simp [departure, resolved]
    exact continues_drop src (disturbs_listed departs)
  case fed => exact fun input gameId slot _ _ => continues_feed sound gameId slot input

/-! ## Names -/

/-- Every room carries its own id. -/
def Named (hall : Hall) : Prop := ∀ gameId game, hall.room gameId = some game → game.gameId = gameId

variable {hall : Hall}

theorem Named.of_eq (named : hall.Named) (room : after.room = hall.room) : after.Named := by
  rw [Named, room]
  exact named

theorem Named.setRoom (named : hall.Named) {room : Option GameInfo}
    (here : ∀ game, room = some game → game.gameId = gameId) : (hall.setRoom gameId room).Named := by
  intro other game there
  rw [room_setRoom] at there
  split at there
  next same => exact same ▸ here game there
  next => exact named other game there

theorem Named.drop (named : hall.Named) (gameId : UInt32) (src : SocketAddr) :
    (hall.drop gameId src).Named := by
  rcases hall.drop_cases gameId src with ⟨sameRoom, _⟩ |
    ⟨game, sync, slot, here, _, _, room, sameRoom, outcome⟩
  · exact named.of_eq sameRoom
  · refine Named.of_eq (named.setRoom ?_) sameRoom
    rintro after rfl
    have own := named gameId game here
    rcases outcome with same | same | ⟨same, _⟩
    · exact Option.some.inj same ▸ own
    · obtain rfl := Option.some.inj same
      rw [GameInfo.gameId_finish]
      exact own
    · simp at same

theorem Named.depart (named : hall.Named) (here : hall.room gameId = some game) (addr : SocketAddr) :
    (hall.depart gameId addr game).Named := by
  have moved : (hall.setGame addr none).Named := named
  refine moved.setRoom ?_
  rintro _ ⟨⟩
  rw [GameInfo.gameId_leave]
  exact named gameId game here

theorem Named.leave (named : hall.Named) (gameId : UInt32) (addr : SocketAddr) :
    (hall.leave gameId addr).Named := by
  cases here : hall.room gameId with
  | none => exact named.of_eq (by simp [Hall.leave, here])
  | some game =>
      rw [leave_of_room here]
      have departed := named.depart here addr
      cases (game.leave addr).1.1 with
      | playing => exact departed.drop gameId addr
      | waitingOpen => exact departed
      | waitingClosed => exact departed.setRoom (by simp)

theorem Named.quit (named : hall.Named) (src : SocketAddr) : (hall.quit src).Named := by
  unfold Hall.quit
  split
  · exact named.leave _ src
  · exact named

theorem Named.expel (named : hall.Named) (gameId : UInt32) (addr : SocketAddr) :
    (hall.expel gameId addr).Named := by
  cases here : hall.room gameId with
  | none => exact named.of_eq (by simp [Hall.expel, here])
  | some game =>
      rw [expel_of_room here]
      split
      · exact (named.depart here addr).drop gameId addr
      · exact named.depart here addr

/-- Every message keeps the rooms under their ids. -/
theorem Named.handle (named : hall.Named) (config : Config) (src : SocketAddr)
    (request : Request) : (hall.handle config src request).Named := by
  apply hall.handle_elim config src request
  case unchanged => exact named
  case created =>
    intro data _
    unfold Hall.create
    split
    · exact named
    · split
      · exact named
      · have drawn : Named { hall with nextGameId := hall.nextGameId + 1 } := named
        refine Named.of_eq (drawn.setRoom ?_) rfl
        rintro _ ⟨⟩
        rfl
  case joined =>
    intro data gameId _ _
    unfold Hall.join
    split
    next member game known here =>
      split
      next =>
        have moved : (hall.setGame src gameId).Named := named
        refine moved.setRoom ?_
        rintro _ ⟨⟩
        rw [GameInfo.gameId_seat]
        exact named gameId game here
      next => exact named
    next => exact named
  case quitted => exact fun _ _ => named.quit src
  case forgotten => exact fun _ _ => (named.quit src).of_eq rfl
  case expelled => exact fun _ _ gameId addr _ _ _ => named.expel gameId addr
  case started =>
    intro data _
    rcases hall.start_cases config src with same | ⟨gameId, game, warmups, here, begun⟩
    · exact named.of_eq (congrArg Hall.room same)
    · rw [begun]
      refine named.setRoom ?_
      rintro _ ⟨⟩
      exact named gameId game here
  case dropped => exact fun _ gameId _ _ _ => named.drop gameId src
  case fed =>
    intro input gameId slot _ _
    rcases hall.feed_cases gameId slot input with same | ⟨game, sync, here, _, _, room⟩
    · exact named.of_eq (congrArg Hall.room same)
    · refine Named.of_eq (named.setRoom ?_) room
      rintro _ ⟨⟩
      exact named gameId game here

end Hall

end Direlera.Lobby
