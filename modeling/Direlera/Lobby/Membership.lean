import Direlera.Lobby.Refinement
import Direlera.Lobby.RoomInvariant

/-!
# Who is in which room

`Sound` relates members and rooms: a listed player is in the room exactly when its
member says so. `Anchored` is the other direction, that a member which says so is listed.
Every message keeps both, the second one as long as no id is drawn twice.
-/

namespace Direlera.Lobby

open Direlera.Library Direlera.Sync

namespace Hall

/-- The game which a member is in. -/
def gameOf (hall : Hall) (addr : SocketAddr) : Option UInt32 :=
  (hall.member addr).bind Member.gameId

variable {hall : Hall} {late : UInt32 → SocketAddr → Prop} {gameId : UInt32} {game : GameInfo}
  {addr src : SocketAddr}

/-! ## Frames of the small operations -/

@[simp] theorem gameOf_setRoom (id : UInt32) (room : Option GameInfo) (other : SocketAddr) :
    (hall.setRoom id room).gameOf other = hall.gameOf other := rfl

theorem gameOf_setGame (addr : SocketAddr) (moved : Option UInt32) (other : SocketAddr) :
    (hall.setGame addr moved).gameOf other =
      if other = addr then (hall.member addr).bind fun _ => moved else hall.gameOf other := by
  by_cases same : other = addr
  · subst same
    simp [gameOf, setGame, Option.bind_map]
  · simp [gameOf, setGame, same]

theorem gameOf_forget (addr other : SocketAddr) :
    (hall.forget addr).gameOf other = if other = addr then none else hall.gameOf other := by
  by_cases same : other = addr
  · simp [gameOf, forget, same]
  · simp [gameOf, forget, same]

theorem room_setRoom (id other : UInt32) (room : Option GameInfo) :
    (hall.setRoom id room).room other = if other = id then room else hall.room other := by
  by_cases same : other = id
  · simp [setRoom, same]
  · simp [setRoom, same]

@[simp] theorem member_deliver (outputs : List (Option TargetOutput)) :
    (hall.deliver outputs).member = hall.member := by
  induction outputs generalizing hall with
  | nil => rfl
  | cons output rest ih =>
      cases output with
      | none => rfl
      | some output =>
          rw [deliver]
          split
          · rfl
          · exact ih

@[simp] theorem room_deliver (outputs : List (Option TargetOutput)) :
    (hall.deliver outputs).room = hall.room := by
  induction outputs generalizing hall with
  | nil => rfl
  | cons output rest ih =>
      cases output with
      | none => rfl
      | some output =>
          rw [deliver]
          split
          · rfl
          · exact ih

@[simp] theorem member_release (game : GameInfo) (frames : List Frame) :
    (hall.release game frames).member = hall.member := by
  unfold release
  split
  · exact member_deliver _
  · rfl

@[simp] theorem room_release (game : GameInfo) (frames : List Frame) :
    (hall.release game frames).room = hall.room := by
  unfold release
  split
  · exact room_deliver _
  · rfl

/-! ## Rooms and members -/

/-- Rooms are in order, and a listed player is in the room exactly when its member is in
the game. -/
structure Sound (late : UInt32 → SocketAddr → Prop) (hall : Hall) : Prop where
  rooms : ∀ gameId game, hall.room gameId = some game → game.RoomOk (late gameId)
  seated : ∀ gameId game, hall.room gameId = some game → ∀ player ∈ game.players,
    (player.leftRoom = false ↔ hall.gameOf player.addr = some gameId)
  lan : ∀ addr member, hall.member addr = some member → member.connType = 1

/-- A member which is in a game is listed there. -/
def Anchored (hall : Hall) : Prop :=
  ∀ addr gameId, hall.gameOf addr = some gameId →
    ∃ game, hall.room gameId = some game ∧ ∃ player ∈ game.players, player.addr = addr

/-- Nobody is late between messages. -/
def nobody : UInt32 → SocketAddr → Prop := fun _ _ => False

/-- Sending responses changes neither members nor rooms. -/
theorem Sound.of_eq {after : Hall} (sound : hall.Sound late) (member : after.member = hall.member)
    (room : after.room = hall.room) : after.Sound late where
  rooms := by
    rw [room]
    exact sound.rooms
  seated := by
    simp only [gameOf, room, member]
    exact sound.seated
  lan := by
    rw [member]
    exact sound.lan

theorem Anchored.of_eq {after : Hall} (anchored : hall.Anchored)
    (member : after.member = hall.member) (room : after.room = hall.room) : after.Anchored := by
  simp only [Anchored, gameOf, room, member]
  exact anchored

/-- A room may change if it is in order and lists nobody anew. -/
theorem Sound.setRoom (sound : hall.Sound late) (here : hall.room gameId = some game)
    {room : Option GameInfo} {sooner : UInt32 → SocketAddr → Prop}
    (ok : ∀ after, room = some after → after.RoomOk (sooner gameId))
    (players : ∀ after, room = some after → ∀ player ∈ after.players,
      ∃ before ∈ game.players, before.addr = player.addr ∧ before.leftRoom = player.leftRoom)
    (others : ∀ other, other ≠ gameId → ∀ addr, late other addr → sooner other addr) :
    (hall.setRoom gameId room).Sound sooner where
  rooms := by
    intro other after there
    rw [room_setRoom] at there
    split at there
    next same => exact same ▸ ok after there
    next different =>
      exact (sound.rooms other after there).imp fun _ _ => others other different _
  seated := by
    intro other after there player member
    rw [room_setRoom] at there
    split at there
    next same =>
      obtain ⟨before, listed, sameAddr, sameLeft⟩ := players after there player member
      rw [gameOf_setRoom, ← sameAddr, ← sameLeft, same]
      exact sound.seated gameId game here before listed
    next different => exact sound.seated other after there player member
  lan := sound.lan

/-- A room may change if it keeps those who are in it. -/
theorem Anchored.setRoom (anchored : hall.Anchored) (sound : hall.Sound late)
    (here : hall.room gameId = some game) {room : Option GameInfo}
    (keeps : ∀ player ∈ game.inRoom,
      ∃ after, room = some after ∧ ∃ other ∈ after.players, other.addr = player.addr) :
    (hall.setRoom gameId room).Anchored := by
  intro addr other inGame
  rw [gameOf_setRoom] at inGame
  obtain ⟨there, found, player, member, same⟩ := anchored addr other inGame
  rw [room_setRoom]
  split
  next equal =>
    subst equal
    obtain rfl : there = game := Option.some.inj (found.symm.trans here)
    have inRoom : player ∈ there.inRoom :=
      GameInfo.mem_inRoom.mpr ⟨member, (sound.seated _ _ here player member).mpr (same ▸ inGame)⟩
    simpa [same] using keeps player inRoom
  next => exact ⟨there, found, player, member, same⟩

/-- Who is not listed in its own game is in no room. -/
theorem Sound.absent (sound : hall.Sound late) (unlisted : hall.listed src = false)
    (here : hall.room gameId = some game) {player : GamePlayerInfo} (member : player ∈ game.players)
    (same : player.addr = src) : player.leftRoom = true := by
  by_contra stays
  have inGame := (sound.seated gameId game here player member).mp (by simpa using stays)
  have present : hall.listed src = true := by
    rw [same] at inGame
    simp only [listed, gameOf] at inGame ⊢
    simp only [inGame, here, Option.any_some, GameInfo.lists]
    exact List.any_eq_true.mpr ⟨player, member, by simpa using same⟩
  simp [unlisted] at present

/-- A member which is in no room may enter one. -/
theorem Sound.enter (sound : hall.Sound late) (registered : (hall.member src).isSome = true)
    (ok : game.RoomOk (late gameId))
    (away : ∀ other room, other ≠ gameId → hall.room other = some room →
      ∀ player ∈ room.players, player.addr = src → player.leftRoom = true)
    (players : ∀ player ∈ game.players, player.addr = src ∧ player.leftRoom = false ∨
      player.addr ≠ src ∧ (player.leftRoom = false ↔ hall.gameOf player.addr = some gameId)) :
    ((hall.setRoom gameId (some game)).setGame src (some gameId)).Sound late where
  rooms := by
    intro other room there
    change (hall.setRoom gameId (some game)).room other = some room at there
    rw [room_setRoom] at there
    split at there
    next same =>
      obtain rfl := Option.some.inj there
      exact same ▸ ok
    next => exact sound.rooms other room there
  seated := by
    obtain ⟨member, known⟩ := Option.isSome_iff_exists.mp registered
    have entered : (hall.setRoom gameId (some game)).member src = some member := known
    intro other room there player listed
    change (hall.setRoom gameId (some game)).room other = some room at there
    rw [room_setRoom] at there
    rw [gameOf_setGame, gameOf_setRoom, entered, Option.bind_some]
    split at there
    next same =>
      obtain rfl := Option.some.inj there
      rcases players player listed with ⟨same, stays⟩ | ⟨different, iff⟩
      · simp_all
      · simp_all
    next different =>
      split
      next same => simp [away other room different there player listed same, Ne.symm different]
      next => exact sound.seated other room there player listed
  lan := by
    intro addr member known
    simp only [Hall.setGame, Hall.setRoom] at known
    by_cases same : addr = src
    · subst same
      rw [Function.update_self] at known
      obtain ⟨original, there, rfl⟩ := Option.map_eq_some_iff.mp known
      exact sound.lan addr original there
    · rw [Function.update_of_ne same] at known
      exact sound.lan addr member known

/-- A member which is in no game anymore leaves nothing behind. -/
theorem Sound.forget (sound : hall.Sound late)
    (closed : ∀ gameId, hall.gameOf src = some gameId → hall.room gameId = none) :
    (hall.forget src).Sound late where
  rooms := sound.rooms
  seated := by
    intro gameId game here player member
    rw [gameOf_forget]
    have seated := sound.seated gameId game here player member
    split
    next same =>
      rw [same] at seated
      refine iff_of_false (fun stays => ?_) (by simp)
      have gone := closed gameId (seated.mp stays)
      have here : hall.room gameId = some game := here
      simp [gone] at here
    next => exact seated
  lan := by
    intro addr member known
    simp only [Hall.forget] at known
    by_cases same : addr = src
    · simp [same] at known
    · rw [Function.update_of_ne same] at known
      exact sound.lan addr member known

theorem Anchored.forget (anchored : hall.Anchored) : (hall.forget src).Anchored := by
  intro addr gameId inGame
  rw [gameOf_forget] at inGame
  split at inGame
  · simp at inGame
  · exact anchored addr gameId inGame

/-! ## Creating and joining -/

theorem Sound.create (sound : hall.Sound late) (gameName : Bytes) (src : SocketAddr) :
    (hall.create gameName src).Sound late := by
  unfold Hall.create
  split
  next => exact sound
  next unlisted =>
    have unlisted : hall.listed src = false := by simpa using unlisted
    split
    next => exact sound.of_eq rfl rfl
    next member known =>
      have drawn : Sound late { hall with nextGameId := hall.nextGameId + 1 } :=
        sound.of_eq rfl rfl
      refine drawn.enter (by simp [known])
        (GameInfo.createdGame_roomOk _ _ _ (sound.lan src member known)) ?_ ?_
      · intro other room _ there player listed same
        exact sound.absent unlisted there listed same
      · simp [createdGame]

/-- Creating keeps members in their games if the drawn id is that of no game with players. -/
theorem Anchored.create (anchored : hall.Anchored) (sound : hall.Sound late) (gameName : Bytes)
    (src : SocketAddr)
    (fresh : hall.listed src = false → (hall.member src).isSome = true →
      ∀ game, hall.room hall.nextGameId = some game → game.inRoom = []) :
    (hall.create gameName src).Anchored := by
  unfold Hall.create
  split
  next => exact anchored
  next unlisted =>
    split
    next => exact anchored.of_eq rfl rfl
    next member known =>
      have fresh := fresh (by simpa using unlisted) (by simp [known])
      intro addr gameId inGame
      rw [gameOf_setGame] at inGame
      change ∃ game, (Hall.setRoom { hall with nextGameId := hall.nextGameId + 1 }
        hall.nextGameId _).room gameId = some game ∧ _
      rw [room_setRoom]
      split at inGame
      next same =>
        have drawn : gameId = hall.nextGameId := by
          simp only [Hall.setRoom, known, Option.bind_some, Option.some.injEq] at inGame
          exact inGame.symm
        simp [drawn, createdGame, same]
      next =>
        obtain ⟨game, there, player, listed, same⟩ := anchored addr gameId inGame
        split
        next equal =>
          subst equal
          have inRoom : player ∈ game.inRoom := GameInfo.mem_inRoom.mpr
            ⟨listed, (sound.seated _ _ there player listed).mpr (same ▸ inGame)⟩
          simp [fresh game there] at inRoom
        next => exact ⟨game, there, player, listed, same⟩

/-- What a joining member finds. -/
theorem unlisted_of_idle (sound : hall.Sound late) (here : hall.room gameId = some game)
    {member : Member} (known : hall.member src = some member) (idle : member.gameId = none)
    (joinable : game.joinable = true) : game.lists src = false := by
  have waiting := (GameInfo.joinable_iff.mp joinable).2.1
  refine Bool.eq_false_iff.mpr fun listed => ?_
  obtain ⟨player, present, same⟩ := List.any_eq_true.mp listed
  have stays := ((sound.rooms gameId game here).waiting waiting).2 player present
  have inGame := (sound.seated gameId game here player present).mp stays
  rw [of_decide_eq_true same] at inGame
  simp [gameOf, known, idle] at inGame

theorem Sound.join (sound : hall.Sound late) (gameId : UInt32) (src : SocketAddr) :
    (hall.join gameId src).Sound late := by
  unfold Hall.join
  split
  next member game known here =>
    split
    next free =>
      obtain ⟨idle, joinable⟩ := free
      have unlisted := unlisted_of_idle sound here known idle joinable
      have lan := sound.lan src member known
      have nowhere : hall.gameOf src = none := by simp [gameOf, known, idle]
      refine sound.enter (by simp [known])
        ((sound.rooms gameId game here).seat joinable rfl lan unlisted) ?_ ?_
      · intro other room _ there player listed same
        have seated := sound.seated other room there player listed
        simpa [same, nowhere] using seated
      · intro player listed
        have others : player ∈ game.players ∨ player.addr = src ∧ player.leftRoom = false := by
          simp only [GameInfo.seat, unlisted, Bool.false_eq_true, if_false, List.mem_append,
            List.mem_singleton] at listed
          rcases listed with before | rfl
          · exact .inl before
          · exact .inr ⟨rfl, rfl⟩
        rcases others with before | joined
        · refine .inr ⟨?_, sound.seated gameId game here player before⟩
          intro same
          have present : game.lists src = true :=
            List.any_eq_true.mpr ⟨player, before, by simpa using same⟩
          simp [unlisted] at present
        · exact .inl joined
    next => exact sound
  next => exact sound

theorem Anchored.join (anchored : hall.Anchored) (gameId : UInt32) (src : SocketAddr) :
    (hall.join gameId src).Anchored := by
  unfold Hall.join
  split
  next member game known here =>
    split
    next free =>
      intro addr other inGame
      rw [gameOf_setRoom, gameOf_setGame] at inGame
      rw [room_setRoom]
      split at inGame
      next same =>
        have joined : gameId = other := by simpa [known] using inGame
        refine ⟨_, by rw [if_pos joined.symm], ?_⟩
        unfold GameInfo.seat
        split
        next listed =>
          obtain ⟨player, present, same'⟩ := List.any_eq_true.mp listed
          exact ⟨player, present, (of_decide_eq_true same').trans same.symm⟩
        next => exact ⟨_, List.mem_append_right _ (List.mem_singleton_self _), same.symm⟩
      next =>
        obtain ⟨there, found, player, listed, same⟩ := anchored addr other inGame
        split
        next equal =>
          subst equal
          obtain rfl : there = game := Option.some.inj (found.symm.trans here)
          refine ⟨_, rfl, player, ?_, same⟩
          unfold GameInfo.seat
          split
          · exact listed
          · exact List.mem_append_left _ listed
        next => exact ⟨there, found, player, listed, same⟩
    next => exact anchored
  next => exact anchored

/-! ## Dropping -/

@[simp] theorem member_drop (hall : Hall) (gameId : UInt32) (src : SocketAddr) :
    (hall.drop gameId src).member = hall.member := by
  unfold Hall.drop
  dsimp only
  split
  · split
    · split
      · rfl
      · split
        · split
          · rfl
          · exact member_release _ _
        · exact member_release _ _
    · rfl
  · rfl

/-- What a drop does to the room: nothing, one call on its engine, or its end. -/
theorem drop_cases (hall : Hall) (gameId : UInt32) (src : SocketAddr) :
    (hall.drop gameId src).room = hall.room ∧
        (∀ game, hall.room gameId = some game → (hall.member src).isSome = true →
          dropperSlot src game = none ∨ game.syncManager = none) ∨
      ∃ game sync slot, hall.room gameId = some game ∧ game.syncManager = some sync ∧
        dropperSlot src game = some slot ∧
        ∃ room, (hall.drop gameId src).room = (hall.setRoom gameId room).room ∧
          let marked : GameInfo :=
            { game with syncManager := some (sync.call gameId (.drop slot)).2 }
          (room = some marked ∨ room = some marked.finish ∨ room = none ∧ game.inRoom = []) := by
  unfold Hall.drop
  dsimp only
  split
  next member game known here =>
    split
    next slot sync found running =>
      refine .inr ⟨game, sync, slot, here, running, found, ?_⟩
      split
      next called => exact ⟨_, rfl, .inl (by rw [called])⟩
      next called =>
        rw [called]
        split
        · split
          next empty =>
            have nobodyLeft : game.inRoom = [] := by
              simpa [GameInfo.players_finish, GameInfo.inRoom] using empty
            exact ⟨none, rfl, .inr (.inr ⟨rfl, nobodyLeft⟩)⟩
          · exact ⟨_, room_release _ _, .inr (.inl rfl)⟩
        · exact ⟨_, room_release _ _, .inl rfl⟩
    next stuck =>
      refine .inl ⟨rfl, fun other there _ => ?_⟩
      obtain rfl : game = other := Option.some.inj (here.symm.trans there)
      by_contra both
      rw [not_or] at both
      obtain ⟨slot, found⟩ := Option.ne_none_iff_exists'.mp both.1
      obtain ⟨sync, running⟩ := Option.ne_none_iff_exists'.mp both.2
      exact stuck slot sync found running
  next stuck =>
    refine .inl ⟨rfl, fun game there registered => ?_⟩
    obtain ⟨member, known⟩ := Option.isSome_iff_exists.mp registered
    exact (stuck member game known there).elim

theorem dropperSlot_eq_some {slot : Nat} : dropperSlot src game = some slot ↔
    game.gameStatus = gameStatusPlaying ∧ game.position src = some slot := by
  unfold dropperSlot
  split
  next playing => simp [playing]
  next waiting => simp [waiting]

/-- Whom a drop names is not late anymore. -/
theorem Sound.drop (sound : hall.Sound late) (registered : (hall.member src).isSome = true)
    (gameId : UInt32) :
    (hall.drop gameId src).Sound fun other addr =>
      late other addr ∧ ¬(other = gameId ∧ addr = src) := by
  have elsewhere : ∀ other, other ≠ gameId → ∀ addr, late other addr →
      late other addr ∧ ¬(other = gameId ∧ addr = src) := by
    intro other different addr wasLate
    exact ⟨wasLate, fun same => different same.1⟩
  rcases hall.drop_cases gameId src with ⟨sameRoom, blocked⟩ |
    ⟨game, sync, slot, here, running, found, room, sameRoom, outcome⟩
  · refine Sound.of_eq ?_ (member_drop hall gameId src) sameRoom
    refine ⟨?_, sound.seated, sound.lan⟩
    intro other game there
    have ok := sound.rooms other game there
    by_cases same : other = gameId
    · subst same
      rcases blocked game there registered with unlisted | idle
      · by_cases live : game.syncManager = none
        · exact { ok with playing := by simp [live] }
        · obtain ⟨sync, running⟩ := Option.ne_none_iff_exists'.mp live
          have absent : game.position src = none := by
            simpa [dropperSlot, (ok.playing sync running).1] using unlisted
          exact ok.imp fun player member wasLate =>
            ⟨wasLate, fun same => GameInfo.position_none absent player member same.2⟩
      · exact { ok with playing := by simp [idle] }
    · exact ok.imp fun _ _ => elsewhere other same _
  · have ok := sound.rooms gameId game here
    have marked := ok.call running gameId (.drop slot)
    obtain ⟨dropper, listed, isDropper⟩ := GameInfo.position_some (dropperSlot_eq_some.mp found).2
    have onTime : ({ game with syncManager := some (sync.call gameId (.drop slot)).2 } :
        GameInfo).RoomOk fun addr => late gameId addr ∧ ¬(gameId = gameId ∧ addr = src) := by
      refine marked.imp fun player _ stillLate => ⟨stillLate.1, fun same => ?_⟩
      exact stillLate.2 slot dropper rfl listed (isDropper.trans same.2.symm)
    suffices moved : (hall.setRoom gameId room).Sound fun other addr =>
        late other addr ∧ ¬(other = gameId ∧ addr = src) from
      moved.of_eq (member_drop hall gameId src) sameRoom
    refine sound.setRoom here ?_ ?_ elsewhere
    · rintro after rfl
      rcases outcome with same | same | ⟨same, _⟩
      · exact Option.some.inj same ▸ onTime
      · exact Option.some.inj same ▸ onTime.finish
      · simp at same
    · rintro after rfl player member
      rcases outcome with same | same | ⟨same, _⟩
      · obtain rfl := Option.some.inj same
        exact ⟨player, member, rfl, rfl⟩
      · obtain rfl := Option.some.inj same
        rw [GameInfo.players_finish] at member
        exact ⟨player, (GameInfo.mem_inRoom.mp member).1, rfl, rfl⟩
      · simp at same

theorem Anchored.drop (anchored : hall.Anchored) (sound : hall.Sound late) (gameId : UInt32)
    (src : SocketAddr) : (hall.drop gameId src).Anchored := by
  rcases hall.drop_cases gameId src with ⟨sameRoom, _⟩ |
    ⟨game, sync, slot, here, _, _, room, sameRoom, outcome⟩
  · exact anchored.of_eq (member_drop hall gameId src) sameRoom
  · suffices moved : (hall.setRoom gameId room).Anchored from
      moved.of_eq (member_drop hall gameId src) sameRoom
    refine anchored.setRoom sound here fun player inRoom => ?_
    rcases outcome with same | same | ⟨_, empty⟩
    · exact ⟨_, same, player, (GameInfo.mem_inRoom.mp inRoom).1, rfl⟩
    · refine ⟨_, same, player, ?_, rfl⟩
      rw [GameInfo.players_finish]
      exact inRoom
    · simp [empty] at inRoom

/-! ## Leaving -/

/-- The room and the member of a leaver before its slot is dropped. -/
def depart (hall : Hall) (gameId : UInt32) (addr : SocketAddr) (game : GameInfo) : Hall :=
  (hall.setGame addr none).setRoom gameId (game.leave addr).2

/-- The late ones of a departure. -/
def leaver (gameId : UInt32) (addr : SocketAddr) (game : GameInfo) : UInt32 → SocketAddr → Prop :=
  fun other who => other = gameId ∧ game.syncManager.isSome = true ∧ who = addr

theorem gameOf_depart (hall : Hall) (gameId : UInt32) (addr : SocketAddr) (game : GameInfo)
    (other : SocketAddr) :
    (hall.depart gameId addr game).gameOf other = if other = addr then none else hall.gameOf other := by
  rw [depart, gameOf_setRoom, gameOf_setGame]
  split
  · cases hall.member addr <;> rfl
  · rfl

theorem mem_leave {player : GamePlayerInfo} (distinct : (game.players.map GamePlayerInfo.addr).Nodup)
    (member : player ∈ (game.leave addr).2.players) :
    player ∈ game.players ∧ player.addr ≠ addr ∨ player.addr = addr ∧ player.leftRoom = true := by
  rw [GameInfo.leave_spec distinct, GameInfo.players_migrate] at member
  cases running : game.syncManager with
  | some sync =>
      simp only [running, GameInfo.recount, markLeft] at member
      obtain ⟨original, listed, rfl⟩ := List.mem_map.mp member
      by_cases same : original.addr = addr
      · exact .inr (by simp [same])
      · exact .inl (by simpa [same] using listed)
  | none =>
      simp only [running, GameInfo.recount] at member
      exact .inl (by simpa using member)

theorem Sound.depart (sound : hall.Sound nobody) (here : hall.room gameId = some game)
    (inGame : hall.gameOf addr = some gameId) :
    (hall.depart gameId addr game).Sound (leaver gameId addr game) where
  rooms := by
    intro other room there
    change (hall.setRoom gameId _).room other = some room at there
    rw [room_setRoom] at there
    split at there
    next same =>
      obtain rfl := Option.some.inj there
      refine ((sound.rooms gameId game here).leave addr).imp fun player _ wasLate => ?_
      exact ⟨same, wasLate.resolve_left id⟩
    next => exact (sound.rooms other room there).imp fun _ _ => False.elim
  seated := by
    intro other room there player member
    change (hall.setRoom gameId _).room other = some room at there
    rw [room_setRoom] at there
    rw [gameOf_depart]
    split at there
    next same =>
      obtain rfl := Option.some.inj there
      rcases mem_leave (sound.rooms gameId game here).distinct member with
        ⟨listed, different⟩ | ⟨isLeaver, left⟩
      · rw [if_neg different, same]
        exact sound.seated gameId game here player listed
      · simp [isLeaver, left]
    next different =>
      have seated := sound.seated other room there player member
      split
      next isLeaver =>
        rw [isLeaver, inGame] at seated
        refine iff_of_false (fun stays => different ?_) (by simp)
        exact (Option.some.inj (seated.mp stays)).symm
      next => exact seated
  lan := by
    intro other member known
    simp only [Hall.depart, Hall.setGame, Hall.setRoom] at known
    by_cases same : other = addr
    · subst same
      rw [Function.update_self] at known
      obtain ⟨original, there, rfl⟩ := Option.map_eq_some_iff.mp known
      exact sound.lan other original there
    · rw [Function.update_of_ne same] at known
      exact sound.lan other member known

theorem Anchored.depart (anchored : hall.Anchored) (sound : hall.Sound nobody)
    (here : hall.room gameId = some game) (addr : SocketAddr) : (hall.depart gameId addr game).Anchored := by
  have moved : (hall.setRoom gameId (game.leave addr).2).room =
      (hall.depart gameId addr game).room := rfl
  intro other room inGame
  rw [gameOf_depart] at inGame
  split at inGame
  · simp at inGame
  next different =>
    obtain ⟨there, found, player, listed, same⟩ := anchored other room inGame
    rw [← moved, room_setRoom]
    split
    next equal =>
      subst equal
      obtain rfl : there = game := Option.some.inj (found.symm.trans here)
      have inRoom : player ∈ (there.leave addr).2.inRoom := by
        rw [GameInfo.inRoom_leave (sound.rooms room there here).distinct]
        refine List.mem_filter.mpr ⟨GameInfo.mem_inRoom.mpr ⟨listed, ?_⟩, by simpa [same]⟩
        exact (sound.seated room there here player listed).mpr (same ▸ inGame)
      exact ⟨_, rfl, player, (GameInfo.mem_inRoom.mp inRoom).1, same⟩
    next => exact ⟨there, found, player, listed, same⟩

/-- A departed member is still registered. -/
theorem member_depart (inGame : hall.gameOf addr = some gameId) (other : UInt32) (game : GameInfo) :
    ((hall.depart other addr game).member addr).isSome = true := by
  cases known : hall.member addr with
  | none => simp [gameOf, known] at inGame
  | some member => simp [depart, Hall.setGame, Hall.setRoom, known]

/-- Whoever was late in a waiting room is not. -/
theorem Sound.settled (sound : hall.Sound (leaver gameId addr game))
    (idle : game.syncManager = none) : hall.Sound nobody where
  rooms := by
    intro other room there
    refine (sound.rooms other room there).imp fun player _ wasLate => ?_
    simp [leaver, idle] at wasLate
  seated := sound.seated
  lan := sound.lan

/-- Dropping settles a departure. -/
theorem Sound.dropLeaver (sound : hall.Sound (leaver gameId addr game))
    (registered : (hall.member addr).isSome = true) : (hall.drop gameId addr).Sound nobody where
  rooms := by
    intro other room there
    refine ((sound.drop registered gameId).rooms other room there).imp fun player _ stillLate => ?_
    exact stillLate.2 ⟨stillLate.1.1, stillLate.1.2.2⟩
  seated := (sound.drop registered gameId).seated
  lan := (sound.drop registered gameId).lan

/-- A waiting room which closes had lost its last player. -/
theorem players_of_closed (closed : (game.leave addr).1.1 = .waitingClosed) :
    (game.leave addr).2.players = [] := by
  cases running : game.syncManager with
  | some sync => simp [GameInfo.leave, running] at closed
  | none =>
      simp only [GameInfo.leave, running] at closed ⊢
      generalize GameInfo.migrateOwnerIfNeeded _ = migrated at closed ⊢
      by_cases empty : migrated.2.players.isEmpty = true
      · exact List.isEmpty_iff.mp empty
      · simp [empty] at closed

theorem leave_of_room (here : hall.room gameId = some game) :
    hall.leave gameId addr =
      (hall.depart gameId addr game).settle gameId addr (game.leave addr).1.1 := by
  simp only [Hall.leave, here]
  rfl

theorem Sound.leave (sound : hall.Sound nobody) (inGame : hall.gameOf addr = some gameId) :
    (hall.leave gameId addr).Sound nobody := by
  cases here : hall.room gameId with
  | none => simpa [Hall.leave, here] using sound
  | some game =>
      rw [leave_of_room here]
      have departed := sound.depart here inGame
      have playing := game.leave_playing_iff addr
      cases outcome : (game.leave addr).1.1 with
      | playing => exact departed.dropLeaver (member_depart inGame gameId game)
      | waitingOpen => exact departed.settled (by simpa [outcome] using playing)
      | waitingClosed =>
          have waiting := departed.settled (by simpa [outcome] using playing)
          exact waiting.setRoom (Function.update_self ..) (by simp) (by simp) fun _ _ _ => id

theorem Anchored.leave (anchored : hall.Anchored) (sound : hall.Sound nobody)
    (inGame : hall.gameOf addr = some gameId) : (hall.leave gameId addr).Anchored := by
  cases here : hall.room gameId with
  | none => simpa [Hall.leave, here] using anchored
  | some game =>
      rw [leave_of_room here]
      have departed := sound.depart here inGame
      have anchoredStill := anchored.depart sound here addr
      cases outcome : (game.leave addr).1.1 with
      | playing => exact anchoredStill.drop departed gameId addr
      | waitingOpen => exact anchoredStill
      | waitingClosed =>
          refine anchoredStill.setRoom departed (Function.update_self ..) fun player inRoom => ?_
          have listed := (GameInfo.mem_inRoom.mp inRoom).1
          rw [players_of_closed outcome] at listed
          simp at listed

theorem Sound.quit (sound : hall.Sound nobody) (src : SocketAddr) :
    (hall.quit src).Sound nobody := by
  unfold Hall.quit
  split
  next gameId inGame => exact sound.leave inGame
  next => exact sound

theorem Anchored.quit (anchored : hall.Anchored) (sound : hall.Sound nobody) (src : SocketAddr) :
    (hall.quit src).Anchored := by
  unfold Hall.quit
  split
  next gameId inGame => exact anchored.leave sound inGame
  next => exact anchored

/-- After quitting a member is in no game, unless its game was gone already. -/
theorem quit_outside (hall : Hall) (src : SocketAddr) (gameId : UInt32)
    (inGame : (hall.quit src).gameOf src = some gameId) : (hall.quit src).room gameId = none := by
  cases before : hall.gameOf src with
  | none =>
      have same : hall.quit src = hall := by
        unfold gameOf at before
        simp [Hall.quit, before]
      simp [same, before] at inGame
  | some current =>
      have left : hall.quit src = hall.leave current src := by
        unfold gameOf at before
        simp [Hall.quit, before]
      rw [left] at inGame ⊢
      cases here : hall.room current with
      | none =>
          have same : hall.leave current src = hall := by simp [Hall.leave, here]
          rw [same] at inGame ⊢
          obtain rfl : current = gameId := Option.some.inj (before.symm.trans inGame)
          exact here
      | some game =>
          have outside : (hall.leave current src).gameOf src = none := by
            have departed : (hall.depart current src game).gameOf src = none := by
              rw [gameOf_depart, if_pos rfl]
            rw [leave_of_room here]
            cases (game.leave src).1.1 with
            | playing =>
                simp only [Hall.settle, gameOf, member_drop]
                exact departed
            | waitingOpen => exact departed
            | waitingClosed => exact departed
          simp [outside] at inGame

theorem Sound.userQuit (sound : hall.Sound nobody) (src : SocketAddr) :
    ((hall.quit src).forget src).Sound nobody :=
  (sound.quit src).forget (quit_outside hall src)

theorem expel_of_room (here : hall.room gameId = some game) :
    hall.expel gameId addr =
      if (game.leave addr).1.1 = .playing then (hall.depart gameId addr game).drop gameId addr
      else hall.depart gameId addr game := by
  simp only [Hall.expel, here]
  rfl

theorem Sound.expel (sound : hall.Sound nobody) (inGame : hall.gameOf addr = some gameId) :
    (hall.expel gameId addr).Sound nobody := by
  cases here : hall.room gameId with
  | none => simpa [Hall.expel, here] using sound
  | some game =>
      rw [expel_of_room here]
      have departed := sound.depart here inGame
      have playing := game.leave_playing_iff addr
      split
      next => exact departed.dropLeaver (member_depart inGame gameId game)
      next waits => exact departed.settled (by simpa [waits] using playing)

theorem Anchored.expel (anchored : hall.Anchored) (sound : hall.Sound nobody)
    (inGame : hall.gameOf addr = some gameId) : (hall.expel gameId addr).Anchored := by
  cases here : hall.room gameId with
  | none => simpa [Hall.expel, here] using anchored
  | some game =>
      rw [expel_of_room here]
      have departed := sound.depart here inGame
      have anchoredStill := anchored.depart sound here addr
      split
      · exact anchoredStill.drop departed gameId addr
      · exact anchoredStill

/-- Whom a kick expels, and from which game. -/
def kickTarget (hall : Hall) (userId : UInt16) (src : SocketAddr) : Option (UInt32 × SocketAddr) :=
  (hall.member src).bind fun requester => requester.gameId.bind fun gameId =>
    (hall.room gameId).bind fun game => (hall.findByUserId userId).bind fun addr =>
      if game.lists src = true ∧ game.ownerUserId = requester.userId ∧
          (hall.member addr).bind Member.gameId = some gameId then some (gameId, addr)
      else none

/-- A kick expels its target from its game. -/
theorem kick_eq (hall : Hall) (userId : UInt16) (src : SocketAddr) :
    hall.kick userId src = match hall.kickTarget userId src with
      | some (gameId, addr) => hall.expel gameId addr
      | none => hall := by
  unfold Hall.kick kickTarget
  cases hall.member src with
  | none => rfl
  | some requester =>
      cases inGame : requester.gameId with
      | none => simp [inGame]
      | some gameId =>
          cases here : hall.room gameId with
          | none => simp [inGame, here]
          | some game =>
              cases found : hall.findByUserId userId with
              | none => simp [inGame, here]
              | some addr =>
                  simp only [inGame, here, Option.bind_some]
                  split <;> rfl

theorem gameOf_kickTarget {userId : UInt16} {src : SocketAddr}
    (target : hall.kickTarget userId src = some (gameId, addr)) : hall.gameOf addr = some gameId := by
  simp only [kickTarget, Option.bind_eq_some_iff, Option.ite_none_right_eq_some, Option.some.injEq,
    Prod.mk.injEq] at target
  obtain ⟨_, _, _, _, _, _, _, _, allowed, rfl, rfl⟩ := target
  exact Option.bind_eq_some_iff.mpr allowed.2.2

/-! ## Starting and playing -/

/-- A start begins a waiting game of its owner, or does nothing. -/
theorem start_cases (hall : Hall) (config : Config) (src : SocketAddr) :
    hall.start config src = hall ∨ ∃ gameId game warmups, hall.room gameId = some game ∧
      hall.start config src = hall.setRoom gameId (some (game.purge.begin
        (game.purge.players.map fun player => player.connType.toNat) warmups
        config.disableOutputCache)) := by
  unfold Hall.start
  split
  next => exact .inl rfl
  next =>
    split
    next => exact .inl rfl
    next gameId _ =>
      split
      next => exact .inl rfl
      next game here =>
        split
        next => exact .inr ⟨gameId, game, _, here, rfl⟩
        next => exact .inl rfl

/-- An input calls the engine of a live game, or does nothing. -/
theorem feed_cases (hall : Hall) (gameId : UInt32) (slot : Nat) (input : ClientInput) :
    hall.feed gameId slot input = hall ∨ ∃ game sync, hall.room gameId = some game ∧
      game.syncManager = some sync ∧
      (hall.feed gameId slot input).member = hall.member ∧
      (hall.feed gameId slot input).room = (hall.setRoom gameId (some
        { game with syncManager := some (sync.call gameId (.input slot input)).2 })).room := by
  unfold Hall.feed
  split
  next => exact .inl rfl
  next game here =>
    split
    next => exact .inl rfl
    next sync running =>
      refine .inr ⟨game, sync, here, running, ?_⟩
      dsimp only
      split
      · exact ⟨rfl, rfl⟩
      · split
        · exact ⟨member_deliver _, room_deliver _⟩
        · exact ⟨rfl, rfl⟩

theorem Sound.start (sound : hall.Sound nobody) (config : Config) (src : SocketAddr) :
    (hall.start config src).Sound nobody := by
  rcases hall.start_cases config src with same | ⟨gameId, game, warmups, here, begun⟩
  · rw [same]
    exact sound
  · rw [begun]
    refine sound.setRoom here ?_ ?_ fun _ _ _ => id
    · rintro _ ⟨⟩
      exact (sound.rooms gameId game here).begin warmups config.disableOutputCache
    · rintro _ ⟨⟩ player member
      exact ⟨player, (GameInfo.mem_inRoom.mp member).1, rfl, rfl⟩

theorem Anchored.start (anchored : hall.Anchored) (sound : hall.Sound nobody) (config : Config)
    (src : SocketAddr) : (hall.start config src).Anchored := by
  rcases hall.start_cases config src with same | ⟨gameId, game, warmups, here, begun⟩
  · rw [same]
    exact anchored
  · rw [begun]
    exact anchored.setRoom sound here fun player inRoom => ⟨_, rfl, player, inRoom, rfl⟩

theorem Sound.feed (sound : hall.Sound nobody) (gameId : UInt32) (slot : Nat)
    (input : ClientInput) : (hall.feed gameId slot input).Sound nobody := by
  rcases hall.feed_cases gameId slot input with same | ⟨game, sync, here, running, member, room⟩
  · rw [same]
    exact sound
  · refine Sound.of_eq (sound.setRoom here ?_ ?_ fun _ _ _ => id) member room
    · rintro _ ⟨⟩
      exact ((sound.rooms gameId game here).call running gameId _).imp fun _ _ wasLate => wasLate.1
    · rintro _ ⟨⟩ player member
      exact ⟨player, member, rfl, rfl⟩

theorem Anchored.feed (anchored : hall.Anchored) (sound : hall.Sound nobody) (gameId : UInt32)
    (slot : Nat) (input : ClientInput) : (hall.feed gameId slot input).Anchored := by
  rcases hall.feed_cases gameId slot input with same | ⟨game, sync, here, running, member, room⟩
  · rw [same]
    exact anchored
  · refine Anchored.of_eq (anchored.setRoom sound here ?_) member room
    exact fun player inRoom => ⟨_, rfl, player, (GameInfo.mem_inRoom.mp inRoom).1, rfl⟩

/-! ## Every message -/

/-- What holds of every operation holds of every message. -/
theorem handle_elim {Keeps : Hall → Prop} (hall : Hall) (config : Config) (src : SocketAddr)
    (request : Request) (unchanged : Keeps hall)
    (created : ∀ data, request = .createGame data → Keeps (hall.create (parseCreateGame data) src))
    (joined : ∀ data gameId, request = .joinGame data → parseJoinGame data = some gameId →
      Keeps (hall.join gameId src))
    (quitted : ∀ data, request = .quitGame data → Keeps (hall.quit src))
    (forgotten : ∀ data, request = .userQuit data → Keeps ((hall.quit src).forget src))
    (expelled : ∀ data userId gameId addr, request = .kickUser data →
      parseKickUser data = some userId → hall.kickTarget userId src = some (gameId, addr) →
        Keeps (hall.expel gameId addr))
    (started : ∀ data, request = .startGame data → Keeps (hall.start config src))
    (dropped : ∀ data gameId slot, request = .dropGame data →
      hall.resolve src = some (gameId, slot) → Keeps (hall.drop gameId src))
    (fed : ∀ input gameId slot, Request.input request = some input →
      hall.resolve src = some (gameId, slot) → Keeps (hall.feed gameId slot input)) :
    Keeps (hall.handle config src request) := by
  have played : ∀ input, Request.input request = some input → Keeps (hall.play input src) := by
    intro input carried
    unfold Hall.play
    split
    next => exact unchanged
    next gameId slot resolved => exact fed input gameId slot carried resolved
  cases request with
  | createGame data => exact created data rfl
  | joinGame data =>
      simp only [Hall.handle]
      split
      next gameId parsed => exact joined data gameId rfl parsed
      next => exact unchanged
  | quitGame data => exact quitted data rfl
  | userQuit data => exact forgotten data rfl
  | kickUser data =>
      simp only [Hall.handle]
      split
      next userId parsed =>
        rw [kick_eq]
        split
        next gameId addr target => exact expelled data userId gameId addr rfl parsed target
        next => exact unchanged
      next => exact unchanged
  | startGame data =>
      simp only [Hall.handle]
      split
      next => exact unchanged
      next => exact started data rfl
  | dropGame data =>
      simp only [Hall.handle]
      split
      next gameId slot resolved => exact dropped data gameId slot rfl resolved
      next => exact unchanged
  | gameData data =>
      simp only [Hall.handle]
      split
      next bytes parsed => exact played _ (by simp [Request.input, parsed])
      next => exact unchanged
  | gameCache data =>
      simp only [Hall.handle]
      split
      next position parsed => exact played _ (by simp [Request.input, parsed])
      next => exact unchanged
  | readyToPlay data => exact unchanged

/-- A resolved player is in the game, at its slot. -/
theorem resolve_eq_some {slot : Nat} (resolved : hall.resolve src = some (gameId, slot)) :
    hall.gameOf src = some gameId ∧
      ∀ game, hall.room gameId = some game → game.position src = some slot := by
  obtain ⟨current, inGame, found⟩ := Option.bind_eq_some_iff.mp resolved
  obtain ⟨room, there, position⟩ := Option.bind_eq_some_iff.mp found
  obtain ⟨_, here, same⟩ := Option.map_eq_some_iff.mp position
  obtain ⟨rfl, rfl⟩ := Prod.mk.inj same
  refine ⟨inGame, fun game listed => ?_⟩
  obtain rfl := Option.some.inj (there.symm.trans listed)
  exact here

/-- A player with a slot is registered. -/
theorem registered_of_resolve {slot : Nat} (resolved : hall.resolve src = some (gameId, slot)) :
    (hall.member src).isSome = true := by
  cases known : hall.member src with
  | none => simp [resolve, known] at resolved
  | some member => rfl

/-- Every message keeps rooms in order. -/
theorem Sound.handle (sound : hall.Sound nobody) (config : Config) (src : SocketAddr)
    (request : Request) : (hall.handle config src request).Sound nobody := by
  apply hall.handle_elim config src request
  case unchanged => exact sound
  case created => exact fun _ _ => sound.create _ src
  case joined => exact fun _ gameId _ _ => sound.join gameId src
  case quitted => exact fun _ _ => sound.quit src
  case forgotten => exact fun _ _ => sound.userQuit src
  case expelled => exact fun _ _ _ _ _ _ target => sound.expel (gameOf_kickTarget target)
  case started => exact fun _ _ => sound.start config src
  case dropped =>
    intro _ gameId slot _ resolved
    have dropped := sound.drop (registered_of_resolve resolved) gameId
    refine ⟨fun other room there => ?_, dropped.seated, dropped.lan⟩
    exact (dropped.rooms other room there).imp fun _ _ wasLate => wasLate.1
  case fed => exact fun input gameId slot _ _ => sound.feed gameId slot input

/-- A message which creates a game draws an id of no game with players. -/
def DrawsUnusedId (hall : Hall) (src : SocketAddr) : Request → Prop
  | .createGame _ => hall.listed src = false → (hall.member src).isSome = true →
      ∀ game, hall.room hall.nextGameId = some game → game.inRoom = []
  | _ => True

/-- Every message keeps members in their games, if it draws no id in use. -/
theorem Anchored.handle (anchored : hall.Anchored) (sound : hall.Sound nobody) (config : Config)
    (src : SocketAddr) (request : Request) (fresh : hall.DrawsUnusedId src request) :
    (hall.handle config src request).Anchored := by
  apply hall.handle_elim config src request
  case unchanged => exact anchored
  case created =>
    rintro data rfl
    exact anchored.create sound _ src fresh
  case joined => exact fun _ gameId _ _ => anchored.join gameId src
  case quitted => exact fun _ _ => anchored.quit sound src
  case forgotten => exact fun _ _ => (anchored.quit sound src).forget
  case expelled => exact fun _ _ _ _ _ _ target => anchored.expel sound (gameOf_kickTarget target)
  case started => exact fun _ _ => anchored.start sound config src
  case dropped => exact fun _ gameId _ _ _ => anchored.drop sound gameId src
  case fed => exact fun input gameId slot _ _ => anchored.feed sound gameId slot input

end Hall

end Direlera.Lobby
