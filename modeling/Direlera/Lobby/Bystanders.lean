import Direlera.Lobby.DropDelivery
import Direlera.Lobby.ReadyBarrier

/-!
# Clients outside a game

A live game still lists those who left its room, and they may be in another room by now. An
announced drop makes everybody idle whom the game lists, up to the first one who left the server,
and the ready barrier lets all of them play.
-/

namespace Direlera.Lobby

open Direlera.Library Direlera.Sync Direlera.Wire

/-! ## Members -/

namespace Hall

variable {hall : Hall} {gameId : UInt32} {src addr other : SocketAddr}

theorem member_depart_of_ne (game : GameInfo) (elsewhere : other ≠ addr) :
    (hall.depart gameId addr game).member other = hall.member other :=
  Function.update_of_ne elsewhere ..

/-- Leaving moves nobody else. -/
theorem member_leave_of_ne (elsewhere : other ≠ addr) :
    (hall.leave gameId addr).member other = hall.member other := by
  cases here : hall.room gameId with
  | none => simp [Hall.leave, here]
  | some game =>
      have departed := @member_depart_of_ne hall gameId addr other game elsewhere
      rw [leave_of_room here, ← departed]
      cases (game.leave addr).1.1 with
      | playing => rw [Hall.settle, member_drop]
      | waitingOpen => rfl
      | waitingClosed => rfl

theorem member_expel_of_ne (elsewhere : other ≠ addr) :
    (hall.expel gameId addr).member other = hall.member other := by
  cases here : hall.room gameId with
  | none => simp [Hall.expel, here]
  | some game =>
      have departed := @member_depart_of_ne hall gameId addr other game elsewhere
      rw [expel_of_room here, ← departed]
      split
      · rw [member_drop]
      · rfl

/-- The game of a kick is the game of the kicker. -/
theorem gameOf_kicker {userId : UInt16} (target : hall.kickTarget userId src = some (gameId, addr)) :
    hall.gameOf src = some gameId := by
  obtain ⟨requester, known, target⟩ := Option.bind_eq_some_iff.mp target
  obtain ⟨current, inGame, target⟩ := Option.bind_eq_some_iff.mp target
  obtain ⟨game, _, target⟩ := Option.bind_eq_some_iff.mp target
  obtain ⟨leaver, _, target⟩ := Option.bind_eq_some_iff.mp target
  split at target
  · obtain ⟨rfl, rfl⟩ := Prod.mk.inj (Option.some.inj target)
    exact Option.bind_eq_some_iff.mpr ⟨requester, known, inGame⟩
  · cases target

/-- Who makes somebody leave, or drop in, a game is in it. -/
theorem gameOf_sender {request : Request}
    (departs : hall.departure src request = some (gameId, addr)) :
    hall.gameOf src = some gameId := by
  have playing : (hall.gameOf src).map (fun gameId => (gameId, src)) = some (gameId, addr) →
      hall.gameOf src = some gameId := by
    intro here
    obtain ⟨_, inGame, same⟩ := Option.map_eq_some_iff.mp here
    obtain ⟨rfl, rfl⟩ := Prod.mk.inj same
    exact inGame
  cases request with
  | quitGame data => exact playing departs
  | userQuit data => exact playing departs
  | kickUser data =>
      obtain ⟨userId, _, target⟩ := Option.bind_eq_some_iff.mp departs
      exact gameOf_kicker target
  | dropGame data =>
      obtain ⟨place, resolved, same⟩ := Option.map_eq_some_iff.mp departs
      obtain ⟨rfl, rfl⟩ := Prod.mk.inj same
      exact (resolve_eq_some resolved).1
  | _ => simp [departure] at departs

/-- A message from inside a game moves nobody who is outside of it. -/
theorem member_handle_outside (config : Config) (request : Request)
    (inGame : hall.gameOf src = some gameId) (outside : hall.gameOf other ≠ some gameId) :
    (hall.handle config src request).member other = hall.member other := by
  have elsewhere : other ≠ src := by
    rintro rfl
    exact outside inGame
  have quitted : (hall.quit src).member other = hall.member other := by
    unfold Hall.quit
    split
    · exact member_leave_of_ne elsewhere
    · rfl
  refine @handle_elim (fun after => after.member other = hall.member other) hall config src
    request ?unchanged ?created ?joined ?quitted ?forgotten ?expelled ?started ?dropped ?fed
  case unchanged => rfl
  case created =>
    intro data _
    unfold Hall.create
    split
    · rfl
    · split
      · rfl
      · exact Function.update_of_ne elsewhere ..
  case joined =>
    intro data room _ _
    unfold Hall.join
    split
    · split
      · exact Function.update_of_ne elsewhere ..
      · rfl
    · rfl
  case quitted => exact fun _ _ => quitted
  case forgotten => exact fun _ _ => (Function.update_of_ne elsewhere ..).trans quitted
  case expelled =>
    intro data userId room leaver _ _ target
    refine member_expel_of_ne ?_
    rintro rfl
    obtain rfl : gameId = room := Option.some.inj (inGame.symm.trans (gameOf_kicker target))
    exact outside (gameOf_kickTarget target)
  case started =>
    intro data _
    rcases hall.start_cases config src with same | ⟨_, _, _, _, begun⟩
    · rw [same]
    · rw [begun]
      rfl
  case dropped => exact fun _ _ _ _ _ => by rw [member_drop]
  case fed =>
    intro input room slot _ _
    rcases hall.feed_cases room slot input with same | ⟨_, _, _, _, member, _⟩
    · rw [same]
    · rw [member]

end Hall

/-! ## The call -/

/-- Whom a call of `execute_drop_game` makes idle. -/
def AppState.Resets (state : AppState) (gameId : UInt32) (addr other : SocketAddr) : Prop :=
  state.MarksSlot gameId addr ∧ ∃ game, state.games.find gameId = some game ∧
    (∃ player ∈ game.players, player.leftRoom = false) ∧
      ∃ player ∈ state.reached game.players, player.addr = other

/-- The call makes somebody idle who has left the room and is not idle. -/
def AppState.ResetsDeparted (state : AppState) (gameId : UInt32) (addr : SocketAddr) : Prop :=
  state.MarksSlot gameId addr ∧ ∃ game, state.games.find gameId = some game ∧
    (∃ player ∈ game.players, player.leftRoom = false) ∧
      ∃ player ∈ state.reached game.players, player.leftRoom = true ∧
        state.status player.addr ≠ some playerStatusIdle

section Call

variable {state : AppState} {gameId : UInt32} {addr other : SocketAddr}
  {late : UInt32 → SocketAddr → Prop}

/-- Who is reached is registered. -/
theorem status_of_reached {players : List GamePlayerInfo} {player : GamePlayerInfo}
    (reached : player ∈ state.reached players) : (state.status player.addr).isSome = true := by
  have registered := List.all_eq_true.mp List.all_takeWhile player reached
  simpa [AppState.status] using registered

/-- The call makes idle whom it resets. -/
theorem status_reset (sound : state.hall.Sound late) (resets : state.Resets gameId addr other) :
    ((executeDropGame gameId addr).run state).2.status other = some playerStatusIdle := by
  obtain ⟨marksSlot, room, here, stays, player, reached, rfl⟩ := resets
  obtain ⟨game, sync, slot, marks⟩ := marksSlot_iff.mp marksSlot
  obtain rfl : room = game := Option.some.inj (here.symm.trans marks.here)
  obtain ⟨username, frames, next, marked, opened, _, _, _, hall, status, _, _, ran⟩ :=
    run_announced sound marks stays
  have same : marked.reached room.players = state.reached room.players := by
    rw [AppState.reached, hall]
    rfl
  obtain ⟨before, known⟩ := Option.isSome_iff_exists.mp (status_of_reached reached)
  have listed : player.addr ∈ (state.reached room.players).map GamePlayerInfo.addr :=
    List.mem_map_of_mem reached
  rw [ran, status_announceDrop, same, status]
  simp [assign, listed, known]

/-- The call keeps the status of everybody else. -/
theorem status_not_reset (sound : state.hall.Sound late)
    (onlyLate : ∀ who, late gameId who → who = addr) (spared : ¬state.Resets gameId addr other) :
    ((executeDropGame gameId addr).run state).2.status other = state.status other := by
  by_cases marksSlot : state.MarksSlot gameId addr
  · obtain ⟨game, sync, slot, marks⟩ := marksSlot_iff.mp marksSlot
    by_cases stays : ∃ player ∈ game.players, player.leftRoom = false
    · obtain ⟨username, frames, next, marked, opened, _, _, _, hall, status, _, _, ran⟩ :=
        run_announced sound marks stays
      have same : marked.reached game.players = state.reached game.players := by
        rw [AppState.reached, hall]
        rfl
      have unlisted : other ∉ (state.reached game.players).map GamePlayerInfo.addr := by
        intro listed
        obtain ⟨player, reached, here⟩ := List.mem_map.mp listed
        exact spared ⟨marksSlot, game, marks.here, stays, player, reached, here⟩
      rw [ran, status_announceDrop, same, status]
      simp [assign, unlisted]
    · obtain ⟨last, ran, _, status⟩ := run_closing sound onlyLate marks stays
      rw [ran, status]
  · have unmarked : ∀ game sync slot, ¬state.hall.Marks gameId addr game sync slot :=
      fun game sync slot marks => marksSlot (marksSlot_iff.mpr ⟨game, sync, slot, marks⟩)
    rw [run_unmarked unmarked]

end Call

/-! ## Departures -/

section Departures

variable {state there : AppState} {src addr other : SocketAddr} {gameId : UInt32}

/-- A message which comes to the call leaves to it the statuses of all but its sender. -/
theorem status_untilDrop (config : Config) {request : Request}
    (reaches : (untilDrop src request).run state = (.ok (some (gameId, addr)), there)) :
    state.hall.gameOf src = some gameId ∧ ∀ other, other ≠ src →
      ((server config).step state (src, request)).2.status other =
        ((executeDropGame gameId addr).run there).2.status other := by
  cases request with
  | dropGame data =>
      obtain ⟨_, inGame, rest, goesOn, steadily⟩ := dropUntilDrop_spec reaches
      exact ⟨inGame, fun other _ => congrFun (goesOn.status steadily) other⟩
  | quitGame data =>
      obtain ⟨vacated, rfl, rest, goesOn, steadily⟩ := quitUntilDrop_spec reaches
      exact ⟨vacated.inGame, fun other _ => congrFun (goesOn.status steadily) other⟩
  | userQuit data =>
      obtain ⟨vacated, rfl, rest, goesOn, steadily⟩ := quitUntilDrop_spec reaches
      refine ⟨vacated.inGame, fun other elsewhere => ?_⟩
      rw [← goesOn.status steadily]
      refine (congrFun (status_handleUserQuit data addr state) other).trans ?_
      exact Function.update_of_ne elsewhere ..
  | kickUser data =>
      obtain ⟨_, inGame, rest, goesOn, steadily⟩ := kickUntilDrop_spec reaches
      exact ⟨inGame, fun other _ => congrFun (goesOn.status steadily) other⟩
  | createGame data => simp [untilDrop] at reaches
  | joinGame data => simp [untilDrop] at reaches
  | startGame data => simp [untilDrop] at reaches
  | gameData data => simp [untilDrop] at reaches
  | gameCache data => simp [untilDrop] at reaches
  | readyToPlay data => simp [untilDrop] at reaches

/-- Whoever vacates a live game comes to the call. -/
theorem vacate_reaches {ref : GameRef} (live : (state.games.arena ref).syncManager.isSome = true) :
    (vacate gameId ref addr).run state = (.ok (some (gameId, addr)), state.left ref addr) := by
  have playing := ((state.games.arena ref).leave_playing_iff addr).mpr live
  rw [vacate, lockGame, Task.run_bind, Task.run_critical]
  simp only [playing, if_true]
  rfl

theorem quitUntilDrop_reaches (inGame : state.hall.gameOf src = some gameId) {game : GameInfo}
    (here : state.games.find gameId = some game) (live : game.syncManager.isSome = true) :
    ∃ there, (quitUntilDrop src).run state = (.ok (some (gameId, src)), there) := by
  rw [hall_gameOf] at inGame
  obtain ⟨client, known, playing⟩ := Option.bind_eq_some_iff.mp inGame
  obtain ⟨ref, found, rfl⟩ := Option.map_eq_some_iff.mp here
  obtain ⟨next, ran, games, _⟩ := vacated_left known playing found
  rw [← games] at live
  refine ⟨next.left ref src, ?_⟩
  rw [quitUntilDrop, Task.run_bind, run_getClient, known]
  simp only [playing, Task.run_bind, run_getGameArc, found, ran]
  exact vacate_reaches live

theorem kickUntilDrop_reaches {data : Bytes} {userId : UInt16}
    (parsed : parseKickUser data = some userId)
    (target : state.hall.kickTarget userId src = some (gameId, addr)) {game : GameInfo}
    (here : state.games.find gameId = some game) (live : game.syncManager.isSome = true) :
    ∃ there, (kickUntilDrop data src).run state = (.ok (some (gameId, addr)), there) := by
  simp only [Hall.kickTarget, Option.bind_eq_some_iff, Option.ite_none_right_eq_some,
    Option.some.injEq, Prod.mk.injEq] at target
  obtain ⟨member, known, current, playing, room, opened, leaver, named, allowed, rfl, rfl⟩ := target
  obtain ⟨owns, owner, kickedMember, knownTarget, inGame⟩ := allowed
  rw [hall_member] at known knownTarget
  obtain ⟨requester, found, rfl⟩ := Option.map_eq_some_iff.mp known
  obtain ⟨client, foundTarget, rfl⟩ := Option.map_eq_some_iff.mp knownTarget
  rw [← findByUserId_roster] at named
  obtain ⟨⟨addr, kicked⟩, target, rfl⟩ := Option.map_eq_some_iff.mp named
  obtain rfl : room = game := Option.some.inj (opened.symm.trans here)
  obtain ⟨ref, byId, rfl⟩ := Option.map_eq_some_iff.mp here
  obtain ⟨next, ran, games, _⟩ := vacated_left foundTarget inGame byId
  rw [← games] at live
  refine ⟨next.left ref addr, ?_⟩
  unfold kickUntilDrop
  have playingHere : requester.gameId = some current := playing
  have opensHere : state.games.find current = some (state.games.arena ref) := opened
  have inGameHere : client.gameId = some current := inGame
  simp only [parsed, Task.run_bind, run_getClient, found, playingHere, run_getGame, opensHere]
  rw [if_pos ⟨owns, owner⟩]
  simp only [Task.run_bind, Task.run_inspect, target, run_getClient, foundTarget, inGameHere, if_true,
    run_getGameArc, byId, Task.run_attempt, ran]
  exact vacate_reaches live

/-- A departure from a live game comes to the call. -/
theorem reaches_of_live {request : Request}
    (departs : state.hall.departure src request = some (gameId, addr)) {game : GameInfo}
    (here : state.games.find gameId = some game) (live : game.syncManager.isSome = true) :
    ∃ there, (untilDrop src request).run state = (.ok (some (gameId, addr)), there) := by
  have quits : (state.hall.gameOf src).map (fun gameId => (gameId, src)) = some (gameId, addr) →
      ∃ there, (quitUntilDrop src).run state = (.ok (some (gameId, addr)), there) := by
    intro departs
    obtain ⟨_, inGame, same⟩ := Option.map_eq_some_iff.mp departs
    obtain ⟨rfl, rfl⟩ := Prod.mk.inj same
    exact quitUntilDrop_reaches inGame here live
  cases request with
  | dropGame data =>
      obtain ⟨⟨current, slot⟩, resolved, same⟩ := Option.map_eq_some_iff.mp departs
      obtain ⟨rfl, rfl⟩ := Prod.mk.inj same
      refine ⟨state, ?_⟩
      rw [untilDrop, Task.run_bind, run_resolveInGame, resolved]
      rfl
  | quitGame data => exact quits departs
  | userQuit data => exact quits departs
  | kickUser data =>
      obtain ⟨userId, parsed, target⟩ := Option.bind_eq_some_iff.mp departs
      exact kickUntilDrop_reaches parsed target here live
  | _ => simp [Hall.departure] at departs

/-- A departure which does not come to the call changes nobody outside. -/
theorem status_unreached (config : Config) (sound : state.hall.Sound Hall.nobody)
    {request : Request} (plain : request.isPlain = true)
    (unreached : ∀ gameId addr there,
      (untilDrop src request).run state ≠ (.ok (some (gameId, addr)), there))
    (inGame : state.hall.gameOf src = some gameId) (outside : state.hall.gameOf other ≠ some gameId) :
    ((server config).step state (src, request)).2.status other = state.status other := by
  have sameMember := Hall.member_handle_outside config request inGame outside
  rw [← hall_step config state (src, request)] at sameMember
  rcases status_step config state src plain other with same | gone | ⟨disturbed, _⟩
  · exact same
  · have missing : ((server config).step state (src, request)).2.clients.find other = none := by
      simpa [AppState.status] using gone
    have unregistered : state.status other = none := by
      rw [hall_member, missing, hall_member] at sameMember
      simpa [AppState.status] using sameMember.symm
    rw [gone, unregistered]
  · obtain ⟨current, leaver, departs, company⟩ := disturbed
    obtain rfl : gameId = current :=
      Option.some.inj (inGame.symm.trans (Hall.gameOf_sender departs))
    rcases company with rfl | listed
    · exact absurd (Hall.gameOf_departure departs) outside
    · obtain ⟨game, here, listed⟩ := (Option.any_eq_true ..).mp listed
      cases live : game.syncManager with
      | some sync =>
          obtain ⟨there, reaches⟩ := reaches_of_live departs here (by simp [live])
          exact absurd reaches (unreached gameId leaver there)
      | none =>
          obtain ⟨player, member, same⟩ := List.any_eq_true.mp listed
          have stays := ((sound.rooms gameId game here).waiting live).2 player member
          rw [← of_decide_eq_true same] at outside
          exact absurd ((sound.seated gameId game here player member).mp stays) outside

end Departures

/-! ## Runs of the server -/

/-- A message from inside a game leaves every client outside of it where it is, with the status
which it has. -/
def AppState.SparesOthers (config : Config) (state : AppState) (message : SocketAddr × Request) :
    Prop :=
  ∀ gameId, state.hall.gameOf message.1 = some gameId → ∀ addr client,
    state.clients.find addr = some client → client.gameId ≠ some gameId →
      ∃ later, ((server config).step state message).2.clients.find addr = some later ∧
        later.gameId = client.gameId ∧ later.playerStatus = client.playerStatus

/-- A ready signal lets somebody play who has left the room. -/
def AppState.ReleasesDeparted (state : AppState) (src : SocketAddr) (data : Bytes) : Prop :=
  state.heeds src data = true ∧ ∃ game, state.roomOf src = some game ∧
    state.othersReady src game = true ∧ ∃ player ∈ game.players, player.leftRoom = true

/-- A message neither makes idle nor lets play anybody who has left the room. -/
def AppState.KeepsToRoom (state : AppState) (message : SocketAddr × Request) : Prop :=
  (∀ gameId addr there,
    (untilDrop message.1 message.2).run state = (.ok (some (gameId, addr)), there) →
      ¬there.ResetsDeparted gameId addr) ∧
  ∀ data ∈ message.2.readySignal, ¬state.ReleasesDeparted message.1 data

section Runs

variable {state there : AppState} {src addr other : SocketAddr} {gameId : UInt32}
  {request : Request}

/-- As no message moves them, clients outside are spared if they keep their statuses. -/
theorem sparesOthers_iff (config : Config) : state.SparesOthers config (src, request) ↔
    ∀ gameId, state.hall.gameOf src = some gameId → ∀ other, (state.status other).isSome = true →
      state.hall.gameOf other ≠ some gameId →
        ((server config).step state (src, request)).2.status other = state.status other := by
  constructor
  · intro spares gameId inGame other registered outside
    obtain ⟨client, found⟩ : ∃ client, state.clients.find other = some client := by
      rwa [AppState.status, Option.isSome_map, Option.isSome_iff_exists] at registered
    rw [hall_gameOf, found] at outside
    obtain ⟨later, foundLater, _, same⟩ := spares gameId inGame other client found outside
    simp [AppState.status, found, foundLater, same]
  · intro keeps gameId inGame other client found elsewhere
    have outside : state.hall.gameOf other ≠ some gameId := by
      rwa [hall_gameOf, found]
    have registered : (state.status other).isSome = true := by simp [AppState.status, found]
    have sameStatus := keeps gameId inGame other registered outside
    have sameMember := Hall.member_handle_outside config request inGame outside
    rw [← hall_step config state (src, request), hall_member, hall_member, found] at sameMember
    obtain ⟨later, foundLater, same⟩ := Option.map_eq_some_iff.mp sameMember
    refine ⟨later, foundLater, congrArg Member.gameId same, ?_⟩
    simpa [AppState.status, found, foundLater] using sameStatus

/-- The way to the call moves and makes idle only who leaves. -/
theorem standing_untilDrop (config : Config)
    (reaches : (untilDrop src request).run state = (.ok (some (gameId, addr)), there))
    (other : SocketAddr) :
    there.status other = state.status other ∧
        there.hall.gameOf other = state.hall.gameOf other ∨
      state.hall.gameOf other = some gameId ∧ ∀ status, there.status other = some status →
        status = playerStatusIdle := by
  rcases (untilDrop_spec config reaches).1 with rfl | ⟨inGame, ⟨game, here, hall⟩, status⟩
  · exact .inl ⟨rfl, rfl⟩
  · by_cases same : other = addr
    · subst same
      refine .inr ⟨inGame, fun later known => ?_⟩
      rw [status] at known
      simp only [assign, List.mem_singleton, if_true] at known
      obtain ⟨_, _, rfl⟩ := Option.map_eq_some_iff.mp known
      rfl
    · refine .inl ⟨?_, ?_⟩
      · rw [status]
        simp [assign, same]
      · rw [hall, Hall.gameOf_depart, if_neg same]

/-- A message which comes to the call spares others unless the call resets a departed player. -/
theorem spares_of_reaches (config : Config) (sound : state.hall.Sound Hall.nobody)
    (reaches : (untilDrop src request).run state = (.ok (some (gameId, addr)), there)) :
    state.SparesOthers config (src, request) ↔ ¬there.ResetsDeparted gameId addr := by
  obtain ⟨late, soundThere, onlyLate⟩ := sound_untilDrop config sound reaches
  obtain ⟨inGame, settles⟩ := status_untilDrop config reaches
  rw [sparesOthers_iff]
  constructor
  · rintro spares ⟨marksSlot, game, here, stays, player, reached, left, busy⟩
    have listed : player ∈ game.players := (List.takeWhile_sublist _).subset reached
    obtain ⟨status, known⟩ := Option.isSome_iff_exists.mp (status_of_reached reached)
    rcases standing_untilDrop config reaches player.addr with ⟨sameStatus, sameGame⟩ | ⟨_, idle⟩
    · have outside : state.hall.gameOf player.addr ≠ some gameId := by
        rw [← sameGame]
        intro present
        have stays := (soundThere.seated gameId game here player listed).mpr present
        rw [left] at stays
        cases stays
      have elsewhere : player.addr ≠ src := by
        intro same
        exact outside (same ▸ inGame)
      have registered : (state.status player.addr).isSome = true := by
        rw [← sameStatus, known]
        rfl
      have kept := spares gameId inGame player.addr registered outside
      rw [settles player.addr elsewhere, ← sameStatus,
        status_reset soundThere ⟨marksSlot, game, here, stays, player, reached, rfl⟩] at kept
      exact busy kept.symm
    · rw [known, idle status known] at busy
      exact busy rfl
  · intro calm current currentGame other _ outside
    obtain rfl : gameId = current := Option.some.inj (inGame.symm.trans currentGame)
    have elsewhere : other ≠ src := by
      rintro rfl
      exact outside inGame
    rw [settles other elsewhere]
    rcases standing_untilDrop config reaches other with ⟨sameStatus, sameGame⟩ | ⟨present, _⟩
    · rw [← sameStatus]
      by_cases resets : there.Resets gameId addr other
      · rw [status_reset soundThere resets]
        obtain ⟨marksSlot, game, here, stays, player, reached, rfl⟩ := resets
        have listed : player ∈ game.players := (List.takeWhile_sublist _).subset reached
        have left : player.leftRoom = true := by
          rw [← Bool.not_eq_false, soundThere.seated gameId game here player listed, sameGame]
          exact outside
        by_contra busy
        exact calm ⟨marksSlot, game, here, stays, player, reached, left, fun idle => busy idle.symm⟩
      · exact status_not_reset soundThere onlyLate resets
    · exact absurd present outside

/-- A ready signal spares others unless it lets a departed player play. -/
theorem spares_signal (config : Config) (sound : state.hall.Sound Hall.nobody)
    (named : state.hall.Named) (data : Bytes) :
    state.SparesOthers config (src, .readyToPlay data) ↔ ¬state.ReleasesDeparted src data := by
  rw [sparesOthers_iff]
  change (∀ gameId, _ → ∀ other, _ → _ →
    ((handleReadyToPlaySignal data src).run state).2.status other = _) ↔ _
  constructor
  · rintro spares ⟨heeded, game, opened, ready, player, listed, left⟩
    obtain ⟨gameId, inGame, here⟩ := Option.bind_eq_some_iff.mp opened
    have outside : state.hall.gameOf player.addr ≠ some gameId := by
      intro present
      have stays := (sound.seated gameId game here player listed).mpr present
      rw [left] at stays
      cases stays
    have elsewhere : player.addr ≠ src := by
      intro same
      exact outside (same ▸ inGame)
    have waits : state.status player.addr = some playerStatusNetSync := by
      have checked := List.all_eq_true.mp ready player listed
      simpa [elsewhere] using checked
    have kept := spares gameId inGame player.addr (by simp [waits]) outside
    have plays := (ready_in_room inGame here (named gameId game here) heeded).1
    rw [if_pos ready] at plays
    have member : player.addr ∈ game.players.map GamePlayerInfo.addr := List.mem_map_of_mem listed
    simp [plays, assign, member, elsewhere, waits, playerStatusPlaying, playerStatusNetSync] at kept
  · intro calm gameId inGame other _ outside
    have elsewhere : other ≠ src := by
      rintro rfl
      exact outside inGame
    cases heeded : state.heeds src data with
    | false => rw [(ready_ignored heeded).1]
    | true =>
        cases opened : state.roomOf src with
        | none =>
            rw [(ready_outside heeded opened).1]
            simp [assign, elsewhere]
        | some game =>
            have here : state.games.find gameId = some game := by
              rwa [AppState.roomOf, inGame] at opened
            rw [(ready_in_room inGame here (named gameId game here) heeded).1]
            split
            next ready =>
              have unlisted : other ∉ game.players.map GamePlayerInfo.addr := by
                intro member
                obtain ⟨player, listed, rfl⟩ := List.mem_map.mp member
                have left : player.leftRoom = true := by
                  rw [← Bool.not_eq_false, sound.seated gameId game here player listed]
                  exact outside
                exact calm ⟨heeded, game, opened, ready, player, listed, left⟩
              simp [assign, unlisted, elsewhere]
            next => simp [assign, elsewhere]

/-- A start spares others. -/
theorem spares_start (config : Config) (sound : state.hall.Sound Hall.nobody) (data : Bytes) :
    state.SparesOthers config (src, .startGame data) := by
  rw [sparesOthers_iff]
  intro gameId inGame other _ outside
  rcases start_step config sound src data with ⟨_, same⟩ | ⟨current, game, _, here, _, starts, _, set⟩
  · rw [same]
  · obtain ⟨starter, member, rfl⟩ := starts
    obtain rfl : gameId = current :=
      Option.some.inj (inGame.symm.trans (sound.registered here member).1)
    have unlisted : other ∉ game.inRoom.map GamePlayerInfo.addr := by
      intro member
      obtain ⟨player, inRoom, rfl⟩ := List.mem_map.mp member
      exact outside (sound.registered here inRoom).1
    rw [set]
    simp [assign, unlisted]

/-- A message spares others exactly if it keeps to the room. -/
theorem spares_iff (config : Config) (sound : state.hall.Sound Hall.nobody)
    (named : state.hall.Named) (message : SocketAddr × Request) :
    state.SparesOthers config message ↔ state.KeepsToRoom message := by
  obtain ⟨src, request⟩ := message
  by_cases reached : ∃ gameId addr there,
      (untilDrop src request).run state = (.ok (some (gameId, addr)), there)
  · obtain ⟨gameId, addr, there, reaches⟩ := reached
    rw [spares_of_reaches config sound reaches]
    constructor
    · refine fun calm => ⟨fun current leaver next goes => ?_, ?_⟩
      · have same := reaches.symm.trans goes
        simp only [Prod.mk.injEq, Except.ok.injEq, Option.some.injEq] at same
        obtain ⟨⟨rfl, rfl⟩, rfl⟩ := same
        exact calm
      · intro data signal
        cases request with
        | readyToPlay data => simp [untilDrop] at reaches
        | _ => cases signal
    · exact fun keeps => keeps.1 gameId addr there reaches
  · have unreached : ∀ gameId addr there,
        (untilDrop src request).run state ≠ (.ok (some (gameId, addr)), there) :=
      fun gameId addr there reaches => reached ⟨gameId, addr, there, reaches⟩
    have calls : ∀ gameId addr there,
        (untilDrop src request).run state = (.ok (some (gameId, addr)), there) →
          ¬there.ResetsDeparted gameId addr :=
      fun gameId addr there reaches => absurd reaches (unreached gameId addr there)
    have spared : request.isPlain = true → state.SparesOthers config (src, request) := by
      intro plain
      rw [sparesOthers_iff]
      exact fun gameId inGame other _ outside =>
        status_unreached config sound plain unreached inGame outside
    cases request with
    | readyToPlay data =>
        rw [spares_signal config sound named data]
        constructor
        · refine fun calm => ⟨calls, fun _ signal => ?_⟩
          obtain rfl := Option.some.inj signal
          exact calm
        · exact fun keeps => keeps.2 data rfl
    | startGame data =>
        exact iff_of_true (spares_start config sound data) ⟨calls, fun _ signal => by cases signal⟩
    | _ => exact iff_of_true (spared rfl) ⟨calls, fun _ signal => by cases signal⟩

end Runs

/-- Along a run every message spares the clients outside its game exactly if all of them keep to
the room. -/
theorem others_spared_iff (config : Config) {start : AppState} (opening : start.Opening)
    (messages : List (SocketAddr × Request)) :
    (server config).Along (AppState.SparesOthers config) start messages ↔
      (server config).Along AppState.KeepsToRoom start messages := by
  refine (server config).along_congr
    (fun state => state.hall.Sound Hall.nobody ∧ state.hall.Named) ?_ ?_ ?_ messages
  · rintro state message ⟨sound, named⟩
    rw [hall_step]
    exact ⟨sound.handle config message.1 message.2, named.handle config message.1 message.2⟩
  · rintro state message ⟨sound, named⟩
    exact spares_iff config sound named message
  · refine ⟨opening.sound, fun gameId game here => ?_⟩
    rw [hall_room, opening.noGames gameId] at here
    cases here

instance decidableResetsDeparted (state : AppState) (gameId : UInt32) (addr : SocketAddr) :
    Decidable (state.ResetsDeparted gameId addr) :=
  inferInstanceAs (Decidable (_ ∧ ∃ game ∈ state.games.find gameId, _ ∧ _))

instance decidableReleasesDeparted (state : AppState) (src : SocketAddr) (data : Bytes) :
    Decidable (state.ReleasesDeparted src data) :=
  inferInstanceAs (Decidable (_ ∧ ∃ game ∈ state.roomOf src, _ ∧ _))

instance decidableKeepsToRoom (state : AppState) (message : SocketAddr × Request) :
    Decidable (state.KeepsToRoom message) :=
  @instDecidableAnd _ _ (decidable_of_iff' _ (forall_reached_iff fun gameId addr there =>
    ¬there.ResetsDeparted gameId addr)) (@Option.decidableForallMem _ _ (fun _ => inferInstance) _)

/-- Clients at the addresses 1 to 4. -/
def fourClients : AppState := lanLobby [1, 2, 3, 4] (by decide)

theorem fourClients_opening : fourClients.Opening := lanLobby_opening [1, 2, 3, 4] (by decide)

/-- Client 2 leaves game 1 while it is live, opens game 2 and starts it with client 4. -/
def movesOn : List (SocketAddr × Request) :=
  startsThree ++ [(2, .quitGame []), (2, .createGame [0, 71, 0]),
    (4, .joinGame [0, 2, 0, 0, 0, 0, 0, 0, 0, 0, 0, 0, 1]), (2, .startGame [0, 255, 255, 255, 255])]

/-- The former player is idle while somebody drops and somebody leaves, and gets ready later. -/
theorem others_spared_two_games :
    (server oneFrame).Along (AppState.SparesOthers oneFrame) fourClients
      (movesOn ++ [(3, .dropGame []), (1, .quitGame []), signalsReady 2, signalsReady 4]) :=
  (others_spared_iff oneFrame fourClients_opening _).mpr (by decide +kernel)

/-- A drop in game 1 makes a former player idle who is ready in game 2. -/
theorem ready_lost_to_former_game :
    fourClients.Opening ∧
      ¬((server oneFrame).final fourClients (movesOn ++ [signalsReady 2])).SparesOthers oneFrame
        (3, .dropGame []) := by
  refine ⟨fourClients_opening, fun spares => ?_⟩
  have ready : ((server oneFrame).final fourClients (movesOn ++ [signalsReady 2])).clients.find 2
      |>.any fun client => client.gameId = some 2 && client.playerStatus = playerStatusNetSync := by
    decide +kernel
  have dropper : ((server oneFrame).final fourClients
      (movesOn ++ [signalsReady 2])).hall.gameOf 3 = some 1 := by
    decide +kernel
  have reset : ((server oneFrame).step ((server oneFrame).final fourClients
      (movesOn ++ [signalsReady 2])) (3, .dropGame [])).2.clients.find 2
        |>.all fun client => client.playerStatus = playerStatusIdle := by
    decide +kernel
  obtain ⟨client, found, waits⟩ := (Option.any_eq_true ..).mp ready
  simp only [Bool.and_eq_true, decide_eq_true_eq] at waits
  obtain ⟨later, foundLater, _, same⟩ := spares 1 dropper 2 client found (by simp [waits.1])
  rw [foundLater, Option.all_some, decide_eq_true_eq, same, waits.2] at reset
  exact absurd reset (by decide)

end Direlera.Lobby
