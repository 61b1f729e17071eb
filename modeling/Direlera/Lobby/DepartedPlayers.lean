import Direlera.Lobby.Delivery

/-!
# Departed players and delivery to the others

The send loop of an input ends at the first slot whose client is gone. So the responses of
a round reach every player which is still in the room exactly when no such slot precedes
one of theirs.
-/

namespace Direlera.Lobby

open Direlera.Library Direlera.Sync Direlera.Sync.SimplestGameSync

/-- The engine responses which were enqueued. -/
def AppState.deliveries (state : AppState) : List Delivery := state.tx.filterMap Message.delivery

/-- What handling an input of `src` asks of a live game. -/
structure AppState.Plays (state : AppState) (src : SocketAddr) (gameId : UInt32) (slot : Nat)
    (game : GameInfo) (sync : SyncManager) : Prop where
  resolved : state.hall.resolve src = some (gameId, slot)
  here : state.games.find gameId = some game
  running : game.syncManager = some sync

/-- Every response for a registered player in the room is enqueued to its address. -/
def AppState.Delivers (config : Config) (state : AppState) (src : SocketAddr) (request : Request) :
    Prop :=
  ∀ input gameId slot game sync frames, Request.input request = some input →
    state.Plays src gameId slot game sync →
    (sync.call gameId (.input slot input)).1 = .ok frames →
    ∀ frame ∈ frames, ∀ player, game.players[frame.slot]? = some player →
      player.leftRoom = false → (state.clients.find player.addr).isSome = true →
        ∃ delivery ∈ (((server config).step state (src, request)).2.deliveries.drop
          state.deliveries.length), delivery.addr = player.addr ∧ delivery.frame = frame

/-- If the input completes a round, no slot without a client precedes the slot of a
registered player in the room. -/
def AppState.Unblocked (state : AppState) (src : SocketAddr) (request : Request) : Prop :=
  ∀ input gameId slot game sync, Request.input request = some input →
    state.Plays src gameId slot game sync →
    sync.engine.completesRound (.input slot input) = true →
    ∀ (earlier later : Nat) (gone player : GamePlayerInfo), earlier < later →
      game.players[earlier]? = some gone → state.clients.find gone.addr = none →
      game.players[later]? = some player → player.leftRoom = false →
        state.clients.find player.addr = none

section

variable {state : AppState} {src : SocketAddr} {gameId : UInt32} {slot : Nat} {game : GameInfo}
  {sync : SyncManager} {input : ClientInput} {request : Request}

/-- A message with an input feeds it. -/
theorem Hall.handle_input (hall : Hall) (config : Config) (src : SocketAddr)
    (carried : Request.input request = some input) :
    hall.handle config src request = hall.play input src := by
  cases request with
  | gameData data =>
      obtain ⟨bytes, parsed, rfl⟩ := Option.map_eq_some_iff.mp carried
      simp [Hall.handle, parsed]
  | gameCache data =>
      obtain ⟨position, parsed, rfl⟩ := Option.map_eq_some_iff.mp carried
      simp [Hall.handle, parsed]
  | _ => cases carried

/-- What is enqueued for an input. -/
theorem deliveries_input (sound : state.hall.Sound Hall.nobody) (config : Config)
    (carried : Request.input request = some input) (plays : state.Plays src gameId slot game sync) :
    ((server config).step state (src, request)).2.deliveries.drop state.deliveries.length =
      sent state.hall.member
        ((returned (sync.call gameId (.input slot input)).1).map game.target) := by
  have step := congrArg Hall.deliveries (hall_step config state (src, request))
  have fed : state.hall.play input src = state.hall.feed gameId slot input := by
    simp [Hall.play, plays.resolved]
  rw [Hall.handle_input _ _ _ carried, fed,
    Hall.deliveries_feed (sound.rooms gameId game plays.here) plays.here plays.running] at step
  change ((server config).step state (src, request)).2.deliveries = state.deliveries ++ _ at step
  rw [step, List.drop_left]

theorem registered_iff (state : AppState) (addr : SocketAddr) :
    (state.hall.member addr).isSome = (state.clients.find addr).isSome := by
  rw [hall_member, Option.isSome_map]

/-- A response is enqueued if the players of the slots before it are registered. -/
theorem sent_of_registered {frames : List Frame} {i : Nat} {frame : Frame}
    {player : GamePlayerInfo} (here : frames[i]? = some frame)
    (listed : game.players[frame.slot]? = some player)
    (registered : (state.clients.find player.addr).isSome = true)
    (before : ∀ (j : Nat) (earlier : Frame), j < i → frames[j]? = some earlier →
      ∃ other, game.players[earlier.slot]? = some other ∧
        (state.clients.find other.addr).isSome = true) :
    ∃ delivery ∈ sent state.hall.member (frames.map game.target),
      delivery.addr = player.addr ∧ delivery.frame = frame := by
  obtain ⟨recipient, known⟩ :=
    Option.isSome_iff_exists.mp ((registered_iff state player.addr).trans registered)
  refine ⟨⟨player.addr, frame, recipient.gameId⟩, mem_sent.mpr ?_, rfl, rfl⟩
  refine ⟨i, ⟨player.addr, frame⟩, recipient, ?_, known, rfl, fun j earlierIndex => ?_⟩
  · simp [here, GameInfo.target, listed]
  · obtain ⟨inRange, _⟩ := List.getElem?_eq_some_iff.mp here
    have earlierHere : frames[j]? = some frames[j] :=
      List.getElem?_eq_getElem (earlierIndex.trans inRange)
    obtain ⟨other, otherListed, otherRegistered⟩ := before j _ earlierIndex earlierHere
    refine ⟨⟨other.addr, frames[j]⟩, ?_, ?_⟩
    · simp [earlierHere, GameInfo.target, otherListed]
    · exact (registered_iff state other.addr).trans otherRegistered

/-- Unblocked responses are delivered. -/
theorem AppState.Unblocked.delivers (unblocked : state.Unblocked src request)
    (sound : state.hall.Sound Hall.nobody) (config : Config) :
    state.Delivers config src request := by
  intro input gameId slot game sync frames carried plays called frame member player listed
    inRoom registered
  have ok := sound.rooms gameId game plays.here
  have serves := (ok.playing sync plays.running).2
  rw [deliveries_input sound config carried plays, called]
  obtain ⟨i, here⟩ := List.getElem?_of_mem member
  refine sent_of_registered here listed registered fun j earlier before there => ?_
  have answers : returned (sync.call gameId (.input slot input)).1 = frames := by rw [called]; rfl
  cases completes : sync.engine.completesRound (.input slot input) with
  | false =>
      -- a warming player is answered alone
      have alone :=
        (SyncManager.call_no_round serves.settled gameId completes (answers ▸ member)).1
      have single : frames.length = 1 := by simpa [answers] using congrArg List.length alone
      have inRange := (List.getElem?_eq_some_iff.mp here).1
      omega
  | true =>
      have round := SyncManager.call_round serves.settled gameId completes
      rw [answers, serves.sized] at round
      obtain ⟨slotHere, _⟩ := SyncManager.slot_of_round round here
      obtain ⟨slotThere, inRange⟩ := SyncManager.slot_of_round round there
      obtain ⟨other, otherListed⟩ : ∃ other, game.players[earlier.slot]? = some other :=
        ⟨_, List.getElem?_eq_getElem (slotThere ▸ inRange)⟩
      refine ⟨other, otherListed, Option.isSome_iff_ne_none.mpr fun gone => ?_⟩
      have lost := unblocked input gameId slot game sync carried plays completes earlier.slot
        frame.slot other player (by omega) otherListed gone listed inRoom
      simp [lost] at registered

/-- Delivered responses were unblocked. -/
theorem AppState.Delivers.unblocked {config : Config} (delivers : state.Delivers config src request)
    (sound : state.hall.Sound Hall.nobody) : state.Unblocked src request := by
  intro input gameId slot game sync carried plays completes earlier later gone player before
    goneListed unregistered listed inRoom
  have ok := sound.rooms gameId game plays.here
  have serves := (ok.playing sync plays.running).2
  have round := SyncManager.call_round serves.settled gameId completes
  rw [serves.sized] at round
  have inRange := (List.getElem?_eq_some_iff.mp listed).1
  by_contra known
  have registered : (state.clients.find player.addr).isSome = true :=
    Option.isSome_iff_ne_none.mpr known
  cases called : (sync.call gameId (.input slot input)).1 with
  | error error =>
      have nobody := congrArg List.length round
      simp only [called, returned, List.map_nil, List.length_nil, List.length_range] at nobody
      omega
  | ok frames =>
      rw [called] at round
      change frames.map Frame.slot = _ at round
      have count : frames.length = game.players.length := by
        simpa using congrArg List.length round
      obtain ⟨owed, here⟩ : ∃ owed, frames[later]? = some owed :=
        ⟨_, List.getElem?_eq_getElem (count ▸ inRange)⟩
      obtain ⟨slotHere, _⟩ := SyncManager.slot_of_round round here
      obtain ⟨delivery, enqueued, _, same⟩ := delivers input gameId slot game sync frames carried
        plays called owed (List.mem_of_getElem? here) player (slotHere ▸ listed) inRoom registered
      rw [deliveries_input sound config carried plays, called] at enqueued
      obtain ⟨i, output, recipient, there, _, rfl, loop⟩ := mem_sent.mp enqueued
      -- the loop sent the response of slot `later`, so it passed slot `earlier`
      have position : i = later := by
        obtain ⟨frame, frameThere, target⟩ : ∃ frame, frames[i]? = some frame ∧
            game.target frame = some output := by
          simpa [returned] using there
        obtain ⟨slotThere, _⟩ := SyncManager.slot_of_round round frameThere
        have sameFrame : output.frame = frame := by
          obtain ⟨other, _, rfl⟩ := Option.map_eq_some_iff.mp target
          rfl
        have sameSlot := congrArg Frame.slot same
        rw [← slotThere, ← sameFrame]
        exact sameSlot.trans slotHere
      obtain ⟨passed, passedHere, passedRegistered⟩ := loop earlier (position ▸ before)
      obtain ⟨frame, frameThere, target⟩ : ∃ frame, frames[earlier]? = some frame ∧
          game.target frame = some passed := by
        simpa [returned] using passedHere
      obtain ⟨slotThere, _⟩ := SyncManager.slot_of_round round frameThere
      obtain ⟨other, otherListed, rfl⟩ := Option.map_eq_some_iff.mp target
      rw [slotThere, goneListed] at otherListed
      obtain rfl := Option.some.inj otherListed
      rw [registered_iff, unregistered] at passedRegistered
      simp at passedRegistered

end

/-- The hall of every reachable state is in order. -/
theorem sound_final (config : Config) {start : AppState} (opening : start.Opening)
    (requests : List (SocketAddr × Request)) :
    ((server config).final start requests).hall.Sound Hall.nobody := by
  refine (server config).invariant (fun state => state.hall.Sound Hall.nobody) opening.sound ?_ _
  intro state request sound
  rw [hall_step]
  exact sound.handle config request.1 request.2

/-- After every run, the responses to a message reach everybody who is still in the room
exactly when no slot without a client precedes one of theirs in a completed round. -/
theorem delivers_iff_unblocked (config : Config) {start : AppState} (opening : start.Opening)
    (requests : List (SocketAddr × Request)) (src : SocketAddr) (request : Request) :
    ((server config).final start requests).Delivers config src request ↔
      ((server config).final start requests).Unblocked src request := by
  have sound := sound_final config opening requests
  constructor
  · intro delivers
    exact delivers.unblocked sound
  · intro unblocked
    exact unblocked.delivers sound config

/-- One byte of game data. -/
def playsByte (src : SocketAddr) : SocketAddr × Request := (src, .gameData [0, 1, 0, 7])

/-- Three players start game 1 and get over the warmup. -/
def warmedUp : List (SocketAddr × Request) :=
  [createsFirst, joins 2, joins 3, (1, .startGame [0, 255, 255, 255, 255]),
    playsByte 1, playsByte 2, playsByte 3]

/-- While all three players are registered, the input which completes a round is answered
to all of them. -/
theorem delivers_iff_unblocked_three_players :
    ((server oneFrame).final threeClients (warmedUp ++ [playsByte 1, playsByte 2])).Delivers
      oneFrame 3 (.gameData [0, 1, 0, 7]) := by
  refine (delivers_iff_unblocked oneFrame threeClients_opening _ 3 _).mpr ?_
  generalize reached : (server oneFrame).final threeClients
    (warmedUp ++ [playsByte 1, playsByte 2]) = state
  have resolved : state.hall.resolve 3 = some (1, 2) := by
    rw [← reached]
    decide +kernel
  have everyone : (state.games.find 1).all (fun game => game.players.all fun player =>
      (state.clients.find player.addr).isSome) = true := by
    rw [← reached]
    decide +kernel
  intro input gameId slot game sync _ plays _ earlier later gone player _ goneListed lost
  have first : gameId = 1 := congrArg Prod.fst (Option.some.inj (plays.resolved.symm.trans resolved))
  rw [← first, plays.here] at everyone
  have registered := List.all_eq_true.mp everyone gone (List.mem_of_getElem? goneListed)
  simp [lost] at registered

/-- The second of three players disconnects; the round which the third one then completes
never reaches it. -/
theorem delivery_blocked_by_user_quit :
    threeClients.Opening ∧
      ¬((server oneFrame).final threeClients
        (warmedUp ++ [(2, .userQuit [0, 255, 255, 0]), playsByte 1])).Delivers
          oneFrame 3 (.gameData [0, 1, 0, 7]) := by
  refine ⟨threeClients_opening, fun delivers => ?_⟩
  have unblocked := delivers.unblocked (sound_final oneFrame threeClients_opening _)
  generalize reached : (server oneFrame).final threeClients
    (warmedUp ++ [(2, .userQuit [0, 255, 255, 0]), playsByte 1]) = state at unblocked
  have resolved : state.hall.resolve 3 = some (1, 2) := by
    rw [← reached]
    decide +kernel
  have blocked : (state.games.find 1).any (fun game => game.syncManager.any fun sync =>
      sync.engine.completesRound (.input 2 (.gameData [7])) &&
        (game.players[1]?.any fun gone => (state.clients.find gone.addr).isNone) &&
          game.players[2]?.any fun player =>
            !player.leftRoom && (state.clients.find player.addr).isSome) = true := by
    rw [← reached]
    decide +kernel
  obtain ⟨game, here, blocked⟩ := (Option.any_eq_true ..).mp blocked
  obtain ⟨sync, running, blocked⟩ := (Option.any_eq_true ..).mp blocked
  simp only [Bool.and_eq_true, Option.any_eq_true] at blocked
  obtain ⟨⟨completes, gone, goneListed, unregistered⟩, player, listed, present⟩ := blocked
  have lost := unblocked (.gameData [7]) 1 2 game sync rfl ⟨resolved, here, running⟩ completes 1 2
    gone player (by decide) goneListed (by simpa using unregistered) listed
    (by simpa using present.1)
  simp [lost] at present

end Direlera.Lobby
