import Direlera.Lobby.DepartedPlayers

/-!
# Game streams and rooms

A response belongs to the game whose engine produced it. It is enqueued to a member of
that game unless a completed round answers the slot of a player which has left the room.
-/

namespace Direlera.Lobby

open Direlera.Library Direlera.Sync Direlera.Sync.SimplestGameSync

namespace Hall

variable {hall : Hall} {gameId : UInt32} {game : GameInfo} {addr src : SocketAddr}
  {late : UInt32 → SocketAddr → Prop}

/-- Every response was enqueued to a member of its game. -/
def Homely (hall : Hall) : Prop :=
  ∀ delivery ∈ hall.deliveries, delivery.recipientGame = some delivery.frame.origin

/-- Dropping a player completes a round, and the players of all slots are registered. -/
def Releases (hall : Hall) (game : GameInfo) (addr : SocketAddr) : Prop :=
  ∃ sync slot, game.syncManager = some sync ∧ game.position addr = some slot ∧
    sync.engine.completesRound (.drop slot) = true ∧
    ∀ player ∈ game.players, (hall.member player.addr).isSome = true

/-- No round which a message completes is sent to a player which has left the room: before
each such player comes a slot without a client; a drop completes none while somebody has
left, and a departure none while somebody stays. -/
def Contained (hall : Hall) (src : SocketAddr) : Request → Prop
  | .quitGame _ | .userQuit _ => ∀ gameId game, hall.gameOf src = some gameId →
      hall.room gameId = some game → hall.Releases game src →
        ∀ player ∈ game.inRoom, player.addr = src
  | .kickUser data => ∀ userId gameId addr game, parseKickUser data = some userId →
      hall.kickTarget userId src = some (gameId, addr) → hall.room gameId = some game →
        hall.Releases game addr → ∀ player ∈ game.inRoom, player.addr = addr
  | .dropGame _ => ∀ gameId slot game, hall.resolve src = some (gameId, slot) →
      hall.room gameId = some game → hall.Releases game src →
        ∀ player ∈ game.players, player.leftRoom = false
  | request => ∀ input gameId slot game sync, Request.input request = some input →
      hall.resolve src = some (gameId, slot) → hall.room gameId = some game →
      game.syncManager = some sync → sync.engine.completesRound (.input slot input) = true →
        ∀ (later : Nat) (player : GamePlayerInfo), game.players[later]? = some player →
          player.leftRoom = true → (hall.member player.addr).isSome = true →
            ∃ earlier gone, earlier < later ∧ game.players[earlier]? = some gone ∧
              hall.member gone.addr = none

theorem Homely.of_eq {after : Hall} (homely : hall.Homely)
    (deliveries : after.deliveries = hall.deliveries) : after.Homely := by
  rw [Homely, deliveries]
  exact homely

theorem deliveries_create (hall : Hall) (gameName : Bytes) (src : SocketAddr) :
    (hall.create gameName src).deliveries = hall.deliveries := by
  unfold Hall.create
  split
  · rfl
  · split <;> rfl

theorem deliveries_join (hall : Hall) (gameId : UInt32) (src : SocketAddr) :
    (hall.join gameId src).deliveries = hall.deliveries := by
  unfold Hall.join
  split
  · split <;> rfl
  · rfl

theorem deliveries_start (hall : Hall) (config : Config) (src : SocketAddr) :
    (hall.start config src).deliveries = hall.deliveries := by
  rcases hall.start_cases config src with same | ⟨_, _, _, _, begun⟩
  · rw [same]
  · rw [begun]
    rfl

/-! ## Drops -/

/-- A drop sends nothing, or what it released to registered players in a room which
stays open. -/
theorem deliveries_drop (hall : Hall) (gameId : UInt32) (src : SocketAddr) :
    (hall.drop gameId src).deliveries = hall.deliveries ∨
      ∃ game sync slot, hall.room gameId = some game ∧ game.syncManager = some sync ∧
        game.position src = some slot ∧
        (∀ player ∈ game.players, (hall.member player.addr).isSome = true) ∧
        ((sync.call gameId (.drop slot)).2.allPlayersDropped = true → game.inRoom ≠ []) ∧
        (hall.drop gameId src).deliveries = hall.deliveries ++ sent hall.member
          ((returned (sync.call gameId (.drop slot)).1).map game.target) := by
  unfold Hall.drop
  dsimp only
  split
  next member game known here =>
    split
    next slot sync found running =>
      have position := (dropperSlot_eq_some.mp found).2
      have finished : ∀ next : SyncManager, GameInfo.players
          (GameInfo.finish { game with syncManager := some next }) = game.inRoom :=
        fun next => GameInfo.players_finish _
      split
      next => exact .inl rfl
      next frames next called =>
        by_cases registered : (game.players.all fun player =>
            (hall.member player.addr).isSome) = true
        · have releases : ∀ room : Option GameInfo,
              ((hall.setRoom gameId room).release game frames).deliveries =
                hall.deliveries ++ sent hall.member (frames.map game.target) := by
            intro room
            have same : (hall.setRoom gameId room).member = hall.member := rfl
            rw [release, same, if_pos registered, deliveries_deliver, same]
            rfl
          have everyone := List.all_eq_true.mp registered
          split
          next all =>
            rw [finished]
            split
            next => exact .inl rfl
            next opened =>
              refine .inr ⟨game, sync, slot, here, running, position, everyone, ?_, ?_⟩
              · intro _ empty
                exact opened (by simp [empty])
              · rw [releases, called]
                rfl
          next notAll =>
            refine .inr ⟨game, sync, slot, here, running, position, everyone, ?_, ?_⟩
            · rw [called]
              exact fun all => absurd all notAll
            · rw [releases, called]
              rfl
        · have silent : ∀ room : Option GameInfo,
              ((hall.setRoom gameId room).release game frames).deliveries = hall.deliveries := by
            intro room
            have same : (hall.setRoom gameId room).member = hall.member := rfl
            rw [release, same, if_neg registered]
            rfl
          split
          · split
            · exact .inl rfl
            · exact .inl (silent _)
          · exact .inl (silent _)
    next => exact .inl rfl
  next => exact .inl rfl

/-- Once everybody has left, the drop of the last leaver drops all players. -/
theorem allPlayersDropped_of_empty (ok : game.RoomOk fun other => other = src)
    (empty : game.inRoom = []) {sync : SyncManager} (running : game.syncManager = some sync)
    {slot : Nat} (position : game.position src = some slot) :
    (sync.call gameId (.drop slot)).2.allPlayersDropped = true := by
  have serves := (ok.call running gameId (.drop slot)).playing _ rfl |>.2
  refine decide_eq_true_iff.mpr fun i => ?_
  have inRange : i.val < game.players.length := serves.sized ▸ i.isLt
  obtain ⟨player, listed⟩ : ∃ player, game.players[i.val]? = some player :=
    ⟨_, List.getElem?_eq_getElem inRange⟩
  have left : player.leftRoom = true := by
    by_contra stays
    have inRoom := GameInfo.mem_inRoom.mpr ⟨List.mem_of_getElem? listed, by simpa using stays⟩
    simp [empty] at inRoom
  have onTime : ¬(player.addr = src ∧ ∀ (other : Nat) (named : GamePlayerInfo),
      Call.drop slot = .drop other → game.players[other]? = some named →
        named.addr ≠ player.addr) := by
    rintro ⟨same, missed⟩
    obtain ⟨dropper, there, isDropper⟩ := GameInfo.position_some position
    exact missed slot dropper rfl there (isDropper.trans same.symm)
  have dropped := serves.tombstones i.val player listed left onTime
  rw [DelayedGameSync.isPlayerDropped, SimplestGameSync.isPlayerDropped, dif_pos i.isLt] at dropped
  exact dropped

/-- A drop sends to members of the game alone, if the round it completes finds everybody in
the room or nobody. -/
theorem Homely.drop (homely : hall.Homely) (sound : hall.Sound late)
    (leaver : ∀ addr, late gameId addr → addr = src)
    (contained : ∀ game, hall.room gameId = some game → hall.Releases game src →
      game.inRoom = [] ∨ ∀ player ∈ game.players, player.leftRoom = false) :
    (hall.drop gameId src).Homely := by
  rcases hall.deliveries_drop gameId src with same |
    ⟨game, sync, slot, here, running, position, registered, stays, delivered⟩
  · exact homely.of_eq same
  · have ok := sound.rooms gameId game here
    have serves := (ok.playing sync running).2
    intro delivery enqueued
    rw [delivered, List.mem_append] at enqueued
    rcases enqueued with before | fresh
    · exact homely delivery before
    · obtain ⟨i, output, recipient, there, known, rfl, _⟩ := mem_sent.mp fresh
      obtain ⟨frame, frameThere, target⟩ :
          ∃ frame, (returned (sync.call gameId (.drop slot)).1)[i]? = some frame ∧
            game.target frame = some output := by
        simpa using there
      have answered := List.mem_of_getElem? frameThere
      obtain ⟨player, listed, rfl⟩ := Option.map_eq_some_iff.mp target
      have completes : sync.engine.completesRound (.drop slot) = true := by
        by_contra incomplete
        have noRound : sync.engine.completesRound (.drop slot) = false := by
          simpa using incomplete
        obtain ⟨_, message, named⟩ :=
          SyncManager.call_no_round serves.settled gameId noRound answered
        cases named
      have inGame : hall.gameOf player.addr = some gameId := by
        refine (sound.seated gameId game here player (List.mem_of_getElem? listed)).mp ?_
        rcases contained game here ⟨sync, slot, running, position, completes, registered⟩ with
          empty | everyone
        · have onlyLeaver : game.RoomOk fun other => other = src :=
            ok.imp fun other _ => leaver other.addr
          exact absurd empty (stays (allPlayersDropped_of_empty onlyLeaver empty running position))
        · exact everyone player (List.mem_of_getElem? listed)
      rw [gameOf, known, Option.bind_some] at inGame
      rw [SyncManager.call_origin answered]
      exact inGame

/-! ## Departures -/

/-- Leaving a live game keeps the engine and the slots. -/
theorem leave_live (ok : game.RoomOk (nobody gameId)) {sync : SyncManager}
    (running : game.syncManager = some sync) (addr other : SocketAddr) :
    (game.leave addr).2.syncManager = some sync ∧
      (game.leave addr).2.position other = game.position other ∧
      (game.leave addr).2.players.map GamePlayerInfo.addr = game.players.map GamePlayerInfo.addr := by
  rw [GameInfo.leave_spec ok.distinct]
  simp only [running, GameInfo.syncManager_migrate, GameInfo.players_migrate, GameInfo.recount,
    GameInfo.position, map_addr_markLeft, and_true, true_and]
  have byAddr : ∀ players : List GamePlayerInfo,
      (players.findIdx? fun player => decide (player.addr = other)) =
        (players.map GamePlayerInfo.addr).findIdx? fun known => decide (known = other) := by
    intro players
    rw [List.findIdx?_map]
    rfl
  rw [byAddr, byAddr, map_addr_markLeft]

/-- What a departing drop releases, dropping from the unchanged room would release. -/
theorem Releases.of_depart (ok : game.RoomOk (nobody gameId)) (live : game.syncManager.isSome = true)
    (releases : (hall.depart gameId addr game).Releases (game.leave addr).2 addr) :
    hall.Releases game addr := by
  obtain ⟨sync, running⟩ := Option.isSome_iff_exists.mp live
  obtain ⟨same, slot, sameRunning, position, completes, registered⟩ := releases
  obtain ⟨sameSync, samePosition, sameAddrs⟩ := leave_live ok running addr addr
  obtain rfl : sync = same := Option.some.inj (sameSync.symm.trans sameRunning)
  refine ⟨sync, slot, running, samePosition ▸ position, completes, fun player member => ?_⟩
  have listed : player.addr ∈ (game.leave addr).2.players.map GamePlayerInfo.addr :=
    sameAddrs ▸ List.mem_map_of_mem member
  obtain ⟨other, otherMember, sameAddr⟩ := List.mem_map.mp listed
  have known := registered other otherMember
  rw [sameAddr] at known
  change ((hall.setGame addr none).member player.addr).isSome = true at known
  by_cases same : player.addr = addr
  · simpa [Hall.setGame, same] using known
  · simpa [Hall.setGame, same] using known

/-- A departure from a live game sends to members alone, if the round it completes leaves
nobody behind. -/
theorem Homely.departDrop (homely : hall.Homely) (sound : hall.Sound nobody)
    (here : hall.room gameId = some game) (inGame : hall.gameOf addr = some gameId)
    (live : game.syncManager.isSome = true)
    (contained : hall.Releases game addr → ∀ player ∈ game.inRoom, player.addr = addr) :
    ((hall.depart gameId addr game).drop gameId addr).Homely := by
  have ok := sound.rooms gameId game here
  have departed : (hall.depart gameId addr game).Homely := homely
  refine departed.drop (sound.depart here inGame) ?_ ?_
  · intro other wasLate
    exact wasLate.2.2
  · intro left there releases
    obtain rfl : (game.leave addr).2 = left := by
      have opened : (hall.depart gameId addr game).room gameId = some (game.leave addr).2 :=
        Function.update_self ..
      exact Option.some.inj (opened.symm.trans there)
    refine .inl ?_
    rw [GameInfo.inRoom_leave ok.distinct]
    refine List.filter_eq_nil_iff.mpr fun player member => ?_
    simpa using contained (Releases.of_depart ok live releases) player member

theorem Homely.leave (homely : hall.Homely) (sound : hall.Sound nobody)
    (inGame : hall.gameOf addr = some gameId)
    (contained : ∀ game, hall.room gameId = some game → hall.Releases game addr →
      ∀ player ∈ game.inRoom, player.addr = addr) : (hall.leave gameId addr).Homely := by
  cases here : hall.room gameId with
  | none => simpa [Hall.leave, here] using homely
  | some game =>
      rw [leave_of_room here]
      have playing := game.leave_playing_iff addr
      cases outcome : (game.leave addr).1.1 with
      | playing => exact homely.departDrop sound here inGame (playing.mp outcome) (contained game here)
      | waitingOpen => exact homely
      | waitingClosed => exact homely

theorem Homely.quit (homely : hall.Homely) (sound : hall.Sound nobody)
    (contained : ∀ gameId game, hall.gameOf src = some gameId → hall.room gameId = some game →
      hall.Releases game src → ∀ player ∈ game.inRoom, player.addr = src) :
    (hall.quit src).Homely := by
  unfold Hall.quit
  split
  next gameId inGame => exact homely.leave sound inGame fun game => contained gameId game inGame
  next => exact homely

theorem Homely.expel (homely : hall.Homely) (sound : hall.Sound nobody)
    (inGame : hall.gameOf addr = some gameId)
    (contained : ∀ game, hall.room gameId = some game → hall.Releases game addr →
      ∀ player ∈ game.inRoom, player.addr = addr) : (hall.expel gameId addr).Homely := by
  cases here : hall.room gameId with
  | none => simpa [Hall.expel, here] using homely
  | some game =>
      rw [expel_of_room here]
      have playing := game.leave_playing_iff addr
      split
      next outcome =>
        exact homely.departDrop sound here inGame (playing.mp outcome) (contained game here)
      next => exact homely

/-! ## Inputs -/

/-- An input sends to members of the game alone, if a slot without a client shields the
players which have left. -/
theorem Homely.feed (homely : hall.Homely) (sound : hall.Sound nobody) {slot : Nat}
    {input : ClientInput} (resolved : hall.resolve src = some (gameId, slot))
    (contained : ∀ game sync, hall.room gameId = some game → game.syncManager = some sync →
      sync.engine.completesRound (.input slot input) = true →
        ∀ (later : Nat) (player : GamePlayerInfo), game.players[later]? = some player →
          player.leftRoom = true → (hall.member player.addr).isSome = true →
            ∃ earlier gone, earlier < later ∧ game.players[earlier]? = some gone ∧
              hall.member gone.addr = none) : (hall.feed gameId slot input).Homely := by
  cases here : hall.room gameId with
  | none => simpa [Hall.feed, here] using homely
  | some game =>
      cases running : game.syncManager with
      | none => simpa [Hall.feed, here, running] using homely
      | some sync =>
          have ok := sound.rooms gameId game here
          have serves := (ok.playing sync running).2
          intro delivery enqueued
          rw [deliveries_feed ok here running, List.mem_append] at enqueued
          rcases enqueued with before | fresh
          · exact homely delivery before
          · obtain ⟨i, output, recipient, there, known, rfl, loop⟩ := mem_sent.mp fresh
            obtain ⟨frame, frameThere, target⟩ :
                ∃ frame, (returned (sync.call gameId (.input slot input)).1)[i]? = some frame ∧
                  game.target frame = some output := by
              simpa using there
            have answered := List.mem_of_getElem? frameThere
            obtain ⟨player, listed, rfl⟩ := Option.map_eq_some_iff.mp target
            have seated := sound.seated gameId game here player (List.mem_of_getElem? listed)
            have inGame : hall.gameOf player.addr = some gameId := by
              cases completes : sync.engine.completesRound (.input slot input) with
              | false =>
                  -- the sender is warming up
                  obtain ⟨_, message, named⟩ :=
                    SyncManager.call_no_round serves.settled gameId completes answered
                  obtain ⟨senderGame, senderSlot⟩ := resolve_eq_some resolved
                  obtain ⟨sender, senderListed, rfl⟩ := GameInfo.position_some (senderSlot game here)
                  rw [(Call.input.inj named).1, listed] at senderListed
                  obtain rfl := Option.some.inj senderListed
                  exact senderGame
              | true =>
                  refine seated.mp (by_contra fun left => ?_)
                  have round := SyncManager.call_round serves.settled gameId completes
                  obtain ⟨position, _⟩ := SyncManager.slot_of_round round frameThere
                  obtain ⟨earlier, gone, before, goneListed, unregistered⟩ :=
                    contained game sync here running completes frame.slot player listed
                      (by simpa using left) (by simp [known])
                  obtain ⟨passed, passedThere, registered⟩ := loop earlier (position ▸ before)
                  obtain ⟨other, otherThere, otherTarget⟩ :
                      ∃ other, (returned (sync.call gameId (.input slot input)).1)[earlier]? =
                        some other ∧ game.target other = some passed := by
                    simpa using passedThere
                  obtain ⟨otherPosition, _⟩ := SyncManager.slot_of_round round otherThere
                  obtain ⟨owner, ownerListed, rfl⟩ := Option.map_eq_some_iff.mp otherTarget
                  rw [otherPosition, goneListed] at ownerListed
                  obtain rfl := Option.some.inj ownerListed
                  simp [unregistered] at registered
            rw [gameOf, known, Option.bind_some] at inGame
            rw [SyncManager.call_origin answered]
            exact inGame

/-! ## Every message -/

/-- A contained message sends responses to members of their game alone. -/
theorem Homely.handle (homely : hall.Homely) (sound : hall.Sound nobody) (config : Config)
    (src : SocketAddr) (request : Request) (contained : hall.Contained src request) :
    (hall.handle config src request).Homely := by
  apply hall.handle_elim config src request
  case unchanged => exact homely
  case created => exact fun _ _ => homely.of_eq (hall.deliveries_create _ src)
  case joined => exact fun _ gameId _ _ => homely.of_eq (hall.deliveries_join gameId src)
  case quitted =>
    rintro data rfl
    exact homely.quit sound contained
  case forgotten =>
    rintro data rfl
    exact homely.quit sound contained
  case expelled =>
    rintro data userId gameId addr rfl parsed target
    exact homely.expel sound (gameOf_kickTarget target) fun game =>
      contained userId gameId addr game parsed target
  case started => exact fun _ _ => homely.of_eq (hall.deliveries_start config src)
  case dropped =>
    rintro data gameId slot rfl resolved
    refine homely.drop sound (fun _ wasLate => wasLate.elim) fun game here releases => ?_
    exact .inr (contained gameId slot game resolved here releases)
  case fed =>
    intro input gameId slot carried resolved
    refine homely.feed sound resolved fun game sync here running => ?_
    cases request with
    | gameData data => exact contained input gameId slot game sync carried resolved here running
    | gameCache data => exact contained input gameId slot game sync carried resolved here running
    | _ => cases carried

end Hall

/-- In every run of contained messages, a response is enqueued only while its recipient is
in the game which produced it. -/
theorem streams_contained (config : Config) {start : AppState} (opening : start.Opening)
    {requests : List (SocketAddr × Request)}
    (contained : (server config).Along
      (fun state request => state.hall.Contained request.1 request.2) start requests) :
    ∀ message ∈ ((server config).final start requests).tx, ∀ frame, message.frame = some frame →
      message.recipientGame = some frame.origin := by
  have kept : ((server config).final start requests).hall.Sound Hall.nobody ∧
      ((server config).final start requests).hall.Homely := by
    refine (server config).invariant_along
      (fun state => state.hall.Sound Hall.nobody ∧ state.hall.Homely) ?_ ?_ contained
    · rintro state request ⟨sound, homely⟩ containedHere
      rw [hall_step]
      exact ⟨sound.handle config request.1 request.2,
        homely.handle sound config request.1 request.2 containedHere⟩
    · refine ⟨opening.sound, fun delivery enqueued => ?_⟩
      have none : start.hall.deliveries = [] := by
        change start.tx.filterMap Message.delivery = []
        rw [opening.noOutput]
        rfl
      rw [none] at enqueued
      cases enqueued
  intro message enqueued frame carries
  refine kept.2 ⟨message.addr, frame, message.recipientGame⟩ ?_
  exact List.mem_filterMap.mpr ⟨message, enqueued, by simp [Message.delivery, carries]⟩

/-- Game data is contained while whoever has left its game has no client. -/
theorem contained_of_gone {state : AppState} {src : SocketAddr} {data : Bytes}
    (gone : (state.hall.resolve src).all (fun found => (state.hall.room found.1).all fun game =>
      game.players.all fun player =>
        !player.leftRoom || (state.hall.member player.addr).isNone) = true) :
    state.hall.Contained src (.gameData data) := by
  intro _ gameId slot game _ _ resolved here _ _ later player listed left registered
  rw [resolved, Option.all_some, here, Option.all_some] at gone
  have absent := List.all_eq_true.mp gone player (List.mem_of_getElem? listed)
  rw [left, Bool.not_true, Bool.false_or, Option.isNone_iff_eq_none] at absent
  rw [absent] at registered
  cases registered

/-- Logging off is contained where the drop completes no round. -/
theorem contained_of_open {state : AppState} {src : SocketAddr} {data : Bytes}
    (unfinished : (state.hall.gameOf src).all (fun gameId => (state.hall.room gameId).all fun game =>
      game.syncManager.all fun sync => (game.position src).all fun slot =>
        !sync.engine.completesRound (.drop slot)) = true) :
    state.hall.Contained src (.userQuit data) := by
  rintro gameId game inGame here ⟨sync, slot, running, position, completes, _⟩
  rw [inGame, Option.all_some, here, Option.all_some, running, Option.all_some, position,
    Option.all_some, completes] at unfinished
  cases unfinished

/-- Three players complete a round, then the third logs off and the others complete the next. -/
theorem streams_contained_warmup :
    threeClients.Opening ∧
      ∀ message ∈ ((server oneFrame).final threeClients (warmedUp ++ [playsByte 1, playsByte 2,
        playsByte 3, (3, .userQuit [0, 0]), playsByte 1, playsByte 2])).tx, ∀ frame,
        message.frame = some frame → message.recipientGame = some frame.origin := by
  refine ⟨threeClients_opening, streams_contained oneFrame threeClients_opening
    ⟨?_, ?_, ?_, ?_, ?_, ?_, ?_, ?_, ?_, ?_, ?_, ?_, ?_, trivial⟩⟩
  · exact fun _ _ _ _ _ carried => by cases carried
  · exact fun _ _ _ _ _ carried => by cases carried
  · exact fun _ _ _ _ _ carried => by cases carried
  · exact fun _ _ _ _ _ carried => by cases carried
  · exact contained_of_gone (by decide +kernel)
  · exact contained_of_gone (by decide +kernel)
  · exact contained_of_gone (by decide +kernel)
  · exact contained_of_gone (by decide +kernel)
  · exact contained_of_gone (by decide +kernel)
  · exact contained_of_gone (by decide +kernel)
  · exact contained_of_open (by decide +kernel)
  · exact contained_of_gone (by decide +kernel)
  · exact contained_of_gone (by decide +kernel)

/-- The second of three players quits the live game; the next round is still sent to it,
back in the lobby. -/
theorem stream_leaks_after_quit :
    threeClients.Opening ∧
      ∃ message ∈ ((server oneFrame).final threeClients
        (warmedUp ++ [(2, .quitGame []), playsByte 1, playsByte 3])).tx, ∃ frame,
          message.frame = some frame ∧ message.recipientGame ≠ some frame.origin := by
  refine ⟨threeClients_opening, ?_⟩
  have leak : (((server oneFrame).final threeClients
      (warmedUp ++ [(2, .quitGame []), playsByte 1, playsByte 3])).tx.any fun message =>
        message.frame.any fun frame => message.recipientGame != some frame.origin) = true := by
    decide +kernel
  obtain ⟨message, enqueued, strays⟩ := List.any_eq_true.mp leak
  obtain ⟨frame, carries, elsewhere⟩ := (Option.any_eq_true ..).mp strays
  exact ⟨message, enqueued, frame, carries, by simpa using elsewhere⟩

end Direlera.Lobby
