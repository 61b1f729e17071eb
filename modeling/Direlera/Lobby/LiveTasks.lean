import Direlera.Lobby.OtherGames

/-!
# The handlers of a live game

The tasks of game data, game cache, drop, quit and kick move through the phases of their
live game: at most one call at a time, then its responses in order.
-/

namespace Direlera.Lobby

open Direlera.Library Direlera.Sync Direlera.Sync.SimplestGameSync

namespace LiveGame

variable {live : LiveGame} {calls : Call → Prop} {phase : Phase} {state : AppState}

/-! ## Calls -/

/-- A live engine has a slot for every response. -/
theorem slot_lt (intact : live.Intact state) {sync : SyncManager}
    (running : live.sync state = some sync) {request : Call} {frame : Frame}
    (answered : frame ∈ returned (sync.call live.gameId request).1) :
    frame.slot < live.addrs.length :=
  (intact.runs sync running).2.2.1 ▸ SyncManager.call_slot_lt answered

/-- The player of a slot has the address of the slot. -/
theorem target_eq {game : GameInfo} (players : game.players.map GamePlayerInfo.addr = live.addrs)
    {frame : Frame} (inRange : frame.slot < live.addrs.length) :
    game.target frame = some (live.output frame) := by
  have slots : live.addrs[frame.slot]? = game.players[frame.slot]?.map GamePlayerInfo.addr := by
    rw [← players, List.getElem?_map]
  have listed : frame.slot < game.players.length := by
    rw [← players, List.length_map] at inRange
    exact inRange
  rw [List.getElem?_eq_getElem listed, Option.map_some] at slots
  simp [GameInfo.target, output, List.getElem?_eq_getElem listed, List.getD_eq_getElem?_getD, slots]

/-- Every response of a live engine has an address. -/
theorem targets_eq (intact : live.Intact state) {sync : SyncManager}
    (running : live.sync state = some sync) (request : Call) :
    (state.games.arena live.ref).targets (returned (sync.call live.gameId request).1) =
      live.outputs sync request := by
  have players := (intact.runs sync running).2.1
  have resolved : ∀ frame ∈ returned (sync.call live.gameId request).1,
      (state.games.arena live.ref).target frame = some (live.output frame) :=
    fun frame answered => target_eq players (slot_lt intact running answered)
  rw [GameInfo.targets, outputs, List.filterMap_congr resolved, List.filterMap_eq_map']

/-- A frame of the game for one of its slots. -/
structure Answer (live : LiveGame) (frame : Frame) : Prop where
  inRange : frame.slot < live.addrs.length
  origin : frame.origin = live.gameId

theorem Answer.own {frame : Frame} (answer : live.Answer frame) : live.Own (live.output frame) where
  listed := by simp [output, List.getD_eq_getElem?_getD, List.getElem?_eq_getElem answer.inRange]
  origin := answer.origin

theorem answer_of_call (intact : live.Intact state) {sync : SyncManager}
    (running : live.sync state = some sync) {request : Call} {frame : Frame}
    (answered : frame ∈ returned (sync.call live.gameId request).1) : live.Answer frame where
  inRange := slot_lt intact running answered
  origin := SyncManager.call_origin answered

/-- Every response of a live engine is one of the game. -/
theorem own_of_call (intact : live.Intact state) {sync : SyncManager}
    (running : live.sync state = some sync) {request : Call} {output : TargetOutput}
    (answered : output ∈ live.outputs sync request) : live.Own output := by
  obtain ⟨frame, member, rfl⟩ := List.mem_map.mp answered
  exact (answer_of_call intact running member).own

/-- The responses of a call all show in the history. -/
theorem ofGame_outputs (history : List TargetOutput) (sync : SyncManager) (request : Call) :
    ofGame live.gameId (history ++ live.outputs sync request) =
      ofGame live.gameId history ++ live.outputs sync request := by
  have all : ofGame live.gameId (live.outputs sync request) = live.outputs sync request := by
    apply List.filter_eq_self.mpr
    intro output answered
    obtain ⟨frame, member, rfl⟩ := List.mem_map.mp answered
    simpa [output] using SyncManager.call_origin member
  rw [ofGame_append, all]

/-- Writing the engine after a call keeps the game intact. -/
theorem Intact.write (intact : live.Intact state) {sync : SyncManager}
    (running : live.sync state = some sync) (request : Call) {after : AppState}
    (byAddr : after.clients.byAddr = state.clients.byAddr) {game : GameInfo}
    (games : after.games = state.games.write live.ref game)
    (engine : game.syncManager = some (sync.call live.gameId request).2 ∧
      game.players = (state.games.arena live.ref).players ∨ game.syncManager = none) :
    live.Intact after := by
  obtain ⟨listed, players, sized, settled⟩ := intact.runs sync running
  have written : after.games.arena live.ref = game := by rw [games, GameTable.arena_write]
  refine ⟨byAddr.trans intact.byAddr, ?_, ?_⟩
  · rw [games]
    exact intact.apart
  · intro next here
    rw [LiveGame.sync, written] at here
    rcases engine with ⟨called, same⟩ | stopped
    · obtain rfl := Option.some.inj (called.symm.trans here)
      rw [written, same, games]
      exact ⟨listed, players, sized, (settled.call request).choose_spec.settled⟩
    · simp [stopped] at here

/-- Feeding an input is a call, unless the game is over. -/
theorem move_processInput {Failure : Type} (notInitialized : Failure)
    (engineError : GameSyncError → Failure) (invalidPlayer : Nat → Nat → Failure)
    (here : live.holds phase state) (idle : phase.unsent = []) {playerId : Nat} {input : ClientInput}
    (allowed : phase.ended = true ∨ calls (.input playerId input)) :
    let processed := processInput notInitialized engineError invalidPlayer live.gameId live.ref
      playerId input state
    ∃ later, live.move calls phase state processed.2 later ∧
      ((∃ failure, processed.1 = .error failure) ∧ later.unsent = [] ∨
        ∃ outputs, processed.1 = .ok outputs ∧ later.unsent = outputs ∧
          ∀ output ∈ outputs, live.Own output) := by
  dsimp only
  cases running : live.sync state with
  | none =>
      have stopped : (state.games.arena live.ref).syncManager = none := running
      simp only [processInput, stopped]
      exact ⟨phase, here.still rfl rfl rfl rfl, .inl ⟨⟨_, rfl⟩, idle⟩⟩
  | some sync =>
      have allowed : calls (.input playerId input) := by
        refine allowed.resolve_left fun ended => ?_
        simp [here.2 ended] at running
      have engine : (state.games.arena live.ref).syncManager = some sync := running
      have targets := targets_eq here.1 running (.input playerId input)
      have resolved : ∀ frame ∈ returned (sync.call live.gameId (.input playerId input)).1,
          ((state.games.arena live.ref).target frame).isNone = false := by
        intro frame answered
        rw [target_eq (here.1.runs sync running).2.1 (slot_lt here.1 running answered)]
        rfl
      have own : ∀ output ∈ live.outputs sync (.input playerId input), live.Own output :=
        fun output answered => own_of_call here.1 running answered
      rcases called : sync.call live.gameId (.input playerId input) with ⟨result, next⟩
      have sameNext : (sync.call live.gameId (.input playerId input)).2 = next := by rw [called]
      -- every branch leaves this engine and this call behind
      have moved : ∀ after : AppState, after.clients.byAddr = state.clients.byAddr →
          after.games = state.games.write live.ref
            { state.games.arena live.ref with syncManager := some next } →
          after.calls = state.calls ++ [(live.gameId, Call.input playerId input)] →
          after.produced = state.produced ++ live.outputs sync (.input playerId input) →
          after.handed = state.handed →
            live.move calls phase state after
              ⟨live.outputs sync (.input playerId input), false⟩ := by
        intro after byAddr games callsNow produced handed
        have written : live.sync after = some next := by
          rw [LiveGame.sync, games, GameTable.arena_write]
        have produced : ofGame live.gameId after.produced = _ :=
          (congrArg (ofGame live.gameId) produced).trans (ofGame_outputs _ sync _)
        have handed := congrArg (ofGame live.gameId) handed
        refine ⟨.call _ sync false idle running allowed callsNow produced handed ?_, ?_, by simp⟩
        · rw [sameNext]
          exact .inl written
        · exact here.1.write running _ byAddr games (.inl ⟨congrArg some sameNext.symm, rfl⟩)
      rw [called] at targets resolved
      simp only [processInput, engine, called]
      cases result with
      | error error =>
          have silent : live.outputs sync (.input playerId input) = [] := by
            simp [outputs, called, returned]
          rw [silent] at moved
          exact ⟨_, moved _ rfl rfl rfl (List.append_nil _).symm rfl, .inl ⟨⟨_, rfl⟩, rfl⟩⟩
      | ok frames =>
          have found : frames.find? (fun frame =>
              ((state.games.arena live.ref).target frame).isNone) = none :=
            List.find?_eq_none.mpr fun frame member => by simp [resolved frame member]
          have targets : (state.games.arena live.ref).targets frames = _ := targets
          simp only [found, targets]
          exact ⟨_, moved _ rfl rfl rfl rfl rfl, .inr ⟨_, rfl, rfl, own⟩⟩

/-- Dropping a slot is a call, unless the game is over; ending the game is known. -/
theorem move_markDropped (here : live.holds phase state) (idle : phase.unsent = [])
    {playerId : Nat} (allowed : calls (.drop playerId)) :
    let marked := markDropped live.gameId live.ref playerId state
    ∃ later, live.move calls phase state marked.2 later ∧
      ((∃ report, marked.1 = .error report) ∧ later.unsent = [] ∨
        ∃ frames players all, marked.1 = .ok (frames, players, all) ∧
          later.unsent = frames.map live.output ∧
          (∀ frame ∈ frames, live.Answer frame) ∧
          players.map GamePlayerInfo.addr = live.addrs ∧ (all = true → later.ended = true)) := by
  dsimp only
  cases running : live.sync state with
  | none =>
      have stopped : (state.games.arena live.ref).syncManager = none := running
      simp only [markDropped, stopped]
      exact ⟨phase, here.still rfl rfl rfl rfl, .inl ⟨⟨_, rfl⟩, idle⟩⟩
  | some sync =>
      have engine : (state.games.arena live.ref).syncManager = some sync := running
      have targets := targets_eq here.1 running (.drop playerId)
      have players := (here.1.runs sync running).2.1
      have answers : ∀ frame ∈ returned (sync.call live.gameId (.drop playerId)).1,
          live.Answer frame := fun frame answered => answer_of_call here.1 running answered
      rcases called : sync.call live.gameId (.drop playerId) with ⟨result, next⟩
      have sameNext : (sync.call live.gameId (.drop playerId)).2 = next := by rw [called]
      -- the engine goes on, or the game is over
      have moved : ∀ (after : AppState) (game : GameInfo) (ended : Bool),
          after.clients.byAddr = state.clients.byAddr →
          after.games = state.games.write live.ref game →
          (game.syncManager = some next ∧ game.players = (state.games.arena live.ref).players ∧
              ended = false ∨ game.syncManager = none) →
          after.calls = state.calls ++ [(live.gameId, Call.drop playerId)] →
          after.produced = state.produced ++ live.outputs sync (.drop playerId) →
          after.handed = state.handed →
            live.move calls phase state after ⟨live.outputs sync (.drop playerId), ended⟩ := by
        intro after game ended byAddr games kept callsNow produced handed
        have written : live.sync after = game.syncManager := by
          rw [LiveGame.sync, games, GameTable.arena_write]
        have produced : ofGame live.gameId after.produced = _ :=
          (congrArg (ofGame live.gameId) produced).trans (ofGame_outputs _ sync _)
        have handed := congrArg (ofGame live.gameId) handed
        refine ⟨.call _ sync ended idle running allowed callsNow produced handed ?_, ?_, ?_⟩
        · rw [sameNext, written]
          exact kept.imp And.left id
        · refine here.1.write running (.drop playerId) byAddr games (kept.imp (fun goes => ?_) id)
          exact ⟨goes.1.trans (congrArg some sameNext.symm), goes.2.1⟩
        · intro gone
          rcases kept with ⟨_, _, goesOn⟩ | stopped
          · exact absurd (goesOn.symm.trans gone) Bool.false_ne_true
          · exact written.trans stopped
      rw [called] at targets answers
      simp only [markDropped, engine, called]
      cases result with
      | error error =>
          have silent : live.outputs sync (.drop playerId) = [] := by
            simp [outputs, called, returned]
          rw [silent] at moved
          exact ⟨_, moved _ _ false rfl rfl (.inl ⟨rfl, rfl, rfl⟩) rfl (List.append_nil _).symm rfl,
            .inl ⟨⟨_, rfl⟩, rfl⟩⟩
      | ok frames =>
          have targets : (state.games.arena live.ref).targets frames = _ := targets
          have sent : live.outputs sync (.drop playerId) = frames.map live.output := by
            simp [outputs, called, returned]
          dsimp only
          rw [targets]
          by_cases all : next.allPlayersDropped = true
          · simp only [all, if_true]
            generalize finished : ({ state.games.arena live.ref with
              syncManager := some next } : GameInfo).finish = game
            have stopped : game.syncManager = none := by
              rw [← finished, GameInfo.finish, GameInfo.syncManager_migrate]
              rfl
            generalize rest : ({ state with
              games := state.games.write live.ref game
              calls := state.calls ++ [(live.gameId, Call.drop playerId)]
              produced := state.produced ++ live.outputs sync (.drop playerId) } : AppState) = logged
            obtain ⟨after, ran, -⟩ := run_broadcastPacket Wire.Msg.updateGameStatus
              (makeUpdateGameStatus game) logged
            have same := (quiet_broadcastPacket Wire.Msg.updateGameStatus
              (makeUpdateGameStatus game)).run logged
            rw [ran] at same ⊢
            rw [← rest] at same
            exact ⟨_, moved after game true (congrArg View.byAddr same) (congrArg View.games same)
                (.inr stopped) (congrArg View.calls same) (congrArg View.produced same)
                (congrArg View.handed same),
              .inr ⟨frames, _, true, rfl, sent, answers, players, fun _ => rfl⟩⟩
          · simp only [all, if_false, Bool.false_eq_true]
            exact ⟨_, moved _ _ false rfl rfl (.inl ⟨rfl, rfl, rfl⟩) rfl rfl rfl,
              .inr ⟨frames, _, false, rfl, sent, answers, players, by simp⟩⟩

/-! ## Dropping -/

theorem Stays.finished {Result : Type} {task : Handler Result}
    (stays : live.Stays calls phase task) (finished : live.Finished phase) :
    live.Goes calls phase task fun _ later => live.Finished later := by
  apply Task.Follows.mono stays
  rintro _ _ rfl
  exact finished

/-- A quiet task stops where it started. -/
theorem goes_quiet_finished {Result : Type} {task : Handler Result} (quiet : Quiet task)
    (finished : live.Finished phase) :
    live.Goes calls phase task fun _ later => live.Finished later := by
  exact Stays.finished (goes_quiet quiet) finished

/-- A task goes on after a quiet part. -/
theorem goes_after_quiet {Result Next : Type} {task : Handler Result}
    {continuation : Result → Handler Next} (quiet : Quiet task) (stop : live.Finished phase)
    (next : ∀ result, live.Goes calls phase (continuation result) fun _ later => live.Finished later) :
    live.Goes calls phase (task >>= continuation) fun _ later => live.Finished later := by
  apply (goes_quiet quiet).bind
  · rintro result _ rfl
    exact next result
  · rintro _ _ rfl
    exact stop

/-- A task goes on after looking up a game, this one or another. -/
theorem goes_after_getGameArc {Next : Type} {continuation : Option GameRef → Handler Next}
    (gameId : UInt32) (stop : live.Finished phase)
    (missing : live.Goes calls phase (continuation none) fun _ later => live.Finished later)
    (found : gameId = live.gameId →
      live.Goes calls phase (continuation (some live.ref)) fun _ later => live.Finished later)
    (elsewhere : ∀ ref, gameId ≠ live.gameId → ref ≠ live.ref →
      live.Stays calls phase (continuation (some ref))) :
    live.Goes calls phase (getGameArc gameId >>= continuation) fun _ later => live.Finished later := by
  apply (goes_getGameArc_any gameId).bind
  · rintro _ _ ⟨rfl, same | ⟨here, same⟩ | ⟨otherId, ref, otherRef, same⟩⟩
    · obtain rfl := Except.ok.inj same
      exact missing
    · obtain rfl := Except.ok.inj same
      exact found here
    · obtain rfl := Except.ok.inj same
      exact (elsewhere ref otherId otherRef).finished stop
  · rintro _ _ ⟨rfl, -⟩
    exact stop

/-- Everything is quiet after a task which stopped. -/
theorem goes_then_quiet {Result Next : Type} {task : Handler Result}
    {continuation : Result → Handler Next}
    (first : live.Goes calls phase task fun _ later => live.Finished later)
    (later : ∀ result, Quiet (continuation result)) :
    live.Goes calls phase (task >>= continuation) fun _ later => live.Finished later := by
  apply first.bind
  · exact fun result _ finished => goes_quiet_finished (later result) finished
  · exact fun _ _ => id

/-- Every player's status may be set. -/
theorem goes_setStatus {players : List GamePlayerInfo}
    (listed : ∀ player ∈ players, player.addr ∈ live.addrs) (status : UInt8) :
    live.Goes calls phase (Task.forEach players fun player => withClientMut player.addr
      fun client => { client with playerStatus := status }) fun outcome later =>
        later = phase ∧ (outcome = .ok () ∨ ¬live.Registered) := by
  induction players with
  | nil => exact ⟨rfl, .inl rfl⟩
  | cons player rest ih =>
      apply (goes_updatePlayer (listed player List.mem_cons_self) _).bind
      · rintro _ _ ⟨rfl, -⟩
        exact ih fun other member => listed other (List.mem_cons_of_mem player member)
      · rintro _ _ ⟨rfl, ⟨_, same⟩ | missing⟩
        · cases same
        · exact ⟨rfl, .inr missing⟩

/-- The frames of a drop are sent in order, unless the game is over. -/
theorem goes_announceDrop (username : Bytes) (playerId : Nat) {frames : List Frame}
    {players : List GamePlayerInfo} (unsent : phase.unsent = frames.map live.output)
    (answers : ∀ frame ∈ frames, live.Answer frame)
    (addrs : players.map GamePlayerInfo.addr = live.addrs) :
    live.Goes calls phase (announceDrop live.gameId username playerId frames players)
      fun _ later => live.Finished later := by
  have listed : ∀ player ∈ players, player.addr ∈ live.addrs := by
    intro player member
    exact addrs ▸ List.mem_map_of_mem member
  have sends : ∀ frame ∈ frames, sendFrame players frame = sendOutput (live.output frame) := by
    intro frame member
    have slots : live.addrs[frame.slot]? = players[frame.slot]?.map GamePlayerInfo.addr := by
      rw [← addrs, List.getElem?_map]
    have listed : frame.slot < players.length := by
      have here := (answers frame member).inRange
      rwa [← addrs, List.length_map] at here
    rw [List.getElem?_eq_getElem listed, Option.map_some] at slots
    simp [sendFrame, output, List.getElem?_eq_getElem listed, List.getD_eq_getElem?_getD, slots]
  apply (goes_setStatus listed playerStatusIdle).bind
  · rintro _ _ ⟨rfl, -⟩
    apply (goes_tellRoom Wire.Msg.dropGame _).bind
    · rintro _ later ⟨sameUnsent, -, -⟩
      obtain ⟨laterUnsent, ended⟩ := later
      obtain rfl : laterUnsent = frames.map live.output := sameUnsent.trans unsent
      apply (goes_sendOutputs live.output sends fun frame member => (answers frame member).own).bind
      · exact fun _ _ => id
      · exact fun _ _ => id
    · rintro _ later ⟨_, _, same | ended⟩
      · cases same
      · exact .inr (.inl ended)
  · rintro _ _ ⟨_, same | missing⟩
    · cases same
    · exact .inr (.inr missing)

/-- After the end the game may be closed. -/
theorem goes_removeGame (ended : phase.ended = true) (gameId : UInt32) :
    live.Goes calls phase (removeGame gameId) fun _ later => later = phase := by
  refine Task.follows_critical fun state here => ⟨phase, ⟨?_, ?_, ?_⟩, rfl⟩
  · exact .still phase.ended rfl rfl rfl
  · constructor
    · exact here.1.byAddr
    · intro other ref found
      change Function.update state.games.byId gameId none other = some ref at found
      by_cases same : other = gameId
      · simp [same] at found
      · exact here.1.apart other ref (by simpa [same] using found)
    · intro sync running
      have stopped : live.sync state = some sync := running
      simp [here.2 ended] at stopped
  · exact here.2

/-- The section of a drop. -/
theorem goes_markDropped (idle : phase.unsent = []) {playerId : Nat}
    (allowed : calls (.drop playerId)) :
    live.Goes calls phase (Task.critical (markDropped live.gameId live.ref playerId))
      fun outcome later => (∃ report, outcome = .error report) ∧ later.unsent = [] ∨
        ∃ frames players all, outcome = .ok (frames, players, all) ∧
          later.unsent = frames.map live.output ∧
          (∀ frame ∈ frames, live.Answer frame) ∧
          players.map GamePlayerInfo.addr = live.addrs ∧ (all = true → later.ended = true) :=
  Task.follows_critical fun _ here => move_markDropped here idle allowed

/-- A drop makes one call and sends its frames, unless the game is over. -/
theorem goes_executeDropGame (idle : phase.unsent = []) (allowed : ∀ slot, calls (.drop slot))
    (src : SocketAddr) :
    live.Goes calls phase (executeDropGame live.gameId src) fun _ later => live.Finished later := by
  have stop : live.Finished phase := .inl idle
  apply goes_after_quiet (quiet_inspect _) stop
  rintro (_ | client)
  · exact stop
  apply goes_after_getGameArc live.gameId stop
  · exact stop
  rotate_left
  · exact fun _ other => absurd rfl other
  intro _
  apply goes_after_quiet (quiet_inspect _) stop
  rintro (_ | playerId)
  · exact stop
  apply goes_after_getGameArc live.gameId stop
  · exact stop
  rotate_left
  · exact fun _ other => absurd rfl other
  intro _
  apply (goes_markDropped idle (allowed playerId)).bind
  · rintro ⟨frames, players, all⟩ later
      (⟨⟨_, same⟩, -⟩ | ⟨_, _, _, same, unsent, answers, addrs, ends⟩)
    · cases same
    · cases same
      have announces : live.Goes calls later
          (announceDrop live.gameId client.username playerId frames players)
          fun _ last => live.Finished last :=
        goes_announceDrop client.username playerId unsent answers addrs
      cases all with
      | false => exact announces
      | true =>
          have ended := ends rfl
          apply (goes_quiet (quiet_getGame live.gameId)).bind
          · rintro game _ rfl
            split
            · apply (goes_removeGame ended live.gameId).bind
              · rintro _ _ rfl
                exact goes_quiet_finished ((quiet_broadcastPacket _ _).bind fun _ => quiet_pure true)
                  (.inr (.inl ended))
              · rintro _ _ rfl
                exact .inr (.inl ended)
            · exact announces
          · rintro _ _ rfl
            exact .inr (.inl ended)
  · rintro _ later (⟨-, unsent⟩ | ⟨_, _, _, same, _⟩)
    · exact .inl unsent
    · cases same

/-! ## Leaving -/

/-- The section of a departure; a waiting room means that the game is over. -/
theorem goes_leave {Result : Type} (addr : SocketAddr)
    (outcome : GameInfo.QuitOutcome × Option Bytes → Result) :
    live.Goes calls phase (lockGame live.ref fun game =>
        (.ok (outcome (game.leave addr).1), (game.leave addr).2)) fun result later =>
      later.unsent = phase.unsent ∧ ∃ left, result = .ok (outcome left) ∧
        (left.1 = .playing ∨ later.ended = true) := by
  apply Task.follows_critical
  intro state here
  obtain ⟨sameSync, sameAddrs⟩ := GameInfo.leave_keeps (state.games.arena live.ref) addr
  have playing := (state.games.arena live.ref).leave_playing_iff addr
  refine ⟨⟨phase.unsent, !(live.sync state).isSome⟩, ⟨?_, ⟨?_, ?_, ?_⟩, ?_⟩, rfl, _, rfl, ?_⟩
  · apply Act.still
    · rw [LiveGame.sync, GameTable.arena_write]
      exact sameSync
    · rfl
    · rfl
  · exact here.1.byAddr
  · exact here.1.apart
  · intro sync running
    rw [LiveGame.sync, GameTable.arena_write, sameSync] at running
    obtain ⟨listed, players, rest⟩ := here.1.runs sync running
    refine ⟨listed, ?_, rest⟩
    rw [GameTable.arena_write, sameAddrs (by simp [running])]
    exact players
  · intro stopped
    rw [LiveGame.sync, GameTable.arena_write, sameSync]
    simpa [LiveGame.sync] using stopped
  · rw [playing]
    cases running : live.sync state with
    | none => exact .inr rfl
    | some sync => exact .inl (Option.isSome_iff_exists.mpr ⟨sync, running⟩)

/-- A quit in a live game drops its slot; otherwise it tells the others. -/
theorem goes_settleQuit (idle : phase.unsent = []) (allowed : ∀ slot, calls (.drop slot))
    (src : SocketAddr) (quitData : Bytes) {outcome : GameInfo.QuitOutcome}
    (stopped : outcome = .playing ∨ phase.ended = true) :
    live.Goes calls phase (settleQuit live.gameId src quitData outcome)
      fun _ later => live.Finished later := by
  have stop : live.Finished phase := .inl idle
  cases outcome with
  | playing =>
      apply goes_then_quiet
      · apply (goes_executeDropGame idle allowed src).attempt.mono
        rintro _ _ ⟨_, _, finished⟩
        exact finished
      · intro _
        apply (quiet_getGame live.gameId).bind
        rintro (_ | game)
        · exact quiet_broadcastPacket _ _
        · exact (quiet_broadcastPacketToGame _ _ _).bind fun _ => quiet_broadcastPacket _ _
  | waitingClosed =>
      have ended : phase.ended = true := stopped.resolve_left (by simp)
      apply goes_then_quiet
      · apply (goes_removeGame ended live.gameId).mono
        rintro _ _ rfl
        exact stop
      · exact fun _ => (quiet_broadcastPacket _ _).bind fun _ => quiet_broadcastPacket _ _
  | waitingOpen =>
      exact goes_quiet_finished
        ((quiet_broadcastPacketToGame _ _ _).bind fun _ => quiet_announceStatus _) stop

/-! ## Handlers -/

/-- A quit is one departure and at most one drop. -/
theorem goes_handleQuitGame (idle : phase.unsent = []) (allowed : ∀ slot, calls (.drop slot))
    (src : SocketAddr) :
    live.Goes calls phase (handleQuitGame src) fun _ later => live.Finished later := by
  have stop : live.Finished phase := .inl idle
  apply goes_after_quiet (quiet_inspect _) stop
  rintro (_ | client)
  · exact stop
  cases inGame : client.gameId with
  | none =>
      simp only [inGame]
      exact stop
  | some gameId =>
      simp only [inGame]
      apply goes_after_getGameArc gameId stop
      · exact stop
      rotate_left
      · intro ref otherId otherRef
        apply Stays.bind (goes_updateClient src _)
        intro _
        apply Stays.bind (stays_lockGame otherRef _)
        rintro ⟨outcome, newOwner⟩
        apply Stays.bind (stays_settleQuit otherId src _ outcome)
        exact fun _ => goes_quiet (quiet_announceOwner gameId newOwner)
      rintro rfl
      apply (goes_updateClient src _).bind
      · rintro _ _ rfl
        apply (goes_leave src id).bind
        · rintro ⟨outcome, newOwner⟩ later ⟨unsent, left, same, stopped⟩
          have left : (outcome, newOwner) = left := Except.ok.inj same
          subst left
          apply goes_then_quiet
          · exact goes_settleQuit (unsent.trans idle) allowed src _ stopped
          · exact fun _ => quiet_announceOwner _ _
        · rintro _ _ ⟨unsent, -⟩
          exact .inl (unsent.trans idle)
      · rintro _ _ rfl
        exact stop

/-- A kick is one departure and at most one drop. -/
theorem goes_kickFrom (idle : phase.unsent = []) (allowed : ∀ slot, calls (.drop slot))
    (gameId : UInt32) (addr : SocketAddr) (quitData : Bytes) :
    live.Goes calls phase (kickFrom gameId addr quitData) fun _ later => live.Finished later := by
  have stop : live.Finished phase := .inl idle
  apply goes_after_getGameArc gameId stop
  · exact stop
  rotate_left
  · intro ref otherId otherRef
    apply Stays.bind (Stays.attempt (goes_updateClient addr _))
    intro _
    apply Stays.bind (stays_lockGame otherRef _)
    intro outcome
    split
    · apply Stays.bind (stays_executeDropGame otherId addr).attempt
      exact fun _ => goes_quiet (quiet_announceKick gameId addr quitData)
    · exact goes_quiet (quiet_announceKick gameId addr quitData)
  rintro rfl
  apply (goes_updateClient addr _).attempt.bind
  · rintro _ _ ⟨_, _, rfl⟩
    apply (goes_leave addr Prod.fst).bind
    · rintro outcome later ⟨unsent, _, _, _⟩
      have idleStill : later.unsent = [] := unsent.trans idle
      split
      · apply goes_then_quiet
        · apply (goes_executeDropGame idleStill allowed addr).attempt.mono
          rintro _ _ ⟨_, _, finished⟩
          exact finished
        · exact fun _ => quiet_announceKick _ _ _
      · exact goes_quiet_finished (quiet_announceKick _ _ _) (.inl idleStill)
    · rintro _ _ ⟨unsent, -⟩
      exact .inl (unsent.trans idle)
  · rintro _ _ ⟨_, same, _⟩
    cases same

theorem goes_handleKickUser (idle : phase.unsent = []) (allowed : ∀ slot, calls (.drop slot))
    (data : Bytes) (src : SocketAddr) :
    live.Goes calls phase (handleKickUser data src) fun _ later => live.Finished later := by
  have stop : live.Finished phase := .inl idle
  unfold handleKickUser
  split
  next userId _ =>
    apply goes_after_quiet (quiet_inspect _) stop
    rintro (_ | requester)
    · exact stop
    cases inGame : requester.gameId with
    | none =>
        simp only [inGame]
        exact stop
    | some gameId =>
        simp only [inGame]
        apply goes_after_quiet (quiet_getGame gameId) stop
        rintro (_ | game)
        · exact stop
        dsimp only
        split
        · apply goes_after_quiet (quiet_inspect _) stop
          rintro (_ | ⟨addr, kicked⟩)
          · exact stop
          apply goes_after_quiet (quiet_inspect _) stop
          rintro (_ | target)
          · exact stop
          dsimp only
          split
          · exact goes_kickFrom idle allowed gameId addr _
          · exact stop
        · exact stop
  next => exact stop

/-- The slot of a player is that of its address, unless the game is over. -/
theorem goes_position (src : SocketAddr) :
    live.Goes calls phase (Task.inspect fun state : AppState =>
        (state.games.arena live.ref).position src) fun outcome later =>
      later.unsent = phase.unsent ∧ ∃ found, outcome = .ok found ∧ ∀ slot, found = some slot →
        later.ended = true ∨ live.addrs[slot]? = some src := by
  apply goes_inspect
  intro state here
  cases running : live.sync state with
  | none => exact ⟨true, fun _ => rfl, rfl, _, rfl, fun _ _ => .inl rfl⟩
  | some sync =>
      refine ⟨false, by simp, rfl, _, rfl, fun slot found => .inr ?_⟩
      obtain ⟨player, listed, rfl⟩ := GameInfo.position_some found
      rw [← (here.1.runs sync running).2.1, List.getElem?_map, listed]
      rfl

/-- What resolving finds: no slot, the slot of the player unless the game is over, or a
slot of another game. -/
inductive Resolved (live : LiveGame) (src : SocketAddr) (later : Phase) :
    Except Report (Option (UInt32 × Nat)) → Prop
  | nothing : Resolved live src later (.ok none)
  | here (slot : Nat) (owned : later.ended = true ∨ live.addrs[slot]? = some src) :
      Resolved live src later (.ok (some (live.gameId, slot)))
  | elsewhere (gameId : UInt32) (slot : Nat) (other : gameId ≠ live.gameId) :
      Resolved live src later (.ok (some (gameId, slot)))

theorem goes_resolveInGame (idle : phase.unsent = []) (src : SocketAddr) :
    live.Goes calls phase (resolveInGame src) fun outcome later =>
      later.unsent = [] ∧ live.Resolved src later outcome := by
  apply (goes_read _).bind
  · rintro (_ | gameId) _ ⟨rfl, -⟩
    · exact ⟨idle, .nothing⟩
    apply (goes_getGameArc_any gameId).bind
    · rintro _ _ ⟨rfl, same | ⟨rfl, same⟩ | ⟨other, ref, -, same⟩⟩
      · obtain rfl := Except.ok.inj same
        exact ⟨idle, .nothing⟩
      · obtain rfl := Except.ok.inj same
        apply (goes_position src).bind
        · rintro found later ⟨unsent, other, same, slots⟩
          obtain rfl : found = other := Except.ok.inj same
          cases found with
          | none => exact ⟨unsent.trans idle, .nothing⟩
          | some slot => exact ⟨unsent.trans idle, .here slot (slots slot rfl)⟩
        · rintro _ _ ⟨_, _, same, _⟩
          cases same
      · obtain rfl := Except.ok.inj same
        apply (goes_read _).bind
        · rintro (_ | slot) _ ⟨rfl, -⟩
          · exact ⟨idle, .nothing⟩
          · exact ⟨idle, .elsewhere gameId slot other⟩
        · rintro _ _ ⟨_, _, _, same⟩
          cases same
    · rintro _ _ ⟨_, same | ⟨_, same⟩ | ⟨_, _, _, same⟩⟩
      · cases same
      · cases same
      · cases same
  · rintro _ _ ⟨_, _, _, same⟩
    cases same

theorem goes_handleDropGame (idle : phase.unsent = []) (allowed : ∀ slot, calls (.drop slot))
    (src : SocketAddr) :
    live.Goes calls phase (handleDropGame src) fun _ later => live.Finished later := by
  apply (goes_resolveInGame idle src).bind
  · rintro _ later ⟨unsent, resolved⟩
    cases resolved with
    | nothing => exact .inl unsent
    | here slot _ =>
        exact goes_then_quiet (goes_executeDropGame unsent allowed src) fun _ => quiet_pure ()
    | elsewhere gameId slot other =>
        apply Stays.finished _ (.inl unsent)
        exact Stays.bind (stays_executeDropGame other src) fun _ => rfl
  · rintro _ _ ⟨unsent, -⟩
    exact .inl unsent

/-- What an input's section leaves to send. -/
def Answered (live : LiveGame) {Failure : Type} (outcome : Except Failure (List TargetOutput))
    (later : Phase) : Prop :=
  (∃ failure, outcome = .error failure) ∧ later.unsent = [] ∨
    ∃ outputs, outcome = .ok outputs ∧ later.unsent = outputs ∧ ∀ output ∈ outputs, live.Own output

/-- Answers are sent in order. -/
theorem goes_sendAnswers {outputs : List TargetOutput}
    (answered : live.Answered (.ok outputs : Except Report (List TargetOutput)) phase) :
    live.Goes calls phase (Task.forEach outputs sendOutput) fun _ later => live.Finished later := by
  rcases answered with ⟨⟨_, same⟩, -⟩ | ⟨_, same, unsent, own⟩
  · cases same
  · cases same
    obtain ⟨pending, ended⟩ := phase
    obtain rfl : pending = outputs := unsent
    have sends : live.Goes calls ⟨pending.map id, ended⟩ (Task.forEach pending sendOutput)
        fun _ later => live.Finished later := goes_sendOutputs id (fun _ _ => rfl) own
    rwa [List.map_id] at sends

/-- Answers of another game do not show. -/
theorem stays_sendAnswers {gameId : UInt32} (other : gameId ≠ live.gameId)
    {outputs : List TargetOutput} (origin : ∀ output ∈ outputs, output.frame.origin = gameId) :
    live.Stays calls phase (Task.forEach outputs sendOutput) := by
  apply stays_sendOutputs
  intro output member
  apply stays_sendOutput
  exact fun same => other ((origin output member).symm.trans same)

theorem goes_handleGameData (idle : phase.unsent = []) {src : SocketAddr}
    (allowed : ∀ slot input, live.addrs[slot]? = some src → calls (.input slot input))
    (data : Bytes) :
    live.Goes calls phase (handleGameData data src) fun _ later => live.Finished later := by
  unfold handleGameData
  split
  next bytes _ =>
    apply (goes_resolveInGame idle src).bind
    · rintro _ later ⟨unsent, resolved⟩
      have stop : live.Finished later := .inl unsent
      cases resolved with
      | nothing => exact stop
      | here slot owned =>
          apply goes_after_getGameArc live.gameId stop
          · exact stop
          rotate_left
          · exact fun _ other => absurd rfl other
          intro _
          have processed : live.Goes calls later (Task.critical (processInput
              (Report.message "SimpleGameSync not initialized") (Report.sync "Game sync error")
              (fun _ _ => .message "Invalid player_id") live.gameId live.ref slot (.gameData bytes)))
              live.Answered :=
            Task.follows_critical fun state here => move_processInput _ _ _ here unsent
              (owned.imp id fun listed => allowed slot (.gameData bytes) listed)
          apply processed.bind
          · exact fun outputs later answered => goes_sendAnswers answered
          · rintro _ _ (⟨-, unsent⟩ | ⟨_, same, _⟩)
            · exact .inl unsent
            · cases same
      | elsewhere gameId slot other =>
          apply goes_after_getGameArc gameId stop
          · exact stop
          · exact fun own => absurd own other
          intro ref _ otherRef
          have processed : live.Goes calls later (Task.critical (processInput
              (Report.message "SimpleGameSync not initialized") (Report.sync "Game sync error")
              (fun _ _ => .message "Invalid player_id") gameId ref slot (.gameData bytes)))
              fun outcome last => last = later ∧ ∀ outputs, outcome = .ok outputs →
                ∀ output ∈ outputs, output.frame.origin = gameId := by
            apply Task.follows_critical
            intro state here
            obtain ⟨moved, origins⟩ := move_processInput_elsewhere
              (Report.message "SimpleGameSync not initialized") (Report.sync "Game sync error")
              (fun _ _ => .message "Invalid player_id") here other otherRef slot (.gameData bytes)
            exact ⟨later, moved, rfl, origins⟩
          apply processed.bind
          · rintro outputs _ ⟨rfl, origins⟩
            exact stays_sendAnswers other (origins outputs rfl)
          · rintro _ _ ⟨rfl, -⟩
            exact rfl
    · rintro _ _ ⟨unsent, -⟩
      exact .inl unsent
  next => exact .inl idle

theorem goes_handleGameCache (idle : phase.unsent = []) {src : SocketAddr}
    (allowed : ∀ slot input, live.addrs[slot]? = some src → calls (.input slot input))
    (data : Bytes) :
    live.Goes calls phase (handleGameCache data src) fun _ later => live.Finished later := by
  unfold handleGameCache
  split
  next position _ =>
    apply (goes_resolveInGame idle src).bind
    · rintro _ later ⟨unsent, resolved⟩
      have stop : live.Finished later := .inl unsent
      cases resolved with
      | nothing => exact stop
      | here slot owned =>
          apply goes_after_getGameArc live.gameId stop
          · exact stop
          rotate_left
          · exact fun _ other => absurd rfl other
          intro _
          have processed : live.Goes calls later
              (processCache live.gameId live.ref slot position) fun outcome later =>
                ∃ result, outcome = .ok result ∧ live.Answered result later := by
            apply Task.follows_critical
            intro state here
            obtain ⟨next, moved, answered⟩ := move_processInput
              (.bufferInconsistency "sync_manager not initialized") id .invalidPlayerId here unsent
              (owned.imp id fun listed => allowed slot (.gameCache position) listed)
            exact ⟨next, moved, _, rfl, answered⟩
          apply processed.bind
          · rintro result later ⟨_, same, answered⟩
            obtain rfl := Except.ok.inj same
            cases result with
            | ok outputs =>
                apply goes_sendAnswers
                rcases answered with ⟨⟨_, same⟩, -⟩ | ⟨_, same, rest⟩
                · cases same
                · cases same
                  exact .inr ⟨_, rfl, rest⟩
            | error error =>
                have unsent : later.unsent = [] := by
                  rcases answered with ⟨-, unsent⟩ | ⟨_, same, _⟩
                  · exact unsent
                  · cases same
                apply goes_quiet_finished _ (.inl unsent)
                cases error with
                | cachePositionNotFound =>
                    exact (quiet_sendPacket _ _ _).bind fun _ => quiet_fail _
                | _ => exact quiet_fail _
          · rintro _ _ ⟨_, same, _⟩
            cases same
      | elsewhere gameId slot other =>
          apply goes_after_getGameArc gameId stop
          · exact stop
          · exact fun own => absurd own other
          intro ref _ otherRef
          have processed : live.Goes calls later (processCache gameId ref slot position)
              fun outcome last => last = later ∧ ∃ result, outcome = .ok result ∧
                ∀ outputs, result = .ok outputs →
                  ∀ output ∈ outputs, output.frame.origin = gameId := by
            apply Task.follows_critical
            intro state here
            obtain ⟨moved, origins⟩ := move_processInput_elsewhere
              (.bufferInconsistency "sync_manager not initialized") id .invalidPlayerId here other
              otherRef slot (.gameCache position)
            exact ⟨later, moved, rfl, _, rfl, origins⟩
          apply processed.bind
          · rintro result _ ⟨rfl, _, same, origins⟩
            obtain rfl := Except.ok.inj same
            cases result with
            | ok outputs => exact stays_sendAnswers other (origins outputs rfl)
            | error error =>
                apply goes_quiet
                cases error with
                | cachePositionNotFound =>
                    exact (quiet_sendPacket _ _ _).bind fun _ => quiet_fail _
                | _ => exact quiet_fail _
          · rintro _ _ ⟨rfl, -⟩
            exact rfl
    · rintro _ _ ⟨unsent, -⟩
      exact .inl unsent
  next => exact .inl idle

end LiveGame

end Direlera.Lobby
