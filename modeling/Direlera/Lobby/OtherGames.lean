import Direlera.Lobby.Delivery
import Direlera.Lobby.LiveGame

/-!
# What tasks do to other games

A section which works on another game writes behind another reference, and the responses
of that game carry its own id. So a task on another game stays in its phase.
-/

namespace Direlera.Lobby

open Direlera.Library Direlera.Sync Direlera.Sync.SimplestGameSync

namespace LiveGame

variable {live : LiveGame} {calls : Call → Prop} {phase : Phase} {state : AppState}
  {gameId : UInt32} {ref : GameRef}

/-- The task stays in its phase. -/
abbrev Stays {Result : Type} (live : LiveGame) (calls : Call → Prop) (phase : Phase)
    (task : Handler Result) : Prop :=
  live.Goes calls phase task fun _ later => later = phase

theorem Stays.bind {Result Next : Type} {task : Handler Result}
    {continuation : Result → Handler Next} (first : live.Stays calls phase task)
    (later : ∀ result, live.Stays calls phase (continuation result)) :
    live.Stays calls phase (task >>= continuation) := by
  apply Task.Follows.bind first
  · rintro result _ rfl
    exact later result
  · exact fun _ _ => id

theorem Stays.attempt {Result : Type} {task : Handler Result} (stays : live.Stays calls phase task) :
    live.Stays calls phase task.attempt := by
  apply (Task.Follows.attempt stays).mono
  rintro _ _ ⟨_, _, same⟩
  exact same

/-- Writing behind another reference does not show. -/
theorem holds.write_elsewhere (here : live.holds phase state) (other : ref ≠ live.ref)
    (game : GameInfo) {after : AppState} (byAddr : after.clients.byAddr = state.clients.byAddr)
    (games : after.games = state.games.write ref game)
    (produced : ofGame live.gameId after.produced = ofGame live.gameId state.produced)
    (handed : ofGame live.gameId after.handed = ofGame live.gameId state.handed) :
    live.move calls phase state after phase := by
  apply here.aside byAddr
  · rw [games]
    exact Function.update_of_ne (Ne.symm other) ..
  · rw [games]
    rfl
  · rw [games]
    exact fun _ _ => id
  · exact produced
  · exact handed

theorem stays_lockGame {Result : Type} (other : ref ≠ live.ref)
    (act : GameInfo → Except Report Result × GameInfo) :
    live.Stays calls phase (lockGame ref act) :=
  Task.follows_critical fun _ here => ⟨_, here.write_elsewhere other _ rfl rfl rfl rfl, rfl⟩

theorem stays_removeGame (other : gameId ≠ live.gameId) :
    live.Stays calls phase (removeGame gameId) := by
  apply Task.follows_critical
  intro state here
  refine ⟨phase, here.aside rfl rfl ?_ ?_ rfl rfl, rfl⟩
  · exact Function.update_of_ne (Ne.symm other) ..
  · intro listed ref found
    change Function.update state.games.byId gameId none listed = some ref at found
    by_cases same : listed = gameId
    · simp [same] at found
    · simpa [same] using found

/-! ## Responses of other games -/

theorem origin_of_targets {game : GameInfo} {frames : List Frame}
    (origin : ∀ frame ∈ frames, frame.origin = gameId) {output : TargetOutput}
    (member : output ∈ game.targets frames) : output.frame.origin = gameId := by
  obtain ⟨frame, answered, target⟩ := List.mem_filterMap.mp member
  obtain ⟨player, _, rfl⟩ := Option.map_eq_some_iff.mp target
  exact origin frame answered

/-- Responses of another game do not show in the history. -/
theorem ofGame_targets_elsewhere {game : GameInfo} {frames : List Frame}
    (origin : ∀ frame ∈ frames, frame.origin = gameId) (other : gameId ≠ live.gameId)
    (history : List TargetOutput) :
    ofGame live.gameId (history ++ game.targets frames) = ofGame live.gameId history := by
  have nothing : ofGame live.gameId (game.targets frames) = [] := by
    apply List.filter_eq_nil_iff.mpr
    intro output member
    simpa [origin_of_targets origin member] using other
  rw [ofGame_append, nothing, List.append_nil]

theorem origin_of_call {sync next : SyncManager} {request : Call} {frames : List Frame}
    (called : sync.call gameId request = (.ok frames, next)) :
    ∀ frame ∈ frames, frame.origin = gameId := by
  intro frame member
  have answered : frame ∈ returned (sync.call gameId request).1 := by
    rw [called]
    exact member
  exact SyncManager.call_origin answered

theorem stays_sendOutput {output : TargetOutput} (other : output.frame.origin ≠ live.gameId) :
    live.Stays calls phase (sendOutput output) := by
  have handed : live.Stays calls phase (updateClientLogging [output] output.addr fun client =>
      client.makeSendPacket (responsePacket output.frame.response).1
        (responsePacket output.frame.response).2) := by
    apply Stays.bind (goes_quiet (quiet_inspect _))
    rintro (_ | session)
    · exact rfl
    apply Task.follows_critical
    intro state here
    cases state.clients.byId session with
    | none => exact ⟨phase, here.still rfl rfl rfl rfl, rfl⟩
    | some client =>
        refine ⟨phase, here.still rfl rfl rfl ?_, rfl⟩
        simp [ofGame, other]
  apply Stays.bind handed
  exact fun _ => Task.follows_critical fun _ here => ⟨_, here.still rfl rfl rfl rfl, rfl⟩

theorem stays_sendOutputs {Item : Type} {body : Item → Handler Unit} {items : List Item}
    (stays : ∀ item ∈ items, live.Stays calls phase (body item)) :
    live.Stays calls phase (Task.forEach items body) := by
  induction items with
  | nil => exact rfl
  | cons item rest ih =>
      apply Stays.bind (stays item List.mem_cons_self)
      exact fun _ => ih fun later member => stays later (List.mem_cons_of_mem item member)

/-! ## Calls on other engines -/

theorem goes_markDropped_elsewhere (otherId : gameId ≠ live.gameId) (otherRef : ref ≠ live.ref)
    (playerId : Nat) :
    live.Goes calls phase (Task.critical (markDropped gameId ref playerId)) fun outcome later =>
      later = phase ∧ ∀ frames players all, outcome = .ok (frames, players, all) →
        ∀ frame ∈ frames, frame.origin = gameId := by
  apply Task.follows_critical
  intro state here
  cases running : (state.games.arena ref).syncManager with
  | none =>
      simp only [markDropped, running]
      exact ⟨phase, here.still rfl rfl rfl rfl, rfl, by simp⟩
  | some sync =>
      rcases called : sync.call gameId (.drop playerId) with ⟨result, next⟩
      simp only [markDropped, running, called]
      cases result with
      | error error =>
          exact ⟨phase, here.write_elsewhere otherRef _ rfl rfl rfl rfl, rfl, by simp⟩
      | ok frames =>
          have origin := origin_of_call called
          have produced : ofGame live.gameId
              (state.produced ++ (state.games.arena ref).targets frames) =
                ofGame live.gameId state.produced :=
            ofGame_targets_elsewhere origin otherId _
          dsimp only
          by_cases all : next.allPlayersDropped = true
          · simp only [all, if_true]
            generalize finished : ({ state.games.arena ref with
              syncManager := some next } : GameInfo).finish = game
            generalize rest : ({ state with
              games := state.games.write ref game
              calls := state.calls ++ [(gameId, Call.drop playerId)]
              produced := state.produced ++ (state.games.arena ref).targets frames } : AppState) =
                logged
            obtain ⟨after, ran, -⟩ := run_broadcastPacket Wire.Msg.updateGameStatus
              (makeUpdateGameStatus game) logged
            have same := (quiet_broadcastPacket Wire.Msg.updateGameStatus
              (makeUpdateGameStatus game)).run logged
            rw [ran] at same ⊢
            rw [← rest] at same
            refine ⟨phase, here.write_elsewhere otherRef game (congrArg View.byAddr same)
              (congrArg View.games same) ?_ ?_, rfl, ?_⟩
            · exact (congrArg (fun view => ofGame live.gameId view.produced) same).trans produced
            · exact congrArg (fun view => ofGame live.gameId view.handed) same
            · rintro _ _ _ ⟨rfl, -, -⟩
              exact origin
          · simp only [all, if_false, Bool.false_eq_true]
            refine ⟨phase, here.write_elsewhere otherRef _ rfl rfl produced rfl, rfl, ?_⟩
            rintro _ _ _ ⟨rfl, -, -⟩
            exact origin

/-- Feeding another engine does not show, and its answers are of that game. -/
theorem move_processInput_elsewhere {Failure : Type} (notInitialized : Failure)
    (engineError : GameSyncError → Failure) (invalidPlayer : Nat → Nat → Failure)
    (here : live.holds phase state) (otherId : gameId ≠ live.gameId) (otherRef : ref ≠ live.ref)
    (playerId : Nat) (input : ClientInput) :
    let processed := processInput notInitialized engineError invalidPlayer gameId ref playerId input
      state
    live.move calls phase state processed.2 phase ∧
      ∀ outputs, processed.1 = .ok outputs → ∀ output ∈ outputs, output.frame.origin = gameId := by
  dsimp only
  cases running : (state.games.arena ref).syncManager with
  | none =>
      simp only [processInput, running]
      exact ⟨here.still rfl rfl rfl rfl, by simp⟩
  | some sync =>
      rcases called : sync.call gameId (.input playerId input) with ⟨result, next⟩
      simp only [processInput, running, called]
      cases result with
      | error error => exact ⟨here.write_elsewhere otherRef _ rfl rfl rfl rfl, by simp⟩
      | ok frames =>
          have origin := origin_of_call called
          cases missing : frames.find? fun frame =>
              ((state.games.arena ref).target frame).isNone with
          | some frame =>
              simp only [missing]
              exact ⟨here.write_elsewhere otherRef _ rfl rfl rfl rfl, by simp⟩
          | none =>
              simp only [missing]
              refine ⟨here.write_elsewhere otherRef _ rfl rfl
                (ofGame_targets_elsewhere origin otherId _) rfl, ?_⟩
              rintro _ ⟨⟩ output member
              exact origin_of_targets origin member

/-! ## Dropping and leaving elsewhere -/

/-- Looking up another game finds another reference. -/
theorem stays_getGameArc {Next : Type} {continuation : Option GameRef → Handler Next}
    (other : gameId ≠ live.gameId)
    (missing : live.Stays calls phase (continuation none))
    (found : ∀ ref, ref ≠ live.ref → live.Stays calls phase (continuation (some ref))) :
    live.Stays calls phase (getGameArc gameId >>= continuation) := by
  apply (goes_getGameArc_any gameId).bind
  · rintro _ _ ⟨rfl, same | ⟨own, _⟩ | ⟨_, ref, otherRef, same⟩⟩
    · obtain rfl := Except.ok.inj same
      exact missing
    · exact absurd own other
    · obtain rfl := Except.ok.inj same
      exact found ref otherRef
  · rintro _ _ ⟨rfl, -⟩
    exact rfl

theorem stays_announceDrop (other : gameId ≠ live.gameId) (username : Bytes) (playerId : Nat)
    {frames : List Frame} (origin : ∀ frame ∈ frames, frame.origin = gameId)
    (players : List GamePlayerInfo) :
    live.Stays calls phase (announceDrop gameId username playerId frames players) := by
  apply Stays.bind (goes_quiet (quiet_setStatus players playerStatusIdle))
  intro _
  apply Stays.bind (goes_quiet (quiet_broadcastPacketToGame gameId _ _))
  intro _
  apply Stays.bind
  · apply stays_sendOutputs
    intro frame member
    unfold sendFrame
    split
    · exact rfl
    · apply stays_sendOutput
      exact fun same => other ((origin frame member).symm.trans same)
  · exact fun _ => rfl

theorem stays_executeDropGame (other : gameId ≠ live.gameId) (src : SocketAddr) :
    live.Stays calls phase (executeDropGame gameId src) := by
  apply Stays.bind (goes_quiet (quiet_inspect _))
  rintro (_ | client)
  · exact rfl
  apply stays_getGameArc other
  · exact rfl
  intro ref _
  apply Stays.bind (goes_quiet (quiet_inspect _))
  rintro (_ | playerId)
  · exact rfl
  apply stays_getGameArc other
  · exact rfl
  intro ref otherRef
  apply (goes_markDropped_elsewhere other otherRef playerId).bind
  · rintro ⟨frames, players, all⟩ _ ⟨rfl, origins⟩
    have origin := origins frames players all rfl
    cases all with
    | false => exact stays_announceDrop other client.username playerId origin players
    | true =>
        apply Stays.bind (goes_quiet (quiet_getGame gameId))
        intro game
        split
        · apply Stays.bind (stays_removeGame other)
          exact fun _ => goes_quiet ((quiet_broadcastPacket _ _).bind fun _ => quiet_pure true)
        · exact stays_announceDrop other client.username playerId origin players
  · rintro _ _ ⟨rfl, -⟩
    exact rfl

theorem stays_settleQuit (other : gameId ≠ live.gameId) (src : SocketAddr) (quitData : Bytes)
    (outcome : GameInfo.QuitOutcome) :
    live.Stays calls phase (settleQuit gameId src quitData outcome) := by
  cases outcome with
  | playing =>
      apply Stays.bind (stays_executeDropGame other src).attempt
      intro _
      apply Stays.bind (goes_quiet (quiet_getGame gameId))
      rintro (_ | game)
      · exact goes_quiet (quiet_broadcastPacket _ _)
      · exact goes_quiet ((quiet_broadcastPacketToGame _ _ _).bind fun _ => quiet_broadcastPacket _ _)
  | waitingClosed =>
      apply Stays.bind (stays_removeGame other)
      exact fun _ => goes_quiet ((quiet_broadcastPacket _ _).bind fun _ => quiet_broadcastPacket _ _)
  | waitingOpen =>
      exact goes_quiet ((quiet_broadcastPacketToGame _ _ _).bind fun _ => quiet_announceStatus _)

end LiveGame

end Direlera.Lobby
