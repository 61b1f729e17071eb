import Direlera.Lobby.Intents
import Direlera.Lobby.View

/-!
# What one section does to the games

Whatever a handler does, one of its sections changes at most one game, in one of a few ways.
Sections with an intent do what they intend.
-/

namespace Direlera.Lobby

open Direlera.Library Direlera.Sync Direlera.Wire

/-- Intents to read a game or to feed its engine. -/
def Intent.plays : Intent → Bool
  | .locate _ _ | .lookUp _ _ | .feed _ _ => true
  | .push _ _ _ | .purge _ _ | .install _ _ => false

/-- A section without an intent, or with one to play. -/
def plain (intent : Option Intent) : Prop := ∀ here, intent = some here → here.plays = true

/-- What a section does to the game behind a reference, by its intent. -/
inductive Rework (game : GameInfo) (ref : GameRef) : Option Intent → GameInfo → Prop
  | push (player : GamePlayerInfo) (checked : GameCopy) (here : player.leftRoom = false) :
      Rework game ref (some (.push ref player checked)) (game.seat player)
  | leave (addr : SocketAddr) : Rework game ref none (game.leave addr).2
  | purge (checked : GameCopy) : Rework game ref (some (.purge ref checked)) game.purge
  | install (players : List GamePlayerInfo) (delays startupWarmups : List Nat)
      (disableOutputCache : Bool) (sized : delays.length = players.length) :
      Rework game ref (some (.install ref players))
        (game.begin delays startupWarmups disableOutputCache)
  | engine {intent} (calm : plain intent) (sync next : SyncManager)
      (running : game.syncManager = some sync) (same : next.playerCount = sync.playerCount) :
      Rework game ref intent { game with syncManager := some next }
  | finish (sync next : SyncManager) (running : game.syncManager = some sync) :
      Rework game ref none ({ game with syncManager := some next } : GameInfo).finish

/-- What a section does to the games, by its intent. -/
inductive Edit (before : GameTable) : Option Intent → GameTable → Prop
  | keep {intent} (calm : plain intent) : Edit before intent before
  | create (gameId : UInt32) (gameName : Bytes) (src : SocketAddr) (client : Member) :
      Edit before none (before.insert gameId (createdGame gameId gameName src client))
  | remove (gameId : UInt32) : Edit before none (before.remove gameId)
  | write (ref : GameRef) {intent} {game : GameInfo}
      (rework : Rework (before.arena ref) ref intent game) :
      Edit before intent (before.write ref game)

theorem plain_none : plain none := by
  rintro _ ⟨⟩

/-- Every section of a task edits the games. -/
abbrev Edits {Result : Type} (task : Handler Result) : Prop :=
  Task.Each (fun before after => Edit before.games none after.games) task

section Edits

variable {Result Next : Type}

theorem edit_of_games {intent : Option Intent} {before after : AppState} (calm : plain intent)
    (same : after.games = before.games) : Edit before.games intent after.games := by
  rw [same]
  exact .keep calm

theorem edits_quiet {task : Handler Result} (quiet : Quiet task) : Edits task :=
  quiet.mono fun _ _ same => edit_of_games plain_none (congrArg View.games same)

theorem edits_inspect (read : AppState → Result) : Edits (.inspect read : Handler Result) :=
  edits_quiet (quiet_inspect read)

/-- The run of a quiet task leaves the games alone. -/
theorem Quiet.games_of_run {task : Handler Result} (quiet : Quiet task) {before after : AppState}
    {outcome : Except Report Result} (ran : task.run before = (outcome, after)) :
    after.games = before.games := by
  have same := quiet.run before
  rw [ran] at same
  exact congrArg View.games same

/-- A section which leaves the games alone. -/
theorem edits_critical {act : AppState → Except Report Result × AppState}
    (same : ∀ state, (act state).2.games = state.games) : Edits (Task.critical act) :=
  Task.each_critical fun state => edit_of_games plain_none (same state)

theorem edits_updateClientLogging (handed : List TargetOutput) (addr : SocketAddr)
    (change : ClientInfo → Result × ClientInfo) : Edits (updateClientLogging handed addr change) := by
  apply Task.Each.bind (edits_inspect _)
  rintro (_ | session)
  · exact Task.each_fail _
  apply edits_critical
  intro state
  cases state.clients.byId session with
  | none => rfl
  | some client => rfl

theorem edits_withClientMut (addr : SocketAddr) (change : ClientInfo → ClientInfo) :
    Edits (withClientMut addr change) :=
  edits_updateClientLogging [] addr _

theorem edits_sendOutput (output : TargetOutput) : Edits (sendOutput output) := by
  apply Task.Each.bind (edits_updateClientLogging _ _ _)
  intro packet
  exact edits_critical fun _ => rfl

theorem edits_lockGame {act : GameInfo → Except Report Result × GameInfo} (ref : GameRef)
    (allowed : ∀ state : AppState, Edit state.games none
      (state.games.write ref (act (state.games.arena ref)).2)) : Edits (lockGame ref act) :=
  Task.each_critical allowed

theorem edits_removeGame (gameId : UInt32) : Edits (removeGame gameId) :=
  Task.each_critical fun _ => .remove gameId

theorem edits_removeClient (addr : SocketAddr) : Edits (removeClient addr) :=
  edits_critical fun _ => rfl

theorem edits_closeSession (addr : SocketAddr) : Edits (closeSession addr) :=
  edits_critical fun _ => rfl

/-! ## Creating -/

theorem edits_handleCreateGame (data : Bytes) (src : SocketAddr) :
    Edits (handleCreateGame data src) := by
  have checked : Edits (checkAlreadyInGame src) :=
    each_checkAlreadyInGame (fun _ => .keep plain_none) (edits_withClientMut src _)
  apply Task.Each.bind checked
  rintro (_ | _)
  · apply Task.Each.bind (edits_critical fun _ => rfl)
    intro gameId
    apply Task.Each.bind (edits_quiet (keeps_fetchClientInfo src))
    intro client
    apply Task.Each.bind (Task.each_critical fun _ => .create gameId _ src client.toMember)
    intro _
    apply Task.Each.bind (edits_withClientMut src _)
    exact fun _ => edits_quiet (quiet_announceCreatedGame src gameId _ client)
  · exact Task.each_pure ()

/-! ## Dropping and leaving -/

/-- A call keeps the number of slots. -/
theorem playerCount_of_call {sync next : SyncManager} {gameId : UInt32} {request : Call}
    {result : Except GameSyncError (List Frame)}
    (called : sync.call gameId request = (result, next)) :
    next.playerCount = sync.playerCount := by
  have same : (sync.call gameId request).2.playerCount = sync.playerCount := rfl
  rwa [called] at same

theorem edits_markDropped (gameId : UInt32) (ref : GameRef) (playerId : Nat) :
    Edits (Task.critical (markDropped gameId ref playerId)) := by
  apply Task.each_critical
  intro state
  cases running : (state.games.arena ref).syncManager with
  | none =>
      simp only [markDropped, running]
      exact .keep plain_none
  | some sync =>
      rcases called : sync.call gameId (.drop playerId) with ⟨result, next⟩
      have count := playerCount_of_call called
      simp only [markDropped, running, called]
      cases result with
      | error error => exact .write ref (.engine plain_none sync next running count)
      | ok frames =>
          dsimp only
          split
          · split
            next ran =>
              rw [(quiet_broadcastPacket _ _).games_of_run ran]
              exact .write ref (.finish sync next running)
            next ran =>
              rw [(quiet_broadcastPacket _ _).games_of_run ran]
              exact .write ref (.finish sync next running)
          · exact .write ref (.engine plain_none sync next running count)

theorem edits_announceDrop (gameId : UInt32) (username : Bytes) (playerId : Nat)
    (frames : List Frame) (players : List GamePlayerInfo) :
    Edits (announceDrop gameId username playerId frames players) := by
  apply Task.Each.bind (edits_quiet (quiet_setStatus players playerStatusIdle))
  intro _
  apply Task.Each.bind (edits_quiet (quiet_broadcastPacketToGame gameId _ _))
  intro _
  apply Task.Each.bind
  · apply Task.Each.forEach
    intro frame
    unfold sendFrame
    split
    · exact Task.each_fail _
    · exact edits_sendOutput _
  · exact fun _ => Task.each_pure true

theorem edits_executeDropGame (gameId : UInt32) (src : SocketAddr) :
    Edits (executeDropGame gameId src) := by
  apply Task.Each.bind (edits_inspect _)
  rintro (_ | client)
  · exact Task.each_fail _
  apply Task.Each.bind (edits_inspect _)
  rintro (_ | ref)
  · exact Task.each_pure false
  apply Task.Each.bind (edits_inspect _)
  rintro (_ | playerId)
  · exact Task.each_pure false
  apply Task.Each.bind (edits_inspect _)
  rintro (_ | ref)
  · exact Task.each_fail _
  apply Task.Each.bind (edits_markDropped gameId ref playerId)
  rintro ⟨frames, players, allDropped⟩
  have announced := edits_announceDrop gameId client.username playerId frames players
  cases allDropped with
  | false => exact announced
  | true =>
      apply Task.Each.bind (edits_quiet (quiet_getGame gameId))
      intro game
      split
      · apply Task.Each.bind (edits_removeGame gameId)
        intro _
        exact edits_quiet ((quiet_broadcastPacket _ _).bind fun _ => quiet_pure true)
      · exact announced

theorem edits_handleDropGame (src : SocketAddr) : Edits (handleDropGame src) := by
  apply Task.Each.bind (edits_quiet (quiet_resolveInGame src))
  rintro (_ | ⟨gameId, _⟩)
  · exact Task.each_pure ()
  · exact Task.Each.bind (edits_executeDropGame gameId src) fun _ => Task.each_pure ()

theorem edits_settleQuit (gameId : UInt32) (src : SocketAddr) (quitData : Bytes)
    (outcome : GameInfo.QuitOutcome) : Edits (settleQuit gameId src quitData outcome) := by
  cases outcome with
  | playing =>
      apply Task.Each.bind (edits_executeDropGame gameId src).attempt
      intro _
      apply Task.Each.bind (edits_quiet (quiet_getGame gameId))
      rintro (_ | game)
      · exact edits_quiet (quiet_broadcastPacket _ _)
      · exact edits_quiet
          ((quiet_broadcastPacketToGame _ _ _).bind fun _ => quiet_broadcastPacket _ _)
  | waitingClosed =>
      apply Task.Each.bind (edits_removeGame gameId)
      exact fun _ => edits_quiet ((quiet_broadcastPacket _ _).bind fun _ => quiet_broadcastPacket _ _)
  | waitingOpen =>
      exact edits_quiet
        ((quiet_broadcastPacketToGame _ _ _).bind fun _ => quiet_announceStatus _)

theorem edits_handleQuitGame (src : SocketAddr) : Edits (handleQuitGame src) := by
  apply Task.Each.bind (edits_inspect _)
  rintro (_ | client)
  · exact Task.each_pure ()
  dsimp only
  cases client.gameId with
  | none => exact Task.each_pure ()
  | some gameId =>
      apply Task.Each.bind (edits_inspect _)
      rintro (_ | ref)
      · exact Task.each_pure ()
      apply Task.Each.bind (edits_withClientMut src _)
      intro _
      apply Task.Each.bind (edits_lockGame ref fun state => .write ref (.leave src))
      rintro ⟨outcome, newOwner⟩
      apply Task.Each.bind (edits_settleQuit gameId src _ outcome)
      exact fun _ => edits_quiet (quiet_announceOwner gameId newOwner)

theorem edits_handleUserQuit (data : Bytes) (src : SocketAddr) : Edits (handleUserQuit data src) := by
  apply Task.Each.bind (edits_handleQuitGame src)
  intro _
  apply Task.Each.bind (edits_removeClient src)
  rintro (_ | client)
  · exact edits_closeSession src
  · exact Task.Each.bind (edits_quiet (quiet_broadcastPacket _ _)) fun _ => edits_closeSession src

theorem edits_evictStale (old : SocketAddr) : Edits (evictStale old) := by
  apply Task.Each.bind (edits_handleQuitGame old).attempt
  intro _
  apply Task.Each.bind (edits_removeClient old)
  rintro (_ | evicted)
  · exact Task.each_pure ()
  · exact Task.Each.bind (edits_quiet (quiet_broadcastPacket _ _)) fun _ => edits_closeSession old

theorem edits_kickFrom (gameId : UInt32) (addr : SocketAddr) (quitData : Bytes) :
    Edits (kickFrom gameId addr quitData) := by
  apply Task.Each.bind (edits_inspect _)
  rintro (_ | ref)
  · exact Task.each_pure ()
  apply Task.Each.bind (edits_withClientMut addr _).attempt
  intro _
  apply Task.Each.bind (edits_lockGame ref fun state => .write ref (.leave addr))
  intro outcome
  have announced := edits_quiet (quiet_announceKick gameId addr quitData)
  split
  · exact Task.Each.bind (edits_executeDropGame gameId addr).attempt fun _ => announced
  · exact announced

theorem edits_handleKickUser (data : Bytes) (src : SocketAddr) : Edits (handleKickUser data src) := by
  unfold handleKickUser
  cases parseKickUser data with
  | none => exact Task.each_pure ()
  | some userId =>
      apply Task.Each.bind (edits_inspect _)
      rintro (_ | requester)
      · exact Task.each_fail _
      dsimp only
      cases requester.gameId with
      | none => exact Task.each_fail _
      | some gameId =>
          apply Task.Each.bind (edits_quiet (quiet_getGame gameId))
          rintro (_ | game)
          · exact Task.each_fail _
          dsimp only
          split
          · apply Task.Each.bind (edits_inspect _)
            rintro (_ | ⟨addr, kicked⟩)
            · exact Task.each_pure ()
            apply Task.Each.bind (edits_inspect _)
            rintro (_ | target)
            · exact Task.each_pure ()
            dsimp only
            split
            · exact edits_kickFrom gameId addr _
            · exact Task.each_pure ()
          · exact Task.each_pure ()

end Edits

/-! ## Handlers with intents -/

/-- Every section of a handler edits the games as it intends. -/
abbrev IntendedEdits {Result : Type} (task : Intentional Result) : Prop :=
  Labelled.Each (fun intent before after _ => Edit before.games intent after.games) task

section IntendedEdits

variable {Result : Type}

theorem intended_ofTask {task : Handler Result} (edits : Edits task) :
    IntendedEdits (.ofTask task) :=
  Labelled.each_ofTask edits fun _ _ edit => edit

theorem intended_withGameMutTo {intent : GameRef → Intent} {src : SocketAddr}
    {change : GameInfo → GameInfo}
    (intended : ∀ table ref, Edit table (some (intent ref)) (table.write ref (change (table.arena ref)))) :
    IntendedEdits (withGameMutTo intent src change) := by
  apply Labelled.Each.bind (intended_ofTask (edits_inspect _))
  rintro (_ | client)
  · exact Labelled.each_fail _
  dsimp only
  cases client.gameId with
  | none => exact Labelled.each_fail _
  | some gameId =>
      apply Labelled.Each.bind (intended_ofTask (edits_inspect _))
      rintro (_ | ref)
      · exact Labelled.each_fail _
      · exact fun state => ⟨intended state.games ref, trivial⟩

theorem intended_joinGame (data : Bytes) (src : SocketAddr) : IntendedEdits (joinGame data src) := by
  unfold joinGame
  cases parseJoinGame data with
  | none => exact Labelled.each_pure ()
  | some gameId =>
      apply Labelled.Each.bind (intended_ofTask (edits_inspect _))
      rintro (_ | client)
      · exact Labelled.each_fail _
      dsimp only
      split
      · exact Labelled.each_pure ()
      · apply Labelled.Each.bind (intended_ofTask (edits_quiet (quiet_getGame gameId)))
        rintro (_ | game)
        · exact Labelled.each_pure ()
        dsimp only
        split
        · apply Labelled.Each.bind (intended_ofTask (edits_withClientMut src _))
          intro _
          apply Labelled.Each.bind (intended_withGameMutTo fun table ref =>
            .write ref (.push _ game.copy rfl))
          exact fun _ => intended_ofTask (edits_quiet (quiet_announceJoinedGame src gameId))
        · exact Labelled.each_pure ()

theorem intended_startGameFrom (config : Config) (checked : GameCopy) (gameId : UInt32)
    (src : SocketAddr) : IntendedEdits (startGameFrom config checked gameId src) := by
  apply Labelled.Each.bind (intended_withGameMutTo fun table ref => .write ref (.purge checked))
  intro _
  apply Labelled.Each.bind (intended_ofTask (edits_quiet (quiet_fetchGameInfo src)))
  intro before
  apply Labelled.Each.bind (intended_ofTask (edits_quiet (quiet_fetchPings config before.players)))
  intro pings
  apply Labelled.Each.bind (intended_withGameMutTo fun table ref =>
    .write ref (.install before.players _ _ _ (List.length_map _)))
  exact fun _ => intended_ofTask (edits_quiet (quiet_announceStart gameId src before.players _))

theorem intended_startGame (config : Config) (data : Bytes) (src : SocketAddr) :
    IntendedEdits (startGame config data src) := by
  unfold startGame
  split
  · exact Labelled.each_pure ()
  · apply Labelled.Each.bind (intended_ofTask (edits_inspect _))
    rintro (_ | client)
    · exact Labelled.each_fail _
    dsimp only
    cases client.gameId with
    | none => exact Labelled.each_fail _
    | some gameId =>
        apply Labelled.Each.bind (intended_ofTask (edits_quiet (quiet_getGame gameId)))
        rintro (_ | game)
        · exact Labelled.each_fail _
        dsimp only
        split
        · split
          · exact intended_ofTask (edits_quiet (quiet_broadcastPacketToGame gameId _ _))
          · split
            · exact intended_startGameFrom config game.copy gameId src
            · exact Labelled.each_pure ()
        · exact Labelled.each_pure ()

/-! ## Playing -/

theorem plain_plays {intent : Intent} (plays : intent.plays = true) : plain (some intent) := by
  rintro _ ⟨⟩
  exact plays

theorem intended_resolveSlot (src : SocketAddr) : IntendedEdits (resolveSlot src) := by
  apply Labelled.Each.bind (intended_ofTask (edits_inspect _))
  rintro (_ | gameId)
  · exact Labelled.each_pure none
  apply Labelled.Each.bind (intended_ofTask (edits_inspect _))
  rintro (_ | ref)
  · exact Labelled.each_pure none
  apply Labelled.Each.bind
  · exact fun state => ⟨.keep (plain_plays rfl), trivial⟩
  rintro (_ | playerId)
  · exact Labelled.each_pure none
  · exact Labelled.each_pure _

/-- Feeding the engine replaces it by its next state. -/
theorem edit_processInput {Failure : Type} (notInitialized : Failure)
    (engineError : GameSyncError → Failure) (invalidPlayer : Nat → Nat → Failure)
    (gameId : UInt32) (ref : GameRef) (playerId : Nat) (input : ClientInput) (state : AppState) :
    Edit state.games (some (.feed ref playerId))
      (processInput notInitialized engineError invalidPlayer gameId ref playerId input
        state).2.games := by
  have calm : plain (some (.feed ref playerId)) := plain_plays rfl
  cases running : (state.games.arena ref).syncManager with
  | none =>
      simp only [processInput, running]
      exact .keep calm
  | some sync =>
      rcases called : sync.call gameId (.input playerId input) with ⟨result, next⟩
      have count := playerCount_of_call called
      simp only [processInput, running, called]
      cases result with
      | error error => exact .write ref (.engine calm sync next running count)
      | ok frames =>
          dsimp only
          split
          · exact .write ref (.engine calm sync next running count)
          · exact .write ref (.engine calm sync next running count)

theorem intended_updateGameTo {gameId : UInt32} {playerId : Nat}
    {act : GameRef → AppState → Except Report Result × AppState}
    (feeds : ∀ ref (state : AppState), Edit state.games (some (.feed ref playerId))
      (act ref state).2.games) :
    IntendedEdits (updateGameTo gameId playerId act) := by
  apply Labelled.Each.bind
  · exact fun state => ⟨.keep (plain_plays rfl), trivial⟩
  rintro (_ | ref)
  · exact Labelled.each_fail _
  · exact fun state => ⟨feeds ref state, trivial⟩

theorem edits_sendOutputs (outputs : List TargetOutput) :
    Edits (Task.forEach outputs sendOutput) :=
  Task.Each.forEach edits_sendOutput outputs

theorem intended_gameData (data : Bytes) (src : SocketAddr) : IntendedEdits (gameData data src) := by
  unfold gameData
  cases parseGameData data with
  | none => exact Labelled.each_pure ()
  | some input =>
      apply Labelled.Each.bind (intended_resolveSlot src)
      rintro (_ | ⟨gameId, playerId⟩)
      · exact Labelled.each_pure ()
      apply Labelled.Each.bind (intended_updateGameTo fun ref state =>
        edit_processInput _ _ _ gameId ref playerId _ state)
      exact fun outputs => intended_ofTask (edits_sendOutputs outputs)

theorem intended_gameCache (data : Bytes) (src : SocketAddr) :
    IntendedEdits (gameCache data src) := by
  unfold gameCache
  cases parseGameCache data with
  | none => exact Labelled.each_pure ()
  | some position =>
      apply Labelled.Each.bind (intended_resolveSlot src)
      rintro (_ | ⟨gameId, playerId⟩)
      · exact Labelled.each_pure ()
      apply Labelled.Each.bind
      · apply intended_updateGameTo
        intro ref state
        exact edit_processInput _ _ _ gameId ref playerId _ state
      rintro (error | outputs)
      · cases error with
        | cachePositionNotFound playerId position =>
            apply Labelled.Each.bind (intended_ofTask (edits_quiet (quiet_sendPacket src _ _)))
            exact fun _ => Labelled.each_fail _
        | invalidPlayerId _ _ | bufferInconsistency _ => exact Labelled.each_fail _
      · exact intended_ofTask (edits_sendOutputs outputs)

/-- Every section of every errand edits the games as it intends. -/
theorem intended_intentions (config : Config) (src : SocketAddr) (errand : Errand) :
    IntendedEdits (intentions config src errand) := by
  cases errand with
  | evict old => exact intended_ofTask (edits_evictStale old)
  | handle request =>
      cases request with
      | joinGame data => exact intended_joinGame data src
      | startGame data => exact intended_startGame config data src
      | gameData data => exact intended_gameData data src
      | gameCache data => exact intended_gameCache data src
      | createGame data => exact intended_ofTask (edits_handleCreateGame data src)
      | quitGame _ => exact intended_ofTask (edits_handleQuitGame src)
      | userQuit data => exact intended_ofTask (edits_handleUserQuit data src)
      | kickUser data => exact intended_ofTask (edits_handleKickUser data src)
      | dropGame _ => exact intended_ofTask (edits_handleDropGame src)
      | readyToPlay data => exact intended_ofTask (edits_quiet (quiet_handleReadyToPlaySignal data src))

end IntendedEdits

/-- References are given out in order. -/
theorem Edit.next_le {before after : GameTable} {intent : Option Intent}
    (edit : Edit before intent after) : before.next ≤ after.next := by
  cases edit with
  | keep calm => exact Nat.le_refl _
  | create gameId gameName src client => exact Nat.le_succ _
  | remove gameId => exact Nat.le_refl _
  | write ref rework => exact Nat.le_refl _

/-! ## Games which came up since a moment -/

/-- Every listed game came up since `born`, and so do the games of which `Holds` speaks. -/
structure Since (born : GameRef) (Holds : GameRef → GameInfo → Prop) (table : GameTable) :
    Prop where
  begun : born ≤ table.next
  listed : ∀ gameId ref, table.byId gameId = some ref → born ≤ ref
  games : ∀ ref, born ≤ ref → ref < table.next → Holds ref (table.arena ref)

namespace Since

variable {born : GameRef} {Holds Later : GameRef → GameInfo → Prop} {before after : GameTable}
  {intent : Option Intent}

/-- No game is listed yet. -/
theorem start {table : GameTable} (nothing : ∀ gameId, table.find gameId = none) :
    Since table.next Holds table where
  begun := Nat.le_refl _
  listed := by
    intro gameId ref found
    have missing := nothing gameId
    simp [GameTable.find, found] at missing
  games := by
    intro ref born old
    exact absurd old (Nat.not_lt_of_le born)

/-- A listed game has what holds of every game. -/
theorem find {table : GameTable} (since : Since born Holds table) {gameId : UInt32}
    {game : GameInfo} (found : table.find gameId = some game) : ∃ ref, Holds ref game := by
  obtain ⟨ref, here, rfl⟩ := Option.map_eq_some_iff.mp found
  exact ⟨ref, since.games ref (since.listed gameId ref here) (table.valid gameId ref here)⟩

/-- A section keeps what created games have and what reworking a game keeps. -/
theorem edit (since : Since born Holds before) (edit : Edit before intent after)
    (kept : ∀ ref game, (∀ players, intent ≠ some (.install ref players)) → Holds ref game →
      Later ref game)
    (created : ∀ gameId gameName src client,
      Later before.next (createdGame gameId gameName src client))
    (reworked : ∀ ref game, born ≤ ref → ref < before.next →
      Rework (before.arena ref) ref intent game → Later ref game) : Since born Later after := by
  have same := fun ref here old other => kept ref _ other (since.games ref here old)
  cases edit with
  | keep calm =>
      refine ⟨since.begun, since.listed, fun ref here old => same ref here old ?_⟩
      intro players intended
      cases calm _ intended
  | remove gameId =>
      refine ⟨since.begun, ?_, fun ref here old => same ref here old (by simp)⟩
      intro other ref found
      change Function.update before.byId gameId none other = some ref at found
      by_cases gone : other = gameId
      · simp [gone] at found
      · rw [Function.update_of_ne gone] at found
        exact since.listed other ref found
  | create gameId gameName src client =>
      refine ⟨Nat.le_succ_of_le since.begun, ?_, ?_⟩
      · intro other ref found
        change Function.update before.byId gameId (some before.next) other = some ref at found
        by_cases new : other = gameId
        · rw [new, Function.update_self] at found
          exact Option.some.inj found ▸ since.begun
        · rw [Function.update_of_ne new] at found
          exact since.listed other ref found
      · intro ref here old
        change Later ref (Function.update before.arena before.next _ ref)
        by_cases new : ref = before.next
        · rw [new, Function.update_self]
          exact created gameId gameName src client
        · rw [Function.update_of_ne new]
          exact same ref here (Nat.lt_of_le_of_ne (Nat.le_of_lt_succ old) new) (by simp)
  | write written rework =>
      refine ⟨since.begun, since.listed, ?_⟩
      intro ref here old
      change Later ref (Function.update before.arena written _ ref)
      by_cases changed : ref = written
      · subst changed
        rw [Function.update_self]
        exact reworked ref _ here old rework
      · rw [Function.update_of_ne changed]
        apply same ref here old
        rintro players rfl
        cases rework with
        | install => exact changed rfl
        | engine calm => cases calm _ rfl

end Since

end Direlera.Lobby
