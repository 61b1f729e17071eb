import Direlera.Lobby.Edits

/-!
# What joins and starts checked

A join adds its player to a game, and a start purges it, some sections after they checked a
copy of the game. Whatever the other sessions do in between, the copy is one of a game which
came up in the run, and it passed the check.
-/

namespace Direlera.Lobby

open Direlera.Library Direlera.Sync

/-- The copy with which the section goes on is one of a `known` game which passed the check. -/
def Intent.Checked (known : GameInfo → Prop) : Intent → Prop
  | .push _ _ checked => ∃ game, known game ∧ game.joinable = true ∧ game.copy = checked
  | .purge _ checked => ∃ game, known game ∧ game.syncManager = none ∧ game.copy = checked
  | _ => True

/-- Every section of a task goes on with a copy which passed the check. -/
abbrev Checks (later : AppState → AppState → Prop) (holds : AppState → Prop)
    (known : GameInfo → Prop) {Result : Type} (task : Intentional Result) : Prop :=
  ∀ since, task.Promises later holds (fun _ => Intent.Checked known) since fun _ _ => True

/-- What `get_game` finds is known. -/
abbrev Finds (later : AppState → AppState → Prop) (holds : AppState → Prop)
    (known : GameInfo → Prop) : Prop :=
  ∀ gameId since, (Labelled.ofTask (getGame gameId) : Intentional _).Promises later holds
    (fun _ => Intent.Checked known) since fun _ found => ∀ game ∈ found, known game

section Checks

variable {later : AppState → AppState → Prop} {holds : AppState → Prop}
  {known : GameInfo → Prop} {Result Next : Type}

theorem checks_ofTask (task : Handler Result) : Checks later holds known (.ofTask task) :=
  fun _ => Labelled.promises_ofTask task

theorem Checks.bind {task : Intentional Result} {continuation : Result → Intentional Next}
    (first : Checks later holds known task)
    (rest : ∀ result, Checks later holds known (continuation result)) :
    Checks later holds known (task >>= continuation) :=
  fun since => (first since).bind fun state result _ => rest result state

theorem checks_pure (result : Result) : Checks later holds known (pure result) :=
  fun _ => trivial

theorem checks_fail (report : Report) :
    Checks later holds known (.fail report : Intentional Result) :=
  fun _ => trivial

theorem checks_critical {intent : Intent} (checked : intent.Checked known)
    {act : AppState → Except Report Result × AppState} :
    Checks later holds known (.critical intent act) :=
  fun _ => Labelled.promises_critical checked

/-- A task goes on with a copy of a game which is known. -/
theorem Finds.bind (finds : Finds later holds known) (gameId : UInt32)
    {continuation : Option GameInfo → Intentional Next}
    (missing : Checks later holds known (continuation none))
    (found : ∀ game, known game → Checks later holds known (continuation (some game))) :
    Checks later holds known (.ofTask (getGame gameId) >>= continuation) := by
  intro since
  apply (finds gameId since).bind
  rintro state (_ | game) here
  · exact missing state
  · exact found game (here game rfl) state

theorem checks_withGameMutTo {intent : GameRef → Intent}
    (checked : ∀ ref, (intent ref).Checked known) (src : SocketAddr)
    (change : GameInfo → GameInfo) :
    Checks later holds known (withGameMutTo intent src change) := by
  apply Checks.bind (checks_ofTask _)
  rintro (_ | client)
  · exact checks_fail _
  dsimp only
  cases client.gameId with
  | none => exact checks_fail _
  | some gameId =>
      apply Checks.bind (checks_ofTask _)
      rintro (_ | ref)
      · exact checks_fail _
      · exact checks_critical (checked ref)

theorem checks_joinGame (finds : Finds later holds known) (data : Bytes) (src : SocketAddr) :
    Checks later holds known (joinGame data src) := by
  unfold joinGame
  cases parseJoinGame data with
  | none => exact checks_pure ()
  | some gameId =>
      apply Checks.bind (checks_ofTask _)
      rintro (_ | client)
      · exact checks_fail _
      dsimp only
      split
      · exact checks_pure ()
      · apply finds.bind gameId (checks_pure ())
        intro game here
        dsimp only
        split
        next joinable =>
          apply Checks.bind (checks_ofTask _)
          intro _
          refine .bind (checks_withGameMutTo ?_ src _) fun _ => checks_ofTask _
          exact fun ref => ⟨game, here, joinable, rfl⟩
        next => exact checks_pure ()

theorem checks_startGameFrom (config : Config) {game : GameInfo} (here : known game)
    (idle : game.syncManager = none) (gameId : UInt32) (src : SocketAddr) :
    Checks later holds known (startGameFrom config game.copy gameId src) := by
  apply Checks.bind
  · exact checks_withGameMutTo (fun ref => by exact ⟨game, here, idle, rfl⟩) src _
  intro _
  apply Checks.bind (checks_ofTask _)
  intro before
  apply Checks.bind (checks_ofTask _)
  intro pings
  apply Checks.bind (checks_withGameMutTo (fun ref => by trivial) src _)
  exact fun _ => checks_ofTask _

theorem checks_startGame (finds : Finds later holds known) (config : Config) (data : Bytes)
    (src : SocketAddr) : Checks later holds known (startGame config data src) := by
  unfold startGame
  split
  · exact checks_pure ()
  · apply Checks.bind (checks_ofTask _)
    rintro (_ | client)
    · exact checks_fail _
    dsimp only
    cases client.gameId with
    | none => exact checks_fail _
    | some gameId =>
        apply finds.bind gameId (checks_fail _)
        intro game here
        dsimp only
        split
        · split
          · exact checks_ofTask _
          next idle =>
            split
            · apply checks_startGameFrom config here _ gameId src
              simpa using idle
            · exact checks_pure ()
        · exact checks_pure ()

theorem checks_resolveSlot (src : SocketAddr) : Checks later holds known (resolveSlot src) := by
  apply Checks.bind (checks_ofTask _)
  rintro (_ | gameId)
  · exact checks_pure none
  apply Checks.bind (checks_ofTask _)
  rintro (_ | ref)
  · exact checks_pure none
  apply Checks.bind (checks_critical (by trivial))
  rintro (_ | playerId)
  · exact checks_pure none
  · exact checks_pure _

theorem checks_updateGameTo (gameId : UInt32) (playerId : Nat)
    (act : GameRef → AppState → Except Report Result × AppState) :
    Checks later holds known (updateGameTo gameId playerId act) := by
  apply Checks.bind (checks_critical (by trivial))
  rintro (_ | ref)
  · exact checks_fail _
  · exact checks_critical (by trivial)

theorem checks_gameData (data : Bytes) (src : SocketAddr) :
    Checks later holds known (gameData data src) := by
  unfold gameData
  cases parseGameData data with
  | none => exact checks_pure ()
  | some input =>
      apply Checks.bind (checks_resolveSlot src)
      rintro (_ | ⟨gameId, playerId⟩)
      · exact checks_pure ()
      apply Checks.bind (checks_updateGameTo gameId playerId _)
      exact fun outputs => checks_ofTask _

theorem checks_gameCache (data : Bytes) (src : SocketAddr) :
    Checks later holds known (gameCache data src) := by
  unfold gameCache
  cases parseGameCache data with
  | none => exact checks_pure ()
  | some position =>
      apply Checks.bind (checks_resolveSlot src)
      rintro (_ | ⟨gameId, playerId⟩)
      · exact checks_pure ()
      apply Checks.bind (checks_updateGameTo gameId playerId _)
      rintro (error | outputs)
      · cases error with
        | cachePositionNotFound playerId position =>
            apply Checks.bind (checks_ofTask _)
            exact fun _ => checks_fail _
        | invalidPlayerId _ _ | bufferInconsistency _ => exact checks_fail _
      · exact checks_ofTask _

/-- Every errand changes a game as its check allowed. -/
theorem checks_intentions (finds : Finds later holds known) (config : Config) (src : SocketAddr)
    (errand : Errand) : Checks later holds known (intentions config src errand) := by
  cases errand with
  | evict old => exact checks_ofTask _
  | handle request =>
      cases request with
      | joinGame data => exact checks_joinGame finds data src
      | startGame data => exact checks_startGame finds config data src
      | gameData data => exact checks_gameData data src
      | gameCache data => exact checks_gameCache data src
      | createGame _ | quitGame _ | userQuit _ | kickUser _ | dropGame _ | readyToPlay _ =>
          exact checks_ofTask _

end Checks

end Direlera.Lobby
