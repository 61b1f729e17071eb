import Direlera.Lobby.Capacity

/-!
# Sync slots and players under concurrency

An engine has one slot for each player of the snapshot for which it was sized. The slots stay
aligned with the players of the game however the handlers interleave, if no player is pushed
into a live game, no tombstone of a live game is purged, and an engine is installed while the
players are those of its snapshot.
-/

namespace Direlera.Lobby

open Direlera.Library Direlera.Sync Direlera.Wire

/-- For whom the engine of a game is sized after a section, when it was sized for `addrs`. -/
def Intent.sizes (ref : GameRef) (addrs : List SocketAddr) : Intent → List SocketAddr
  | .install written players =>
      if written = ref then players.map GamePlayerInfo.addr else addrs
  | _ => addrs

/-- Only an installation sizes an engine. -/
theorem sizes_of_other {intent : Option Intent} {ref : GameRef} {addrs : List SocketAddr}
    (other : ∀ players, intent ≠ some (.install ref players)) :
    (intent.elim addrs fun own => own.sizes ref addrs) = addrs := by
  cases intent with
  | none => rfl
  | some own =>
      cases own with
      | install written players =>
          apply if_neg
          rintro rfl
          exact other players rfl
      | push _ _ _ | purge _ _ | locate _ _ | lookUp _ _ | feed _ _ => rfl

/-- An observer who remembers for whom the engine of a game was sized. -/
def sizing (_ : SocketAddr) (intent : Intent) (_ : AppState)
    (sizedFor : GameRef → List SocketAddr) : GameRef → List SocketAddr :=
  fun ref => intent.sizes ref (sizedFor ref)

/-- The players for whom the engines of a run were sized last, by slot. -/
def sizedFor (config : Config) (start : AppState) (turns : List (Turn SocketAddr Errand)) :
    GameRef → List SocketAddr :=
  ((Program.watched (intentions config) sizing).final (.idle start, fun _ => []) turns).2

/-- The section leaves the slots of a live game to their players. -/
def Intent.KeepsSlots (state : AppState) : Intent → Prop
  | .push ref player _ => (state.games.arena ref).lists player.addr = true ∨
      (state.games.arena ref).syncManager.isNone = true
  | .purge ref _ => (state.games.arena ref).syncManager.isNone = true ∨
      (state.games.arena ref).inRoom.map GamePlayerInfo.addr =
        (state.games.arena ref).players.map GamePlayerInfo.addr
  | .install ref players => (state.games.arena ref).players.map GamePlayerInfo.addr =
      players.map GamePlayerInfo.addr
  | _ => True

instance decidableKeepsSlots (state : AppState) :
    ∀ intent : Intent, Decidable (intent.KeepsSlots state)
  | .push _ _ _ | .purge _ _ => inferInstanceAs (Decidable (_ ∨ _))
  | .install _ _ => inferInstanceAs (Decidable (_ = _))
  | .locate _ _ | .lookUp _ _ | .feed _ _ => .isTrue trivial

/-! ## From the check to the act -/

/-- Nothing of the game came between the check of a handler, or its snapshot of the players, and
the section. -/
def Intent.Untouched (state : AppState) : Intent → Prop
  | .push ref _ checked | .purge ref checked => (state.games.arena ref).copy = checked
  | .install ref players => (state.games.arena ref).players = players
  | _ => True

/-- What passed the check keeps the slots of a game which nothing touched since. -/
theorem Intent.Checked.keepsSlots {known : GameInfo → Prop} {intent : Intent} {state : AppState}
    (checked : intent.Checked known) (untouched : intent.Untouched state) :
    intent.KeepsSlots state := by
  have idle : ∀ {game other : GameInfo}, game.syncManager = none → game.copy = other.copy →
      other.syncManager.isNone = true := by
    intro game other idle same
    have live : game.syncManager.isSome = other.syncManager.isSome := congrArg GameCopy.live same
    rw [idle] at live
    simpa using live.symm
  cases intent with
  | push ref player copy =>
      obtain ⟨game, _, joinable, same⟩ := checked
      exact .inr (idle (GameInfo.joinable_iff.mp joinable).2.1 (same.trans untouched.symm))
  | purge ref copy =>
      obtain ⟨game, _, waiting, same⟩ := checked
      exact .inl (idle waiting (same.trans untouched.symm))
  | install ref players => exact congrArg (List.map GamePlayerInfo.addr) untouched
  | locate _ _ | lookUp _ _ | feed _ _ => trivial

/-- In a run in which nothing of a game comes between the check of a join or a start and its
act, every section keeps the slots. -/
theorem kept_of_untouched (config : Config) {start : AppState} {turns : List (Turn SocketAddr Errand)}
    (untouched : (rooms config).machine.Along (Intended fun state intent => intent.Untouched state)
      (.idle start) turns) :
    (rooms config).machine.Along (Intended fun state intent => intent.KeepsSlots state)
      (.idle start) turns := by
  have finds : Finds (fun _ _ => True) (fun _ => True) fun _ => True := by
    intro gameId since
    simpa using Labelled.promises_ofTask (getGame gameId)
  have promised := (promising_along (fun src errand => intended_intentions config src errand)
    (fun _ => trivial) (fun _ _ _ _ _ => trivial) (checks_intentions finds config)
    (fun _ _ _ _ _ _ _ => ⟨trivial, trivial⟩) trivial untouched).2
  apply (rooms config).machine.along_mono ?_ promised
  rintro pool turn ⟨allowed, checked⟩
  cases turn with
  | receive session errand => trivial
  | advance src =>
      intro intent label
      obtain ⟨_, _, passed⟩ := checked src intent label
      exact passed.keepsSlots (allowed intent label)

namespace GameInfo

variable {game : GameInfo} {addrs : List SocketAddr}

/-- The engine has a slot for each player, which is one of the addresses for whom it was
sized. -/
def Aligned (addrs : List SocketAddr) (game : GameInfo) : Prop :=
  ∀ sync, game.syncManager = some sync →
    sync.playerCount = addrs.length ∧ game.players.map GamePlayerInfo.addr = addrs

theorem aligned_of_none (idle : game.syncManager = none) : game.Aligned addrs := by
  intro sync running
  rw [idle] at running
  cases running

theorem Aligned.leave (aligned : game.Aligned addrs) (addr : SocketAddr) :
    (game.leave addr).2.Aligned addrs := by
  intro sync running
  cases live : game.syncManager with
  | some engine =>
      obtain ⟨players, same, addresses, _⟩ := leave_live live addr
      rw [same, syncManager_migrate] at running
      rw [same, players_migrate]
      exact ⟨(aligned sync running).1, addresses.trans (aligned sync running).2⟩
  | none =>
      obtain ⟨players, same, _⟩ := leave_waiting live addr
      rw [same, syncManager_migrate] at running
      cases live.symm.trans running

/-- Whatever a section does to a game, its slots stay aligned, if it keeps the slots. An engine
which is installed is aligned with those for whom it was sized. -/
theorem Aligned.rework (aligned : game.Aligned addrs) {ref : GameRef} {intent : Option Intent}
    {after : GameInfo} (rework : Rework game ref intent after) {state : AppState}
    (here : state.games.arena ref = game) (keeps : ∀ own ∈ intent, own.KeepsSlots state) :
    after.Aligned (intent.elim addrs fun own => own.sizes ref addrs) := by
  subst here
  cases rework with
  | push player checked present =>
      rcases keeps _ rfl with listed | idle
      · rw [GameInfo.seat, if_pos listed]
        exact aligned
      · apply aligned_of_none
        unfold GameInfo.seat
        split
        · exact Option.isNone_iff_eq_none.mp idle
        · exact Option.isNone_iff_eq_none.mp idle
  | leave addr => exact aligned.leave addr
  | purge checked =>
      rcases keeps _ rfl with idle | same
      · exact aligned_of_none (Option.isNone_iff_eq_none.mp idle)
      · intro sync running
        exact ⟨(aligned sync running).1, same.trans (aligned sync running).2⟩
  | install players delays startupWarmups disableOutputCache sized =>
      rintro sync ⟨⟩
      have same : (state.games.arena ref).players.map GamePlayerInfo.addr =
        players.map GamePlayerInfo.addr := keeps _ rfl
      simp only [Option.elim_some, Intent.sizes, if_true]
      exact ⟨sized.trans (List.length_map _).symm, same⟩
  | engine calm sync next running same =>
      rw [sizes_of_other (by rintro players rfl; cases calm _ rfl)]
      rintro _ ⟨⟩
      have sized := aligned sync running
      exact ⟨same.trans sized.1, sized.2⟩
  | finish sync next running =>
      apply aligned_of_none
      exact syncManager_migrate _

end GameInfo

/-! ## Every interleaving -/

/-- However the handlers interleave, every engine has one slot for each player of its game, and
the entry of each slot is the player for whom it was sized, if every section keeps the slots. -/
theorem slots_aligned (config : Config) {start : AppState} (opening : start.Opening)
    {turns : List (Turn SocketAddr Errand)}
    (kept : (rooms config).machine.Along (Intended fun state intent => intent.KeepsSlots state)
      (.idle start) turns) :
    let games := ((rooms config).machine.final (.idle start) turns).state.games
    ∀ gameId ref, games.byId gameId = some ref →
      ∀ sync, (games.arena ref).syncManager = some sync →
        (games.arena ref).players.length = sync.playerCount ∧
          (games.arena ref).players.map GamePlayerInfo.addr = sizedFor config start turns ref := by
  have since := labelled_along (fun src errand => intended_intentions config src errand) sizing
    (fun state _ addrs => Since start.games.next (fun ref => GameInfo.Aligned (addrs ref))
      state.games)
    (fun _ _ _ _ _ since _ => since) ?_ (fun _ => []) (Since.start opening.noGames) kept
  · dsimp only at since
    rw [watched_final] at since
    intro games gameId ref here sync running
    have aligned := since.games ref (since.listed gameId ref here) (games.valid gameId ref here)
      sync running
    refine ⟨?_, aligned.2⟩
    rw [aligned.1, ← aligned.2, List.length_map]
  · intro pool src next addrs allowed since edit
    have sizes : ∀ ref, observed sizing src (pool.label src) pool.state addrs ref =
        (pool.label src).elim (addrs ref) fun own => own.sizes ref (addrs ref) := by
      intro ref
      cases pool.label src with
      | none => rfl
      | some intent => rfl
    apply since.edit edit
    · intro ref game other aligned
      rw [sizes, sizes_of_other other]
      exact aligned
    · intro gameId gameName creator client
      exact GameInfo.aligned_of_none rfl
    · intro ref game born old rework
      rw [sizes]
      exact (since.games ref born old).rework rework rfl allowed

/-- Client 2 joins game 1 and client 1 starts it while client 2 sends input; then client 2 is
kicked. -/
def startInterleaved : List (Turn SocketAddr Errand) :=
  hosts ++ alone 2 joinsHosted 60 ++
    [.receive 1 (.handle (.startGame [0, 255, 255, 255, 255])),
      .receive 2 (.handle (.gameData [0, 1, 0, 7]))] ++
    (List.replicate 60 ([1, 2].map Turn.advance)).flatten ++ alone 1 (.kickUser [0, 2, 0]) 60

theorem slots_aligned_interleaved :
    let games := ((rooms oneFrame).machine.final (.idle fiveClients) startInterleaved).state.games
    (∀ gameId ref, games.byId gameId = some ref →
      ∀ sync, (games.arena ref).syncManager = some sync →
        (games.arena ref).players.length = sync.playerCount ∧
          (games.arena ref).players.map GamePlayerInfo.addr =
            sizedFor oneFrame fiveClients startInterleaved ref) ∧
      (games.find 1).map (fun game => game.syncManager.map SyncManager.playerCount) =
        some (some 2) := by
  refine ⟨?_, by decide +kernel⟩
  apply slots_aligned oneFrame (lanLobby_opening [1, 2, 3, 4, 5] (by decide))
  decide +kernel

/-- Client 2 passes the check, client 1 starts the game, and client 2 is added to it. -/
def joinOvertaken : List (Turn SocketAddr Errand) :=
  hosts ++ [.receive 2 (.handle joinsHosted)] ++ List.replicate 3 (.advance 2) ++
    alone 1 (.startGame [0, 255, 255, 255, 255]) 60 ++ List.replicate 5 (.advance 2)

theorem slots_misaligned_by_join :
    (((rooms oneFrame).machine.final (.idle fiveClients) joinOvertaken).state.games.find 1).map
      (fun game => (game.players.length, game.syncManager.map SyncManager.playerCount)) =
        some (2, some 1) := by
  decide +kernel

end Direlera.Lobby
