import Direlera.Lobby.Slots

/-!
# Where inputs go under concurrency

An input finds its game and slot in `resolve_in_game` and uses them in `update_game`, two
sections later. It is fed to the slot of its sender, and its game is there, if nobody removes
the game in between and no engine is installed while the sender has lost its slot.
-/

namespace Direlera.Lobby

open Direlera.Library Direlera.Sync Direlera.Wire

/-! ## The way of an input -/

/-- An input is about to look up or to feed its game. -/
def Intent.carries : Intent → Bool
  | .lookUp _ _ | .feed _ _ => true
  | .push _ _ _ | .purge _ _ | .install _ _ | .locate _ _ => false

/-- Nothing is about to be looked up or fed. -/
def idle (intent : Option Intent) : Prop := ∀ here, intent = some here → here.carries = false

/-- An input carries the slot which it found, and then the game which it looked up. -/
structure Routes (src : SocketAddr) (intent : Option Intent) (before after : AppState)
    (next : Option Intent) : Prop where
  found : ∀ gameId slot, next = some (.lookUp gameId slot) → after.games = before.games ∧
    ∃ ref, intent = some (.locate gameId ref) ∧ (before.games.arena ref).position src = some slot
  looked : ∀ ref slot, next = some (.feed ref slot) → after.games = before.games ∧
    ∃ gameId, intent = some (.lookUp gameId slot) ∧ before.games.byId gameId = some ref

theorem routes_idle {src : SocketAddr} {intent next : Option Intent} {before after : AppState}
    (rests : idle next) : Routes src intent before after next where
  found := by
    rintro gameId slot rfl
    cases rests _ rfl
  looked := by
    rintro ref slot rfl
    cases rests _ rfl

theorem idle_none : idle none := by
  rintro _ ⟨⟩

/-- The sections of a task which are never about to carry an input. -/
abbrev Idle {Result : Type} (task : Intentional Result) : Prop :=
  Labelled.Each (fun intent _ _ _ => idle intent) task

section Routes

variable {Result : Type} {src : SocketAddr}

theorem Idle.label {task : Intentional Result} (rests : Idle task) (state : AppState) :
    idle task.label := by
  cases task with
  | done outcome => exact idle_none
  | atomic intent act next => exact (rests state).1

/-- A task which carries no input routes none. -/
theorem Idle.routes {task : Intentional Result} (rests : Idle task) :
    Labelled.Each (Routes src) task := by
  induction task with
  | done outcome => trivial
  | atomic intent act next ih =>
      intro state
      have later : Idle (next state) := (rests state).2
      exact ⟨routes_idle (later.label state), ih state later⟩

theorem idle_ofTask (task : Handler Result) : Idle (.ofTask task) := by
  have each : Task.Each (fun _ _ : AppState => True) task := by
    induction task with
    | done outcome => trivial
    | atomic act next ih => exact fun state => ⟨trivial, ih state⟩
  exact Labelled.each_ofTask each fun _ _ _ => idle_none

theorem idle_withGameMutTo {intent : GameRef → Intent} (rests : ∀ ref, (intent ref).carries = false)
    (src : SocketAddr) (change : GameInfo → GameInfo) : Idle (withGameMutTo intent src change) := by
  apply Labelled.Each.bind (idle_ofTask _)
  rintro (_ | client)
  · exact Labelled.each_fail _
  dsimp only
  cases client.gameId with
  | none => exact Labelled.each_fail _
  | some gameId =>
      apply Labelled.Each.bind (idle_ofTask _)
      rintro (_ | ref)
      · exact Labelled.each_fail _
      · refine fun state => ⟨?_, trivial⟩
        rintro _ ⟨⟩
        exact rests ref

theorem idle_joinGame (data : Bytes) (src : SocketAddr) : Idle (joinGame data src) := by
  unfold joinGame
  cases parseJoinGame data with
  | none => exact Labelled.each_pure ()
  | some gameId =>
      apply Labelled.Each.bind (idle_ofTask _)
      rintro (_ | client)
      · exact Labelled.each_fail _
      dsimp only
      split
      · exact Labelled.each_pure ()
      · apply Labelled.Each.bind (idle_ofTask _)
        rintro (_ | game)
        · exact Labelled.each_pure ()
        dsimp only
        split
        · apply Labelled.Each.bind (idle_ofTask _)
          intro _
          apply Labelled.Each.bind (idle_withGameMutTo (fun ref => rfl) src _)
          exact fun _ => idle_ofTask _
        · exact Labelled.each_pure ()

theorem idle_startGame (config : Config) (data : Bytes) (src : SocketAddr) :
    Idle (startGame config data src) := by
  unfold startGame
  split
  · exact Labelled.each_pure ()
  · apply Labelled.Each.bind (idle_ofTask _)
    rintro (_ | client)
    · exact Labelled.each_fail _
    dsimp only
    cases client.gameId with
    | none => exact Labelled.each_fail _
    | some gameId =>
        apply Labelled.Each.bind (idle_ofTask _)
        rintro (_ | game)
        · exact Labelled.each_fail _
        dsimp only
        split
        · split
          · exact idle_ofTask _
          · split
            · apply Labelled.Each.bind (idle_withGameMutTo (fun ref => rfl) src _)
              intro _
              apply Labelled.Each.bind (idle_ofTask _)
              intro before
              apply Labelled.Each.bind (idle_ofTask _)
              intro pings
              apply Labelled.Each.bind (idle_withGameMutTo (fun ref => rfl) src _)
              exact fun _ => idle_ofTask _
            · exact Labelled.each_pure ()
        · exact Labelled.each_pure ()

/-- After a lookup which finds nothing to carry. -/
theorem routes_inspect {Next : Type} {read : AppState → Next}
    {continuation : Next → Intentional Result}
    (later : ∀ result, idle (continuation result).label ∧
      Labelled.Each (Routes src) (continuation result)) :
    Labelled.Each (Routes src) (.ofTask (.inspect read) >>= continuation) :=
  fun state => ⟨routes_idle (later (read state)).1, (later (read state)).2⟩

/-- An input is fed to the slot with which its game was looked up. -/
theorem routes_updateGameTo {Next : Type} {continuation : Next → Intentional Unit}
    {gameId : UInt32} {playerId : Nat} {act : GameRef → AppState → Except Report Next × AppState}
    (idles : ∀ result, Idle (continuation result)) :
    Labelled.Each (Routes src) (updateGameTo gameId playerId act >>= continuation) := by
  unfold updateGameTo
  rw [Labelled.bind_assoc]
  apply Labelled.each_inspect_bind
  intro state
  cases here : state.games.byId gameId with
  | none => exact ⟨routes_idle idle_none, trivial⟩
  | some ref =>
      refine ⟨⟨by rintro _ _ ⟨⟩, ?_⟩, ?_⟩
      · rintro _ _ ⟨⟩
        exact ⟨rfl, gameId, rfl, here⟩
      · apply Labelled.each_critical_bind
        · exact fun _ _ _ => routes_idle idle_none
        · exact fun fed result _ => ⟨routes_idle ((idles result).label fed), (idles result).routes⟩

/-- An input resolves its slot and uses it in the game which it looks up. -/
theorem routes_resolved {Next : Type} {continuation : Next → Intentional Unit}
    (act : UInt32 → Nat → GameRef → AppState → Except Report Next × AppState)
    (idles : ∀ result, Idle (continuation result)) :
    Labelled.Each (Routes src) (do
      let some (gameId, playerId) ← resolveSlot src | return ()
      let result ← updateGameTo gameId playerId (act gameId playerId)
      continuation result) := by
  unfold resolveSlot
  simp only [Labelled.bind_assoc]
  apply routes_inspect
  rintro (_ | gameId)
  · exact ⟨idle_none, trivial⟩
  refine ⟨idle_none, ?_⟩
  simp only [Labelled.bind_assoc]
  apply routes_inspect
  rintro (_ | ref)
  · exact ⟨idle_none, trivial⟩
  refine ⟨by rintro _ ⟨⟩; rfl, ?_⟩
  simp only [Labelled.bind_assoc]
  apply Labelled.each_inspect_bind
  intro state
  cases here : (state.games.arena ref).position src with
  | none => exact ⟨routes_idle idle_none, trivial⟩
  | some playerId =>
      refine ⟨⟨?_, by rintro _ _ ⟨⟩⟩, routes_updateGameTo idles⟩
      rintro _ _ ⟨⟩
      exact ⟨rfl, ref, rfl, here⟩

theorem routes_gameData (data : Bytes) : Labelled.Each (Routes src) (gameData data src) := by
  unfold gameData
  cases parseGameData data with
  | none => trivial
  | some input => exact routes_resolved _ fun outputs => idle_ofTask _

theorem routes_gameCache (data : Bytes) : Labelled.Each (Routes src) (gameCache data src) := by
  unfold gameCache
  cases parseGameCache data with
  | none => trivial
  | some position =>
      apply routes_resolved
      rintro (error | outputs)
      · cases error with
        | cachePositionNotFound playerId position =>
            apply Labelled.Each.bind (idle_ofTask _)
            exact fun _ => Labelled.each_fail _
        | invalidPlayerId _ _ | bufferInconsistency _ => exact Labelled.each_fail _
      · exact idle_ofTask _

/-- Every errand routes its inputs. -/
theorem routes_intentions (config : Config) (src : SocketAddr) (errand : Errand) :
    Labelled.Each (Routes src) (intentions config src errand) := by
  cases errand with
  | evict old => exact (idle_ofTask _).routes
  | handle request =>
      cases request with
      | joinGame data => exact (idle_joinGame data src).routes
      | startGame data => exact (idle_startGame config data src).routes
      | gameData data => exact routes_gameData data
      | gameCache data => exact routes_gameCache data
      | createGame _ | quitGame _ | userQuit _ | kickUser _ | dropGame _ | readyToPlay _ =>
          exact (idle_ofTask _).routes

/-- An errand begins with nothing to look up or to feed. -/
theorem begins_idle (config : Config) (src : SocketAddr) (errand : Errand) (state : AppState) :
    idle (intentions config src errand).label := by
  cases errand with
  | evict old => exact (idle_ofTask _).label state
  | handle request =>
      cases request with
      | joinGame data => exact (idle_joinGame data src).label state
      | startGame data => exact (idle_startGame config data src).label state
      | gameData data =>
          change idle (gameData data src).label
          unfold gameData
          cases parseGameData data with
          | none => exact idle_none
          | some input => exact idle_none
      | gameCache data =>
          change idle (gameCache data src).label
          unfold gameCache
          cases parseGameCache data with
          | none => exact idle_none
          | some position => exact idle_none
      | createGame _ | quitGame _ | userQuit _ | kickUser _ | dropGame _ | readyToPlay _ =>
          exact (idle_ofTask _).label state

end Routes

/-! ## Slots of senders -/

namespace GameInfo

variable {game : GameInfo} {src : SocketAddr} {slot : Nat}

/-- The entry of a slot is that of an address. -/
def HasSlot (game : GameInfo) (src : SocketAddr) (slot : Nat) : Prop :=
  (game.players[slot]?).map GamePlayerInfo.addr = some src

instance decidableHasSlot (game : GameInfo) (src : SocketAddr) (slot : Nat) :
    Decidable (game.HasSlot src slot) :=
  inferInstanceAs (Decidable (_ = _))

/-- An input of the address reaches its own slot, if an engine runs. -/
def Serves (game : GameInfo) (src : SocketAddr) (slot : Nat) : Prop :=
  game.syncManager.isSome = true → game.HasSlot src slot

theorem hasSlot_iff : game.HasSlot src slot ↔
    (game.players.map GamePlayerInfo.addr)[slot]? = some src := by
  rw [HasSlot, List.getElem?_map]

theorem hasSlot_of_position (found : game.position src = some slot) : game.HasSlot src slot := by
  obtain ⟨inside, here, _⟩ := List.findIdx?_eq_some_iff_getElem.mp found
  rw [HasSlot, List.getElem?_eq_getElem inside]
  simpa using here

theorem serves_of_none (idle : game.syncManager = none) : game.Serves src slot := by
  intro running
  simp [idle] at running

theorem Serves.leave (serves : game.Serves src slot) (addr : SocketAddr) :
    (game.leave addr).2.Serves src slot := by
  cases live : game.syncManager with
  | some sync =>
      obtain ⟨players, same, addresses, _⟩ := leave_live live addr
      intro _
      rw [same, hasSlot_iff, players_migrate]
      change (players.map GamePlayerInfo.addr)[slot]? = some src
      rw [addresses]
      exact hasSlot_iff.mp (serves (by simp [live]))
  | none =>
      obtain ⟨players, same, _⟩ := leave_waiting live addr
      apply serves_of_none
      rw [same, syncManager_migrate]
      exact live

theorem Serves.seat (serves : game.Serves src slot) (player : GamePlayerInfo) :
    (game.seat player).Serves src slot := by
  unfold GameInfo.seat
  split
  · exact serves
  · intro running
    have here := hasSlot_iff.mp (serves running)
    obtain ⟨inside, _⟩ := List.getElem?_eq_some_iff.mp here
    rw [hasSlot_iff, List.map_append, List.getElem?_append_left inside]
    exact here

end GameInfo

/-- The section leaves the sender of an input its slot in the game to which the input goes: an
engine is installed, or the tombstones of a live game are purged, only while the sender keeps
the slot. -/
def Intent.LeavesSlot (game : GameInfo) (ref : GameRef) (src : SocketAddr) (slot : Nat) :
    Intent → Prop
  | .install written _ => written = ref → game.HasSlot src slot
  | .purge written _ => written = ref → game.syncManager.isNone = true ∨ game.purge.HasSlot src slot
  | _ => True

instance decidableLeavesSlot (game : GameInfo) (ref : GameRef) (src : SocketAddr) (slot : Nat) :
    ∀ intent : Intent, Decidable (intent.LeavesSlot game ref src slot)
  | .install _ _ | .purge _ _ => inferInstanceAs (Decidable (_ → _))
  | .push _ _ _ | .locate _ _ | .lookUp _ _ | .feed _ _ => .isTrue trivial

/-- Whatever a section does to a game, it serves the sender as before, if the section leaves
the sender its slot. -/
theorem GameInfo.Serves.rework {game after : GameInfo} {src : SocketAddr} {slot : Nat}
    (serves : game.Serves src slot) {ref : GameRef} {intent : Option Intent}
    (rework : Rework game ref intent after)
    (leaves : ∀ own ∈ intent, own.LeavesSlot game ref src slot) : after.Serves src slot := by
  cases rework with
  | push player checked here => exact serves.seat player
  | leave addr => exact serves.leave addr
  | purge checked =>
      rcases leaves _ rfl rfl with idle | same
      · exact serves_of_none (Option.isNone_iff_eq_none.mp idle)
      · exact fun _ => same
  | install players delays startupWarmups disableOutputCache sized => exact fun _ => leaves _ rfl rfl
  | engine calm sync next running same =>
      intro _
      exact serves (by simp [running])
  | finish sync next running =>
      apply serves_of_none
      exact syncManager_migrate _

/-- A section serves the sender as before, if it leaves the sender its slot. -/
theorem GameInfo.Serves.edit {before after : GameTable} {ref : GameRef} {src : SocketAddr}
    {slot : Nat} (serves : (before.arena ref).Serves src slot) (old : ref < before.next)
    {intent : Option Intent} (edit : Edit before intent after)
    (leaves : ∀ own ∈ intent, own.LeavesSlot (before.arena ref) ref src slot) :
    ref < after.next ∧ (after.arena ref).Serves src slot := by
  cases edit with
  | keep calm => exact ⟨old, serves⟩
  | remove gameId => exact ⟨old, serves⟩
  | create gameId gameName creator client =>
      refine ⟨Nat.lt_succ_of_lt old, ?_⟩
      change GameInfo.Serves (Function.update before.arena before.next _ ref) src slot
      rw [Function.update_of_ne (Nat.ne_of_lt old)]
      exact serves
  | write written rework =>
      refine ⟨old, ?_⟩
      change GameInfo.Serves (Function.update before.arena written _ ref) src slot
      by_cases changed : ref = written
      · subst changed
        rw [Function.update_self]
        exact serves.rework rework leaves
      · rw [Function.update_of_ne changed]
        exact serves

/-! ## Inputs under way -/

/-- An input which is under way finds its game and, under an engine, the entry of its sender. -/
def Intent.Arrives (games : GameTable) (src : SocketAddr) : Intent → Prop
  | .lookUp gameId slot =>
      ∃ ref, games.byId gameId = some ref ∧ (games.arena ref).Serves src slot
  | .feed ref slot => ref < games.next ∧ (games.arena ref).Serves src slot
  | _ => True

theorem arrives_of_rests {intent : Intent} (rests : intent.carries = false) (games : GameTable)
    (src : SocketAddr) : intent.Arrives games src := by
  cases intent with
  | push _ _ _ | purge _ _ | install _ _ | locate _ _ => trivial
  | lookUp _ _ | feed _ _ => cases rests

/-- A game in which an input finds a slot is still listed. -/
def Intent.StaysListed (state : AppState) (src : SocketAddr) : Intent → Prop
  | .locate gameId ref => ((state.games.arena ref).position src).isSome = true →
      state.games.byId gameId = some ref
  | _ => True

/-- The next section of a session leaves the input of another session its game, and the
sender its slot there. -/
def Intent.Undisturbed (pool : RoomPool) (src other : SocketAddr) : Intent → Prop
  | .lookUp gameId slot =>
      (pool.upcoming src).games.byId gameId = pool.state.games.byId gameId ∧
        ∀ ref ∈ pool.state.games.byId gameId, ∀ own ∈ pool.label src,
          own.LeavesSlot (pool.state.games.arena ref) ref other slot
  | .feed ref slot => ∀ own ∈ pool.label src,
      own.LeavesSlot (pool.state.games.arena ref) ref other slot
  | _ => True

/-- The next section of a session disturbs no input which is under way. -/
def Undisturbed (pool : RoomPool) : Turn SocketAddr Errand → Prop
  | .receive _ _ => True
  | .advance src => (∀ intent ∈ pool.label src, intent.StaysListed pool.state src) ∧
      ∀ other, ∀ intent ∈ pool.label other, intent.Undisturbed pool src other

/-- One section brings every input on its way, if it disturbs none. -/
theorem arrives_step {pool : RoomPool} {src : SocketAddr} {next : Option Intent}
    (undisturbed : Undisturbed pool (.advance src))
    (arrives : ∀ other, ∀ intent ∈ pool.label other, intent.Arrives pool.state.games other)
    (edit : Edit pool.state.games (pool.label src) (pool.upcoming src).games)
    (routes : Routes src (pool.label src) pool.state (pool.upcoming src) next) :
    ∀ other, ∀ intent ∈ Function.update pool.label src next other,
      intent.Arrives (pool.upcoming src).games other := by
  obtain ⟨listed, others⟩ := undisturbed
  intro other intent label
  by_cases own : other = src
  · -- the input of the session itself goes one section further
    subst own
    rw [Function.update_self] at label
    cases intent with
    | lookUp gameId slot =>
        obtain ⟨same, ref, located, found⟩ := routes.found gameId slot label
        rw [same]
        have here : pool.state.games.byId gameId = some ref :=
          listed _ located (by simp [found])
        exact ⟨ref, here, fun _ => GameInfo.hasSlot_of_position found⟩
    | feed ref slot =>
        obtain ⟨same, gameId, looked, here⟩ := routes.looked ref slot label
        obtain ⟨known, there, serves⟩ := arrives _ _ looked
        obtain rfl : known = ref := Option.some.inj (there.symm.trans here)
        rw [same]
        exact ⟨pool.state.games.valid gameId known here, serves⟩
    | push _ _ _ | purge _ _ | install _ _ | locate _ _ => trivial
  · rw [Function.update_of_ne own] at label
    have before := arrives other intent label
    have kept := others other intent label
    cases intent with
    | lookUp gameId slot =>
        obtain ⟨ref, here, serves⟩ := before
        have old := pool.state.games.valid gameId ref here
        exact ⟨ref, kept.1.trans here, (serves.edit old edit (kept.2 ref here)).2⟩
    | feed ref slot => exact before.2.edit before.1 edit kept
    | push _ _ _ | purge _ _ | install _ _ | locate _ _ => trivial

/-! ## Every interleaving -/

/-- However the handlers interleave, an input which is about to look its game up finds it, and
one which is about to be fed to an engine is fed to the slot of its sender, if no section
disturbs an input under way. -/
theorem inputs_reach_slots (config : Config) {start : AppState}
    {turns : List (Turn SocketAddr Errand)}
    (undisturbed : (rooms config).machine.Along Undisturbed (.idle start) turns) :
    let pool := (rooms config).machine.final (.idle start) turns
    ∀ src,
      (∀ gameId slot, pool.label src = some (.lookUp gameId slot) →
        (pool.state.games.find gameId).isSome = true) ∧
      ∀ ref slot, pool.label src = some (.feed ref slot) →
        (pool.state.games.arena ref).syncManager.isSome = true →
          ((pool.state.games.arena ref).players[slot]?).map GamePlayerInfo.addr = some src := by
  have arrives := labelled_invariant
    (fun src errand => (intended_intentions config src errand).and
      (routes_intentions config src errand))
    (fun state labels => ∀ src, ∀ intent ∈ labels src, intent.Arrives state.games src)
    ?_ ?_ (by rintro src _ ⟨⟩) undisturbed
  · intro pool src
    constructor
    · intro gameId slot label
      obtain ⟨ref, here, _⟩ := arrives src _ label
      exact Option.isSome_map.trans (Option.isSome_of_mem here)
    · intro ref slot label
      exact (arrives src _ label).2
  · intro state labels session errand arrives free src intent label
    by_cases same : src = session
    · subst same
      rw [Function.update_self] at label
      exact arrives_of_rests (begins_idle config src errand state intent label) state.games src
    · rw [Function.update_of_ne same] at label
      exact arrives src intent label
  · intro pool src next allowed arrives rules
    exact arrives_step allowed arrives rules.1 rules.2

instance decidableStaysListed (state : AppState) (src : SocketAddr) :
    ∀ intent : Intent, Decidable (intent.StaysListed state src)
  | .locate _ _ => inferInstanceAs (Decidable (_ → _))
  | .push _ _ _ | .purge _ _ | .install _ _ | .lookUp _ _ | .feed _ _ => .isTrue trivial

instance decidableIntentUndisturbed (pool : RoomPool) (src other : SocketAddr) :
    ∀ intent : Intent, Decidable (intent.Undisturbed pool src other)
  | .lookUp gameId _ => inferInstanceAs (Decidable (_ ∧ ∀ ref ∈ pool.state.games.byId gameId,
      ∀ own ∈ pool.label src, _))
  | .feed _ _ => inferInstanceAs (Decidable (∀ own ∈ pool.label src, _))
  | .push _ _ _ | .purge _ _ | .install _ _ | .locate _ _ => .isTrue trivial

/-- `Undisturbed` among the sessions which take turns. -/
def UndisturbedAmong (sessions : List SocketAddr) (pool : RoomPool) :
    Turn SocketAddr Errand → Prop
  | .receive _ _ => True
  | .advance src => (∀ intent ∈ pool.label src, intent.StaysListed pool.state src) ∧
      ∀ other ∈ sessions, ∀ intent ∈ pool.label other, intent.Undisturbed pool src other

instance decidableUndisturbedAmong (sessions : List SocketAddr) (pool : RoomPool) :
    ∀ turn : Turn SocketAddr Errand, Decidable (UndisturbedAmong sessions pool turn)
  | .receive _ _ => .isTrue trivial
  | .advance src => inferInstanceAs (Decidable ((∀ intent ∈ pool.label src, _) ∧
      ∀ other ∈ sessions, ∀ intent ∈ pool.label other, _))

theorem undisturbed_of_among {sessions : List SocketAddr} {pool : RoomPool}
    {turn : Turn SocketAddr Errand}
    (resting : ∀ other, other ∉ sessions → pool.active other = none)
    (among : UndisturbedAmong sessions pool turn) : Undisturbed pool turn := by
  cases turn with
  | receive session job => trivial
  | advance src =>
      refine ⟨among.1, fun other intent label => ?_⟩
      by_cases member : other ∈ sessions
      · exact among.2 other member intent label
      · simp [Pool.label, resting other member] at label

/-- Clients 1 and 2 play while client 3 quits the game. -/
def playInterleaved : List (Turn SocketAddr Errand) :=
  hosts ++ alone 2 joinsHosted 60 ++ alone 3 joinsHosted 60 ++
    alone 1 (.startGame [0, 255, 255, 255, 255]) 60 ++
    [.receive 3 (.handle (.quitGame [0])), .receive 2 (.handle (.gameData [0, 1, 0, 7])),
      .receive 1 (.handle (.gameData [0, 1, 0, 9]))] ++
    (List.replicate 4 ([1, 2, 3].map Turn.advance)).flatten

theorem inputs_reach_slots_interleaved :
    let pool := (rooms oneFrame).machine.final (.idle fiveClients) playInterleaved
    (∀ src,
      (∀ gameId slot, pool.label src = some (.lookUp gameId slot) →
        (pool.state.games.find gameId).isSome = true) ∧
      ∀ ref slot, pool.label src = some (.feed ref slot) →
        (pool.state.games.arena ref).syncManager.isSome = true →
          ((pool.state.games.arena ref).players[slot]?).map GamePlayerInfo.addr = some src) ∧
      pool.label 2 = some (.feed 0 1) := by
  refine ⟨?_, by decide +kernel⟩
  apply inputs_reach_slots oneFrame
  have within : ∀ turn ∈ playInterleaved, turn.session ∈ [1, 2, 3] := by decide +kernel
  apply Program.along_sessions (fun _ _ => undisturbed_of_among) (fun _ _ => rfl) within
  decide +kernel

/-- Client 2 finds its slot in game 1, is kicked, and client 1 closes the game. -/
def inputOutlives : List (Turn SocketAddr Errand) :=
  hosts ++ alone 2 joinsHosted 60 ++
    [.receive 2 (.handle (.gameData [0, 1, 0, 7]))] ++ List.replicate 3 (.advance 2) ++
    alone 1 (.kickUser [0, 2, 0]) 60 ++ alone 1 (.quitGame [0]) 60 ++ [.advance 2]

/-- Client 2 finds slot 1 in game 1 and is kicked, so that slot 1 is that of client 3 when
client 1 starts the game. -/
def inputMisplaced : List (Turn SocketAddr Errand) :=
  hosts ++ alone 2 joinsHosted 60 ++ alone 3 joinsHosted 60 ++
    [.receive 2 (.handle (.gameData [0, 1, 0, 7]))] ++ List.replicate 3 (.advance 2) ++
    alone 1 (.kickUser [0, 2, 0]) 60 ++ alone 1 (.startGame [0, 255, 255, 255, 255]) 60 ++
    [.advance 2]

/-- A session ended with an error. -/
def failure (pool : RoomPool) (src : SocketAddr) : Option Report :=
  (pool.active src).bind fun running =>
    match running.rest with
    | .done (.error report) => some report
    | _ => none

theorem inputs_misrouted :
    failure ((rooms oneFrame).machine.final (.idle fiveClients) inputOutlives) 2 =
        some (.panic "Game not found") ∧
      let pool := (rooms oneFrame).machine.final (.idle fiveClients) inputMisplaced
      pool.label 2 = some (.feed 0 1) ∧
        (pool.state.games.arena 0).syncManager.isSome = true ∧
          ((pool.state.games.arena 0).players[1]?).map GamePlayerInfo.addr = some 3 := by
  decide +kernel

end Direlera.Lobby
