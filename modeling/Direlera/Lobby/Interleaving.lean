import Direlera.Library.Outbox
import Direlera.Library.Pool
import Direlera.Lobby.DepartedPlayers
import Direlera.Lobby.LiveTasks
import Direlera.Lobby.Rounds

/-!
# The tasks of a live game interleave

Every session runs one handler at a time, and the sections of the sessions interleave. The
responses of a call are sent after the game lock is released, so two batches for one player
may overtake each other. While nobody has been dropped a round cannot complete before its
last batch is sent; from the first drop on, order is kept if no responses are computed for
a player while another session still has some to send to it.
-/

namespace Direlera.Lobby

open Direlera.Library Direlera.Library.Outbox Direlera.Sync Direlera.Sync.SimplestGameSync

/-- The messages which the players of a live game send. -/
def Request.inGame : Request → Bool
  | .gameData _ | .gameCache _ | .dropGame _ | .quitGame _ | .kickUser _ => true
  | _ => false

/-- The sessions of a server. The note of a session lists the responses of one game which
its handler had the engine compute and has not handed over. -/
def sessions (config : Config) (gameId : UInt32) :
    Program AppState Report Unit SocketAddr Request (List TargetOutput) where
  accepts _ request := request.inGame
  task src request := handleMessage config src request
  blank := []
  opening _ _ := []
  record unsent before after :=
    (unsent ++ (ofGame gameId after.produced).drop (ofGame gameId before.produced).length).diff
      ((ofGame gameId after.handed).drop (ofGame gameId before.handed).length)

/-- The sessions of a server with their tasks. -/
abbrev SessionPool := Pool AppState Report Unit SocketAddr (List TargetOutput)

/-- The responses of a game for one player which a history has after an earlier one. -/
def newFor (gameId : UInt32) (addr : SocketAddr) (earlier later : List TargetOutput) :
    List TargetOutput :=
  addressed TargetOutput.addr addr ((ofGame gameId later).drop (ofGame gameId earlier).length)

namespace LiveGame

variable (live : LiveGame)

/-- Since `start` a player has been handed responses in the order in which the engine
produced them, and if every player has a session without gaps. -/
structure InOrder (start reached : AppState) (addr : SocketAddr) : Prop where
  ordered : (newFor live.gameId addr start.handed reached.handed).Sublist
    (newFor live.gameId addr start.produced reached.produced)
  complete : live.Registered → newFor live.gameId addr start.handed reached.handed <+:
    newFor live.gameId addr start.produced reached.produced

/-- A section which drops a slot, or calls the engine after some slot was dropped, answers
no player to whom another session still has responses to send. -/
def Clear (config : Config) (pool : SessionPool) : Turn SocketAddr Request → Prop
  | .receive _ _ => True
  | .advance src => ∀ request sync,
      (pool.upcoming src).calls = pool.state.calls ++ [(live.gameId, request)] →
      live.sync pool.state = some sync →
      (∃ slot, request = .drop slot) ∨ sync.HasDropped →
      ∀ slot addr, sync.Answers request slot → live.addrs[slot]? = some addr →
        ∀ other, other ≠ src → ∀ output ∈ (sessions config live.gameId).note pool other,
          output.addr ≠ addr

/-- A session calls the engine by inputs of its own slot and by drops. -/
def MayCall (src : SocketAddr) (request : Call) : Prop :=
  (∃ slot message, request = .input slot message ∧ live.addrs[slot]? = some src) ∨
    ∃ slot, request = .drop slot

/-! ## Tasks and notes -/

variable {live} {config : Config}

/-- The note of a session is what its phase has yet to send. -/
theorem record_of_act {calls : Call → Prop} {phase later : Phase} {before after : AppState}
    (act : live.Act calls phase before after later) :
    (sessions config live.gameId).record phase.unsent before after = later.unsent := by
  cases act with
  | still ended sync produced handed => simp [sessions, produced, handed]
  | call request sync ended idle running allowed called produced handed next =>
      simp [sessions, produced, handed, idle]
  | hand output rest first sync produced handed => simp [sessions, produced, handed, first]

/-- Every accepted message is handled through the phases of the game. -/
theorem goes_handleMessage (src : SocketAddr) {request : Request} (accepted : request.inGame = true) :
    live.Goes (live.MayCall src) ⟨[], false⟩ (handleMessage config src request)
      fun _ later => live.Finished later := by
  have drops : ∀ slot, live.MayCall src (.drop slot) := fun slot => .inr ⟨slot, rfl⟩
  have inputs : ∀ slot message, live.addrs[slot]? = some src →
      live.MayCall src (.input slot message) :=
    fun slot message listed => .inl ⟨slot, message, rfl, listed⟩
  cases request with
  | gameData data => exact goes_handleGameData rfl inputs data
  | gameCache data => exact goes_handleGameCache rfl inputs data
  | dropGame _ => exact goes_handleDropGame rfl drops src
  | quitGame _ => exact goes_handleQuitGame rfl drops src
  | kickUser data => exact goes_handleKickUser rfl drops data src
  | createGame _ | joinGame _ | userQuit _ | startGame _ | readyToPlay _ => cases accepted

/-- The phases of a live game, as what its sessions follow. -/
def discipline (live : LiveGame) (config : Config) :
    Discipline (sessions config live.gameId) Phase where
  shared := live.Intact
  holds := live.holds
  move src := live.move (live.MayCall src)
  agrees phase unsent := phase.unsent = unsent
  ends := live.Finished
  begins := by
    intro src request accepted
    exact ⟨⟨[], false⟩, rfl, fun state intact => ⟨intact, by simp⟩, goes_handleMessage src accepted⟩
  moves := by
    rintro src phase before after later _ ⟨act, holds⟩ rfl
    exact ⟨holds.1, holds, (record_of_act act).symm⟩
  stable := by
    rintro src phase before after later other ⟨act, holds⟩ here
    exact ⟨holds.1, fun ended => act.stopped (here.2 ended)⟩

/-! ## The joint invariant -/

/-- What holds of the histories and of everything which is yet to be sent. Whoever has
something to send is waited for by the next round, and a player who warms up is sent
nothing by others. -/
structure Ordered (live : LiveGame) (start state : AppState)
    (unsent : SocketAddr → List TargetOutput) : Prop where
  histories : ∃ made given,
    ofGame live.gameId state.produced = ofGame live.gameId start.produced ++ made ∧
    ofGame live.gameId state.handed = ofGame live.gameId start.handed ++ given ∧
    InTurn TargetOutput.addr List.Sublist made given unsent ∧
    (live.Registered → InTurn TargetOutput.addr List.IsPrefix made given unsent) ∧
    (live.Registered → live.sync state ≠ none → InTurn TargetOutput.addr Eq made given unsent)
  awaited : ∀ sync, live.sync state = some sync → ¬sync.HasDropped → ∀ src, unsent src ≠ [] →
    ∃ slot, live.addrs[slot]? = some src ∧ sync.Awaits slot
  warming : ∀ sync, live.sync state = some sync → ¬sync.HasDropped → ∀ slot addr,
    live.addrs[slot]? = some addr → sync.Warming slot → ∀ other, other ≠ addr →
      addressed TargetOutput.addr addr (unsent other) = []

theorem ordered_start (start : AppState) : live.Ordered start start fun _ => [] where
  histories := ⟨[], [], by simp, by simp, inTurn_nil (.refl _), fun _ => inTurn_nil List.prefix_rfl,
    fun _ _ => inTurn_nil rfl⟩
  awaited := fun _ _ _ _ holds => absurd rfl holds
  warming := fun _ _ _ _ _ _ _ _ _ => rfl

/-- Everybody has been handed what it should have been. -/
theorem Ordered.inOrder {start state : AppState} {unsent : SocketAddr → List TargetOutput}
    (ordered : live.Ordered start state unsent) (addr : SocketAddr) :
    live.InOrder start state addr := by
  obtain ⟨made, given, produced, handed, sublist, complete, _⟩ := ordered.histories
  have sinceProduced : newFor live.gameId addr start.produced state.produced =
      addressed TargetOutput.addr addr made := by
    rw [newFor, produced, List.drop_left]
  have sinceHanded : newFor live.gameId addr start.handed state.handed =
      addressed TargetOutput.addr addr given := by
    rw [newFor, handed, List.drop_left]
  constructor
  · rw [sinceProduced, sinceHanded]
    apply sublist.handed
    exact fun left dropped right related => (List.sublist_append_left left dropped).trans related
  · intro registered
    rw [sinceProduced, sinceHanded]
    apply (complete registered).handed
    exact fun left dropped right related => (List.prefix_append left dropped).trans related

/-! ## One section -/

section Act

variable {start state after : AppState} {unsent : SocketAddr → List TargetOutput} {src : SocketAddr}
  {phase later : Phase} {sync : SyncManager} {request : Call}

/-- A response of a call goes to the address of a slot which the call answers. -/
theorem slot_of_output (intact : live.Intact state) (running : live.sync state = some sync)
    {output : TargetOutput} (answered : output ∈ live.outputs sync request) :
    ∃ slot, sync.Answers request slot ∧ live.addrs[slot]? = some output.addr := by
  obtain ⟨frame, member, rfl⟩ := List.mem_map.mp answered
  refine ⟨frame.slot,
    SyncManager.answers_of_returned (intact.runs sync running).2.2.2 member, ?_⟩
  have inRange := slot_lt intact running member
  simp [output, List.getD_eq_getElem?_getD, List.getElem?_eq_getElem inRange]

/-- While nobody has been dropped, nobody else has responses to send to whom an input
answers: a completed round waited for every other session, and a warmup frame goes to the
sender itself. -/
theorem Ordered.free (ordered : live.Ordered start state unsent) (intact : live.Intact state)
    (running : live.sync state = some sync) (everyone : ¬sync.HasDropped) {slot : Nat}
    {message : ClientInput} (sender : live.addrs[slot]? = some src) {output : TargetOutput}
    (answered : output ∈ live.outputs sync (.input slot message)) {other : SocketAddr}
    (different : other ≠ src) : addressed TargetOutput.addr output.addr (unsent other) = [] := by
  obtain ⟨target, answers, listed⟩ := slot_of_output intact running answered
  rcases answers with completes | warms
  · by_contra holds
    have busy : unsent other ≠ [] := by
      intro nothing
      rw [nothing] at holds
      exact holds rfl
    obtain ⟨awaited, seat, awaits⟩ := ordered.awaited sync running everyone other busy
    rcases awaits.completes everyone completes with dropped | ⟨_, same⟩
    · exact Call.noConfusion dropped
    · rw [(Call.input.inj same).1, seat] at sender
      exact different (Option.some.inj sender)
  · obtain ⟨⟨_, same⟩, warming⟩ := SyncManager.input_of_warmsUp warms
    have sameSlot := (Call.input.inj same).1
    subst sameSlot
    have own : output.addr = src := Option.some.inj (listed.symm.trans sender)
    rw [own]
    exact ordered.warming sync running everyone slot src sender warming other different

/-- A section which neither calls nor hands over keeps what is to be sent. -/
theorem Ordered.still (ordered : live.Ordered start state unsent)
    (sync : live.sync after = live.sync state)
    (produced : ofGame live.gameId after.produced = ofGame live.gameId state.produced)
    (handed : ofGame live.gameId after.handed = ofGame live.gameId state.handed) :
    live.Ordered start after unsent where
  histories := by
    rw [produced, handed, sync]
    exact ordered.histories
  awaited := by
    rw [sync]
    exact ordered.awaited
  warming := by
    rw [sync]
    exact ordered.warming

/-- The next response of a session is handed over. -/
theorem Ordered.hand (ordered : live.Ordered start state unsent) {output : TargetOutput}
    {rest : List TargetOutput} (first : unsent src = output :: rest)
    (sync : live.sync after = live.sync state)
    (produced : ofGame live.gameId after.produced = ofGame live.gameId state.produced)
    (handed : ofGame live.gameId after.handed = ofGame live.gameId state.handed ++ [output]) :
    live.Ordered start after (Function.update unsent src rest) where
  histories := by
    obtain ⟨made, given, madeSo, givenSo, sublist, complete, exact⟩ := ordered.histories
    refine ⟨made, given ++ [output], produced.trans madeSo, ?_, sublist.hand first, ?_, ?_⟩
    · rw [handed, givenSo, List.append_assoc]
    · exact fun registered => (complete registered).hand first
    · intro registered running
      exact (exact registered (sync ▸ running)).hand first
  awaited := by
    intro engine running everyone other busy
    rw [sync] at running
    apply ordered.awaited engine running everyone other
    by_cases same : other = src
    · subst same
      simp [first]
    · rwa [Function.update_of_ne same] at busy
  warming := by
    intro engine running everyone slot addr listed warming other different
    rw [sync] at running
    have nothing := ordered.warming engine running everyone slot addr listed warming other different
    by_cases same : other = src
    · subst same
      rw [Function.update_self]
      rw [first] at nothing
      exact List.filter_eq_nil_iff.mpr fun item member =>
        List.filter_eq_nil_iff.mp nothing item (List.mem_cons_of_mem output member)
    · rwa [Function.update_of_ne same]

/-- A session which has nothing to send calls the engine. -/
theorem Ordered.call (ordered : live.Ordered start state unsent) (intact : live.Intact state)
    (idle : unsent src = []) (running : live.sync state = some sync)
    (may : live.MayCall src request)
    (produced : ofGame live.gameId after.produced =
      ofGame live.gameId state.produced ++ live.outputs sync request)
    (handed : ofGame live.gameId after.handed = ofGame live.gameId state.handed)
    (next : live.sync after = some (sync.call live.gameId request).2 ∨ live.sync after = none)
    (clear : (∃ slot, request = .drop slot) ∨ sync.HasDropped → ∀ slot addr,
      sync.Answers request slot → live.addrs[slot]? = some addr →
        ∀ other, other ≠ src → ∀ output ∈ unsent other, output.addr ≠ addr) :
    live.Ordered start after (Function.update unsent src (live.outputs sync request)) := by
  have settled := (intact.runs sync running).2.2.2
  have free : ∀ output ∈ live.outputs sync request, ∀ other, other ≠ src →
      addressed TargetOutput.addr output.addr (unsent other) = [] := by
    intro output answered other different
    by_cases departed : (∃ slot, request = .drop slot) ∨ sync.HasDropped
    · obtain ⟨slot, answers, listed⟩ := slot_of_output intact running answered
      apply List.filter_eq_nil_iff.mpr
      intro item member
      simpa using clear departed slot output.addr answers listed other different item member
    · obtain ⟨noDrop, everyone⟩ := not_or.mp departed
      obtain ⟨slot, message, rfl, sender⟩ := may.resolve_right noDrop
      exact ordered.free intact running everyone sender answered different
  -- a call which leaves everybody in and answers somebody is an input of the session
  have sender : ∀ engine, live.sync after = some engine → ¬engine.HasDropped →
      live.outputs sync request ≠ [] → ¬sync.HasDropped ∧
        engine = (sync.call live.gameId request).2 ∧
          ∃ slot message, request = .input slot message ∧ live.addrs[slot]? = some src := by
    intro engine goesOn everyone answered
    obtain rfl : engine = (sync.call live.gameId request).2 := by
      rcases next with called | stopped
      · exact Option.some.inj (goesOn.symm.trans called)
      · rw [stopped] at goesOn
        cases goesOn
    refine ⟨fun dropped => everyone (dropped.call settled), rfl, may.resolve_right ?_⟩
    rintro ⟨slot, rfl⟩
    apply everyone
    apply SyncManager.hasDropped_of_drop settled
    intro nobody
    exact answered (by rw [outputs, nobody, List.map_nil])
  have before : ∀ engine, live.sync after = some engine → ¬engine.HasDropped →
      ¬sync.HasDropped ∧ engine = (sync.call live.gameId request).2 := by
    intro engine goesOn everyone
    rcases next with called | stopped
    · obtain rfl := Option.some.inj (goesOn.symm.trans called)
      exact ⟨fun dropped => everyone (dropped.call settled), rfl⟩
    · rw [stopped] at goesOn
      cases goesOn
  constructor
  · obtain ⟨made, given, madeSo, givenSo, sublist, complete, exact⟩ := ordered.histories
    refine ⟨made ++ live.outputs sync request, given, ?_, handed.trans givenSo, ?_, ?_, ?_⟩
    · rw [produced, madeSo, List.append_assoc]
    · apply sublist.make _ idle free
      exact fun left right more related => List.Sublist.append related (List.Sublist.refl more)
    · intro registered
      have all := exact registered (by simp [running])
      have extended : InTurn TargetOutput.addr Eq (made ++ live.outputs sync request) given
          (Function.update unsent src (live.outputs sync request)) := by
        apply all.make _ idle free
        rintro left _ more rfl
        rfl
      apply extended.mono
      rintro left _ rfl
      exact List.prefix_rfl
    · intro registered _
      apply (exact registered (by simp [running])).make _ idle free
      rintro left _ more rfl
      rfl
  · intro engine goesOn everyone other busy
    by_cases same : other = src
    · subst same
      rw [Function.update_self] at busy
      obtain ⟨everyoneBefore, rfl, slot, message, rfl, seat⟩ := sender engine goesOn everyone busy
      refine ⟨slot, seat, SyncManager.awaits_of_answered settled everyoneBefore ?_⟩
      intro nobody
      exact busy (by rw [outputs, nobody, List.map_nil])
    · rw [Function.update_of_ne same] at busy
      obtain ⟨everyoneBefore, rfl⟩ := before engine goesOn everyone
      obtain ⟨slot, seat, awaits⟩ := ordered.awaited sync running everyoneBefore other busy
      refine ⟨slot, seat, awaits.call settled ?_⟩
      rintro message rfl
      obtain ⟨own, _, input, sender⟩ := may.resolve_right (by rintro ⟨_, wrong⟩; cases wrong)
      rw [← (Call.input.inj input).1, seat] at sender
      exact same (Option.some.inj sender)
  · intro engine goesOn everyone slot addr listed warming other different
    obtain ⟨everyoneBefore, rfl⟩ := before engine goesOn everyone
    have warmed := warming.before settled
    by_cases same : other = src
    · subst same
      rw [Function.update_self]
      apply List.filter_eq_nil_iff.mpr
      intro output answered
      obtain ⟨_, _, own, message, rfl, seat⟩ := sender _ goesOn everyone (List.ne_nil_of_mem answered)
      obtain ⟨target, answers, targetListed⟩ := slot_of_output intact running answered
      rcases answers with completes | warms
      · exact absurd warmed (SyncManager.not_warming_of_completes settled everyoneBefore completes)
      · obtain ⟨⟨_, input⟩, _⟩ := SyncManager.input_of_warmsUp warms
        rw [← (Call.input.inj input).1, seat] at targetListed
        have sameAddr := Option.some.inj targetListed
        simpa [← sameAddr] using different
    · rw [Function.update_of_ne same]
      exact ordered.warming sync running everyoneBefore slot addr listed warmed other different

/-- A task which may stop gives up what is left. -/
theorem Ordered.finish (ordered : live.Ordered start state unsent) (agrees : phase.unsent = unsent src)
    (here : live.holds phase state) (finished : live.Finished phase) :
    live.Ordered start state (Function.update unsent src []) := by
  by_cases nothing : unsent src = []
  · rw [← nothing, Function.update_eq_self]
    exact ordered
  have stopped : phase.ended = true ∨ ¬live.Registered :=
    finished.resolve_left (agrees ▸ nothing)
  have shrinks : ∀ addr other, addressed TargetOutput.addr addr (unsent other) = [] →
      addressed TargetOutput.addr addr (Function.update unsent src [] other) = [] := by
    intro addr other empty
    by_cases same : other = src
    · rw [same, Function.update_self, addressed_nil]
    · rwa [Function.update_of_ne same]
  constructor
  · obtain ⟨made, given, madeSo, givenSo, sublist, complete, _⟩ := ordered.histories
    refine ⟨made, given, madeSo, givenSo, ?_, ?_, ?_⟩
    · apply sublist.discard
      exact fun left dropped right related => (List.sublist_append_left left dropped).trans related
    · intro registered
      apply (complete registered).discard
      exact fun left dropped right related => (List.prefix_append left dropped).trans related
    · intro registered running
      exact absurd (here.2 (stopped.resolve_right (not_not.mpr registered))) running
  · intro sync running everyone other busy
    apply ordered.awaited sync running everyone other
    by_cases same : other = src
    · rw [same, Function.update_self] at busy
      exact absurd rfl busy
    · rwa [Function.update_of_ne same] at busy
  · intro sync running everyone slot addr listed warming other different
    exact shrinks addr other
      (ordered.warming sync running everyone slot addr listed warming other different)

end Act

/-- In every interleaving of the handlers of a live game whose sections are clear, every
player is handed its responses in the order in which the engine produced them. -/
theorem frames_in_order (config : Config) (live : LiveGame) {start : AppState}
    (intact : live.Intact start) {turns : List (Turn SocketAddr Request)}
    (clear : (sessions config live.gameId).machine.Along (live.Clear config) (.idle start) turns)
    (addr : SocketAddr) :
    live.InOrder start ((sessions config live.gameId).machine.final (.idle start) turns).state
      addr := by
  have ordered := (live.discipline config).invariant_along
    (fun state unsent => live.Ordered start state unsent) ?_ ?_ ?_ intact (ordered_start start) clear
  · exact ordered.inOrder addr
  · intro state unsent src request ordered resting _
    rw [show (sessions config live.gameId).opening src request = unsent src from resting.symm,
      Function.update_eq_self]
    exact ordered
  · rintro pool src phase later allowed ordered agrees here ⟨act, _⟩
    have agrees : phase.unsent = (sessions config live.gameId).note pool src := agrees
    rw [← agrees, record_of_act act]
    cases act with
    | still ended sync produced handed =>
        rw [agrees, Function.update_eq_self]
        exact ordered.still sync produced handed
    | call request sync ended idle running may called produced handed next =>
        exact ordered.call here.1 (agrees.symm.trans idle) running may produced handed next
          (allowed request sync called running)
    | hand output rest first sync produced handed =>
        exact ordered.hand (agrees.symm.trans first) sync produced handed
  · intro state unsent src phase ordered agrees here finished
    exact ordered.finish agrees here finished

end LiveGame

/-! ## Games of reachable states -/

/-- The game behind a reference as its tasks find it. -/
def AppState.live (state : AppState) (gameId : UInt32) (ref : GameRef)
    (distinct : ((state.games.arena ref).players.map GamePlayerInfo.addr).Nodup) : LiveGame :=
  ⟨gameId, ref, (state.games.arena ref).players.map GamePlayerInfo.addr, state.clients.byAddr, distinct⟩

/-- After every run of complete handlers, the tasks may rely on every listed game. -/
theorem intact_final (config : Config) {start : AppState} (opening : start.Opening)
    (requests : List (SocketAddr × Request)) {gameId : UInt32} {ref : GameRef}
    (listed : ((server config).final start requests).games.byId gameId = some ref)
    (distinct : ((((server config).final start requests).games.arena ref).players.map
      GamePlayerInfo.addr).Nodup) :
    (((server config).final start requests).live gameId ref distinct).Intact
      ((server config).final start requests) := by
  have sound := sound_final config opening requests
  generalize (server config).final start requests = state at *
  constructor
  · rfl
  · intro other otherRef found
    constructor
    · rintro rfl
      exact Option.some.inj (found.symm.trans listed)
    · rintro rfl
      exact state.games.unshared other gameId _ found listed
  · intro sync running
    have here : state.hall.room gameId = some (state.games.arena ref) := by
      change state.games.find gameId = _
      rw [GameTable.find, listed, Option.map_some]
    have serves := ((sound.rooms gameId _ here).playing sync running).2
    refine ⟨listed, rfl, ?_, serves.settled⟩
    rw [serves.sized]
    exact (List.length_map ..).symm

/-- What `Clear` asks of the sessions of a group, also while nobody was dropped. -/
def LiveGame.ClearAmong (live : LiveGame) (config : Config) (group : List SocketAddr) (pool : SessionPool) :
    Turn SocketAddr Request → Prop
  | .receive _ _ => True
  | .advance src => ∀ call ∈ (pool.upcoming src).calls.drop pool.state.calls.length,
      ∀ sync ∈ live.sync pool.state, ∀ entry ∈ live.addrs.zipIdx, sync.Answers call.2 entry.2 →
        ∀ other ∈ group, other ≠ src → ∀ output ∈ (sessions config live.gameId).note pool other,
          output.addr ≠ entry.1

instance decidableAnswers (sync : SyncManager) (request : Call) (slot : Nat) :
    Decidable (sync.Answers request slot) :=
  inferInstanceAs (Decidable (_ ∨ _))

instance decidableClearAmong (live : LiveGame) (config : Config) (group : List SocketAddr)
    (pool : SessionPool) : ∀ turn, Decidable (live.ClearAmong config group pool turn)
  | .receive _ _ => inferInstanceAs (Decidable True)
  | .advance _ =>
      @List.decidableBAll _ _ (fun _ => @Option.decidableForallMem _ _ (fun _ =>
        inferInstance) _) _

/-- Clear among those who take turns is clear. -/
theorem clear_among {live : LiveGame} {config : Config} {group : List SocketAddr} {start : AppState}
    {turns : List (Turn SocketAddr Request)} (within : ∀ turn ∈ turns, turn.session ∈ group)
    (clear : (sessions config live.gameId).machine.Along (live.ClearAmong config group)
      (.idle start) turns) :
    (sessions config live.gameId).machine.Along (live.Clear config) (.idle start) turns := by
  refine Program.along_sessions ?_ (fun _ _ => rfl) within clear
  rintro pool (_ | src) resting clear
  · trivial
  intro request sync called running _ slot addr answers listed other different output unsent
  by_cases member : other ∈ group
  · refine clear (live.gameId, request) ?_ sync running (addr, slot) ?_ answers other member
      different output unsent
    · simp [called]
    · exact List.mk_mem_zipIdx_iff_getElem?.mpr listed
  · simp [Program.note, resting other member, sessions] at unsent

/-- Three players are warmed up, and two of them have played. -/
def twoPlayed : AppState :=
  (server oneFrame).final threeClients (warmedUp ++ [playsByte 1, playsByte 2])

/-- Their game. -/
def threePlayers : LiveGame := twoPlayed.live 1 0 (by decide +kernel)

theorem threePlayers_intact : threePlayers.Intact twoPlayed :=
  intact_final oneFrame threeClients_opening _ (by decide +kernel) _

/-- The third player drops, which completes the round. While its task still sends the frames the
first player goes on; the second completes the next round after that. -/
def dropping : List (Turn SocketAddr Request) :=
  .receive 3 (.dropGame []) :: List.replicate 8 (.advance 3) ++
    (.receive 1 (.gameData [0, 1, 0, 9]) :: List.replicate 4 (.advance 1)) ++
    List.replicate 16 (.advance 3) ++ List.replicate 4 (.advance 1) ++
    List.replicate 14 (.advance 3) ++
    (.receive 2 (.gameData [0, 1, 0, 8]) :: List.replicate 12 (.advance 2))

/-- The first player is handed the frames of both rounds in order. -/
theorem frames_in_order_third_player :
    let reached := ((sessions oneFrame 1).machine.final (.idle twoPlayed) dropping).state
    threePlayers.InOrder twoPlayed reached 1 ∧
      (newFor 1 1 twoPlayed.handed reached.handed).length = 2 :=
  ⟨LiveGame.frames_in_order oneFrame threePlayers threePlayers_intact
    (@clear_among _ _ [1, 2, 3] _ _ (by decide +kernel) (by decide +kernel)) 1, by decide +kernel⟩

/-- The third player drops, which completes the round. Before its task sends the frames, the
others complete the next round and the second player's task sends it to the first one. -/
def overtaking : List (Turn SocketAddr Request) :=
  .receive 3 (.dropGame []) :: List.replicate 8 (.advance 3) ++
    (.receive 1 (.gameData [0, 1, 0, 9]) :: List.replicate 8 (.advance 1)) ++
    (.receive 2 (.gameData [0, 1, 0, 8]) :: List.replicate 12 (.advance 2)) ++
    List.replicate 30 (.advance 3)

theorem frames_overtaken_after_drop :
    threePlayers.Intact twoPlayed ∧ threePlayers.Registered ∧
      ¬threePlayers.InOrder twoPlayed
        ((sessions oneFrame 1).machine.final (.idle twoPlayed) overtaking).state 1 := by
  refine ⟨threePlayers_intact, ?_, fun inOrder => ?_⟩
  · unfold LiveGame.Registered
    decide +kernel
  · have sublist := inOrder.ordered
    revert sublist
    decide +kernel

end Direlera.Lobby
