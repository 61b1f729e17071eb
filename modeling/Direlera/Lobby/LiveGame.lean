import Direlera.Lobby.RoomInvariant
import Direlera.Lobby.View

/-!
# One live game as the tasks of a server see it

A `LiveGame` fixes what no task changes: the id and the reference of the game, the addresses
by slot and the sessions. `Intact` is what every task relies on and leaves behind. A task
moves through phases: it calls the engine of the game only while it has nothing to send, and
it hands over what the engine answered in order. What it does to other games does not show.
-/

namespace Direlera.Lobby

open Direlera.Library Direlera.Sync Direlera.Sync.SimplestGameSync

/-- The responses of one game in a history. -/
def ofGame (gameId : UInt32) (history : List TargetOutput) : List TargetOutput :=
  history.filter fun output => output.frame.origin = gameId

theorem ofGame_append (gameId : UInt32) (first second : List TargetOutput) :
    ofGame gameId (first ++ second) = ofGame gameId first ++ ofGame gameId second :=
  List.filter_append ..

/-- The constants of a live game. -/
structure LiveGame where
  gameId : UInt32
  ref : GameRef
  addrs : List SocketAddr
  byAddr : List (SocketAddr × SessionId)
  distinct : addrs.Nodup

/-- How far a task has come: the responses which it has yet to send, and whether it knows
that the game is over. -/
structure Phase where
  unsent : List TargetOutput
  ended : Bool

namespace LiveGame

variable (live : LiveGame)

/-- Every player has a session. -/
def Registered : Prop := ∀ addr ∈ live.addrs, (live.byAddr.lookup addr).isSome = true

/-- Where a task may stop: with nothing to send, after the end of the game, or at a player
who has no session. -/
def Finished (phase : Phase) : Prop :=
  phase.unsent = [] ∨ phase.ended = true ∨ ¬live.Registered

/-- The engine of the game, while it runs. -/
def sync (state : AppState) : Option SyncManager := (state.games.arena live.ref).syncManager

/-- A response with the address of its slot. -/
def output (frame : Frame) : TargetOutput := ⟨live.addrs.getD frame.slot 0, frame⟩

/-- A response of the game to one of its players. -/
structure Own (output : TargetOutput) : Prop where
  listed : output.addr ∈ live.addrs
  origin : output.frame.origin = live.gameId

/-- The responses of a call. -/
def outputs (sync : SyncManager) (request : Call) : List TargetOutput :=
  (returned (sync.call live.gameId request).1).map live.output

/-- What every task relies on. -/
structure Intact (state : AppState) : Prop where
  byAddr : state.clients.byAddr = live.byAddr
  apart : ∀ gameId ref, state.games.byId gameId = some ref →
    (gameId = live.gameId ↔ ref = live.ref)
  runs : ∀ sync, live.sync state = some sync → state.games.byId live.gameId = some live.ref ∧
    (state.games.arena live.ref).players.map GamePlayerInfo.addr = live.addrs ∧
    sync.playerCount = live.addrs.length ∧ sync.engine.Settled

/-- The states which a phase allows. -/
def holds (phase : Phase) (state : AppState) : Prop :=
  live.Intact state ∧ (phase.ended = true → live.sync state = none)

/-- What a section may do to the engine and to the histories of its responses. -/
inductive Act (calls : Call → Prop) (phase : Phase) (before after : AppState) : Phase → Prop
  | still (ended : Bool) (sync : live.sync after = live.sync before)
      (produced : ofGame live.gameId after.produced = ofGame live.gameId before.produced)
      (handed : ofGame live.gameId after.handed = ofGame live.gameId before.handed) :
      Act calls phase before after ⟨phase.unsent, ended⟩
  | call (request : Call) (sync : SyncManager) (ended : Bool) (idle : phase.unsent = [])
      (running : live.sync before = some sync) (allowed : calls request)
      (called : after.calls = before.calls ++ [(live.gameId, request)])
      (produced : ofGame live.gameId after.produced =
        ofGame live.gameId before.produced ++ live.outputs sync request)
      (handed : ofGame live.gameId after.handed = ofGame live.gameId before.handed)
      (next : live.sync after = some (sync.call live.gameId request).2 ∨ live.sync after = none) :
      Act calls phase before after ⟨live.outputs sync request, ended⟩
  | hand (output : TargetOutput) (rest : List TargetOutput) (first : phase.unsent = output :: rest)
      (sync : live.sync after = live.sync before)
      (produced : ofGame live.gameId after.produced = ofGame live.gameId before.produced)
      (handed : ofGame live.gameId after.handed = ofGame live.gameId before.handed ++ [output]) :
      Act calls phase before after ⟨rest, phase.ended⟩

/-- A move keeps what the other tasks rely on. -/
def move (calls : Call → Prop) (phase : Phase) (before after : AppState) (later : Phase) : Prop :=
  live.Act calls phase before after later ∧ live.holds later after

variable {live} {calls : Call → Prop} {phase : Phase} {before after state : AppState}

/-- Once over, the game stays over. -/
theorem Act.stopped {later : Phase} (act : live.Act calls phase before after later)
    (stopped : live.sync before = none) : live.sync after = none := by
  cases act with
  | still _ sync => exact sync.trans stopped
  | call _ _ _ _ running => simp [stopped] at running
  | hand _ _ _ sync => exact sync.trans stopped

/-- A section which leaves this game alone stays in its phase. -/
theorem holds.aside (here : live.holds phase before)
    (byAddr : after.clients.byAddr = before.clients.byAddr)
    (arena : after.games.arena live.ref = before.games.arena live.ref)
    (listed : after.games.byId live.gameId = before.games.byId live.gameId)
    (fewer : ∀ gameId ref, after.games.byId gameId = some ref → before.games.byId gameId = some ref)
    (produced : ofGame live.gameId after.produced = ofGame live.gameId before.produced)
    (handed : ofGame live.gameId after.handed = ofGame live.gameId before.handed) :
    live.move calls phase before after phase := by
  have sync : live.sync after = live.sync before := congrArg GameInfo.syncManager arena
  refine ⟨.still phase.ended sync produced handed, ⟨?_, ?_, ?_⟩, ?_⟩
  · exact byAddr.trans here.1.byAddr
  · exact fun gameId ref found => here.1.apart gameId ref (fewer gameId ref found)
  · rw [sync, arena, listed]
    exact here.1.runs
  · intro ended
    exact sync.trans (here.2 ended)

/-- A section which touches neither sessions nor games nor histories stays in its phase. -/
theorem holds.still (here : live.holds phase before)
    (byAddr : after.clients.byAddr = before.clients.byAddr) (games : after.games = before.games)
    (produced : ofGame live.gameId after.produced = ofGame live.gameId before.produced)
    (handed : ofGame live.gameId after.handed = ofGame live.gameId before.handed) :
    live.move calls phase before after phase :=
  here.aside byAddr (by rw [games]) (by rw [games]) (by simp [games]) produced handed

theorem holds.still_of_view (here : live.holds phase before) (same : after.view = before.view) :
    live.move calls phase before after phase :=
  here.still (congrArg View.byAddr same) (congrArg View.games same)
    (congrArg (fun view => ofGame live.gameId view.produced) same)
    (congrArg (fun view => ofGame live.gameId view.handed) same)

/-- What a task may do from a phase on. -/
abbrev Goes {Result : Type} (live : LiveGame) (calls : Call → Prop) (phase : Phase)
    (task : Handler Result) (ends : Except Report Result → Phase → Prop) : Prop :=
  Task.Follows live.holds (live.move calls) phase task ends

/-- A quiet task stays in its phase. -/
theorem goes_quiet {Result : Type} {task : Handler Result} (quiet : Quiet task) :
    live.Goes calls phase task fun _ later => later = phase :=
  quiet.follows fun _ _ here same => here.still_of_view same

/-- Reading the state ends with what was read. -/
theorem goes_inspect {Result : Type} {read : AppState → Result}
    {ends : Except Report Result → Phase → Prop}
    (here : ∀ state, live.holds phase state → ∃ ended,
      (ended = true → live.sync state = none) ∧ ends (.ok (read state)) ⟨phase.unsent, ended⟩) :
    live.Goes calls phase (.inspect read) ends := by
  intro state holds
  obtain ⟨ended, stopped, done⟩ := here state holds
  exact ⟨_, ⟨.still ended rfl rfl rfl, holds.1, stopped⟩, done⟩

/-- What was read was there. -/
theorem goes_read {Result : Type} (read : AppState → Result) :
    live.Goes calls phase (.inspect read) fun outcome later =>
      later = phase ∧ ∃ state, live.holds phase state ∧ outcome = .ok (read state) :=
  goes_inspect fun state here => ⟨phase.ended, here.2, rfl, state, here, rfl⟩

/-- A member may change anything but its session. -/
theorem goes_updateClient {Result : Type} (addr : SocketAddr)
    (change : ClientInfo → Result × ClientInfo) :
    live.Goes calls phase (updateClient addr change) fun _ later => later = phase := by
  refine (goes_quiet (quiet_inspect _)).bind ?_ fun _ _ => id
  rintro session _ rfl
  cases session with
  | none => exact rfl
  | some session =>
      refine Task.follows_critical fun state holds => ⟨_, ?_, rfl⟩
      cases state.clients.byId session with
      | none => exact holds.still rfl rfl rfl rfl
      | some client => exact holds.still rfl rfl rfl (congrArg (ofGame live.gameId) (List.append_nil _))

/-- A player has a session, if every player has one. -/
theorem goes_session {addr : SocketAddr} (listed : addr ∈ live.addrs) :
    live.Goes calls phase (Task.inspect fun state : AppState => state.clients.session addr)
      fun outcome later => later = phase ∧ ((∃ session, outcome = .ok (some session) ∧
        (addr, session) ∈ live.byAddr) ∨ outcome = .ok none ∧ ¬live.Registered) := by
  apply (goes_read _).mono
  rintro _ _ ⟨rfl, state, here, rfl⟩
  refine ⟨rfl, ?_⟩
  have lookup : state.clients.session addr = live.byAddr.lookup addr := by
    rw [ClientRegistry.session, here.1.byAddr]
  cases known : state.clients.session addr with
  | none =>
      refine .inr ⟨rfl, fun registered => ?_⟩
      have some := registered addr listed
      simp [← lookup, known] at some
  | some session =>
      exact .inl ⟨session, rfl, here.1.byAddr ▸ state.clients.mem_of_session known⟩

/-- A player's client is there to be changed, if every player has a session. -/
theorem goes_updatePlayer {Result : Type} {addr : SocketAddr} (listed : addr ∈ live.addrs)
    (change : ClientInfo → Result × ClientInfo) :
    live.Goes calls phase (updateClient addr change) fun outcome later =>
      later = phase ∧ ((∃ result, outcome = .ok result) ∨ ¬live.Registered) := by
  apply (goes_session listed).bind
  · rintro _ _ ⟨rfl, ⟨session, same, member⟩ | ⟨same, missing⟩⟩
    · obtain rfl := Except.ok.inj same
      apply Task.follows_critical
      intro state here
      have present := state.clients.registered (addr, session) (here.1.byAddr ▸ member)
      obtain ⟨client, known⟩ := Option.isSome_iff_exists.mp present
      simp only [known]
      exact ⟨_, here.still rfl rfl rfl (congrArg (ofGame live.gameId) (List.append_nil _)), rfl,
        .inl ⟨_, rfl⟩⟩
    · obtain rfl := Except.ok.inj same
      exact ⟨rfl, .inr missing⟩
  · rintro _ _ ⟨_, ⟨_, same, _⟩ | ⟨same, _⟩⟩
    · cases same
    · cases same

/-! ## Sending -/

/-- The next response is handed over, if every player has a session. -/
theorem goes_sendOutput {output : TargetOutput} {rest : List TargetOutput} {ended : Bool}
    (own : live.Own output) :
    live.Goes calls ⟨output :: rest, ended⟩ (sendOutput output) fun outcome later =>
      later = ⟨rest, ended⟩ ∧ outcome = .ok () ∨
        ¬live.Registered ∧ ∃ report, outcome = .error report := by
  have handed : live.Goes calls ⟨output :: rest, ended⟩
      (updateClientLogging [output] output.addr fun client => client.makeSendPacket
        (responsePacket output.frame.response).1 (responsePacket output.frame.response).2)
      fun outcome later => later = ⟨rest, ended⟩ ∧ (∃ packet, outcome = .ok packet) ∨
        ¬live.Registered ∧ ∃ report, outcome = .error report := by
    apply (goes_session own.listed).bind
    · rintro _ _ ⟨rfl, ⟨session, same, member⟩ | ⟨same, missing⟩⟩
      · obtain rfl := Except.ok.inj same
        apply Task.follows_critical
        intro state here
        have present := state.clients.registered (output.addr, session) (here.1.byAddr ▸ member)
        obtain ⟨client, known⟩ := Option.isSome_iff_exists.mp present
        simp only [known]
        refine ⟨⟨rest, ended⟩, ⟨.hand output rest rfl rfl rfl ?_, ⟨?_, ?_, ?_⟩, ?_⟩,
          .inl ⟨rfl, _, rfl⟩⟩
        · simp [ofGame, own.origin]
        · exact here.1.byAddr
        · exact here.1.apart
        · exact here.1.runs
        · exact here.2
      · obtain rfl := Except.ok.inj same
        exact .inr ⟨missing, _, rfl⟩
    · rintro _ _ ⟨_, ⟨_, same, _⟩ | ⟨same, _⟩⟩
      · cases same
      · cases same
  apply handed.bind
  · rintro packet _ (⟨rfl, _⟩ | ⟨_, _, same⟩)
    · exact Task.follows_critical fun state here =>
        ⟨_, here.still rfl rfl rfl rfl, .inl ⟨rfl, rfl⟩⟩
    · cases same
  · rintro report _ (⟨_, _, same⟩ | ⟨missing, _⟩)
    · cases same
    · exact .inr ⟨missing, report, rfl⟩

/-- A send loop hands over everything, in order. -/
theorem goes_sendOutputs {Item : Type} {body : Item → Handler Unit} (output : Item → TargetOutput)
    {items : List Item} {ended : Bool}
    (sends : ∀ item ∈ items, body item = sendOutput (output item))
    (own : ∀ item ∈ items, live.Own (output item)) :
    live.Goes calls ⟨items.map output, ended⟩ (Task.forEach items body) fun _ later =>
      live.Finished later := by
  induction items with
  | nil => exact .inl rfl
  | cons item rest ih =>
      have first : live.Goes calls ⟨(item :: rest).map output, ended⟩ (body item)
          fun outcome later => later = ⟨rest.map output, ended⟩ ∧ outcome = .ok () ∨
            ¬live.Registered ∧ ∃ report, outcome = .error report := by
        rw [sends item List.mem_cons_self]
        exact goes_sendOutput (own item List.mem_cons_self)
      apply first.bind
      · rintro _ _ (⟨rfl, _⟩ | ⟨_, _, same⟩)
        · exact ih (fun other member => sends other (List.mem_cons_of_mem item member))
            fun other member => own other (List.mem_cons_of_mem item member)
        · cases same
      · rintro _ _ (⟨_, same⟩ | ⟨missing, _⟩)
        · cases same
        · exact .inr (.inr missing)

/-- A broadcast always succeeds. -/
theorem goes_broadcast (selected : ClientInfo → Bool) (packetType : UInt8) (data : Bytes)
    (addrs : List SocketAddr) :
    live.Goes calls phase (broadcast selected packetType data addrs) fun outcome later =>
      later = phase ∧ outcome = .ok () := by
  have made : live.Goes calls phase (Task.critical fun state : AppState =>
      (.ok (makePackets selected packetType data addrs state.clients).1,
        { state with
          clients := (makePackets selected packetType data addrs state.clients).2 }))
      fun outcome later => later = phase ∧ ∃ packets, outcome = .ok packets := by
    refine Task.follows_critical fun state here => ⟨phase, ?_, rfl, _, rfl⟩
    exact here.still (makePackets_registry selected packetType data addrs state.clients).1 rfl rfl
      rfl
  refine made.bind ?_ ?_
  · rintro packets _ ⟨rfl, -⟩
    clear made
    induction packets with
    | nil => exact ⟨rfl, rfl⟩
    | cons packet rest ih =>
        exact fun state here => ⟨_, here.still rfl rfl rfl rfl, ih⟩
  · rintro _ _ ⟨_, _, same⟩
    cases same

/-! ## The game behind its id -/

/-- Looking up the game finds its reference, or finds it over. -/
theorem goes_getGameArc :
    live.Goes calls phase (getGameArc live.gameId) fun outcome later =>
      later.unsent = phase.unsent ∧ (phase.ended = true → later.ended = true) ∧
        (outcome = .ok (some live.ref) ∨ outcome = .ok none ∧ later.ended = true) := by
  apply goes_inspect
  intro state here
  cases found : state.games.byId live.gameId with
  | none =>
      refine ⟨true, fun _ => ?_, rfl, fun _ => rfl, .inr ⟨rfl, rfl⟩⟩
      by_contra running
      obtain ⟨sync, runs⟩ := Option.ne_none_iff_exists'.mp running
      simp [(here.1.runs sync runs).1] at found
  | some ref =>
      obtain rfl := (here.1.apart _ _ found).mp rfl
      exact ⟨phase.ended, here.2, rfl, id, .inl rfl⟩

/-- A game is this one, or another one with another reference. -/
theorem goes_getGameArc_any (gameId : UInt32) :
    live.Goes calls phase (getGameArc gameId) fun outcome later => later = phase ∧
      (outcome = .ok none ∨ gameId = live.gameId ∧ outcome = .ok (some live.ref) ∨
        gameId ≠ live.gameId ∧ ∃ ref, ref ≠ live.ref ∧ outcome = .ok (some ref)) := by
  apply goes_inspect
  intro state here
  refine ⟨phase.ended, here.2, rfl, ?_⟩
  cases found : state.games.byId gameId with
  | none => exact .inl rfl
  | some ref =>
      have same := here.1.apart _ _ found
      by_cases own : gameId = live.gameId
      · exact .inr (.inl ⟨own, by rw [same.mp own]⟩)
      · exact .inr (.inr ⟨own, ref, fun equal => own (same.mpr equal), rfl⟩)

/-- Reading the game succeeds, and finds it over if it is gone. -/
theorem goes_getGame :
    live.Goes calls phase (getGame live.gameId) fun outcome later =>
      later.unsent = phase.unsent ∧ (phase.ended = true → later.ended = true) ∧
        ∃ found, outcome = .ok found ∧ (found = none → later.ended = true) := by
  refine goes_getGameArc.bind ?_ ?_
  · rintro result later ⟨unsent, still, found | ⟨missing, ended⟩⟩
    · obtain rfl := Except.ok.inj found
      refine (goes_read _).bind ?_ ?_
      · rintro game _ ⟨rfl, -⟩
        exact ⟨unsent, still, some game, rfl, by simp⟩
      · rintro _ _ ⟨_, _, _, same⟩
        cases same
    · obtain rfl := Except.ok.inj missing
      exact ⟨unsent, still, none, rfl, fun _ => ended⟩
  · rintro _ _ ⟨_, _, found | ⟨missing, _⟩⟩
    · cases found
    · cases missing

/-- Telling the room succeeds unless the game is over. -/
theorem goes_tellRoom (packetType : UInt8) (data : Bytes) :
    live.Goes calls phase (broadcastPacketToGame live.gameId packetType data) fun outcome later =>
      later.unsent = phase.unsent ∧ (phase.ended = true → later.ended = true) ∧
        (outcome = .ok () ∨ later.ended = true) := by
  refine goes_getGame.bind ?_ ?_
  · rintro result later ⟨unsent, still, found, same, gone⟩
    obtain rfl := Except.ok.inj same
    cases result with
    | none => exact ⟨unsent, still, .inr (gone rfl)⟩
    | some game =>
        refine (goes_broadcast _ _ _ _).mono ?_
        rintro _ _ ⟨rfl, succeeded⟩
        exact ⟨unsent, still, .inl succeeded⟩
  · rintro _ _ ⟨_, _, _, same, _⟩
    cases same

end LiveGame

end Direlera.Lobby
