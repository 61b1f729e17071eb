import Direlera.Lobby.LiveRooms
import Direlera.Lobby.ReadySignal

/-!
# The ready barrier

`ReadyRecord` remembers of a run who has signalled readiness since the start of its game,
which rooms were notified since, whose status may have been reset in between, and whose last
signal still stands. While nobody's status was reset the statuses say exactly what the record
says, and net sync is owed to a standing signal in any case; `BarrierReliable` is what of
this history makes the barrier exact.
-/

namespace Direlera.Lobby

open Direlera.Library Direlera.Sync Direlera.Wire

/-- The players which have neither left the room nor dropped. -/
def GameInfo.remaining (game : GameInfo) : List GamePlayerInfo :=
  (game.players.zipIdx.filter fun (player, slot) => !player.leftRoom && !game.dropped slot).map
    Prod.fst

/-- Whether a game is being played. -/
def AppState.isLive (state : AppState) (gameId : UInt32) : Bool :=
  (state.games.find gameId).any fun game => game.syncManager.isSome

/-! ## The record of a run -/

/-- What happened since the last start, by player and by game. A signal stands until its
player leaves a game, is in one which starts, or signals were answered in a room which lists
the player. -/
structure ReadyRecord where
  signalled : SocketAddr → Bool
  notified : UInt32 → Bool
  unsettled : SocketAddr → Bool
  standing : SocketAddr → Bool

namespace ReadyRecord

/-- Nothing happened yet, but for the clients which are ready from the start. -/
def opening (start : AppState) : ReadyRecord where
  signalled _ := false
  notified _ := false
  unsettled _ := false
  standing addr := decide (start.status addr = some playerStatusNetSync)

/-- A start forgets what happened to the players of the started game. -/
def start (record : ReadyRecord) (before after : AppState) : ReadyRecord :=
  let started gameId := !before.isLive gameId && after.isLive gameId
  let anew addr := (after.hall.gameOf addr).any started
  { signalled addr := record.signalled addr && !anew addr
    notified gameId := record.notified gameId && !started gameId
    unsettled addr := record.unsettled addr && !anew addr
    standing addr := record.standing addr &&
      !(anew addr && (after.roomOf addr).any fun game => game.lists addr) }

/-- A well-formed signal counts from then on. When a room is notified, the statuses of its
tombstones change too, whatever game they are in by then. -/
def signal (record : ReadyRecord) (before after : AppState) (src : SocketAddr) (data : Bytes) :
    ReadyRecord where
  signalled addr := record.signalled addr || (decide (addr = src) && !data.isEmpty)
  notified gameId := record.notified gameId || !(told before after gameId).isEmpty
  unsettled addr := record.unsettled addr || (before.roomOf src).any fun game =>
    game.players.any fun player => decide (player.addr = addr) && player.leftRoom
  standing addr := (record.standing addr || (decide (addr = src) && !data.isEmpty)) &&
    !(before.roomOf src).any fun game => !(told before after game.gameId).isEmpty && game.lists addr

/-- Observe one complete handler run. -/
def observe (before : AppState) (request : SocketAddr × Request) (after : AppState)
    (record : ReadyRecord) : ReadyRecord :=
  match request with
  | (_, .startGame _) => record.start before after
  | (src, .readyToPlay data) => record.signal before after src data
  | (src, request) =>
      { record with
        unsettled addr := record.unsettled addr || before.hall.disturbs src request addr
        standing addr := record.standing addr && !before.hall.leaves src request addr }

/-- Everybody who remains has signalled, counting a signal that is just handled. -/
def everyoneSignalled (record : ReadyRecord) (game : GameInfo) (src : SocketAddr) (data : Bytes) :
    Bool :=
  game.remaining.all fun player =>
    record.signalled player.addr || (decide (player.addr = src) && !data.isEmpty)

/-- A signal is due to raise the notification: the game is live, was not notified since its
start, and everybody who remains has signalled. -/
def due (record : ReadyRecord) (gameId : UInt32) (game : GameInfo) (src : SocketAddr)
    (data : Bytes) : Bool :=
  game.syncManager.isSome && !record.notified gameId && record.everyoneSignalled game src data

/-- The status of a player in the room, if no status was reset. -/
def expected (record : ReadyRecord) (gameId : UInt32) (addr : SocketAddr) : UInt8 :=
  if record.notified gameId then playerStatusPlaying
  else if record.signalled addr then playerStatusNetSync
  else playerStatusIdle

end ReadyRecord

/-- The server beside the record of its run. -/
abbrev recorded (config : Config) :
    Transducer (AppState × ReadyRecord) (SocketAddr × Request) (Except Report Unit) :=
  (server config).recorded ReadyRecord.observe

/-- The payload of a ready signal. -/
def Request.readySignal : Request → Option Bytes
  | .readyToPlay data => some data
  | _ => none

/-- A ready signal of a player in a room notifies everybody in the room if it is due, and
otherwise nobody. -/
def BarrierExact (config : Config) (situation : AppState × ReadyRecord)
    (request : SocketAddr × Request) : Prop :=
  ∀ data ∈ request.2.readySignal, ∀ gameId ∈ situation.1.hall.gameOf request.1,
    ∀ game ∈ situation.1.games.find gameId, (∃ player ∈ game.inRoom, player.addr = request.1) →
      told situation.1 ((server config).step situation.1 request).2 gameId =
        if situation.2.due gameId game request.1 data then game.inRoom.map GamePlayerInfo.addr
        else []

/-- The server heeds a signal and finds the other listed players, tombstones included, in
net sync. -/
def AppState.signalsReady (state : AppState) (src : SocketAddr) (game : GameInfo) (data : Bytes) :
    Bool :=
  state.heeds src data && state.othersReady src game

/-- A game is undisturbed: it is live, and the status of nobody in its room was reset since its
start. -/
def ReadyRecord.undisturbed (record : ReadyRecord) (game : GameInfo) : Prop :=
  game.syncManager.isSome = true ∧ ∀ player ∈ game.inRoom, record.unsettled player.addr = false

/-- The signal of some other listed player does not stand. -/
def ReadyRecord.silent (record : ReadyRecord) (game : GameInfo) (src : SocketAddr) : Prop :=
  ∃ player ∈ game.players, player.addr ≠ src ∧ record.standing player.addr = false

/-- What the history of the room must be when one of its players signals: the game is
undisturbed; or, where the notification is still to come, somebody who remains has not
signalled; or, in a waiting room and after the notification, the signal is malformed or that
of some other listed player does not stand. -/
def BarrierReliable (situation : AppState × ReadyRecord) (request : SocketAddr × Request) : Prop :=
  ∀ data ∈ request.2.readySignal, ∀ gameId ∈ situation.1.hall.gameOf request.1,
    ∀ game ∈ situation.1.games.find gameId, (∃ player ∈ game.inRoom, player.addr = request.1) →
      situation.2.undisturbed game ∨
        if game.syncManager.isSome = true ∧ situation.2.notified gameId = false then
          situation.2.everyoneSignalled game request.1 data = false
        else data.isEmpty = true ∨ situation.2.silent game request.1

/-! ## What the record tells -/

/-- Nobody has left or dropped. -/
structure GameInfo.Whole (game : GameInfo) : Prop where
  present : ∀ player ∈ game.players, player.leftRoom = false
  playing : ∀ slot, game.dropped slot = false

/-- Everybody remains in a whole game. -/
theorem GameInfo.Whole.remaining {game : GameInfo} (whole : game.Whole) :
    game.remaining = game.players := by
  have all : (game.players.zipIdx.filter fun (player, slot) =>
      !player.leftRoom && !game.dropped slot) = game.players.zipIdx := by
    refine List.filter_eq_self.mpr fun entry member => ?_
    have listed := List.fst_mem_of_mem_zipIdx member
    simp [whole.present entry.1 listed, whole.playing entry.2]
  rw [GameInfo.remaining, all, List.zipIdx_map_fst]

/-- Whoever remains is in the room. -/
theorem GameInfo.inRoom_of_remaining {game : GameInfo} {player : GamePlayerInfo}
    (remains : player ∈ game.remaining) : player ∈ game.inRoom := by
  obtain ⟨entry, member, rfl⟩ := List.mem_map.mp remains
  obtain ⟨listed, stays⟩ := List.mem_filter.mp member
  rw [Bool.and_eq_true, Bool.not_eq_true'] at stays
  exact GameInfo.mem_inRoom.mpr ⟨List.fst_mem_of_mem_zipIdx listed, stays.1⟩

/-- The record agrees with a live game: net sync is owed to a signal; a settled player is in a
whole game and has the expected status; a settled game which was not notified still waits
for somebody. -/
structure ReadyRecord.Tells (record : ReadyRecord) (state : AppState) (gameId : UInt32)
    (game : GameInfo) : Prop where
  honest : ∀ player ∈ game.inRoom, state.status player.addr = some playerStatusNetSync →
    record.signalled player.addr = true
  settled : ∀ player ∈ game.inRoom, record.unsettled player.addr = false →
    game.Whole ∧ state.status player.addr = some (record.expected gameId player.addr)
  pending : game.inRoom ≠ [] → (∀ player ∈ game.inRoom, record.unsettled player.addr = false) →
    record.notified gameId = false → ∃ player ∈ game.inRoom, record.signalled player.addr = false

/-- The record agrees with every live game of a lobby in order, and net sync is owed to a
standing signal. -/
structure ReadyRecord.Faithful (record : ReadyRecord) (state : AppState) : Prop where
  sound : state.hall.Sound Hall.nobody
  named : state.hall.Named
  ready : ∀ addr, state.status addr = some playerStatusNetSync → record.standing addr = true
  tells : ∀ gameId game, state.hall.room gameId = some game → game.syncManager.isSome = true →
    record.Tells state gameId game

namespace ReadyRecord

variable {record : ReadyRecord} {state : AppState} {gameId : UInt32} {game : GameInfo}
  {src : SocketAddr}

/-- A registered address has a status. -/
theorem status_isSome (registered : (state.hall.member addr).isSome = true) :
    (state.status addr).isSome = true := by
  rw [hall_member, Option.isSome_map] at registered
  rw [AppState.status, Option.isSome_map]
  exact registered

theorem expected_ne_playing (addr : SocketAddr) (unnotified : record.notified gameId = false) :
    record.expected gameId addr ≠ playerStatusPlaying := by
  unfold expected
  rw [unnotified]
  cases record.signalled addr <;> decide

theorem expected_eq_netSync {addr : SocketAddr} (unnotified : record.notified gameId = false) :
    record.expected gameId addr = playerStatusNetSync ↔ record.signalled addr = true := by
  unfold expected
  rw [unnotified]
  cases record.signalled addr <;> decide

/-! ## The signal is exact -/

/-- Those whom a notification reaches are those in the room. -/
theorem recipients_eq_inRoom (sound : state.hall.Sound Hall.nobody)
    (here : state.hall.room gameId = some game) :
    (game.players.map GamePlayerInfo.addr).filter (fun addr =>
      state.hall.gameOf addr = some gameId) = game.inRoom.map GamePlayerInfo.addr := by
  rw [List.filter_map, GameInfo.inRoom]
  congr 1
  refine List.filter_congr fun player listed => ?_
  have seated := sound.seated gameId game here player listed
  cases left : player.leftRoom with
  | false => simpa [left] using seated
  | true => simpa [left] using seated

/-- Whom a signal of a client in a room notifies. -/
theorem told_signal (config : Config) (sound : state.hall.Sound Hall.nobody)
    (named : state.hall.Named) (inGame : state.hall.gameOf src = some gameId)
    (here : state.hall.room gameId = some game) (data : Bytes) :
    told state ((server config).step state (src, .readyToPlay data)).2 gameId =
      if state.signalsReady src game data then game.inRoom.map GamePlayerInfo.addr else [] := by
  change told state ((handleReadyToPlaySignal data src).run state).2 gameId = _
  cases heeded : state.heeds src data with
  | false =>
      have ignored := (ready_ignored heeded).2 gameId
      simpa [AppState.signalsReady, heeded] using ignored
  | true =>
      have notified := (ready_in_room inGame here (named gameId game here) heeded).2 gameId
      rw [recipients_eq_inRoom sound here] at notified
      simpa [AppState.signalsReady, heeded] using notified

/-- When all others are in net sync, everybody who remains has signalled. -/
theorem Tells.everyoneSignalled (tells : record.Tells state gameId game) {data : Bytes}
    (signals : state.signalsReady src game data = true) :
    record.everyoneSignalled game src data = true := by
  obtain ⟨heeded, others⟩ := Bool.and_eq_true_iff.mp signals
  refine List.all_eq_true.mpr fun player remains => ?_
  have inRoom := GameInfo.inRoom_of_remaining remains
  have ready := List.all_eq_true.mp others player (GameInfo.mem_inRoom.mp inRoom).1
  rcases of_decide_eq_true ready with same | netSync
  · have wellFormed := (Bool.and_eq_true_iff.mp heeded).1
    simp [same, wellFormed]
  · simp [tells.honest player inRoom netSync]

/-- In a settled game a signal finds the others in net sync exactly when it is due. -/
theorem Tells.signalsReady_eq_due (tells : record.Tells state gameId game)
    (live : game.syncManager.isSome = true)
    (settled : ∀ player ∈ game.inRoom, record.unsettled player.addr = false)
    (sender : ∃ player ∈ game.inRoom, player.addr = src) (data : Bytes) :
    state.signalsReady src game data = record.due gameId game src data := by
  obtain ⟨player, inRoom, rfl⟩ := sender
  obtain ⟨whole, status⟩ := tells.settled player inRoom (settled player inRoom)
  cases notified : record.notified gameId with
  | true =>
      have playing : record.expected gameId player.addr = playerStatusPlaying := by
        simp [expected, notified]
      simp [AppState.signalsReady, AppState.heeds, due, notified, status, playing]
  | false =>
      rw [Bool.eq_iff_iff]
      constructor
      · intro signals
        simp [due, live, notified, tells.everyoneSignalled signals]
      · intro raised
        have everyone : ∀ other ∈ game.players, record.signalled other.addr = true ∨
            other.addr = player.addr ∧ data.isEmpty = false := by
          simp only [due, ReadyRecord.everyoneSignalled, whole.remaining, Bool.and_eq_true,
            List.all_eq_true, Bool.or_eq_true, decide_eq_true_eq, Bool.not_eq_true'] at raised
          exact raised.2
        have wellFormed : data.isEmpty = false := by
          obtain ⟨waiting, stillIn, silent⟩ :=
            tells.pending (List.ne_nil_of_mem inRoom) settled notified
          rcases everyone waiting (GameInfo.mem_inRoom.mp stillIn).1 with signalled | sender
          · simp [silent] at signalled
          · exact sender.2
        have notPlaying := expected_ne_playing player.addr notified
        have others : state.othersReady player.addr game = true := by
          refine List.all_eq_true.mpr fun other listed => decide_eq_true ?_
          rcases everyone other listed with signalled | sender
          · have stays := GameInfo.mem_inRoom.mpr ⟨listed, whole.present other listed⟩
            have expects := (tells.settled other stays (settled other stays)).2
            rw [(expected_eq_netSync notified).mpr signalled] at expects
            exact .inr expects
          · exact .inl sender.1
        simp [AppState.signalsReady, AppState.heeds, wellFormed, status, notPlaying, others]

/-- Where a listed player is silent the others are not all in net sync. -/
theorem Faithful.waits (faithful : record.Faithful state) (silent : record.silent game src)
    (data : Bytes) : state.signalsReady src game data = false := by
  obtain ⟨player, listed, other, fallen⟩ := silent
  refine Bool.eq_false_iff.mpr fun signals => ?_
  have others := (Bool.and_eq_true_iff.mp signals).2
  rcases of_decide_eq_true (List.all_eq_true.mp others player listed) with same | netSync
  · exact other same
  · rw [faithful.ready player.addr netSync] at fallen
    exact Bool.noConfusion fallen

/-- In a faithful situation a step is exact if the room has the history it must have. -/
theorem Faithful.exact (faithful : record.Faithful state) (config : Config)
    (request : SocketAddr × Request) (reliable : BarrierReliable (state, record) request) :
    BarrierExact config (state, record) request := by
  obtain ⟨src, request⟩ := request
  intro data signal gameId inGame game here sender
  obtain rfl : request = .readyToPlay data := by
    cases request <;> simp [Request.readySignal] at signal
    rw [signal]
  suffices same : state.signalsReady src game data = record.due gameId game src data by
    rw [told_signal config faithful.sound faithful.named inGame here data, same]
  rcases reliable data signal gameId inGame game here sender with ⟨live, settled⟩ | history
  · exact (faithful.tells gameId game here live).signalsReady_eq_due live settled sender data
  · split at history
    next awaited =>
      -- a notification is still to come, and somebody who remains has not signalled
      have tells := faithful.tells gameId game here awaited.1
      have missing : record.everyoneSignalled game src data = false := history
      rw [show record.due gameId game src data = false by simp [due, missing]]
      refine Bool.eq_false_iff.mpr fun signals => ?_
      have everyone := tells.everyoneSignalled signals
      rw [missing] at everyone
      exact Bool.noConfusion everyone
    next unawaited =>
      have undue : record.due gameId game src data = false := by
        cases live : game.syncManager.isSome with
        | false => simp [due, live]
        | true =>
            have notified : record.notified gameId = true := by simpa [live] using unawaited
            simp [due, notified]
      rw [undue]
      rcases history with malformed | silent
      · simp [AppState.signalsReady, AppState.heeds, malformed]
      · exact faithful.waits silent data

/-! ## Plain messages -/

theorem observe_plain {before after : AppState} {request : Request}
    (plain : request.isPlain = true) :
    record.observe before (src, request) after = { record with
      unsettled := fun addr => record.unsettled addr || before.hall.disturbs src request addr
      standing := fun addr => record.standing addr && !before.hall.leaves src request addr } := by
  cases request with
  | startGame data => simp [Request.isPlain] at plain
  | readyToPlay data => simp [Request.isPlain] at plain
  | _ => rfl

/-- A plain message keeps the status of a player in a live room, unless it disturbs it. -/
theorem status_plain {after : AppState} (sound : state.hall.Sound Hall.nobody)
    (here : state.hall.room gameId = some game) (config : Config) {request : Request}
    (plain : request.isPlain = true)
    (step : ((server config).step state (src, request)).2 = after)
    {player : GamePlayerInfo} (inRoom : player ∈ game.inRoom)
    (registered : (after.hall.member player.addr).isSome = true) :
    after.status player.addr = state.status player.addr ∨
      state.hall.disturbs src request player.addr = true ∧
        after.status player.addr = some playerStatusIdle := by
  have status := status_step config state src plain player.addr
  rw [step] at status
  rcases status with same | gone | ⟨⟨other, leaver, departs, company⟩, idle⟩
  · exact .inl same
  · have present := status_isSome registered
    simp [gone] at present
  · refine .inr ⟨?_, idle⟩
    rcases company with rfl | listed
    · have leaves := Hall.gameOf_departure departs
      obtain rfl := Option.some.inj (leaves.symm.trans (sound.registered here inRoom).1)
      exact Hall.disturbs_listed departs game here player (GameInfo.mem_inRoom.mp inRoom).1
    · rw [Hall.disturbs, departs]
      exact listed

/-- A plain message makes nobody ready, and whoever is still ready did not leave by it. -/
theorem Faithful.ready_plain {after : AppState} (faithful : record.Faithful state) (config : Config)
    {request : Request} (plain : request.isPlain = true)
    (step : ((server config).step state (src, request)).2 = after) {addr : SocketAddr}
    (netSync : after.status addr = some playerStatusNetSync) :
    (record.observe state (src, request) after).standing addr = true := by
  have stayed : state.hall.leaves src request addr = false :=
    Bool.eq_false_iff.mpr fun leaves => unready_leaver config leaves (step ▸ netSync)
  have status := status_step config state src plain addr
  rw [step, netSync] at status
  rcases status with same | gone | ⟨_, idle⟩
  · rw [observe_plain plain]
    simp [faithful.ready addr same.symm, stayed]
  · cases gone
  · exact absurd idle (by decide)

/-- A plain message keeps the record faithful. -/
theorem Faithful.plain (faithful : record.Faithful state) (config : Config) (src : SocketAddr)
    (request : Request) (plain : request.isPlain = true) {after : AppState}
    (step : ((server config).step state (src, request)).2 = after) :
    (record.observe state (src, request) after).Faithful after := by
  have hall : after.hall = state.hall.handle config src request := by
    rw [← step]
    exact hall_step config state (src, request)
  have sound : after.hall.Sound Hall.nobody := hall ▸ faithful.sound.handle config src request
  refine ⟨sound, hall ▸ faithful.named.handle config src request,
    fun addr => faithful.ready_plain config plain step, ?_⟩
  rw [observe_plain plain]
  intro gameId game there live
  obtain ⟨earlier, here, continued⟩ :=
    Hall.continues_handle faithful.sound config src plain gameId game (hall ▸ there) live
  have tells := faithful.tells gameId earlier here continued.live
  have kept : ∀ player ∈ game.inRoom, after.status player.addr = state.status player.addr ∨
      state.hall.disturbs src request player.addr = true ∧
        after.status player.addr = some playerStatusIdle := fun player inRoom =>
    status_plain faithful.sound here config plain step (continued.stays player inRoom)
      (sound.registered there inRoom).2
  have untouched : ∀ player ∈ game.inRoom, state.hall.disturbs src request player.addr = false →
      game.players = earlier.players ∧ ∀ slot, game.dropped slot = earlier.dropped slot := by
    intro player inRoom calm
    exact continued.untouched player (GameInfo.mem_inRoom.mp inRoom).1 (by simp [calm])
  constructor
  · intro player inRoom netSync
    rcases kept player inRoom with same | ⟨_, idle⟩
    · exact tells.honest player (continued.stays player inRoom) (same ▸ netSync)
    · rw [idle] at netSync
      exact absurd netSync (by decide)
  · intro player inRoom calm
    obtain ⟨wasCalm, undisturbed⟩ := Bool.or_eq_false_iff.mp calm
    obtain ⟨whole, status⟩ := tells.settled player (continued.stays player inRoom) wasCalm
    obtain ⟨samePlayers, sameDropped⟩ := untouched player inRoom undisturbed
    refine ⟨⟨?_, fun slot => (sameDropped slot).trans (whole.playing slot)⟩, ?_⟩
    · rw [samePlayers]
      exact whole.present
    · rcases kept player inRoom with same | ⟨disturbed, _⟩
      · exact same.trans status
      · simp [undisturbed] at disturbed
  · intro someone calm unnotified
    obtain ⟨player, inRoom⟩ := List.exists_mem_of_ne_nil _ someone
    have samePlayers := (untouched player inRoom (Bool.or_eq_false_iff.mp (calm player inRoom)).2).1
    have sameRoom : game.inRoom = earlier.inRoom := by rw [GameInfo.inRoom, samePlayers]; rfl
    rw [sameRoom] at someone calm ⊢
    exact tells.pending someone (fun player inRoom => (Bool.or_eq_false_iff.mp (calm player inRoom)).1)
      unnotified

/-! ## Starts -/

/-- A start says nothing new of a game which it does not start. -/
theorem Tells.start_elsewhere (tells : record.Tells state gameId game) {after : AppState}
    (sameLife : after.isLive gameId = state.isLive gameId)
    (playing : ∀ player ∈ game.inRoom, after.hall.gameOf player.addr = some gameId)
    (statuses : ∀ player ∈ game.inRoom, after.status player.addr = state.status player.addr) :
    (record.start state after).Tells after gameId game := by
  have unstarted : (!state.isLive gameId && after.isLive gameId) = false := by
    rw [sameLife]
    cases state.isLive gameId <;> rfl
  have signalled : ∀ player ∈ game.inRoom,
      (record.start state after).signalled player.addr = record.signalled player.addr := by
    intro player inRoom
    simp [start, playing player inRoom, unstarted]
  have unsettled : ∀ player ∈ game.inRoom,
      (record.start state after).unsettled player.addr = record.unsettled player.addr := by
    intro player inRoom
    simp [start, playing player inRoom, unstarted]
  have notified : (record.start state after).notified gameId = record.notified gameId := by
    simp only [start, unstarted, Bool.not_false, Bool.and_true]
  constructor
  · intro player inRoom netSync
    rw [signalled player inRoom]
    exact tells.honest player inRoom (statuses player inRoom ▸ netSync)
  · intro player inRoom calm
    rw [unsettled player inRoom] at calm
    rw [statuses player inRoom, expected, notified, signalled player inRoom]
    exact tells.settled player inRoom calm
  · intro someone calm unnotified
    have wasCalm : ∀ player ∈ game.inRoom, record.unsettled player.addr = false := by
      intro player inRoom
      exact unsettled player inRoom ▸ calm player inRoom
    obtain ⟨player, inRoom, silent⟩ := tells.pending someone wasCalm (notified ▸ unnotified)
    exact ⟨player, inRoom, (signalled player inRoom).trans silent⟩

/-- A started game has idle players of whom nothing is recorded. -/
theorem tells_started {after : AppState} (waited : state.isLive gameId = false)
    (live : after.isLive gameId = true) (whole : game.Whole)
    (playing : ∀ player ∈ game.inRoom, after.hall.gameOf player.addr = some gameId)
    (idle : ∀ player ∈ game.inRoom, after.status player.addr = some playerStatusIdle) :
    (record.start state after).Tells after gameId game := by
  have started : (!state.isLive gameId && after.isLive gameId) = true := by simp [waited, live]
  have forgotten : ∀ player ∈ game.inRoom,
      (record.start state after).signalled player.addr = false := by
    intro player inRoom
    simp [start, playing player inRoom, started]
  have unnotified : (record.start state after).notified gameId = false := by
    simp only [start, started, Bool.not_true, Bool.and_false]
  constructor
  · intro player inRoom netSync
    rw [idle player inRoom] at netSync
    exact absurd netSync (by decide)
  · intro player inRoom _
    refine ⟨whole, ?_⟩
    simp [idle player inRoom, expected, unnotified, forgotten player inRoom]
  · intro someone _ _
    obtain ⟨player, inRoom⟩ := List.exists_mem_of_ne_nil _ someone
    exact ⟨player, inRoom, forgotten player inRoom⟩

/-- Whoever is ready after a start was ready before, and is in no game which it started. -/
theorem Faithful.ready_start {after : AppState} (faithful : record.Faithful state) (config : Config)
    (data : Bytes) (step : ((server config).step state (src, .startGame data)).2 = after)
    {addr : SocketAddr} (netSync : after.status addr = some playerStatusNetSync) :
    (record.start state after).standing addr = true := by
  have outcome := start_step config faithful.sound src data
  dsimp only at outcome
  rw [step] at outcome
  rcases outcome with ⟨sameHall, sameStatus⟩ |
    ⟨started, waiting, warmups, here, idle, _, begun, statuses⟩
  · have unstarted : ∀ gameId, after.isLive gameId = state.isLive gameId := by
      intro gameId
      rw [AppState.isLive, ← hall_room, sameHall]
      rfl
    have ready := faithful.ready addr (sameStatus ▸ netSync)
    simp [start, unstarted, ready]
  · -- the players which the start makes idle are all it lists
    have outside : addr ∉ waiting.inRoom.map GamePlayerInfo.addr := by
      intro listed
      rw [statuses, assign, if_pos listed] at netSync
      obtain ⟨_, _, idle⟩ := Option.map_eq_some_iff.mp netSync
      exact absurd idle (by decide)
    have ready : record.standing addr = true := by
      rw [statuses, assign, if_neg outside] at netSync
      exact faithful.ready addr netSync
    have rooms := fun gameId => congrFun (congrArg Hall.room begun) gameId
    simp only [Hall.room_setRoom] at rooms
    have unstarted : ∀ gameId, gameId ≠ started → after.isLive gameId = state.isLive gameId := by
      intro gameId other
      have same := rooms gameId
      rw [if_neg other] at same
      rw [AppState.isLive, ← hall_room, same]
      rfl
    simp only [start, ready, Bool.true_and, Bool.not_eq_true', Bool.and_eq_false_iff]
    cases playing : after.hall.gameOf addr with
    | none => exact .inl rfl
    | some gameId =>
        by_cases same : gameId = started
        · subst same
          refine .inr ?_
          have there : after.roomOf addr = _ := (congrArg (Option.bind · after.games.find) playing).trans
            ((rooms gameId).trans (if_pos rfl))
          rw [there, Option.any_some, ← Bool.not_eq_true]
          intro lists
          obtain ⟨player, listed, sameAddr⟩ := List.any_eq_true.mp lists
          exact outside (List.mem_map.mpr ⟨player, listed, of_decide_eq_true sameAddr⟩)
        · refine .inl ?_
          rw [Option.any_some, unstarted gameId same]
          cases state.isLive gameId <;> rfl

/-- A start message keeps the record faithful. -/
theorem Faithful.start (faithful : record.Faithful state) (config : Config) (src : SocketAddr)
    (data : Bytes) {after : AppState}
    (step : ((server config).step state (src, .startGame data)).2 = after) :
    (record.observe state (src, .startGame data) after).Faithful after := by
  have hall : after.hall = state.hall.handle config src (.startGame data) := by
    rw [← step]
    exact hall_step config state (src, .startGame data)
  have sound : after.hall.Sound Hall.nobody := hall ▸ faithful.sound.handle config src _
  refine ⟨sound, hall ▸ faithful.named.handle config src _,
    fun addr => faithful.ready_start config data step, ?_⟩
  have outcome := start_step config faithful.sound src data
  dsimp only at outcome
  rw [step] at outcome
  intro gameId game there live
  change (record.start state after).Tells after gameId game
  have playing : ∀ player ∈ game.inRoom, after.hall.gameOf player.addr = some gameId :=
    fun player inRoom => (sound.registered there inRoom).1
  rcases outcome with ⟨sameHall, sameStatus⟩ |
    ⟨started, waiting, warmups, here, idle, _, begun, statuses⟩
  · rw [sameHall] at there
    refine (faithful.tells gameId game there live).start_elsewhere ?_ playing ?_
    · exact congrArg (fun hall : Hall => (hall.room gameId).any fun game =>
        game.syncManager.isSome) sameHall
    · exact fun player _ => congrFun sameStatus player.addr
  · have rooms := congrFun (congrArg Hall.room begun) gameId
    rw [Hall.room_setRoom] at rooms
    by_cases same : gameId = started
    · subst same
      rw [if_pos rfl] at rooms
      obtain rfl := Option.some.inj (there.symm.trans rooms)
      refine tells_started ?_ ?_ ⟨?_, ?_⟩ playing ?_
      · rw [hall_room] at here
        simp [AppState.isLive, here, idle]
      · rw [hall_room] at there
        simpa [AppState.isLive, there] using live
      · exact fun player listed => (GameInfo.mem_inRoom.mp listed).2
      · exact fun slot => GameInfo.dropped_begin _ _ _ _ slot
      · intro player inRoom
        rw [GameInfo.inRoom_begin] at inRoom
        have registered := (faithful.sound.registered here inRoom).2
        obtain ⟨status, known⟩ := Option.isSome_iff_exists.mp (status_isSome registered)
        rw [statuses, assign, if_pos (List.mem_map_of_mem inRoom), known]
        rfl
    · rw [if_neg same] at rooms
      rw [rooms] at there
      refine (faithful.tells gameId game there live).start_elsewhere ?_ playing ?_
      · exact congrArg (fun room : Option GameInfo => room.any fun game =>
          game.syncManager.isSome) rooms
      · intro player inRoom
        have elsewhere : player.addr ∉ waiting.inRoom.map GamePlayerInfo.addr := by
          intro listed
          obtain ⟨other, otherIn, sameAddr⟩ := List.mem_map.mp listed
          have first := (faithful.sound.registered here otherIn).1
          have second := (faithful.sound.registered there inRoom).1
          rw [sameAddr, second] at first
          exact same (Option.some.inj first)
        rw [statuses, assign, if_neg elsewhere]

/-! ## Signals -/

section Signals

variable {after : AppState} {data : Bytes}

/-- A signal that notified nobody in a game leaves it unnotified. -/
theorem notified_signal (record : ReadyRecord) (src : SocketAddr) (data : Bytes)
    (nobodyTold : told state after gameId = []) :
    (record.signal state after src data).notified gameId = record.notified gameId := by
  simp [signal, nobodyTold]

/-- Others do not signal for a player. -/
theorem signalled_signal {addr : SocketAddr} (other : addr ≠ src) :
    (record.signal state after src data).signalled addr = record.signalled addr := by
  simp [signal, other]

/-- Whoever is settled after a signal was settled before. -/
theorem settled_before {addr : SocketAddr}
    (calm : (record.signal state after src data).unsettled addr = false) :
    record.unsettled addr = false :=
  (Bool.or_eq_false_iff.mp calm).1

/-- A signal from elsewhere says nothing of a game, except that it may unsettle players. -/
theorem Tells.signal_elsewhere (tells : record.Tells state gameId game)
    (others : ∀ player ∈ game.inRoom, player.addr ≠ src)
    (nobodyTold : told state after gameId = [])
    (statuses : ∀ player ∈ game.inRoom, after.status player.addr = state.status player.addr ∨
      after.status player.addr = some playerStatusPlaying ∧
        (record.signal state after src data).unsettled player.addr = true) :
    (record.signal state after src data).Tells after gameId game := by
  have notified := notified_signal record src data nobodyTold
  constructor
  · intro player inRoom netSync
    rw [signalled_signal (others player inRoom)]
    rcases statuses player inRoom with same | ⟨playing, _⟩
    · exact tells.honest player inRoom (same ▸ netSync)
    · rw [playing] at netSync
      exact absurd netSync (by decide)
  · intro player inRoom calm
    rcases statuses player inRoom with same | ⟨_, unsettled⟩
    · rw [same, expected, notified, signalled_signal (others player inRoom)]
      exact tells.settled player inRoom (settled_before calm)
    · simp [unsettled] at calm
  · intro someone calm unnotified
    obtain ⟨player, inRoom, silent⟩ := tells.pending someone
      (fun player inRoom => settled_before (calm player inRoom)) (notified ▸ unnotified)
    exact ⟨player, inRoom, (signalled_signal (others player inRoom)).trans silent⟩

/-- A signal which the server does not heed comes from a player of a notified game. -/
theorem Tells.signal_ignored (tells : record.Tells state gameId game)
    (ignored : state.heeds src data = false) (same : after.status = state.status)
    (nobodyTold : told state after gameId = []) :
    (record.signal state after src data).Tells after gameId game := by
  have notified := notified_signal record src data nobodyTold
  -- in a settled game without a notification nobody is playing yet
  have unheard : ∀ player ∈ game.inRoom, record.unsettled player.addr = false →
      record.notified gameId = false →
        (record.signal state after src data).signalled player.addr =
          record.signalled player.addr := by
    intro player inRoom calm unnotified
    by_cases sender : player.addr = src
    · have status := (tells.settled player inRoom calm).2
      have notPlaying := expected_ne_playing player.addr unnotified
      rw [sender] at status notPlaying
      have empty : data.isEmpty = true := by
        simpa [AppState.heeds, status, notPlaying] using ignored
      simp [signal, empty]
    · exact signalled_signal sender
  constructor
  · intro player inRoom netSync
    have signalled := tells.honest player inRoom (same ▸ netSync)
    simp [signal, signalled]
  · intro player inRoom calm
    obtain ⟨whole, status⟩ := tells.settled player inRoom (settled_before calm)
    refine ⟨whole, ?_⟩
    rw [same, status, expected, expected, notified]
    cases known : record.notified gameId with
    | true => rfl
    | false => rw [unheard player inRoom (settled_before calm) known]
  · intro someone calm unnotified
    rw [notified] at unnotified
    have wasCalm : ∀ player ∈ game.inRoom, record.unsettled player.addr = false :=
      fun player inRoom => settled_before (calm player inRoom)
    obtain ⟨player, inRoom, silent⟩ := tells.pending someone wasCalm unnotified
    exact ⟨player, inRoom, (unheard player inRoom (wasCalm player inRoom) unnotified).trans silent⟩

/-- A signal in its own game, of which somebody else is not in net sync. -/
theorem Tells.signal_waits (tells : record.Tells state gameId game)
    (registered : ∀ player ∈ game.inRoom, (state.status player.addr).isSome = true)
    (heeded : state.heeds src data = true) (waits : state.othersReady src game = false)
    (status : after.status = assign [src] playerStatusNetSync state.status)
    (nobodyTold : told state after gameId = []) :
    (record.signal state after src data).Tells after gameId game := by
  have notified := notified_signal record src data nobodyTold
  obtain ⟨wellFormed, notPlaying⟩ := Bool.and_eq_true_iff.mp heeded
  have signalled : (record.signal state after src data).signalled src = true := by
    simp [signal, wellFormed]
  have others : ∀ addr, addr ≠ src → after.status addr = state.status addr := by
    intro addr other
    rw [status, assign, if_neg (by simpa using other)]
  constructor
  · intro player inRoom netSync
    by_cases sender : player.addr = src
    · exact sender ▸ signalled
    · rw [signalled_signal sender]
      exact tells.honest player inRoom (others player.addr sender ▸ netSync)
  · intro player inRoom calm
    obtain ⟨whole, known⟩ := tells.settled player inRoom (settled_before calm)
    refine ⟨whole, ?_⟩
    by_cases sender : player.addr = src
    · have unnotified : record.notified gameId = false := by
        refine Bool.eq_false_iff.mpr fun already => ?_
        simp [← sender, known, expected, already] at notPlaying
      obtain ⟨before, here⟩ := Option.isSome_iff_exists.mp (registered player inRoom)
      rw [expected, notified, unnotified, sender, signalled, status, assign,
        if_pos List.mem_cons_self, ← sender, here]
      rfl
    · rw [others player.addr sender, known, expected, expected, notified, signalled_signal sender]
  · intro someone calm unnotified
    rw [notified] at unnotified
    have wasCalm : ∀ player ∈ game.inRoom, record.unsettled player.addr = false :=
      fun player inRoom => settled_before (calm player inRoom)
    obtain ⟨first, firstIn⟩ := List.exists_mem_of_ne_nil _ someone
    have whole := (tells.settled first firstIn (wasCalm first firstIn)).1
    obtain ⟨player, listed, notReady⟩ := List.all_eq_false.mp waits
    rw [decide_eq_true_eq, not_or] at notReady
    have inRoom := GameInfo.mem_inRoom.mpr ⟨listed, whole.present player listed⟩
    have known := (tells.settled player inRoom (wasCalm player inRoom)).2
    refine ⟨player, inRoom, (signalled_signal notReady.1).trans (Bool.eq_false_iff.mpr ?_)⟩
    intro ready
    rw [(expected_eq_netSync unnotified).mpr ready] at known
    exact notReady.2 known

/-- A signal which completes its own game. -/
theorem Tells.signal_completes (tells : record.Tells state gameId game)
    (playing : ∀ player ∈ game.inRoom, after.status player.addr = some playerStatusPlaying)
    (everybodyTold : told state after gameId = game.inRoom.map GamePlayerInfo.addr) :
    (record.signal state after src data).Tells after gameId game := by
  have notified : game.inRoom ≠ [] →
      (record.signal state after src data).notified gameId = true := by
    intro someone
    simp [signal, everybodyTold, someone]
  constructor
  · intro player inRoom netSync
    rw [playing player inRoom] at netSync
    exact absurd netSync (by decide)
  · intro player inRoom calm
    refine ⟨(tells.settled player inRoom (settled_before calm)).1, ?_⟩
    rw [playing player inRoom, expected, notified (List.ne_nil_of_mem inRoom)]
    rfl
  · intro someone _ unnotified
    rw [notified someone] at unnotified
    exact Bool.noConfusion unnotified

/-- Whoever is ready after a signal was ready before or gave it, and no signals were answered in
a room which lists the player. -/
theorem Faithful.ready_signal (faithful : record.Faithful state)
    (step : ((handleReadyToPlaySignal data src).run state).2 = after) {addr : SocketAddr}
    (netSync : after.status addr = some playerStatusNetSync) :
    (record.signal state after src data).standing addr = true := by
  have unanswered : (∀ gameId, told state after gameId = []) →
      (record.signal state after src data).standing addr =
        (record.standing addr || (decide (addr = src) && !data.isEmpty)) := by
    intro nobodyTold
    simp [ReadyRecord.signal, nobodyTold]
  cases heeded : state.heeds src data with
  | false =>
      obtain ⟨status, nobodyTold⟩ := ready_ignored heeded
      rw [step] at status nobodyTold
      rw [unanswered nobodyTold, faithful.ready addr (status ▸ netSync)]
      rfl
  | true =>
      have wellFormed := (Bool.and_eq_true_iff.mp heeded).1
      have marked : assign [src] playerStatusNetSync state.status addr = some playerStatusNetSync →
          (record.standing addr || (decide (addr = src) && !data.isEmpty)) = true := by
        intro ready
        by_cases sender : addr = src
        · simp [sender, wellFormed]
        · rw [assign, if_neg (by simpa using sender)] at ready
          simp [faithful.ready addr ready]
      cases entered : state.roomOf src with
      | none =>
          obtain ⟨status, nobodyTold⟩ := ready_outside heeded entered
          rw [step] at status nobodyTold
          rw [unanswered nobodyTold]
          exact marked (status ▸ netSync)
      | some own =>
          obtain ⟨ownId, inGame, opened⟩ := Option.bind_eq_some_iff.mp entered
          obtain ⟨status, notices⟩ := ready_in_room inGame opened
            (faithful.named ownId own opened) heeded
          rw [step] at status notices
          cases ready : state.othersReady src own with
          | false =>
              simp only [ready, Bool.false_eq_true, if_false, false_and] at status notices
              rw [unanswered notices]
              exact marked (status ▸ netSync)
          | true =>
              simp only [ready, if_true] at status
              -- the answer sets every listed player to playing
              have unlisted : own.lists addr = false := by
                refine Bool.eq_false_iff.mpr fun lists => ?_
                obtain ⟨player, listed, same⟩ := List.any_eq_true.mp lists
                rw [status, assign,
                  if_pos (List.mem_map.mpr ⟨player, listed, of_decide_eq_true same⟩)] at netSync
                obtain ⟨_, _, playing⟩ := Option.map_eq_some_iff.mp netSync
                exact absurd playing (by decide)
              have outside : addr ∉ own.players.map GamePlayerInfo.addr := by
                intro member
                obtain ⟨player, listed, same⟩ := List.mem_map.mp member
                have lists : own.lists addr = true := List.any_eq_true.mpr ⟨player, listed, by simp [same]⟩
                rw [unlisted] at lists
                exact Bool.noConfusion lists
              rw [status, assign, if_neg outside] at netSync
              simp only [ReadyRecord.signal, marked netSync, entered, Option.any_some, unlisted,
                Bool.and_false, Bool.not_false, Bool.and_self]

/-- A ready signal keeps the record faithful. -/
theorem Faithful.signal (faithful : record.Faithful state) (config : Config) (src : SocketAddr)
    (data : Bytes) (step : ((server config).step state (src, .readyToPlay data)).2 = after) :
    (record.observe state (src, .readyToPlay data) after).Faithful after := by
  have hall : after.hall = state.hall := by
    rw [← step]
    exact hall_step config state (src, .readyToPlay data)
  change ((handleReadyToPlaySignal data src).run state).2 = after at step
  refine ⟨hall ▸ faithful.sound, hall ▸ faithful.named, fun addr => faithful.ready_signal step, ?_⟩
  rw [hall]
  intro gameId game here live
  change (record.signal state after src data).Tells after gameId game
  have tells := faithful.tells gameId game here live
  have playing : ∀ player ∈ game.inRoom, state.hall.gameOf player.addr = some gameId :=
    fun player inRoom => (faithful.sound.registered here inRoom).1
  cases heeded : state.heeds src data with
  | false =>
      obtain ⟨status, nobodyTold⟩ := ready_ignored heeded
      rw [step] at status nobodyTold
      exact tells.signal_ignored heeded status (nobodyTold gameId)
  | true =>
      cases entered : state.roomOf src with
      | none =>
          obtain ⟨status, nobodyTold⟩ := ready_outside heeded entered
          rw [step] at status nobodyTold
          have others : ∀ player ∈ game.inRoom, player.addr ≠ src := by
            rintro player inRoom rfl
            have missing : state.roomOf player.addr = some game := by
              rw [AppState.roomOf, playing player inRoom]
              exact here
            rw [entered] at missing
            cases missing
          refine tells.signal_elsewhere others (nobodyTold gameId) fun player inRoom => .inl ?_
          rw [status, assign, if_neg (by simpa using others player inRoom)]
      | some own =>
          obtain ⟨ownId, inGame, opened⟩ := Option.bind_eq_some_iff.mp entered
          obtain ⟨status, notices⟩ := ready_in_room inGame opened
            (faithful.named ownId own opened) heeded
          rw [step] at status notices
          have notice := notices gameId
          by_cases same : gameId = ownId
          · subst same
            obtain rfl : own = game := Option.some.inj (opened.symm.trans here)
            have registered : ∀ player ∈ own.inRoom, (state.status player.addr).isSome = true :=
              fun player inRoom => status_isSome (faithful.sound.registered here inRoom).2
            cases ready : state.othersReady src own with
            | false =>
                simp only [ready, Bool.false_eq_true, if_false, false_and] at status notice
                exact tells.signal_waits registered heeded ready status notice
            | true =>
                simp only [ready, if_true, and_self] at status notice
                refine tells.signal_completes ?_ ?_
                · intro player inRoom
                  have listed := (List.mem_map.mpr ⟨player, (GameInfo.mem_inRoom.mp inRoom).1, rfl⟩ :
                    player.addr ∈ own.players.map GamePlayerInfo.addr)
                  obtain ⟨before, known⟩ := Option.isSome_iff_exists.mp (registered player inRoom)
                  rw [status, assign, if_pos listed, assign, known]
                  split <;> rfl
                · rw [notice, recipients_eq_inRoom faithful.sound here]
          · rw [if_neg fun both => same both.2] at notice
            have others : ∀ player ∈ game.inRoom, player.addr ≠ src := by
              rintro player inRoom rfl
              exact same (Option.some.inj ((playing player inRoom).symm.trans inGame))
            refine tells.signal_elsewhere others notice fun player inRoom => ?_
            have marked : assign [src] playerStatusNetSync state.status player.addr =
                state.status player.addr := by
              rw [assign, if_neg (by simpa using others player inRoom)]
            rw [status]
            split
            next ready =>
              by_cases listed : player.addr ∈ own.players.map GamePlayerInfo.addr
              · obtain ⟨tombstone, there, sameAddr⟩ := List.mem_map.mp listed
                have left : tombstone.leftRoom = true := by
                  refine Bool.not_eq_false _ |>.mp fun stays => same ?_
                  have seated := (faithful.sound.seated ownId own opened tombstone there).mp stays
                  rw [sameAddr, playing player inRoom] at seated
                  exact Option.some.inj seated
                obtain ⟨before, known⟩ := Option.isSome_iff_exists.mp
                  (status_isSome (faithful.sound.registered here inRoom).2)
                refine .inr ⟨by rw [assign, if_pos listed, marked, known]; rfl, ?_⟩
                have strays : (own.players.any fun other =>
                    decide (other.addr = player.addr) && other.leftRoom) = true :=
                  List.any_eq_true.mpr ⟨tombstone, there, by simp [sameAddr, left]⟩
                simp [ReadyRecord.signal, entered, strays]
              · exact .inl (by rw [assign, if_neg listed, marked])
            next => exact .inl marked

end Signals

/-! ## Runs -/

/-- A complete handler run keeps the record faithful. -/
theorem Faithful.step (faithful : record.Faithful state) (config : Config)
    (request : SocketAddr × Request) :
    let next := ((recorded config).step (state, record) request).2
    next.2.Faithful next.1 := by
  obtain ⟨src, request⟩ := request
  cases request with
  | startGame data => exact faithful.start config src data rfl
  | readyToPlay data => exact faithful.signal config src data rfl
  | createGame data => exact faithful.plain config src (.createGame data) rfl rfl
  | joinGame data => exact faithful.plain config src (.joinGame data) rfl rfl
  | quitGame data => exact faithful.plain config src (.quitGame data) rfl rfl
  | userQuit data => exact faithful.plain config src (.userQuit data) rfl rfl
  | kickUser data => exact faithful.plain config src (.kickUser data) rfl rfl
  | dropGame data => exact faithful.plain config src (.dropGame data) rfl rfl
  | gameData data => exact faithful.plain config src (.gameData data) rfl rfl
  | gameCache data => exact faithful.plain config src (.gameCache data) rfl rfl

/-- Of a lobby without games there is nothing to tell. -/
theorem faithful_opening {start : AppState} (empty : start.Opening) :
    (opening start).Faithful start where
  sound := empty.sound
  named := by
    intro gameId game here
    rw [hall_room, empty.noGames gameId] at here
    cases here
  ready := fun addr netSync => decide_eq_true netSync
  tells := by
    intro gameId game here
    rw [hall_room, empty.noGames gameId] at here
    cases here

end ReadyRecord

/-- In every run of complete handlers in which every ready signal comes in a room with the
history it must have, the ready barrier is exact. -/
theorem barrier_exact (config : Config) {start : AppState} (opening : start.Opening)
    {requests : List (SocketAddr × Request)}
    (reliable : (recorded config).Along BarrierReliable (start, .opening start) requests) :
    (recorded config).Along (BarrierExact config) (start, .opening start) requests :=
  (recorded config).along_of_invariant (fun situation => situation.2.Faithful situation.1)
    (fun _ request faithful _ => faithful.step config request)
    (fun _ request faithful reliable => faithful.exact config request reliable)
    (ReadyRecord.faithful_opening opening) reliable

instance decidableBarrierExact (config : Config) (situation : AppState × ReadyRecord)
    (request : SocketAddr × Request) : Decidable (BarrierExact config situation request) :=
  @Option.decidableForallMem _ _ (fun _ => @Option.decidableForallMem _ _ (fun _ =>
    @Option.decidableForallMem _ _ (fun _ => inferInstance) _) _) _

instance decidableUndisturbed (record : ReadyRecord) (game : GameInfo) :
    Decidable (record.undisturbed game) :=
  inferInstanceAs (Decidable (_ ∧ _))

instance decidableSilent (record : ReadyRecord) (game : GameInfo) (src : SocketAddr) :
    Decidable (record.silent game src) :=
  inferInstanceAs (Decidable (∃ player ∈ game.players, _))

instance decidableBarrierReliable (situation : AppState × ReadyRecord)
    (request : SocketAddr × Request) : Decidable (BarrierReliable situation request) :=
  @Option.decidableForallMem _ _ (fun _ => @Option.decidableForallMem _ _ (fun _ =>
    @Option.decidableForallMem _ _ (fun _ => inferInstance) _) _) _

/-- A client is ready to play. -/
def signalsReady (src : SocketAddr) : SocketAddr × Request := (src, .readyToPlay [0])

/-- Three clients in a started game. -/
def startsThree : List (SocketAddr × Request) :=
  [createsFirst, joins 2, joins 3, (1, .startGame [0, 255, 255, 255, 255])]

/-- The barrier is exact for three players which all signal, one of them already in the waiting
room and once more after another dropped. -/
theorem barrier_exact_three_players :
    (recorded oneFrame).Along (BarrierExact oneFrame) (threeClients, .opening threeClients)
      [createsFirst, joins 2, signalsReady 2, joins 3, (1, .startGame [0, 255, 255, 255, 255]),
        signalsReady 2, signalsReady 1, signalsReady 3, (3, .dropGame []), signalsReady 2] :=
  barrier_exact oneFrame threeClients_opening (by decide +kernel)

/-- One of three players quits before the others are ready; nobody is notified then. -/
theorem barrier_waits_for_quitter :
    threeClients.Opening ∧
      ¬(recorded oneFrame).Along (BarrierExact oneFrame) (threeClients, .opening threeClients)
        (startsThree ++ [(3, .quitGame []), signalsReady 1, signalsReady 2]) :=
  ⟨threeClients_opening, by decide +kernel⟩

end Direlera.Lobby
