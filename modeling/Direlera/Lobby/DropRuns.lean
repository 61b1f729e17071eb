import Direlera.Lobby.Delivery
import Direlera.Lobby.Occupancy
import Direlera.Lobby.ReadySignal

/-!
# Runs of `execute_drop_game`

A call marks the slot of a registered client which a live game lists. When everybody has dropped
and nobody is in the room, it closes the game; otherwise it announces the drop to all who are
listed, whether they are still in the room or not.
-/

namespace Direlera.Lobby

open Direlera.Library Direlera.Sync Direlera.Wire

/-- A call of `execute_drop_game` marks a slot of a live game. -/
structure Hall.Marks (hall : Hall) (gameId : UInt32) (addr : SocketAddr) (game : GameInfo)
    (sync : SyncManager) (slot : Nat) : Prop where
  registered : (hall.member addr).isSome = true
  here : hall.room gameId = some game
  running : game.syncManager = some sync
  found : dropperSlot addr game = some slot

/-! ## The queue -/

/-- Every section only appends to the queue of datagrams. -/
abbrev Queues {Result : Type} (task : Handler Result) : Prop :=
  Task.Each (fun before after => before.tx <+: after.tx) task

section Queues

variable {Result : Type}

theorem Queues.run {task : Handler Result} (queues : Queues task) {before after : AppState}
    {outcome : Except Report Result} (ran : task.run before = (outcome, after)) :
    before.tx <+: after.tx := by
  let extends_ : AppState → AppState → Prop := fun before after => before.tx <+: after.tx
  have queued : extends_ before (task.run before).2 :=
    @Task.Each.run _ _ _ extends_ (fun _ => List.prefix_rfl) (fun _ _ _ => List.IsPrefix.trans)
      task queues before
  rwa [ran] at queued

theorem queues_of_keeps {task : Handler Result} (keeps : Keeps AppState.tx task) : Queues task :=
  keeps.mono fun _ _ same => by rw [same]

theorem queues_sendMessage (frame : Option Frame) (addr : SocketAddr) (data : Bytes) :
    Queues (sendMessage frame addr data) :=
  Task.each_critical fun _ => List.prefix_append _ _

theorem keeps_tx_updateClientLogging (handed : List TargetOutput) (addr : SocketAddr)
    (change : ClientInfo → Result × ClientInfo) :
    Keeps AppState.tx (updateClientLogging handed addr change) := by
  apply Task.Each.bind (keeps_inspect _)
  rintro (_ | session)
  · exact keeps_fail _
  apply Task.each_critical
  intro state
  cases state.clients.byId session with
  | none => rfl
  | some client => rfl

theorem queues_sendOutput (output : TargetOutput) : Queues (sendOutput output) :=
  Task.Each.bind (queues_of_keeps (keeps_tx_updateClientLogging _ _ _)) fun _ =>
    queues_sendMessage _ _ _

theorem queues_sendFrame (players : List GamePlayerInfo) (frame : Frame) :
    Queues (sendFrame players frame) := by
  unfold sendFrame
  split
  · exact queues_of_keeps (keeps_fail _)
  · exact queues_sendOutput _

theorem queues_broadcast (selected : ClientInfo → Bool) (packetType : UInt8) (data : Bytes)
    (addrs : List SocketAddr) : Queues (broadcast selected packetType data addrs) := by
  refine Task.Each.bind (Task.each_critical fun _ => List.prefix_rfl) fun packets => ?_
  exact Task.Each.forEach (fun packet => queues_sendMessage none packet.1 packet.2) packets

theorem queues_broadcastPacket (packetType : UInt8) (data : Bytes) :
    Queues (broadcastPacket packetType data) :=
  Task.Each.bind (queues_of_keeps (keeps_inspect _)) fun addrs =>
    queues_broadcast _ packetType data addrs

/-- Quiet tasks call no engine. -/
theorem calls_of_quiet {task : Handler Result} (quiet : Quiet task) {before after : AppState}
    {outcome : Except Report Result} (ran : task.run before = (outcome, after)) :
    after.calls = before.calls := by
  have same := congrArg View.calls (quiet.run before)
  rwa [ran] at same

end Queues

/-! ## Marking -/

section DropRuns

variable {state : AppState} {gameId : UInt32} {addr : SocketAddr} {game : GameInfo}
  {sync : SyncManager} {slot : Nat}

/-- A call which marks no slot changes nothing. -/
theorem run_unmarked (unmarked : ∀ game sync slot, ¬state.hall.Marks gameId addr game sync slot) :
    ((executeDropGame gameId addr).run state).2 = state := by
  rw [executeDropGame, Task.run_bind, run_getClient]
  cases found : state.clients.find addr with
  | none => rfl
  | some client =>
      simp only [Task.run_bind, run_getGameArc]
      cases here : state.games.byId gameId with
      | none => rfl
      | some ref =>
          simp only [Task.run_bind, Task.run_inspect]
          cases slot : dropperSlot addr (state.games.arena ref) with
          | none => rfl
          | some playerId =>
              simp only [Task.run_bind, run_getGameArc, here, Task.run_critical]
              cases live : (state.games.arena ref).syncManager with
              | none => simp only [markDropped, live]
              | some sync =>
                  refine absurd ⟨?_, ?_, live, slot⟩ (unmarked (state.games.arena ref) sync playerId)
                  · simp [found]
                  · simp [GameTable.find, here]

/-- The marking section of a slot of the engine. -/
theorem markDropped_spec {ref : GameRef} (here : state.games.byId gameId = some ref)
    (live : (state.games.arena ref).syncManager = some sync) (inRange : slot < sync.playerCount) :
    ∃ frames next marked, sync.call gameId (.drop slot) = (.ok frames, next) ∧
      markDropped gameId ref slot state =
        (.ok (frames, (state.games.arena ref).players, next.allPlayersDropped), marked) ∧
      marked.hall = state.hall.setRoom gameId
        (some (if next.allPlayersDropped then
          ({ state.games.arena ref with syncManager := some next } : GameInfo).finish
        else { state.games.arena ref with syncManager := some next })) ∧
      marked.status = state.status ∧ state.tx <+: marked.tx ∧
      marked.calls = state.calls ++ [(gameId, .drop slot)] := by
  obtain ⟨frames, succeeds⟩ := SyncManager.call_drop_ok inRange gameId
  obtain ⟨next, called⟩ : ∃ next, sync.call gameId (.drop slot) = (.ok frames, next) :=
    ⟨_, Prod.ext succeeds rfl⟩
  obtain ⟨outcome, marked, ran, spec⟩ := run_markDropped here live slot
  rw [called] at spec
  obtain ⟨rfl, hall⟩ := spec
  have status := status_markDropped gameId ref slot state
  rw [ran] at status
  refine ⟨frames, next, marked, called, ran, hall, status, ?_⟩
  simp only [markDropped, live, called] at ran
  by_cases all : next.allPlayersDropped = true
  · simp only [all, if_true] at ran
    split at ran
    next announced =>
      obtain rfl := (Prod.mk.inj ran).2
      have queued := (queues_broadcastPacket _ _).run announced
      have logged := calls_of_quiet (quiet_broadcastPacket _ _) announced
      exact ⟨queued, logged⟩
    next => cases (Prod.mk.inj ran).1
  · simp only [all, Bool.false_eq_true, if_false] at ran
    obtain rfl := (Prod.mk.inj ran).2
    exact ⟨List.prefix_rfl, rfl⟩

/-- A call which marks a slot closes the game, or goes on to announce the drop. -/
theorem run_marks (marks : state.hall.Marks gameId addr game sync slot)
    (inRange : slot < sync.playerCount) :
    ∃ username frames next, sync.call gameId (.drop slot) = (.ok frames, next) ∧
      ∃ marked : AppState, marked.hall = state.hall.setRoom gameId
          (some (if next.allPlayersDropped then
            ({ game with syncManager := some next } : GameInfo).finish
          else { game with syncManager := some next })) ∧
        marked.status = state.status ∧ state.tx <+: marked.tx ∧
        marked.calls = state.calls ++ [(gameId, .drop slot)] ∧
        (executeDropGame gameId addr).run state =
          if next.allPlayersDropped = true ∧ game.inRoom = [] then
            (do
              removeGame gameId
              broadcastPacket Msg.closeGame (buildCloseGamePacket gameId)
              return true : Handler Bool).run marked
          else (announceDrop gameId username slot frames game.players).run marked := by
  obtain ⟨registered, opened, running, found⟩ := marks
  rw [hall_member, Option.isSome_map] at registered
  obtain ⟨client, known⟩ := Option.isSome_iff_exists.mp registered
  rw [hall_room] at opened
  obtain ⟨ref, here, rfl⟩ := Option.map_eq_some_iff.mp opened
  obtain ⟨frames, next, marked, called, ran, hall, status, queued, logged⟩ :=
    markDropped_spec here running inRange
  refine ⟨client.username, frames, next, called, marked, hall, status, queued, logged, ?_⟩
  rw [executeDropGame, Task.run_bind, run_getClient, known]
  simp only [Task.run_bind, run_getGameArc, here, Task.run_inspect, found, Task.run_critical, ran]
  cases all : next.allPlayersDropped with
  | false => simp only [Bool.false_eq_true, if_false, false_and]
  | true =>
      rw [all] at hall
      have reopened : marked.games.find gameId = some
          ({ state.games.arena ref with syncManager := some next } : GameInfo).finish := by
        rw [← hall_room, hall]
        exact Function.update_self ..
      simp only [if_true, Task.run_bind, run_getGame, reopened, Option.all_some, true_and,
        GameInfo.players_finish, List.isEmpty_iff]
      have sameRoom : ({ state.games.arena ref with syncManager := some next } : GameInfo).inRoom =
          (state.games.arena ref).inRoom := rfl
      rw [sameRoom]
      split
      · simp only [Task.run_bind]
      · rfl

/-! ## Announcing -/

/-- The players before the first one who has left the server. -/
def AppState.reached (state : AppState) (players : List GamePlayerInfo) : List GamePlayerInfo :=
  players.takeWhile fun player => (state.hall.member player.addr).isSome

/-- Setting statuses goes on to the first player who has left the server. -/
theorem status_setUntil (players : List GamePlayerInfo) (status : UInt8) (state : AppState) :
    ((Task.forEach players fun player => withClientMut player.addr fun client =>
        { client with playerStatus := status }).run state).2.status =
      assign ((state.reached players).map GamePlayerInfo.addr) status state.status := by
  let body : GamePlayerInfo → Handler Unit := fun player =>
    withClientMut player.addr fun client => { client with playerStatus := status }
  change ((Task.forEach players body).run state).2.status = _
  induction players generalizing state with
  | nil =>
      ext1 addr
      simp [Task.forEach, Task.run, AppState.reached, assign]
  | cons player rest ih =>
      cases found : state.clients.find player.addr with
      | none =>
          obtain ⟨report, failed⟩ := run_updateClient_missing found []
            fun client => ((), { client with playerStatus := status })
          have ran : (Task.forEach (player :: rest) body).run state = (.error report, state) :=
            Task.run_forEach_cons_error failed
          ext1 addr
          simp [ran, AppState.reached, found, assign]
      | some client =>
          obtain ⟨_, next, changed⟩ := run_updateClient found
            fun client => ((), { client with playerStatus := status })
          have changedHere : (body player).run state = (.ok (), next) := changed
          have set := status_setOne player.addr status state
          have same := (quiet_status player.addr status).hall state
          change ((body player).run state).2.status = _ at set
          change ((body player).run state).2.hall = _ at same
          rw [changedHere] at set same
          have known : (state.hall.member player.addr).isSome = true := by simp [found]
          have reaches : state.reached (player :: rest) = player :: state.reached rest :=
            List.takeWhile_cons_of_pos known
          have sameReached : next.reached rest = state.reached rest := by
            rw [AppState.reached, same, AppState.reached]
          rw [Task.run_forEach_cons changedHere, ih, set, sameReached, reaches, List.map_cons,
            assign_cons]

/-- An announced drop makes idle whom it reaches. -/
theorem status_announceDrop (gameId : UInt32) (username : Bytes) (playerId : Nat)
    (frames : List Frame) (players : List GamePlayerInfo) (state : AppState) :
    ((announceDrop gameId username playerId frames players).run state).2.status =
      assign ((state.reached players).map GamePlayerInfo.addr) playerStatusIdle state.status := by
  rw [← status_setUntil, announceDrop, status_bind_steady]
  exact fun _ => steady_afterReset gameId username playerId frames players

/-- An announcement fails if some player has left the server. -/
theorem run_announceDrop_missing {players : List GamePlayerInfo}
    (missing : ∃ player ∈ players, state.hall.member player.addr = none) (gameId : UInt32)
    (username : Bytes) (playerId : Nat) (frames : List Frame) :
    ∃ report next, (announceDrop gameId username playerId frames players).run state =
      (.error report, next) ∧ next.hall = state.hall := by
  obtain ⟨next, same, statuses⟩ := run_setStatus players playerStatusIdle state
  obtain ⟨player, member, gone⟩ := missing
  rw [if_neg] at statuses
  · obtain ⟨report, failed⟩ := statuses
    exact ⟨report, next, Task.run_bind_error failed, same⟩
  · intro all
    have known : (state.hall.member player.addr).isSome = true :=
      List.all_eq_true.mp all player member
    rw [gone] at known
    cases known

/-- An announcement changes clients and queues datagrams, and nothing else. -/
theorem keeps_announceDrop {Value : Type} {value : AppState → Value}
    (apart : ∀ (state : AppState) clients tx handed,
      value { state with clients, tx, handed } = value state)
    (gameId : UInt32) (username : Bytes) (playerId : Nat) (frames : List Frame)
    (players : List GamePlayerInfo) :
    Keeps value (announceDrop gameId username playerId frames players) := by
  have deaf : Deaf value :=
    ⟨fun state _ _ _ => apart state _ _ state.handed,
      fun state _ _ _ => apart state state.clients _ state.handed⟩
  have updates : ∀ {Result : Type} handed addr (change : ClientInfo → Result × ClientInfo),
      Keeps value (updateClientLogging handed addr change) := by
    intro Result handed addr change
    apply Task.Each.bind (keeps_inspect _)
    rintro (_ | session)
    · exact keeps_fail _
    apply Task.each_critical
    intro state
    cases state.clients.byId session with
    | none => rfl
    | some client => exact apart state _ state.tx _
  refine Task.Each.bind (Task.Each.forEach (fun player => updates _ _ _) players) fun _ => ?_
  refine (deaf.broadcastPacketToGame _ _ _).bind fun _ => ?_
  refine Task.Each.bind (Task.Each.forEach (fun frame => ?_) frames) fun _ => keeps_pure true
  unfold sendFrame
  split
  · exact keeps_fail _
  · refine Task.Each.bind (updates _ _ _) fun _ => Task.each_critical fun state => ?_
    exact apart state state.clients _ state.handed

/-- An announcement calls no engine. -/
theorem calls_announceDrop (gameId : UInt32) (username : Bytes) (playerId : Nat)
    (frames : List Frame) (players : List GamePlayerInfo) :
    Keeps AppState.calls (announceDrop gameId username playerId frames players) :=
  keeps_announceDrop (fun _ _ _ _ => rfl) gameId username playerId frames players

/-- Frames go out if all players are registered. -/
theorem run_sendFrames {frames : List Frame}
    (resolved : ∀ frame ∈ frames, ∃ output, game.target frame = some output ∧
      (state.hall.member output.addr).isSome = true) :
    ∃ next, (Task.forEach frames (sendFrame game.players)).run state = (.ok (), next) := by
  induction frames generalizing state with
  | nil => exact ⟨state, rfl⟩
  | cons frame rest ih =>
      obtain ⟨output, goes, registered⟩ := resolved frame List.mem_cons_self
      rw [hall_member, Option.isSome_map] at registered
      obtain ⟨client, found⟩ := Option.isSome_iff_exists.mp registered
      obtain ⟨next, sent, hall⟩ := run_sendOutput found
      have here : (sendFrame game.players frame).run state = (.ok (), next) := by
        obtain ⟨player, slot, rfl⟩ := Option.map_eq_some_iff.mp goes
        rw [sendFrame, slot]
        exact sent
      have later : ∀ frame ∈ rest, ∃ output, game.target frame = some output ∧
          (next.hall.member output.addr).isSome = true := by
        intro other member
        rw [hall]
        exact resolved other (List.mem_cons_of_mem _ member)
      obtain ⟨last, ran⟩ := ih later
      exact ⟨last, (Task.run_forEach_cons here).trans ran⟩

/-- With everybody registered the announcement succeeds; it tells everybody in the game and
sends the frames. -/
theorem run_announceDrop {opened : GameInfo} (found : state.games.find gameId = some opened)
    (registered : ∀ player ∈ game.players, (state.hall.member player.addr).isSome = true)
    {frames : List Frame} (resolved : ∀ frame ∈ frames, (game.target frame).isSome = true)
    (username : Bytes) (playerId : Nat) :
    ∃ next told, (announceDrop gameId username playerId frames game.players).run state =
        (.ok true, next) ∧
      state.tx ++ told <+: next.tx ∧
      told.map Message.addr = (opened.players.map GamePlayerInfo.addr).filter
        (fun addr => state.hall.gameOf addr = some gameId) ∧
      (∀ message ∈ told, message.newestType = some Msg.dropGame) ∧
      next.hall = state.hall.deliver (frames.map game.target) := by
  obtain ⟨idle, same, statuses⟩ := run_setStatus game.players playerStatusIdle state
  rw [if_pos (List.all_eq_true.mpr registered)] at statuses
  have unsent : idle.tx = state.tx := by
    have kept : Keeps AppState.tx (Task.forEach game.players fun player =>
        withClientMut player.addr fun client =>
          { client with playerStatus := playerStatusIdle }) :=
      Task.Each.forEach (fun player => keeps_tx_withClientMut player.addr _) game.players
    have kept := kept.keeps state
    rwa [statuses] at kept
  have stillOpen : idle.games.find gameId = some opened :=
    (congrFun (congrArg Hall.room same) gameId).trans found
  obtain ⟨announced, ran, sameToo⟩ := run_broadcastPacketToGame stillOpen Msg.dropGame
    (buildDropGamePacket username (.ofNat (playerId + 1)))
  obtain ⟨told, queued, addresses, types⟩ := @tx_broadcast
    (fun client => decide (client.gameId = some gameId)) Msg.dropGame
    (buildDropGamePacket username (.ofNat (playerId + 1))) (fun _ => rfl)
    (opened.players.map GamePlayerInfo.addr) idle
  have tells : (broadcastPacketToGame gameId Msg.dropGame
      (buildDropGamePacket username (.ofNat (playerId + 1)))).run idle =
        (broadcast (fun client => decide (client.gameId = some gameId)) Msg.dropGame
          (buildDropGamePacket username (.ofNat (playerId + 1)))
          (opened.players.map GamePlayerInfo.addr)).run idle := by
    rw [broadcastPacketToGame, Task.run_bind, run_getGame, stillOpen]
  rw [← tells, ran, unsent] at queued
  have sends : ∀ frame ∈ frames, ∃ output, game.target frame = some output ∧
      (announced.hall.member output.addr).isSome = true := by
    intro frame member
    obtain ⟨output, goes⟩ := Option.isSome_iff_exists.mp (resolved frame member)
    refine ⟨output, goes, ?_⟩
    obtain ⟨player, slot, rfl⟩ := Option.map_eq_some_iff.mp goes
    rw [sameToo, same]
    exact registered player (List.mem_of_getElem? slot)
  obtain ⟨next, sent⟩ := run_sendFrames sends
  have delivered := hall_sendFrames game frames announced
  rw [sent, sameToo, same] at delivered
  refine ⟨next, told, ?_, ?_, ?_, fun message member => (types message member).1, delivered⟩
  · rw [announceDrop, Task.run_bind_ok statuses, Task.run_bind_ok ran, Task.run_bind_ok sent]
    rfl
  · have appended := Queues.run (Task.Each.forEach (queues_sendFrame game.players) frames) sent
    rwa [queued] at appended
  · rw [addresses]
    refine List.filter_congr fun other _ => ?_
    rw [← same, hall_gameOf]
    cases idle.clients.find other <;> simp

/-! ## The two endings -/

variable {late : UInt32 → SocketAddr → Prop}

/-- A call which marks a slot while somebody is in the room announces the drop. -/
theorem run_announced (sound : state.hall.Sound late) {game : GameInfo} {sync : SyncManager}
    {slot : Nat} (marks : state.hall.Marks gameId addr game sync slot)
    (stays : ∃ player ∈ game.players, player.leftRoom = false) :
    ∃ username frames next marked opened, sync.call gameId (.drop slot) = (.ok frames, next) ∧
      opened.inRoom = game.inRoom ∧ (∀ player ∈ opened.players, player ∈ game.players) ∧
      marked.hall = state.hall.setRoom gameId (some opened) ∧
      marked.status = state.status ∧ state.tx <+: marked.tx ∧
      marked.calls = state.calls ++ [(gameId, .drop slot)] ∧
      (executeDropGame gameId addr).run state =
        (announceDrop gameId username slot frames game.players).run marked := by
  have ok := sound.rooms gameId game marks.here
  obtain ⟨username, frames, next, called, marked, hall, status, queued, logged, ran⟩ :=
    run_marks marks (ok.slot_lt marks.running marks.found)
  obtain ⟨player, listed, here⟩ := stays
  have someone : game.inRoom ≠ [] :=
    List.ne_nil_of_mem (GameInfo.mem_inRoom.mpr ⟨listed, here⟩)
  rw [if_neg fun ends => someone ends.2] at ran
  refine ⟨username, frames, next, marked, _, called, ?_, ?_, hall, status, queued, logged, ran⟩
  · split
    · rw [GameInfo.inRoom, GameInfo.players_finish]
      simp [GameInfo.inRoom]
    · rfl
  · intro other member
    split at member
    · rw [GameInfo.players_finish] at member
      exact (GameInfo.mem_inRoom.mp member).1
    · exact member

/-- A call which marks a slot when nobody is left in the room closes the game. -/
theorem run_closing (sound : state.hall.Sound late) (onlyLate : ∀ who, late gameId who → who = addr)
    (marks : state.hall.Marks gameId addr game sync slot)
    (empty : ¬∃ player ∈ game.players, player.leftRoom = false) :
    ∃ last, (executeDropGame gameId addr).run state = (.ok true, last) ∧
      last.hall.room gameId = none ∧ last.status = state.status := by
  have ok := sound.rooms gameId game marks.here
  have nobody : game.inRoom = [] := by
    refine List.filter_eq_nil_iff.mpr fun player member => ?_
    simpa using fun here => empty ⟨player, member, here⟩
  have everyone := ok.dropsAll marks.running marks.found onlyLate nobody gameId
  obtain ⟨username, frames, next, called, marked, hall, status, _, _, ran⟩ :=
    run_marks marks (ok.slot_lt marks.running marks.found)
  rw [called] at everyone
  rw [if_pos ⟨everyone, nobody⟩] at ran
  let closed : AppState := { marked with games := marked.games.remove gameId }
  obtain ⟨last, told, same⟩ := run_broadcastPacket Msg.closeGame (buildCloseGamePacket gameId) closed
  have removed : (removeGame gameId).run marked = (.ok (), closed) := rfl
  refine ⟨last, ?_, ?_, ?_⟩
  · rw [ran, Task.run_bind_ok removed, Task.run_bind_ok told]
    rfl
  · rw [same, hall_remove]
    exact Function.update_self ..
  · rw [value_of_run (deaf_status.broadcastPacket _ _) told]
    exact status

end DropRuns

end Direlera.Lobby
