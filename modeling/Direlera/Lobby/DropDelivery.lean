import Direlera.Lobby.DepartedPlayers
import Direlera.Lobby.DropRuns

/-!
# Whether a drop is delivered

Three handlers call `execute_drop_game`. Once the engine has marked the slot, the call first
resets the status of every listed player, and a player who left the room and then the server
makes that fail: nobody hears of the drop, and the frames which it released are lost.
-/

namespace Direlera.Lobby

open Direlera.Library Direlera.Sync Direlera.Sync.SimplestGameSync Direlera.Wire

/-! ## Up to the call -/

/-- The client leaves its room; whether the game is live. -/
def vacate (gameId : UInt32) (ref : GameRef) (addr : SocketAddr) :
    Handler (Option (UInt32 × SocketAddr)) := do
  let outcome ← lockGame ref fun game => (.ok (game.leave addr).1.1, (game.leave addr).2)
  return if outcome = .playing then some (gameId, addr) else none

/-- `handle_quit_game` up to its call of `execute_drop_game`. -/
def quitUntilDrop (src : SocketAddr) : Handler (Option (UInt32 × SocketAddr)) := do
  let some client ← getClient src | return none
  let some gameId := client.gameId | return none
  let some ref ← getGameArc gameId | return none
  withClientMut src ClientInfo.toLobby
  vacate gameId ref src

/-- `handle_kick_user` up to its call of `execute_drop_game`. -/
def kickUntilDrop (data : Bytes) (src : SocketAddr) : Handler (Option (UInt32 × SocketAddr)) := do
  let some userId := parseKickUser data | return none
  let some requester ← getClient src | .fail (.message "Requester not found")
  let some requesterGameId := requester.gameId | .fail (.message "Requester not in a game")
  let some game ← getGame requesterGameId | .fail (.message "Game not found")
  if game.lists src = true ∧ game.ownerUserId = requester.userId then
    let some (addr, _) ← Task.inspect fun state : AppState => state.clients.findByUserId userId
      | return none
    let some target ← getClient addr | return none
    if target.gameId = some requesterGameId then
      let some ref ← getGameArc requesterGameId | return none
      let _ ← (withClientMut addr ClientInfo.toLobby).attempt
      vacate requesterGameId ref addr
    else return none
  else return none

/-- A message up to its call of `execute_drop_game`: for which game and which client it is. -/
def untilDrop (src : SocketAddr) : Request → Handler (Option (UInt32 × SocketAddr))
  | .dropGame _ => do
      let some (gameId, _) ← resolveInGame src | return none
      return some (gameId, src)
  | .quitGame _ => quitUntilDrop src
  | .userQuit _ => quitUntilDrop src
  | .kickUser data => kickUntilDrop data src
  | _ => return none

section UntilDrop

variable {state there : AppState} {src addr : SocketAddr} {gameId : UInt32}

/-- The client has just left the room of a live game, and is idle. -/
structure Vacated (state there : AppState) (gameId : UInt32) (addr : SocketAddr) : Prop where
  inGame : state.hall.gameOf addr = some gameId
  hall : ∃ game, state.hall.room gameId = some game ∧
    there.hall = state.hall.depart gameId addr game
  status : there.status = assign [addr] playerStatusIdle state.status

/-- What is left of a message goes on from the call. -/
def GoesOn (state there : AppState) (gameId : UInt32) (addr : SocketAddr) (handler : Handler Unit)
    (rest : Except Report Bool → Handler Unit) : Prop :=
  handler.run state = ((executeDropGame gameId addr).attempt >>= rest).run there

theorem GoesOn.bind {handler : Handler Unit} {rest : Except Report Bool → Handler Unit}
    (goesOn : GoesOn state there gameId addr handler rest) (later : Unit → Handler Unit) :
    GoesOn state there gameId addr (handler >>= later) fun dropped => rest dropped >>= later := by
  rw [GoesOn, ← Task.bind_assoc, Task.run_bind, goesOn, ← Task.run_bind]

/-- What is left of a message touches no status. -/
abbrev Steadily (rest : Except Report Bool → Handler Unit) : Prop :=
  ∀ dropped, Keeps AppState.status (rest dropped)

theorem GoesOn.status {handler : Handler Unit} {rest : Except Report Bool → Handler Unit}
    (goesOn : GoesOn state there gameId addr handler rest) (steadily : Steadily rest) :
    (handler.run state).2.status = ((executeDropGame gameId addr).run there).2.status := by
  rw [goesOn, status_bind_steady steadily, Task.run_attempt]

/-- The state after a client left its room. -/
def AppState.left (state : AppState) (ref : GameRef) (addr : SocketAddr) : AppState :=
  { state with games := state.games.write ref ((state.games.arena ref).leave addr).2 }

theorem vacate_spec {current : UInt32} {ref : GameRef} {leaver : SocketAddr}
    (reaches : (vacate current ref leaver).run state = (.ok (some (gameId, addr)), there)) :
    ((state.games.arena ref).leave leaver).1.1 = .playing ∧ current = gameId ∧ leaver = addr ∧
      state.left ref leaver = there := by
  rw [vacate, lockGame, Task.run_bind, Task.run_critical] at reaches
  obtain ⟨outcome, same⟩ := Prod.mk.inj reaches
  by_cases playing : ((state.games.arena ref).leave leaver).1.1 = .playing
  · simp only [playing, if_true, Except.ok.injEq, Option.some.injEq, Prod.mk.injEq] at outcome
    exact ⟨playing, outcome.1, outcome.2, same⟩
  · simp only [playing, if_false, Except.ok.injEq, reduceCtorEq] at outcome

/-- A registered client leaves its room. -/
theorem vacated_left {client : ClientInfo} (known : state.clients.find addr = some client)
    (inGame : client.gameId = some gameId) {ref : GameRef}
    (here : state.games.byId gameId = some ref) :
    ∃ next, (withClientMut addr ClientInfo.toLobby).run state = (.ok (), next) ∧
      next.games = state.games ∧ Vacated state (next.left ref addr) gameId addr := by
  have sets : ∀ client : ClientInfo,
      client.toLobby.toMember = { client.toMember with gameId := none } := fun _ => rfl
  obtain ⟨next, ran, hall, games⟩ := run_setGame known sets
  have idle := @status_setTo ClientInfo.toLobby playerStatusIdle (fun _ => rfl) addr state
  rw [ran] at idle
  refine ⟨next, ran, games, ?_, ⟨state.games.arena ref, ?_, ?_⟩, idle⟩
  · simp [hall_gameOf, known, inGame]
  · rw [hall_room, GameTable.find, here, Option.map_some]
  · rw [← games] at here ⊢
    rw [Hall.depart, ← hall]
    exact hall_write here _

/-- Settling a quit from a live game starts with the call. -/
theorem goesOn_settleQuit (state : AppState) (gameId : UInt32) (addr : SocketAddr)
    (quitData : Bytes) : ∃ rest,
      GoesOn state state gameId addr (settleQuit gameId addr quitData .playing) rest ∧
        Steadily rest := by
  refine ⟨_, rfl, fun _ => Task.Each.bind (keeps_getGame gameId) ?_⟩
  rintro (_ | game)
  · exact deaf_status.broadcastPacket _ _
  · exact (deaf_status.broadcastPacketToGame _ _ _).bind fun _ => deaf_status.broadcastPacket _ _

theorem quitUntilDrop_spec
    (reaches : (quitUntilDrop src).run state = (.ok (some (gameId, addr)), there)) :
    Vacated state there gameId addr ∧ addr = src ∧
      ∃ rest, GoesOn state there gameId addr (handleQuitGame src) rest ∧ Steadily rest := by
  rw [quitUntilDrop, Task.run_bind, run_getClient] at reaches
  cases known : state.clients.find src with
  | none => simp [known] at reaches
  | some client =>
      simp only [known] at reaches
      cases inGame : client.gameId with
      | none => simp [inGame] at reaches
      | some current =>
          simp only [inGame, Task.run_bind, run_getGameArc] at reaches
          cases here : state.games.byId current with
          | none => simp [here] at reaches
          | some ref =>
              obtain ⟨next, ran, games, vacated⟩ := vacated_left known inGame here
              simp only [here, Task.run_bind, ran] at reaches
              obtain ⟨playing, rfl, rfl, rfl⟩ := vacate_spec reaches
              obtain ⟨rest, settles, steadily⟩ := goesOn_settleQuit (next.left ref src) current src
                (buildQuitGamePacket client.username client.userId)
              have announced := settles.bind fun _ =>
                announceOwner current ((next.games.arena ref).leave src).1.2
              refine ⟨vacated, rfl, _, ?_, fun dropped => (steadily dropped).bind fun _ =>
                deaf_status.announceOwner current ((next.games.arena ref).leave src).1.2⟩
              rw [GoesOn, ← announced, handleQuitGame, Task.run_bind, run_getClient, known]
              simp only [inGame, Task.run_bind, run_getGameArc, here, ran, lockGame,
                Task.run_critical, playing]
              rfl

theorem kickUntilDrop_spec {data : Bytes}
    (reaches : (kickUntilDrop data src).run state = (.ok (some (gameId, addr)), there)) :
    Vacated state there gameId addr ∧ state.hall.gameOf src = some gameId ∧
      ∃ rest, GoesOn state there gameId addr (handleKickUser data src) rest ∧ Steadily rest := by
  unfold kickUntilDrop at reaches
  cases parsed : parseKickUser data with
  | none => simp [parsed] at reaches
  | some userId =>
      simp only [parsed, Task.run_bind, run_getClient] at reaches
      cases found : state.clients.find src with
      | none => simp [found] at reaches
      | some requester =>
          simp only [found] at reaches
          cases playing : requester.gameId with
          | none => simp [playing] at reaches
          | some current =>
              simp only [playing, Task.run_bind, run_getGame] at reaches
              cases opened : state.games.find current with
              | none => simp [opened] at reaches
              | some game =>
                  simp only [opened] at reaches
                  split at reaches
                  next allowed =>
                    simp only [Task.run_bind, Task.run_inspect] at reaches
                    cases target : state.clients.findByUserId userId with
                    | none => simp [target] at reaches
                    | some entry =>
                        obtain ⟨leaver, kicked⟩ := entry
                        simp only [target, Task.run_bind, run_getClient] at reaches
                        cases known : state.clients.find leaver with
                        | none => simp [known] at reaches
                        | some client =>
                            simp only [known] at reaches
                            split at reaches
                            next inGame =>
                              simp only [Task.run_bind, run_getGameArc] at reaches
                              cases here : state.games.byId current with
                              | none => simp [here] at reaches
                              | some ref =>
                                  obtain ⟨next, ran, games, vacated⟩ := vacated_left known inGame here
                                  simp only [here, Task.run_bind, Task.run_attempt, ran] at reaches
                                  obtain ⟨leaves, rfl, rfl, rfl⟩ := vacate_spec reaches
                                  refine ⟨vacated, by simp [hall_gameOf, found, playing],
                                    fun _ => announceKick current leaver
                                      (buildQuitGamePacket kicked.username kicked.userId), ?_,
                                    fun _ => deaf_status.announceKick _ _ _⟩
                                  unfold GoesOn handleKickUser
                                  simp only [parsed, Task.run_bind, run_getClient, found, playing,
                                    run_getGame, opened]
                                  rw [if_pos allowed]
                                  simp only [Task.run_bind, Task.run_inspect, target, run_getClient,
                                    known, inGame, if_true, kickFrom, run_getGameArc, here,
                                    Task.run_attempt, ran, lockGame, Task.run_critical, leaves]
                                  rfl
                            next => simp at reaches
                  next => simp at reaches

/-- Dropping comes to the call at once. -/
theorem dropUntilDrop_spec {data : Bytes}
    (reaches : (untilDrop src (.dropGame data)).run state = (.ok (some (gameId, addr)), there)) :
    there = state ∧ state.hall.gameOf src = some gameId ∧
      ∃ rest, GoesOn state there gameId addr (handleDropGame src) rest ∧ Steadily rest := by
  rw [untilDrop, Task.run_bind, run_resolveInGame] at reaches
  cases resolved : state.hall.resolve src with
  | none => simp [resolved] at reaches
  | some place =>
      obtain ⟨current, slot⟩ := place
      simp only [resolved, Task.run_pure, Prod.mk.injEq, Except.ok.injEq, Option.some.injEq]
        at reaches
      obtain ⟨⟨rfl, rfl⟩, rfl⟩ := reaches
      refine ⟨rfl, (Hall.resolve_eq_some resolved).1, Task.resume fun _ => pure (), ?_, ?_⟩
      · rw [GoesOn, Task.run_attempt_resume, handleDropGame, Task.run_bind, run_resolveInGame,
          resolved]
      · rintro (report | dropped)
        · exact keeps_fail report
        · exact keeps_pure ()

/-- A message which comes to a call of `execute_drop_game` goes on from there. -/
theorem untilDrop_spec (config : Config) {request : Request}
    (reaches : (untilDrop src request).run state = (.ok (some (gameId, addr)), there)) :
    (there = state ∨ Vacated state there gameId addr) ∧
      ∃ rest, GoesOn state there gameId addr (handleMessage config src request) rest := by
  cases request with
  | dropGame data =>
      obtain ⟨same, _, rest, goesOn, _⟩ := dropUntilDrop_spec reaches
      exact ⟨.inl same, rest, goesOn⟩
  | quitGame data =>
      obtain ⟨vacated, _, rest, goesOn, _⟩ := quitUntilDrop_spec reaches
      exact ⟨.inr vacated, rest, goesOn⟩
  | userQuit data =>
      obtain ⟨vacated, _, rest, goesOn, _⟩ := quitUntilDrop_spec reaches
      exact ⟨.inr vacated, _, goesOn.bind _⟩
  | kickUser data =>
      obtain ⟨vacated, _, rest, goesOn, _⟩ := kickUntilDrop_spec reaches
      exact ⟨.inr vacated, rest, goesOn⟩
  | createGame data => simp [untilDrop] at reaches
  | joinGame data => simp [untilDrop] at reaches
  | startGame data => simp [untilDrop] at reaches
  | gameData data => simp [untilDrop] at reaches
  | gameCache data => simp [untilDrop] at reaches
  | readyToPlay data => simp [untilDrop] at reaches

/-- What a message is to do at its call asks for one run up to the call. -/
theorem forall_reached_iff {message : SocketAddr × Request}
    (Spares : UInt32 → SocketAddr → AppState → Prop) :
    (∀ gameId addr there,
      (untilDrop message.1 message.2).run state = (.ok (some (gameId, addr)), there) →
        Spares gameId addr there) ↔
    ∀ place ∈ ((untilDrop message.1 message.2).run state).1.toOption.join,
      Spares place.1 place.2 ((untilDrop message.1 message.2).run state).2 := by
  constructor
  · rintro spares ⟨gameId, addr⟩ member
    refine spares gameId addr _ (Prod.ext ?_ rfl)
    cases outcome : ((untilDrop message.1 message.2).run state).1 with
    | error report => simp [outcome, Except.toOption] at member
    | ok call => simpa [outcome, Except.toOption] using member
  · intro spares gameId addr there reaches
    have here := spares (gameId, addr) (by simp [reaches, Except.toOption])
    rwa [reaches] at here

/-- At the call nobody is late but the client which it is for. -/
theorem sound_untilDrop (config : Config) (sound : state.hall.Sound Hall.nobody) {request : Request}
    (reaches : (untilDrop src request).run state = (.ok (some (gameId, addr)), there)) :
    ∃ late, there.hall.Sound late ∧ ∀ who, late gameId who → who = addr := by
  rcases (untilDrop_spec config reaches).1 with rfl | ⟨inGame, ⟨game, here, hall⟩, _⟩
  · exact ⟨Hall.nobody, sound, fun _ => False.elim⟩
  · refine ⟨_, hall ▸ sound.depart here inGame, fun who wasLate => wasLate.2.2⟩

end UntilDrop

/-! ## The call -/

/-- The engine response which a datagram carries, with its addressee. -/
def Message.output (message : Message) : Option TargetOutput :=
  message.frame.map fun frame => ⟨message.addr, frame⟩

/-- A call which marked a slot succeeded, told everybody registered who is in the room, and sent
every response of the engine to its addressee, if that one is registered. -/
structure Delivered (before : AppState) (gameId : UInt32) (slot : Nat)
    (outcome : Except Report Bool) (after : AppState) (opened : GameInfo) : Prop where
  succeeds : ∃ dropped, outcome = .ok dropped
  tells : ∀ player ∈ opened.players, player.leftRoom = false →
    (before.clients.find player.addr).isSome = true →
      ∃ message ∈ after.tx.drop before.tx.length, message.addr = player.addr ∧
        message.newestType = some Msg.dropGame
  sends : ∀ game sync, before.games.find gameId = some game → game.syncManager = some sync →
    ∃ outputs : List TargetOutput,
      (returned (sync.call gameId (.drop slot)).1).map game.target = outputs.map some ∧
      (after.tx.drop before.tx.length).filterMap Message.output =
        outputs.filter fun output => (before.clients.find output.addr).isSome

/-- A call of `execute_drop_game` is delivered, if it marks a slot and leaves the game open. -/
def AppState.DeliversDrop (state : AppState) (gameId : UInt32) (addr : SocketAddr) : Prop :=
  ∀ slot opened,
    ((executeDropGame gameId addr).run state).2.calls = state.calls ++ [(gameId, .drop slot)] →
    ((executeDropGame gameId addr).run state).2.games.find gameId = some opened →
      Delivered state gameId slot ((executeDropGame gameId addr).run state).1
        ((executeDropGame gameId addr).run state).2 opened

/-- A listed player of a live game has left the server while somebody is still in the room. -/
def AppState.Deserted (state : AppState) (gameId : UInt32) : Prop :=
  ∃ game, state.games.find gameId = some game ∧ game.syncManager.isSome = true ∧
    (∃ player ∈ game.players, player.leftRoom = false) ∧
      ∃ player ∈ game.players, state.clients.find player.addr = none

/-- The call marks a slot: its client is registered, and a live game lists it. -/
def AppState.MarksSlot (state : AppState) (gameId : UInt32) (addr : SocketAddr) : Prop :=
  (state.clients.find addr).isSome = true ∧ ∃ game, state.games.find gameId = some game ∧
    game.syncManager.isSome = true ∧ (dropperSlot addr game).isSome = true

section Call

variable {state : AppState} {gameId : UInt32} {addr : SocketAddr}
  {late : UInt32 → SocketAddr → Prop}

theorem marksSlot_iff : state.MarksSlot gameId addr ↔
    ∃ game sync slot, state.hall.Marks gameId addr game sync slot := by
  constructor
  · rintro ⟨registered, game, here, live, found⟩
    obtain ⟨sync, running⟩ := Option.isSome_iff_exists.mp live
    obtain ⟨slot, found⟩ := Option.isSome_iff_exists.mp found
    exact ⟨game, sync, slot, by simpa using registered, here, running, found⟩
  · rintro ⟨game, sync, slot, registered, here, running, found⟩
    exact ⟨by simpa using registered, game, here, by simp [running], by simp [found]⟩

/-- The deliveries which a run adds to the queue. -/
theorem outputs_of_deliveries {before after : AppState} (queued : before.tx <+: after.tx)
    {added : List Delivery} (same : after.hall.deliveries = before.hall.deliveries ++ added) :
    (after.tx.drop before.tx.length).filterMap Message.output =
      added.map fun delivery => ⟨delivery.addr, delivery.frame⟩ := by
  obtain ⟨sent, appended⟩ := queued
  have deliveries : ∀ state : AppState,
      state.hall.deliveries = state.tx.filterMap Message.delivery := fun _ => rfl
  rw [deliveries, deliveries, ← appended, List.filterMap_append, List.append_cancel_left_eq] at same
  rw [← appended, List.drop_left, ← same, List.map_filterMap]
  refine List.filterMap_congr fun message _ => ?_
  simp [Message.output, Message.delivery, Function.comp_def]

/-- What is sent while everybody is registered. -/
theorem outputs_sent {member : SocketAddr → Option Member} {outputs : List TargetOutput}
    (registered : ∀ output ∈ outputs, (member output.addr).isSome = true) :
    (sent member (outputs.map some)).map (fun delivery => (⟨delivery.addr, delivery.frame⟩ :
      TargetOutput)) = outputs := by
  induction outputs with
  | nil => rfl
  | cons output rest ih =>
      obtain ⟨recipient, known⟩ :=
        Option.isSome_iff_exists.mp (registered output List.mem_cons_self)
      simp only [List.map_cons, sent, known]
      rw [ih fun other member => registered other (List.mem_cons_of_mem _ member)]

/-- Frames which all have an addressee. -/
theorem targets_of_resolved {game : GameInfo} {frames : List Frame}
    (resolved : ∀ frame ∈ frames, (game.target frame).isSome = true) :
    frames.map game.target = (frames.filterMap game.target).map some := by
  induction frames with
  | nil => rfl
  | cons frame rest ih =>
      obtain ⟨output, goes⟩ := Option.isSome_iff_exists.mp (resolved frame List.mem_cons_self)
      rw [List.map_cons, List.filterMap_cons_some goes, List.map_cons, goes,
        ih fun other member => resolved other (List.mem_cons_of_mem _ member)]

/-- With everybody registered an announced drop is delivered. -/
theorem delivered_of_registered (sound : state.hall.Sound late) {game opened : GameInfo}
    {sync : SyncManager} {slot other : Nat}
    (marks : state.hall.Marks gameId addr game sync slot)
    (stays : ∃ player ∈ game.players, player.leftRoom = false)
    (registered : ∀ player ∈ game.players, (state.hall.member player.addr).isSome = true)
    (logs : ((executeDropGame gameId addr).run state).2.calls =
      state.calls ++ [(gameId, .drop other)])
    (stillOpen : ((executeDropGame gameId addr).run state).2.games.find gameId = some opened) :
    Delivered state gameId other ((executeDropGame gameId addr).run state).1
      ((executeDropGame gameId addr).run state).2 opened := by
  have ok := sound.rooms gameId game marks.here
  have serves := (ok.playing sync marks.running).2
  obtain ⟨username, frames, next, marked, shown, called, _, listed, hall, _, queued, logged, ran⟩ :=
    run_announced sound marks stays
  have answers : (returned (sync.call gameId (.drop slot)).1) = frames := by rw [called]; rfl
  have resolved : ∀ frame ∈ frames, (game.target frame).isSome = true := by
    intro frame member
    have inRange := SyncManager.call_slot_lt (answers ▸ member)
    rw [serves.sized] at inRange
    simp [GameInfo.target, inRange]
  have found : marked.games.find gameId = some shown := by
    rw [← hall_room, hall]
    exact Function.update_self ..
  have sameMembers : marked.hall.member = state.hall.member := by rw [hall]; rfl
  have registeredMarked : ∀ player ∈ game.players,
      (marked.hall.member player.addr).isSome = true := by
    rw [sameMembers]
    exact registered
  obtain ⟨last, told, announced, queuedTold, addresses, types, delivered⟩ :=
    run_announceDrop found registeredMarked resolved username slot
  have uncalled := (calls_announceDrop gameId username slot frames game.players).keeps marked
  rw [ran, announced] at logs stillOpen ⊢
  rw [announced] at uncalled
  obtain rfl : slot = other := by
    rw [uncalled, logged] at logs
    simpa using logs
  have sameRoom : last.hall.room = marked.hall.room := by rw [delivered, Hall.room_deliver]
  obtain rfl : opened = shown := by
    rw [← hall_room, sameRoom, hall_room, found] at stillOpen
    exact (Option.some.inj stillOpen).symm
  have extended : state.tx <+: last.tx :=
    queued.trans ((List.prefix_append _ _).trans queuedTold)
  refine ⟨⟨true, rfl⟩, ?_, ?_⟩
  · intro player member stays _
    have inGame : marked.hall.gameOf player.addr = some gameId := by
      rw [Hall.gameOf, sameMembers]
      exact (sound.seated gameId game marks.here player (listed player member)).mp stays
    have tells : player.addr ∈ told.map Message.addr := by
      rw [addresses, List.mem_filter]
      exact ⟨List.mem_map_of_mem member, by simpa using inGame⟩
    obtain ⟨message, sent, same⟩ := List.mem_map.mp tells
    refine ⟨message, ?_, same, types message sent⟩
    obtain ⟨before, appended⟩ := queued
    obtain ⟨rest, all⟩ := queuedTold
    rw [← all, ← appended, List.append_assoc, List.append_assoc, List.drop_left]
    exact List.mem_append_right _ (List.mem_append_left _ sent)
  · intro there engine here runs
    obtain rfl : game = there := Option.some.inj (marks.here.symm.trans here)
    obtain rfl : sync = engine := Option.some.inj (marks.running.symm.trans runs)
    have targets := targets_of_resolved resolved
    have reach : ∀ output ∈ frames.filterMap game.target,
        (marked.hall.member output.addr).isSome = true := by
      intro output goes
      obtain ⟨frame, _, goes⟩ := List.mem_filterMap.mp goes
      obtain ⟨player, slot, rfl⟩ := Option.map_eq_some_iff.mp goes
      exact registeredMarked player (List.mem_of_getElem? slot)
    refine ⟨frames.filterMap game.target, by rw [answers, targets], ?_⟩
    have added := congrArg Hall.deliveries delivered
    have undelivered : marked.hall.deliveries = state.hall.deliveries := by
      rw [hall]
      rfl
    rw [Hall.deliveries_deliver, undelivered, targets] at added
    rw [outputs_of_deliveries extended added, outputs_sent reach, List.filter_eq_self.mpr]
    intro output goes
    rw [← registered_iff, ← sameMembers]
    exact reach output goes

/-- A call is delivered exactly if it marks no slot or the game is not deserted. -/
theorem deliversDrop_iff (sound : state.hall.Sound late)
    (onlyLate : ∀ who, late gameId who → who = addr) :
    state.DeliversDrop gameId addr ↔ ¬(state.MarksSlot gameId addr ∧ state.Deserted gameId) := by
  constructor
  · rintro delivers ⟨marksSlot, room, found, _, stays, player, member, gone⟩
    obtain ⟨game, sync, slot, marks⟩ := marksSlot_iff.mp marksSlot
    obtain rfl : room = game := Option.some.inj (found.symm.trans (marks.here))
    obtain ⟨username, frames, next, marked, opened, called, _, _, hall, _, _, logged, ran⟩ :=
      run_announced sound marks stays
    have missing : ∃ player ∈ room.players, marked.hall.member player.addr = none :=
      ⟨player, member, by simp [hall, Hall.setRoom, gone]⟩
    obtain ⟨report, last, failed, same⟩ :=
      run_announceDrop_missing missing gameId username slot frames
    have uncalled := (calls_announceDrop gameId username slot frames room.players).keeps marked
    rw [failed] at uncalled ran
    have still : last.games.find gameId = some opened := by
      rw [← hall_room, same, hall]
      exact Function.update_self ..
    obtain ⟨dropped, succeeds⟩ := (delivers slot opened (by rw [ran, ← logged]; exact uncalled)
      (by rw [ran]; exact still)).succeeds
    rw [ran] at succeeds
    cases succeeds
  · intro calm slot opened logs stillOpen
    by_cases marksSlot : state.MarksSlot gameId addr
    · obtain ⟨game, sync, marked, marks⟩ := marksSlot_iff.mp marksSlot
      by_cases stays : ∃ player ∈ game.players, player.leftRoom = false
      · refine delivered_of_registered sound marks stays (fun player member => ?_) logs stillOpen
        refine Option.isSome_iff_ne_none.mpr fun gone => calm ⟨marksSlot, game, marks.here, ?_⟩
        refine ⟨by simp [marks.running], stays, player, member, ?_⟩
        simpa using gone
      · obtain ⟨last, ran, closed, _⟩ := run_closing sound onlyLate marks stays
        rw [ran] at stillOpen
        rw [hall_room] at closed
        simp [closed] at stillOpen
    · have unmarked : ∀ game sync slot, ¬state.hall.Marks gameId addr game sync slot :=
        fun game sync slot marks => marksSlot (marksSlot_iff.mpr ⟨game, sync, slot, marks⟩)
      rw [run_unmarked unmarked] at logs
      simp at logs

end Call

/-! ## Runs of the server -/

/-- If handling the message calls `execute_drop_game`, the call is delivered. -/
def AppState.DeliversDrops (state : AppState) (message : SocketAddr × Request) : Prop :=
  ∀ gameId addr there,
    (untilDrop message.1 message.2).run state = (.ok (some (gameId, addr)), there) →
      there.DeliversDrop gameId addr

/-- If handling the message marks a slot, the game is not deserted at that moment. -/
def AppState.DropsAttended (state : AppState) (message : SocketAddr × Request) : Prop :=
  ∀ gameId addr there,
    (untilDrop message.1 message.2).run state = (.ok (some (gameId, addr)), there) →
      ¬(there.MarksSlot gameId addr ∧ there.Deserted gameId)

/-- A run delivers all of its drops exactly if it never marks a slot of a deserted game. -/
theorem drops_delivered_iff (config : Config) {start : AppState} (opening : start.Opening)
    (messages : List (SocketAddr × Request)) :
    (server config).Along AppState.DeliversDrops start messages ↔
      (server config).Along AppState.DropsAttended start messages := by
  refine (server config).along_congr (fun state => state.hall.Sound Hall.nobody) ?_ ?_
    opening.sound messages
  · intro state message sound
    rw [hall_step]
    exact sound.handle config message.1 message.2
  · intro state message sound
    refine forall_congr' fun gameId => forall_congr' fun addr => forall_congr' fun there => ?_
    refine imp_congr_right fun reaches => ?_
    obtain ⟨late, soundThere, onlyLate⟩ := sound_untilDrop config sound reaches
    exact deliversDrop_iff soundThere onlyLate

instance decidableDeserted (state : AppState) (gameId : UInt32) :
    Decidable (state.Deserted gameId) :=
  inferInstanceAs (Decidable (∃ game ∈ state.games.find gameId, game.syncManager.isSome = true ∧
    (∃ player ∈ game.players, player.leftRoom = false) ∧
      ∃ player ∈ game.players, state.clients.find player.addr = none))

instance decidableMarksSlot (state : AppState) (gameId : UInt32) (addr : SocketAddr) :
    Decidable (state.MarksSlot gameId addr) :=
  inferInstanceAs (Decidable (_ ∧ ∃ game ∈ state.games.find gameId, _ ∧ _))

instance decidableDropsAttended (state : AppState) (message : SocketAddr × Request) :
    Decidable (state.DropsAttended message) :=
  decidable_of_iff' _ (forall_reached_iff fun gameId addr there =>
    ¬(there.MarksSlot gameId addr ∧ there.Deserted gameId))

/-- One of three players drops, and then all of them leave. -/
theorem drops_delivered_three_players :
    (server oneFrame).Along AppState.DeliversDrops threeClients
      (warmedUp ++ [(2, .dropGame []), (3, .quitGame []), (2, .quitGame []),
        (1, .userQuit [0, 255, 255, 0])]) :=
  (drops_delivered_iff oneFrame threeClients_opening _).mpr (by decide +kernel)

/-- The second of three players leaves the server; the drop of the third one is lost. -/
theorem drop_lost_after_user_quit :
    threeClients.Opening ∧
      ¬((server oneFrame).final threeClients
        (warmedUp ++ [(2, .userQuit [0, 255, 255, 0])])).DeliversDrops (3, .dropGame []) := by
  refine ⟨threeClients_opening, fun delivers => ?_⟩
  have sound := sound_final oneFrame threeClients_opening
    (warmedUp ++ [(2, .userQuit [0, 255, 255, 0])])
  generalize reached : (server oneFrame).final threeClients
    (warmedUp ++ [(2, .userQuit [0, 255, 255, 0])]) = state at delivers sound
  have resolved : state.hall.resolve 3 = some (1, 2) := by
    rw [← reached]
    decide +kernel
  have blocked : state.MarksSlot 1 3 ∧ state.Deserted 1 := by
    rw [← reached]
    decide +kernel
  have calls : (untilDrop 3 (.dropGame [])).run state = (.ok (some (1, 3)), state) := by
    rw [untilDrop, Task.run_bind, run_resolveInGame, resolved]
    rfl
  exact (deliversDrop_iff sound fun _ => False.elim).mp (delivers 1 3 state calls) blocked

end Direlera.Lobby
