import Direlera.Lobby.Capacity
import Direlera.Lobby.LiveGame
import Direlera.Lobby.StreamContainment

/-!
# The engine of a live game over many messages

While a game stays live, complete messages do nothing to its engine but call it, and send its
players nothing but its answers. Which calls carry inputs is read off the messages.
-/

namespace Direlera.Sync

/-- The slot and the input of a call which carries one. -/
def Call.fed : Call → Option (Nat × ClientInput)
  | .input slot message => some (slot, message)
  | .drop _ => none

/-- The messages of a player are the inputs of its slot. -/
theorem DelayedGameSync.messagesOf_eq {n : Nat} (player : Fin n) (calls : List Call) :
    messagesOf player calls =
      ((calls.filterMap Call.fed).filter fun fed => fed.1 = player.val).map Prod.snd := by
  induction calls with
  | nil => rfl
  | cons call rest ih =>
      cases call with
      | drop slot => exact ih
      | input slot message =>
          by_cases own : slot = player.val <;> simp [messagesOf, Call.fed, own, ih]

end Direlera.Sync

namespace Direlera.Lobby

open Direlera.Library Direlera.Sync Direlera.Sync.SimplestGameSync

/-! ## Calls and answers -/

namespace SyncManager

/-- The engine of game `gameId`, call by call. -/
def machine (gameId : UInt32) :
    Transducer SyncManager Call (Except GameSyncError (List Frame)) where
  step sync request := sync.call gameId request

/-- What the calls are answered, in order. -/
def answers (gameId : UInt32) (sync : SyncManager) (calls : List Call) : List Frame :=
  ((machine gameId).outputs sync calls).flatMap returned

theorem answers_append (gameId : UInt32) (sync : SyncManager) (first second : List Call) :
    sync.answers gameId (first ++ second) = sync.answers gameId first ++
      ((machine gameId).final sync first).answers gameId second := by
  rw [answers, Transducer.outputs_append, List.flatMap_append]
  rfl

theorem answers_singleton (gameId : UInt32) (sync : SyncManager) (request : Call) :
    sync.answers gameId [request] = returned (sync.call gameId request).1 :=
  List.append_nil _

/-- The calls are those of the engine itself. -/
theorem final_engine (gameId : UInt32) {n : Nat} (engine : DelayedGameSync n) (calls : List Call) :
    (machine gameId).final ⟨n, engine⟩ calls =
      ⟨n, (DelayedGameSync.machine n).final engine calls⟩ := by
  induction calls generalizing engine with
  | nil => rfl
  | cons request rest ih => exact ih _

theorem answers_engine (gameId : UInt32) {n : Nat} (engine : DelayedGameSync n)
    (calls : List Call) :
    answers gameId ⟨n, engine⟩ calls =
      (((DelayedGameSync.machine n).outputs engine calls).flatMap returned).map (frame gameId) := by
  induction calls generalizing engine with
  | nil => rfl
  | cons request rest ih =>
      have here := @returned_call ⟨n, engine⟩ gameId request
      have later := ih ((DelayedGameSync.machine n).step engine request).2
      rw [Transducer.outputs_cons, List.flatMap_cons, List.map_append, ← later, ← here]
      rfl

end SyncManager

/-! ## One live game of a hall -/

/-- A delivery as the response which it carries. -/
def Delivery.output (delivery : Delivery) : TargetOutput := ⟨delivery.addr, delivery.frame⟩

/-- The response for a slot of players. -/
def Frame.toSlot (addrs : List SocketAddr) (frame : Frame) : TargetOutput :=
  ⟨addrs.getD frame.slot 0, frame⟩

namespace Hall

variable {hall before middle after : Hall} {gameId other : UInt32} {addrs : List SocketAddr}
  {sync : SyncManager} {game : GameInfo} {addr src : SocketAddr}

/-- What was sent of the engine of a game, in order. -/
def stream (hall : Hall) (gameId : UInt32) : List TargetOutput :=
  ofGame gameId (hall.deliveries.map Delivery.output)

/-- A live game, with the addresses of its players by slot. -/
def Runs (hall : Hall) (gameId : UInt32) (addrs : List SocketAddr) (sync : SyncManager) : Prop :=
  ∃ game, hall.room gameId = some game ∧ game.players.map GamePlayerInfo.addr = addrs ∧
    game.syncManager = some sync

/-- The engine of a game, while it runs. -/
def engineOf (hall : Hall) (gameId : UInt32) : Option SyncManager :=
  (hall.room gameId).bind GameInfo.syncManager

theorem Runs.engineOf (runs : hall.Runs gameId addrs sync) : hall.engineOf gameId = some sync := by
  obtain ⟨game, here, -, running⟩ := runs
  rw [Hall.engineOf, here, Option.bind_some, running]

/-- A live game goes on: `calls` were made to its engine, and all its players were sent the
answers if they are still registered. -/
structure GoesOn (gameId : UInt32) (addrs : List SocketAddr) (sync : SyncManager)
    (before after : Hall) (calls : List Call) : Prop where
  runs : after.Runs gameId addrs ((SyncManager.machine gameId).final sync calls)
  registered : ∀ addr ∈ addrs, (after.member addr).isSome = true →
    (before.member addr).isSome = true
  stream : (∀ addr ∈ addrs, (after.member addr).isSome = true) →
    after.stream gameId =
      before.stream gameId ++ (sync.answers gameId calls).map (Frame.toSlot addrs)

theorem GoesOn.refl (runs : hall.Runs gameId addrs sync) : GoesOn gameId addrs sync hall hall [] :=
  ⟨runs, fun _ _ => id, fun _ => (List.append_nil _).symm⟩

theorem GoesOn.trans {first second : List Call} (one : GoesOn gameId addrs sync before middle first)
    (two : GoesOn gameId addrs ((SyncManager.machine gameId).final sync first) middle after second) :
    GoesOn gameId addrs sync before after (first ++ second) where
  runs := by
    rw [Transducer.final_append]
    exact two.runs
  registered := fun addr listed here =>
    one.registered addr listed (two.registered addr listed here)
  stream := by
    intro everyone
    rw [two.stream everyone, one.stream fun addr listed => two.registered addr listed (everyone addr listed),
      SyncManager.answers_append, List.map_append, List.append_assoc]

/-- A game is left alone: its room stays, and nothing of its engine is sent. -/
structure Spares (gameId : UInt32) (before after : Hall) : Prop where
  room : after.room gameId = before.room gameId
  registered : ∀ addr, (after.member addr).isSome = true → (before.member addr).isSome = true
  stream : after.stream gameId = before.stream gameId

theorem Spares.refl (hall : Hall) : Spares gameId hall hall := ⟨rfl, fun _ => id, rfl⟩

theorem Spares.trans (one : Spares gameId before middle) (two : Spares gameId middle after) :
    Spares gameId before after :=
  ⟨two.room.trans one.room, fun addr here => one.registered addr (two.registered addr here),
    two.stream.trans one.stream⟩

/-- A live game which is left alone goes on. -/
theorem Spares.goesOn (spares : Spares gameId before after) (runs : before.Runs gameId addrs sync) :
    GoesOn gameId addrs sync before after [] where
  runs := by
    obtain ⟨game, here, listed, running⟩ := runs
    exact ⟨game, spares.room.trans here, listed, running⟩
  registered := fun addr _ => spares.registered addr
  stream := fun _ => spares.stream.trans (List.append_nil _).symm

theorem spares_setGame (hall : Hall) (addr : SocketAddr) (moved : Option UInt32) :
    Spares gameId hall (hall.setGame addr moved) := by
  refine ⟨rfl, fun known here => ?_, rfl⟩
  by_cases same : known = addr
  · simpa [setGame, same] using here
  · simpa [setGame, same] using here

theorem spares_setRoom (hall : Hall) (different : other ≠ gameId) (room : Option GameInfo) :
    Spares gameId hall (hall.setRoom other room) :=
  ⟨Function.update_of_ne different.symm .., fun _ => id, rfl⟩

theorem spares_forget (hall : Hall) (addr : SocketAddr) : Spares gameId hall (hall.forget addr) := by
  refine ⟨rfl, fun known here => ?_, rfl⟩
  by_cases same : known = addr
  · simp [forget, same] at here
  · simpa [forget, same] using here

/-! ## What is sent -/

/-- A send loop with all its recipients registered sends everything. -/
theorem sent_outputs {member : SocketAddr → Option Member} {outputs : List TargetOutput}
    (registered : ∀ output ∈ outputs, (member output.addr).isSome = true) :
    (sent member (outputs.map some)).map Delivery.output = outputs := by
  induction outputs with
  | nil => rfl
  | cons output rest ih =>
      obtain ⟨recipient, known⟩ :=
        Option.isSome_iff_exists.mp (registered output List.mem_cons_self)
      rw [List.map_cons, sent, known, List.map_cons,
        ih fun later member => registered later (List.mem_cons_of_mem _ member)]
      rfl

/-- The answers of another game are not in the stream. -/
theorem ofGame_sent_of_ne (different : other ≠ gameId) {member : SocketAddr → Option Member}
    (target : Frame → Option TargetOutput) (request : Call)
    (same : ∀ frame output, target frame = some output → output.frame = frame) :
    ofGame gameId ((sent member ((returned (sync.call other request).1).map target)).map
      Delivery.output) = [] := by
  refine List.filter_eq_nil_iff.mpr fun output inStream => ?_
  obtain ⟨delivery, enqueued, rfl⟩ := List.mem_map.mp inStream
  obtain ⟨i, output, recipient, here, _, rfl, _⟩ := mem_sent.mp enqueued
  obtain ⟨frame, answered, targeted⟩ := List.mem_map.mp (List.mem_of_getElem? here)
  have origin := SyncManager.call_origin answered
  rw [← same frame output targeted] at origin
  simpa [Delivery.output, origin] using different

theorem frame_of_target {frame : Frame} {output : TargetOutput}
    (targeted : game.target frame = some output) : output.frame = frame := by
  obtain ⟨player, _, rfl⟩ := Option.map_eq_some_iff.mp targeted
  rfl

/-- The answers go to the slots of the game. -/
theorem map_target (sized : sync.playerCount = game.players.length) (gameId : UInt32)
    (request : Call) :
    (returned (sync.call gameId request).1).map game.target =
      ((returned (sync.call gameId request).1).map
        (Frame.toSlot (game.players.map GamePlayerInfo.addr))).map some := by
  rw [List.map_map]
  refine List.map_congr_left fun frame answered => ?_
  have inRange : frame.slot < game.players.length := sized ▸ SyncManager.call_slot_lt answered
  simp [GameInfo.target, Frame.toSlot, inRange, List.getD_eq_getElem?_getD]

/-- The stream after a call whose answers were sent. -/
theorem stream_sent (sized : sync.playerCount = game.players.length) (request : Call)
    (everyone : ∀ addr ∈ game.players.map GamePlayerInfo.addr,
      (hall.member addr).isSome = true)
    (sentAll : after.deliveries = hall.deliveries ++
      sent hall.member ((returned (sync.call gameId request).1).map game.target)) :
    after.stream gameId = hall.stream gameId ++ (sync.answers gameId [request]).map
      (Frame.toSlot (game.players.map GamePlayerInfo.addr)) := by
  have registered : ∀ output ∈ (returned (sync.call gameId request).1).map
      (Frame.toSlot (game.players.map GamePlayerInfo.addr)),
        (hall.member output.addr).isSome = true := by
    intro output answered
    obtain ⟨frame, member, rfl⟩ := List.mem_map.mp answered
    have inRange : frame.slot < (game.players.map GamePlayerInfo.addr).length := by
      rw [List.length_map]
      exact sized ▸ SyncManager.call_slot_lt member
    refine everyone _ ?_
    rw [Frame.toSlot, List.getD_eq_getElem?_getD, List.getElem?_eq_getElem inRange]
    exact List.getElem_mem inRange
  rw [stream, sentAll, List.map_append, ofGame_append, map_target sized, sent_outputs registered,
    SyncManager.answers_singleton]
  congr 1
  refine List.filter_eq_self.mpr fun output answered => ?_
  obtain ⟨frame, member, rfl⟩ := List.mem_map.mp answered
  exact decide_eq_true (SyncManager.call_origin member)

/-! ## Inputs -/

/-- An input which finds a live game moves its engine and nothing else. -/
theorem feed_live (here : hall.room gameId = some game) (running : game.syncManager = some sync)
    (slot : Nat) (input : ClientInput) :
    (hall.feed gameId slot input).room = (hall.setRoom gameId
        (some { game with syncManager := some (sync.call gameId (.input slot input)).2 })).room ∧
      (hall.feed gameId slot input).member = hall.member := by
  unfold Hall.feed
  simp only [here, running]
  split
  · exact ⟨rfl, rfl⟩
  · split
    · exact ⟨room_deliver _, member_deliver _⟩
    · exact ⟨rfl, rfl⟩

theorem goesOn_feed (ok : game.RoomOk (nobody gameId)) (here : hall.room gameId = some game)
    (running : game.syncManager = some sync) (slot : Nat) (input : ClientInput) :
    GoesOn gameId (game.players.map GamePlayerInfo.addr) sync hall (hall.feed gameId slot input)
      [.input slot input] := by
  obtain ⟨room, member⟩ := feed_live here running slot input
  refine ⟨⟨_, (congrFun room gameId).trans (Function.update_self ..), rfl, rfl⟩,
    fun addr _ => by rw [member]; exact id, fun everyone => ?_⟩
  rw [member] at everyone
  exact stream_sent (ok.playing sync running).2.sized _ everyone
      (deliveries_feed ok here running slot input)

theorem spares_feed (sound : hall.Sound nobody) (different : other ≠ gameId) (slot : Nat)
    (input : ClientInput) : Spares gameId hall (hall.feed other slot input) := by
  cases here : hall.room other with
  | none => simpa [Hall.feed, here] using Spares.refl hall
  | some game =>
      cases running : game.syncManager with
      | none => simpa [Hall.feed, here, running] using Spares.refl hall
      | some sync =>
          obtain ⟨room, member⟩ := feed_live here running slot input
          refine ⟨?_, fun addr => by rw [member]; exact id, ?_⟩
          · rw [room]
            exact Function.update_of_ne different.symm ..
          · rw [stream, deliveries_feed (sound.rooms other game here) here running slot input,
              List.map_append, ofGame_append,
              ofGame_sent_of_ne different _ _ fun _ _ => frame_of_target, List.append_nil]
            rfl

/-! ## Drops -/

/-- Released frames are sent if all players by slot are registered. -/
theorem deliveries_release
    (everyone : ∀ addr ∈ game.players.map GamePlayerInfo.addr, (hall.member addr).isSome = true)
    (frames : List Frame) :
    (hall.release game frames).deliveries =
      hall.deliveries ++ sent hall.member (frames.map game.target) := by
  have all : (game.players.all fun player => (hall.member player.addr).isSome) = true :=
    List.all_eq_true.mpr fun player listed => everyone _ (List.mem_map_of_mem listed)
  rw [release, if_pos all, deliveries_deliver]

/-- A drop which finds a slot marks it and releases the frames which are complete, or it ends
the game. -/
theorem drop_marked (registered : (hall.member src).isSome = true)
    (here : hall.room gameId = some game) (running : game.syncManager = some sync) {slot : Nat}
    (found : dropperSlot src game = some slot) :
    let marked := hall.setRoom gameId
      (some { game with syncManager := some (sync.call gameId (.drop slot)).2 })
    (∃ error, (sync.call gameId (.drop slot)).1 = .error error ∧ hall.drop gameId src = marked) ∨
      (∃ frames, (sync.call gameId (.drop slot)).1 = .ok frames ∧
        hall.drop gameId src = marked.release game frames) ∨
      (hall.drop gameId src).engineOf gameId = none := by
  intro marked
  obtain ⟨member, known⟩ := Option.isSome_iff_exists.mp registered
  have ended : ∀ room : Hall, room.room = (hall.setRoom gameId none).room ∨ (∃ next,
      room.room = (hall.setRoom gameId (some (GameInfo.finish
        { game with syncManager := some next }))).room) → room.engineOf gameId = none := by
    rintro room (closed | ⟨next, opened⟩)
    · rw [engineOf, closed, room_setRoom, if_pos rfl, Option.bind_none]
    · rw [engineOf, opened, room_setRoom, if_pos rfl, Option.bind_some]
      simp [GameInfo.finish, GameInfo.purge, GameInfo.recount]
  simp only [marked, Hall.drop, known, here, found, running]
  rcases sync.call gameId (.drop slot) with ⟨error | frames, next⟩
  · exact .inl ⟨error, rfl, rfl⟩
  · right
    dsimp only
    split
    · right
      split
      · exact ended _ (.inl rfl)
      · exact ended _ (.inr ⟨next, room_release _ _⟩)
    · exact .inl ⟨frames, rfl, rfl⟩

/-- A live game which a drop does not end goes on. -/
theorem goesOn_drop {late : SocketAddr → Prop} (ok : game.RoomOk late)
    (here : hall.room gameId = some game) (running : game.syncManager = some sync)
    (registered : (hall.member src).isSome = true)
    (live : ((hall.drop gameId src).engineOf gameId).isSome = true) :
    ∃ calls, GoesOn gameId (game.players.map GamePlayerInfo.addr) sync hall (hall.drop gameId src)
      calls ∧ calls.filterMap Call.fed = [] := by
  have sized := (ok.playing sync running).2.sized
  cases found : dropperSlot src game with
  | none =>
      have unmoved : hall.drop gameId src = hall := by
        unfold Hall.drop
        split
        · simp_all
        · rfl
      rw [unmoved]
      exact ⟨[], Spares.goesOn (.refl hall) ⟨game, here, rfl, running⟩, rfl⟩
  | some slot =>
      refine ⟨[.drop slot], ?_, rfl⟩
      have marked : ∀ after : Hall, after.room = (hall.setRoom gameId
          (some { game with syncManager := some (sync.call gameId (.drop slot)).2 })).room →
            after.Runs gameId (game.players.map GamePlayerInfo.addr)
              (sync.call gameId (.drop slot)).2 :=
        fun after room => ⟨_, (congrFun room gameId).trans (Function.update_self ..), rfl, rfl⟩
      rcases drop_marked registered here running found with
        ⟨error, called, moved⟩ | ⟨frames, called, moved⟩ | ended
      · rw [moved]
        refine ⟨marked _ rfl, fun _ _ => id, fun _ => ?_⟩
        rw [SyncManager.answers_singleton, called]
        exact (List.append_nil _).symm
      · rw [moved]
        refine ⟨marked _ (room_release _ _), fun addr _ => by rw [member_release]; exact id,
          fun everyone => ?_⟩
        rw [member_release] at everyone
        refine stream_sent sized _ everyone ?_
        rw [deliveries_release everyone, called]
        rfl
      · rw [ended] at live
        exact absurd live Bool.false_ne_true

theorem spares_drop (hall : Hall) (different : other ≠ gameId) (src : SocketAddr) :
    Spares gameId hall (hall.drop other src) := by
  refine ⟨?_, fun addr => by rw [member_drop]; exact id, ?_⟩
  · rcases hall.drop_cases other src with ⟨same, _⟩ | ⟨_, _, _, _, _, _, room, same, _⟩
    · rw [same]
    · rw [same]
      exact Function.update_of_ne different.symm ..
  · rcases hall.deliveries_drop other src with same | ⟨game, sync, slot, _, _, _, _, _, same⟩
    · rw [stream, same]
      rfl
    · rw [stream, same, List.map_append, ofGame_append,
        ofGame_sent_of_ne different _ _ fun _ _ => frame_of_target, List.append_nil]
      rfl

/-! ## Departures -/

/-- A live game goes on without an input. -/
def Advances (gameId : UInt32) (addrs : List SocketAddr) (sync : SyncManager)
    (before after : Hall) : Prop :=
  ∃ calls, GoesOn gameId addrs sync before after calls ∧ calls.filterMap Call.fed = []

theorem Spares.advances (spares : Spares gameId before after)
    (runs : before.Runs gameId addrs sync) : Advances gameId addrs sync before after :=
  ⟨[], spares.goesOn runs, rfl⟩

theorem Advances.spares (advances : Advances gameId addrs sync before middle)
    (spares : Spares gameId middle after) : Advances gameId addrs sync before after := by
  obtain ⟨calls, goesOn, inputs⟩ := advances
  exact ⟨calls ++ [], goesOn.trans (spares.goesOn goesOn.runs), by simpa using inputs⟩

/-- A departure from a live game leaves its engine and its slots. -/
theorem goesOn_depart (ok : game.RoomOk (nobody gameId)) (running : game.syncManager = some sync)
    (addr : SocketAddr) :
    GoesOn gameId (game.players.map GamePlayerInfo.addr) sync hall (hall.depart gameId addr game)
      [] := by
  obtain ⟨sameSync, _, sameAddrs⟩ := leave_live ok running addr addr
  have moved : Spares gameId hall (hall.setGame addr none) := spares_setGame hall addr none
  exact ⟨⟨_, Function.update_self .., sameAddrs, sameSync⟩, fun addr _ => moved.registered addr,
    fun _ => (List.append_nil _).symm⟩

/-- A departure and the drop which follows it. -/
theorem advances_departDrop (sound : hall.Sound nobody) (here : hall.room gameId = some game)
    (running : game.syncManager = some sync) (inGame : hall.gameOf addr = some gameId)
    (live : (((hall.depart gameId addr game).drop gameId addr).engineOf gameId).isSome = true) :
    Advances gameId (game.players.map GamePlayerInfo.addr) sync hall
      ((hall.depart gameId addr game).drop gameId addr) := by
  have ok := sound.rooms gameId game here
  obtain ⟨sameSync, _, sameAddrs⟩ := leave_live ok running addr addr
  have opened : (hall.depart gameId addr game).room gameId = some (game.leave addr).2 :=
    Function.update_self ..
  obtain ⟨calls, dropped, inputs⟩ := goesOn_drop ((sound.depart here inGame).rooms _ _ opened) opened
    sameSync (member_depart inGame gameId game) live
  rw [sameAddrs] at dropped
  exact ⟨[] ++ calls, (goesOn_depart ok running addr).trans dropped, inputs⟩

theorem spares_depart (hall : Hall) (different : other ≠ gameId) (addr : SocketAddr)
    (game : GameInfo) : Spares gameId hall (hall.depart other addr game) :=
  (spares_setGame hall addr none).trans (spares_setRoom _ different _)

theorem advances_leave (sound : hall.Sound nobody) (runs : hall.Runs gameId addrs sync)
    (inGame : hall.gameOf addr = some other)
    (live : ((hall.leave other addr).engineOf gameId).isSome = true) :
    Advances gameId addrs sync hall (hall.leave other addr) := by
  by_cases same : other = gameId
  · subst same
    obtain ⟨game, here, rfl, running⟩ := runs
    have playing : (game.leave addr).1.1 = .playing :=
      (game.leave_playing_iff addr).mpr (by simp [running])
    rw [leave_of_room here, playing] at live ⊢
    exact advances_departDrop sound here running inGame live
  · cases here : hall.room other with
    | none => simpa [Hall.leave, here] using (Spares.refl hall).advances runs
    | some game =>
        rw [leave_of_room here]
        have departed := (spares_depart hall same addr game).advances runs
        cases (game.leave addr).1.1 with
        | playing => exact departed.spares (spares_drop _ same addr)
        | waitingOpen => exact departed
        | waitingClosed => exact departed.spares (spares_setRoom _ same none)

theorem advances_quit (sound : hall.Sound nobody) (runs : hall.Runs gameId addrs sync)
    (live : ((hall.quit src).engineOf gameId).isSome = true) :
    Advances gameId addrs sync hall (hall.quit src) := by
  unfold Hall.quit at live ⊢
  split at live
  next other inGame => exact advances_leave sound runs inGame live
  next => exact (Spares.refl hall).advances runs

theorem advances_expel (sound : hall.Sound nobody) (runs : hall.Runs gameId addrs sync)
    (inGame : hall.gameOf addr = some other)
    (live : ((hall.expel other addr).engineOf gameId).isSome = true) :
    Advances gameId addrs sync hall (hall.expel other addr) := by
  by_cases same : other = gameId
  · subst same
    obtain ⟨game, here, rfl, running⟩ := runs
    have playing : (game.leave addr).1.1 = .playing :=
      (game.leave_playing_iff addr).mpr (by simp [running])
    rw [expel_of_room here, if_pos playing] at live ⊢
    exact advances_departDrop sound here running inGame live
  · cases here : hall.room other with
    | none => simpa [Hall.expel, here] using (Spares.refl hall).advances runs
    | some game =>
        rw [expel_of_room here]
        have departed := (spares_depart hall same addr game).advances runs
        split
        · exact departed.spares (spares_drop _ same addr)
        · exact departed

/-! ## Other messages -/

/-- A created game leaves others alone, unless it takes their id. -/
theorem advances_create (runs : hall.Runs gameId addrs sync) (gameName : Bytes)
    (live : ((hall.create gameName src).engineOf gameId).isSome = true) :
    Advances gameId addrs sync hall (hall.create gameName src) := by
  have drawn : Spares gameId hall { hall with nextGameId := hall.nextGameId + 1 } :=
    ⟨rfl, fun _ => id, rfl⟩
  unfold Hall.create at live ⊢
  by_cases listed : hall.listed src = true
  · rw [if_pos listed]
    exact (Spares.refl hall).advances runs
  · rw [if_neg listed] at live ⊢
    cases known : hall.member src with
    | none => exact drawn.advances runs
    | some member =>
        rw [known] at live
        by_cases same : hall.nextGameId = gameId
        · simp [engineOf, setGame, setRoom, same, createdGame] at live
        · exact ((drawn.trans (spares_setRoom _ same _)).trans (spares_setGame _ src _)).advances
            runs

theorem advances_join (runs : hall.Runs gameId addrs sync) (joined : UInt32) :
    Advances gameId addrs sync hall (hall.join joined src) := by
  unfold Hall.join
  split
  next member game known here =>
    split
    next free =>
      have different : joined ≠ gameId := by
        rintro rfl
        obtain ⟨live, there, _, running⟩ := runs
        obtain rfl := Option.some.inj (here.symm.trans there)
        simp [(GameInfo.joinable_iff.mp free.2).2.1] at running
      exact ((spares_setGame hall src joined).trans (spares_setRoom _ different _)).advances runs
    next => exact (Spares.refl hall).advances runs
  next => exact (Spares.refl hall).advances runs

/-- A live game is not started again. -/
theorem advances_start (runs : hall.Runs gameId addrs sync) (config : Config) :
    Advances gameId addrs sync hall (hall.start config src) := by
  have unmoved := (Spares.refl hall).advances runs
  unfold Hall.start
  split
  next => exact unmoved
  next =>
    split
    next => exact unmoved
    next started _ =>
      split
      next => exact unmoved
      next game here =>
        split
        next allowed =>
          have different : started ≠ gameId := by
            rintro rfl
            obtain ⟨live, there, _, running⟩ := runs
            obtain rfl := Option.some.inj (here.symm.trans there)
            simp [running] at allowed
          exact (spares_setRoom hall different _).advances runs
        next => exact unmoved

/-- A message without an input. -/
theorem advances_handle (sound : hall.Sound nobody) (runs : hall.Runs gameId addrs sync)
    (config : Config) {request : Request} (plain : request.input = none)
    (live : ((hall.handle config src request).engineOf gameId).isSome = true) :
    Advances gameId addrs sync hall (hall.handle config src request) := by
  have unmoved := (Spares.refl hall).advances runs
  revert live
  refine @handle_elim (fun after => (after.engineOf gameId).isSome = true →
    Advances gameId addrs sync hall after) hall config src request ?_ ?_ ?_ ?_ ?_ ?_ ?_ ?_ ?_
  · exact fun _ => unmoved
  · exact fun data _ live => advances_create runs _ live
  · exact fun data joined _ _ _ => advances_join runs joined
  · exact fun data _ live => advances_quit sound runs live
  · exact fun data _ live =>
      Advances.spares (advances_quit sound runs live) (spares_forget _ src)
  · exact fun data userId other addr _ _ target live =>
      advances_expel sound runs (gameOf_kickTarget target) live
  · exact fun data _ _ => advances_start runs config
  · intro data other slot _ resolved live
    by_cases same : other = gameId
    · subst same
      obtain ⟨game, here, rfl, running⟩ := runs
      exact goesOn_drop (sound.rooms other game here) here running (registered_of_resolve resolved)
        live
    · exact (spares_drop hall same src).advances runs
  · intro input other slot carried
    rw [plain] at carried
    cases carried

/-! ## Every message -/

/-- The slot and the input with which a message calls the engine of a live game. -/
def inputs (hall : Hall) (gameId : UInt32) (src : SocketAddr) (request : Request) :
    List (Nat × ClientInput) :=
  match request.input, hall.resolve src with
  | some input, some (found, slot) => if found = gameId then [(slot, input)] else []
  | _, _ => []

/-- A message after which a live game is still live only calls its engine: with the input which
it carries, if its sender plays the game, and else at most with a drop. -/
theorem goesOn_handle (sound : hall.Sound nobody) (runs : hall.Runs gameId addrs sync)
    (config : Config) (src : SocketAddr) (request : Request)
    (live : ((hall.handle config src request).engineOf gameId).isSome = true) :
    ∃ calls, GoesOn gameId addrs sync hall (hall.handle config src request) calls ∧
      calls.filterMap Call.fed = hall.inputs gameId src request := by
  unfold inputs
  cases carried : request.input with
  | none => exact advances_handle sound runs config carried live
  | some input =>
      rw [handle_input hall config src carried, Hall.play]
      cases resolved : hall.resolve src with
      | none => exact (Spares.refl hall).advances runs
      | some place =>
          obtain ⟨found, slot⟩ := place
          by_cases same : found = gameId
          · subst same
            obtain ⟨game, here, rfl, running⟩ := runs
            refine ⟨[.input slot input], goesOn_feed (sound.rooms found game here) here running slot
              input, ?_⟩
            simp [Call.fed]
          · simp only [if_neg same]
            exact (spares_feed sound same slot input).advances runs

/-- A player whose slot is not dropped plays at its slot. -/
theorem resolve_of_stays (sound : hall.Sound nobody) (runs : hall.Runs gameId addrs sync)
    {slot : Nat} (listed : addrs[slot]? = some addr)
    (stays : sync.engine.isPlayerDropped slot = false) :
    hall.resolve addr = some (gameId, slot) := by
  obtain ⟨game, here, rfl, running⟩ := runs
  have ok := sound.rooms gameId game here
  rw [List.getElem?_map] at listed
  obtain ⟨player, seat, rfl⟩ := Option.map_eq_some_iff.mp listed
  have inRoom : player.leftRoom = false := by
    by_contra left
    have dropped := (ok.playing sync running).2.tombstones slot player seat (by simpa using left) id
    simp [stays] at dropped
  have inGame := (sound.seated gameId game here player (List.mem_of_getElem? seat)).mp inRoom
  have position : game.position player.addr = some slot := by
    cases found : game.position player.addr with
    | none => exact absurd rfl (GameInfo.position_none found player (List.mem_of_getElem? seat))
    | some other =>
        obtain ⟨twin, there, same⟩ := GameInfo.position_some found
        rw [slot_unique ok.distinct there seat same]
  change ((hall.gameOf player.addr).bind _) = _
  rw [inGame, Option.bind_some, here, Option.bind_some, position, Option.map_some]

/-- What reaches the slot of a player who is not dropped are its own inputs. -/
theorem inputs_of_stays (sound : hall.Sound nobody) (runs : hall.Runs gameId addrs sync)
    {slot : Nat} (listed : addrs[slot]? = some addr)
    (stays : sync.engine.isPlayerDropped slot = false) (src : SocketAddr) (request : Request) :
    ((hall.inputs gameId src request).filter fun fed => fed.1 = slot).map Prod.snd =
      if src = addr then request.input.toList else [] := by
  have resolved := resolve_of_stays sound runs listed stays
  unfold inputs
  cases request.input with
  | none => simp
  | some input =>
      by_cases own : src = addr
      · subst own
        simp [resolved]
      · rw [if_neg own]
        cases others : hall.resolve src with
        | none => rfl
        | some place =>
            obtain ⟨found, other⟩ := place
            by_cases same : found = gameId
            · subst same
              have different : other ≠ slot := by
                rintro rfl
                obtain ⟨game, here, rfl, _⟩ := runs
                obtain ⟨first, there, rfl⟩ :=
                  GameInfo.position_some ((resolve_eq_some others).2 game here)
                obtain ⟨second, here, rfl⟩ :=
                  GameInfo.position_some ((resolve_eq_some resolved).2 game here)
                exact own (by rw [Option.some.inj (there.symm.trans here)])
              simp [different]
            · simp [same]

/-! ## Games which come up -/

@[simp] theorem engineOf_setRoom (hall : Hall) (other gameId : UInt32) (room : Option GameInfo) :
    (hall.setRoom other room).engineOf gameId =
      if gameId = other then room.bind GameInfo.syncManager else hall.engineOf gameId := by
  rw [engineOf, room_setRoom]
  split
  · rfl
  · rfl

theorem engineOf_congr (room : after.room = before.room) (gameId : UInt32) :
    after.engineOf gameId = before.engineOf gameId := by
  rw [engineOf, engineOf, room]

/-- No engine comes up. -/
def Sleeps (before after : Hall) : Prop :=
  ∀ gameId, before.engineOf gameId = none → after.engineOf gameId = none

theorem Sleeps.of_room (room : after.room = before.room) : Sleeps before after :=
  fun gameId idle => (engineOf_congr room gameId).trans idle

theorem Sleeps.trans (one : Sleeps before middle) (two : Sleeps middle after) :
    Sleeps before after :=
  fun gameId idle => two gameId (one gameId idle)

theorem sleeps_setRoom {room : Option GameInfo}
    (asleep : hall.engineOf other = none → room.bind GameInfo.syncManager = none) :
    Sleeps hall (hall.setRoom other room) := by
  intro gameId idle
  rw [engineOf_setRoom]
  split
  next same => exact asleep (same ▸ idle)
  next => exact idle

theorem sleeps_depart (here : hall.room other = some game) (addr : SocketAddr) :
    Sleeps hall (hall.depart other addr game) := by
  have moved : Sleeps hall (hall.setGame addr none) := .of_room rfl
  refine moved.trans (sleeps_setRoom fun idle => ?_)
  change (hall.room other).bind GameInfo.syncManager = none at idle
  rw [here, Option.bind_some] at idle
  obtain ⟨players, same, _⟩ := GameInfo.leave_waiting idle addr
  rw [Option.bind_some, same, GameInfo.syncManager_migrate]
  exact idle

theorem sleeps_drop (hall : Hall) (other : UInt32) (src : SocketAddr) :
    Sleeps hall (hall.drop other src) := by
  rcases hall.drop_cases other src with ⟨same, _⟩ | ⟨game, sync, _, here, running, _, room, same, _⟩
  · exact .of_room same
  · refine Sleeps.trans (sleeps_setRoom fun idle => ?_) (.of_room same)
    rw [engineOf, here, Option.bind_some, running] at idle
    cases idle

theorem sleeps_settle (hall : Hall) (other : UInt32) (addr : SocketAddr)
    (outcome : GameInfo.QuitOutcome) : Sleeps hall (hall.settle other addr outcome) := by
  cases outcome with
  | playing => exact hall.sleeps_drop other addr
  | waitingClosed => exact sleeps_setRoom fun _ => rfl
  | waitingOpen => exact fun _ => id

theorem sleeps_quit (hall : Hall) (src : SocketAddr) : Sleeps hall (hall.quit src) := by
  unfold Hall.quit
  split
  next other _ =>
    cases here : hall.room other with
    | none =>
        rw [Hall.leave, here]
        exact fun _ => id
    | some game =>
        rw [leave_of_room here]
        exact (sleeps_depart here src).trans (sleeps_settle _ other src _)
  next => exact fun _ => id

theorem sleeps_expel (hall : Hall) (other : UInt32) (addr : SocketAddr) :
    Sleeps hall (hall.expel other addr) := by
  cases here : hall.room other with
  | none =>
      rw [Hall.expel, here]
      exact fun _ => id
  | some game =>
      rw [expel_of_room here]
      split
      · exact (sleeps_depart here addr).trans (sleeps_drop _ other addr)
      · exact sleeps_depart here addr

theorem sleeps_create (hall : Hall) (gameName : Bytes) (src : SocketAddr) :
    Sleeps hall (hall.create gameName src) := by
  have drawn : Sleeps hall { hall with nextGameId := hall.nextGameId + 1 } := .of_room rfl
  unfold Hall.create
  split
  · exact fun _ => id
  · split
    · exact drawn
    · exact (drawn.trans (sleeps_setRoom fun _ => rfl)).trans (.of_room rfl)

theorem sleeps_join (hall : Hall) (joined : UInt32) (src : SocketAddr) :
    Sleeps hall (hall.join joined src) := by
  unfold Hall.join
  split
  next member game known here =>
    split
    next free =>
      have moved : Sleeps hall (hall.setGame src joined) := .of_room rfl
      refine moved.trans (sleeps_setRoom fun _ => ?_)
      have idle := (GameInfo.joinable_iff.mp free.2).2.1
      rw [Option.bind_some, GameInfo.seat]
      split
      · simpa using idle
      · simpa using idle
    next => exact fun _ => id
  next => exact fun _ => id

theorem sleeps_feed (hall : Hall) (other : UInt32) (slot : Nat) (input : ClientInput) :
    Sleeps hall (hall.feed other slot input) := by
  rcases hall.feed_cases other slot input with same | ⟨game, sync, here, running, _, room⟩
  · rw [same]
    exact fun _ => id
  · refine Sleeps.trans (sleeps_setRoom fun idle => ?_) (.of_room room)
    rw [engineOf, here, Option.bind_some, running] at idle
    cases idle

/-- An engine which comes up starts with delay 1 for every player in its slot. -/
def Wakes (config : Config) (before after : Hall) : Prop :=
  ∀ gameId, before.engineOf gameId = none → (after.engineOf gameId).isSome = true →
    ∃ (addrs : List SocketAddr) (warmups : Fin addrs.length → Nat), after.Runs gameId addrs
      ⟨addrs.length, .start (fun _ => 1) warmups config.disableOutputCache⟩

theorem Sleeps.wakes (sleeps : Sleeps before after) (config : Config) :
    Wakes config before after := by
  intro gameId idle live
  rw [sleeps gameId idle] at live
  cases live

/-- A slot for every player. -/
theorem resize {delays : List Nat} {slots : Nat} (sized : slots = delays.length)
    (paced : (fun slot : Fin delays.length => delays[slot]) = fun _ => 1)
    (warmups : Fin delays.length → Nat) (disableOutputCache : Bool) :
    ∃ resized : Fin slots → Nat,
      (⟨delays.length, .start (fun slot => delays[slot]) warmups disableOutputCache⟩ : SyncManager) =
        ⟨slots, .start (fun _ => 1) resized disableOutputCache⟩ := by
  subst sized
  rw [paced]
  exact ⟨warmups, rfl⟩

theorem wakes_start (sound : hall.Sound nobody) (config : Config) (src : SocketAddr) :
    Wakes config hall (hall.start config src) := by
  rcases hall.start_cases config src with same | ⟨other, game, warmups, here, begun⟩
  · rw [same]
    exact Sleeps.wakes (fun _ => id) config
  · rw [begun]
    intro gameId idle live
    rw [engineOf_setRoom] at live
    split at live
    next same =>
      subst same
      have lan : ∀ player ∈ game.purge.players, player.connType = 1 := fun player member =>
        (sound.rooms gameId game here).lan player (GameInfo.mem_inRoom.mp member).1
      have sized : (game.purge.players.map GamePlayerInfo.addr).length =
          (game.purge.players.map fun player => player.connType.toNat).length := by
        rw [List.length_map, List.length_map]
      obtain ⟨resized, same⟩ := resize sized (GameInfo.delays_lan lan)
        (fun slot => warmups.getD slot 0) config.disableOutputCache
      exact ⟨_, resized, _, Function.update_self .., rfl, congrArg some same⟩
    next =>
      rw [idle] at live
      cases live

/-- Only the start of a game brings up its engine. -/
theorem wakes_handle (sound : hall.Sound nobody) (config : Config) (src : SocketAddr)
    (request : Request) : Wakes config hall (hall.handle config src request) := by
  refine @handle_elim (Wakes config hall) hall config src request ?_ ?_ ?_ ?_ ?_ ?_ ?_ ?_ ?_
  · exact Sleeps.wakes (fun _ => id) config
  · exact fun data _ => (hall.sleeps_create _ src).wakes config
  · exact fun data joined _ _ => (hall.sleeps_join joined src).wakes config
  · exact fun data _ => (hall.sleeps_quit src).wakes config
  · exact fun data _ => ((hall.sleeps_quit src).trans (.of_room rfl)).wakes config
  · exact fun data userId other addr _ _ _ => (hall.sleeps_expel other addr).wakes config
  · exact fun data _ => wakes_start sound config src
  · exact fun data other slot _ _ => (hall.sleeps_drop other src).wakes config
  · exact fun input other slot _ _ => (hall.sleeps_feed other slot input).wakes config

end Hall

end Direlera.Lobby
