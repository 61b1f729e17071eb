import Direlera.Lobby.EngineRuns
import Direlera.Server.Dispatch
import Direlera.Session.Gaps
import Direlera.Sync.EndToEnd

/-!
# A game over the network

Every client has a link to its session, whose datagrams get lost or come again. What comes late
is the last datagram, sent once more; no datagram overtakes another. A link lasts: it is not
reset when its client sends USER_QUIT or its session is closed. The sessions handle the messages
which are due in any order. Through all layers, what the players of a live game put in comes out
as the same frames for all of them.
-/

namespace Direlera.Sync

@[simp] theorem length_encodeClientInputs (cache : InputCache) (raws : List Bytes) :
    (encodeClientInputs cache raws).length = raws.length := by
  induction raws generalizing cache with
  | nil => rfl
  | cons raw rest ih => exact congrArg Nat.succ (ih _)

/-- The first inputs are encoded by the first messages. -/
theorem encodeClientInputs_take (cache : InputCache) (raws : List Bytes) (count : Nat) :
    (encodeClientInputs cache raws).take count = encodeClientInputs cache (raws.take count) := by
  induction raws generalizing cache count with
  | nil => simp [encodeClientInputs]
  | cons raw rest ih =>
      cases count with
      | zero => rfl
      | succ count => exact congrArg (List.cons _) (ih _ count)

end Direlera.Sync

namespace Direlera.Lobby.SyncManager

open Direlera.Library Direlera.Sync

variable {sync : SyncManager}

/-! ## Slots which stay -/

/-- A slot which is not dropped after some calls was not dropped before. -/
theorem stays_of_final (settled : sync.engine.Settled) (gameId : UInt32) {calls : List Call}
    {slot : Nat}
    (stays : ((machine gameId).final sync calls).engine.isPlayerDropped slot = false) :
    sync.engine.isPlayerDropped slot = false := by
  induction calls generalizing sync with
  | nil => exact stays
  | cons request rest ih =>
      have next := (settled.call request).choose_spec.settled
      have here := @ih (sync.call gameId request).2 next stays
      rw [call_isPlayerDropped settled, Bool.or_eq_false_iff] at here
      exact here.1

end Direlera.Lobby.SyncManager

namespace Direlera.Server

open Direlera.Clients (parseLogin)
open Direlera.Library Direlera.Lobby Direlera.Session Direlera.Sync Direlera.Wire

/-! ## The network -/

/-- The server, the link of every client to its session, and how many of the messages which a
session passed on are handled. -/
structure Netplay where
  server : ServerState
  link : SocketAddr → Link
  handled : SocketAddr → Nat

/-- What may happen next: a client sends or resends, or a session handles its next message. -/
inductive Happening where
  | transmit (src : SocketAddr) (transmission : Transmission)
  | handle (src : SocketAddr) (now : Nat) (reading : Reading)

namespace Netplay

/-- The hall of the server. -/
def hall (net : Netplay) : Hall := net.server.lobby.hall

/-- The next message of a session. -/
def due (net : Netplay) (src : SocketAddr) : Option ParsedMessage :=
  (net.link src).session.handled[net.handled src]?

def step (config : Config) (net : Netplay) : Happening → Netplay
  | .transmit src transmission =>
      { net with link := Function.update net.link src ((net.link src).step transmission) }
  | .handle src now reading =>
      match net.due src with
      | none => net
      | some message =>
          { net with
            server := ((handlePacket config src now [(reading, message)]).run net.server).2
            handled := Function.update net.handled src (net.handled src + 1) }

/-- Clients, links and sessions in any order. -/
def network (config : Config) : Transducer Netplay Happening Unit where
  step net happening := ((), net.step config happening)

/-- No more than two datagrams of a client in a row are lost, and a login is from an address
which is in no room and takes a free name. -/
def Sane (net : Netplay) : Happening → Prop
  | .transmit src transmission => (net.link src).Allowed transmission
  | .handle src _ reading => ∀ message, net.due src = some message →
      message.messageType = Msg.userLogin →
        (∀ gameId game, net.hall.room gameId = some game →
          ∀ player ∈ game.players, player.addr ≠ src) ∧
        net.server.named reading.login.found ((parseLogin message.data).1.take 31) = none

/-- The game is live, and what happens is sane. -/
def Allowed (gameId : UInt32) (net : Netplay) (happening : Happening) : Prop :=
  (net.hall.engineOf gameId).isSome = true ∧ net.Sane happening

/-- The inputs among the messages of a client which were handled from message `since` on. -/
def played (net : Netplay) (src : SocketAddr) (since : Nat) : List ClientInput :=
  (((net.link src).session.handled.take (net.handled src)).drop since).filterMap fun message =>
    inputOf message.messageType message.data

/-- No games yet. Some clients may be there, and some messages of theirs may be on their way. -/
structure Opening (net : Netplay) : Prop where
  lobby : net.server.lobby.Opening
  links : ∀ src, (net.link src).Follows
  behind : ∀ src, net.handled src ≤ (net.link src).session.handled.length

/-- Members and rooms agree, the sessions follow the clients, and nothing is handled twice. -/
structure Orderly (net : Netplay) : Prop where
  sound : net.hall.Sound Hall.nobody
  links : ∀ src, (net.link src).Follows
  behind : ∀ src, net.handled src ≤ (net.link src).session.handled.length

/-- A game which has just been started: its engine is new, whichever message started it. -/
structure Kickoff (net : Netplay) (gameId : UInt32) (addrs : List SocketAddr)
    (warmups : Fin addrs.length → Nat) (disableOutputCache : Bool) : Prop extends
    net.Orderly where
  runs : net.hall.Runs gameId addrs
    ⟨addrs.length, .start (fun _ => 1) warmups disableOutputCache⟩

variable {config : Config} {start net : Netplay} {gameId : UInt32} {addrs : List SocketAddr}
  {sync : SyncManager} {src addr : SocketAddr}

/-! ## What happens -/

theorem Opening.orderly (opening : net.Opening) : net.Orderly :=
  ⟨opening.lobby.sound, opening.links, opening.behind⟩

/-- One more message is handled. -/
theorem step_handle {message : ParsedMessage} (due : net.due src = some message) (now : Nat)
    (reading : Reading) :
    net.step config (.handle src now reading) = { net with
      server := ((handlePacket config src now [(reading, message)]).run net.server).2
      handled := Function.update net.handled src (net.handled src + 1) } := by
  rw [Netplay.step, due]

theorem step_idle (idle : net.due src = none) (now : Nat) (reading : Reading) :
    net.step config (.handle src now reading) = net := by
  rw [Netplay.step, idle]

/-- What a message which is handled does to the hall. -/
theorem Orderly.acts (orderly : net.Orderly) {message : ParsedMessage} {now : Nat}
    {reading : Reading} (sane : net.Sane (.handle src now reading))
    (due : net.due src = some message) :
    Acts config src message net.hall (net.step config (.handle src now reading)).hall := by
  rw [step_handle due]
  exact acts_handlePacket now reading orderly.sound fun login => (sane message due login).2

/-- The session of a client goes on from what it passed on. -/
theorem handled_transmit (transmission : Transmission) (addr : SocketAddr) :
    (net.link addr).session.handled <+:
      ((net.step config (.transmit src transmission)).link addr).session.handled := by
  simp only [Netplay.step]
  by_cases same : addr = src
  · subst same
    rw [Function.update_self]
    exact (net.link addr).handled_step transmission
  · rw [Function.update_of_ne same]

/-- The count of a client is raised by a message which is there. -/
theorem handled_handle {message : ParsedMessage} (due : net.due src = some message)
    (bounded : ∀ addr, net.handled addr ≤ (net.link addr).session.handled.length)
    (addr : SocketAddr) :
    net.handled addr ≤ Function.update net.handled src (net.handled src + 1) addr ∧
      Function.update net.handled src (net.handled src + 1) addr ≤
        (net.link addr).session.handled.length := by
  by_cases same : addr = src
  · subst same
    rw [Function.update_self]
    exact ⟨Nat.le_succ _, (List.getElem?_eq_some_iff.mp due).1⟩
  · rw [Function.update_of_ne same]
    exact ⟨Nat.le_refl _, bounded addr⟩

theorem Orderly.step (orderly : net.Orderly) {happening : Happening} (sane : net.Sane happening) :
    (net.step config happening).Orderly := by
  cases happening with
  | transmit src transmission =>
      refine ⟨orderly.sound, fun addr => ?_,
        fun addr => (orderly.behind addr).trans (handled_transmit transmission addr).length_le⟩
      simp only [Netplay.step]
      by_cases same : addr = src
      · subst same
        rw [Function.update_self]
        exact (orderly.links addr).step sane
      · rw [Function.update_of_ne same]
        exact orderly.links addr
  | handle src now reading =>
      cases due : net.due src with
      | none =>
          rw [step_idle due]
          exact orderly
      | some message =>
          have acts := @Orderly.acts config net src orderly message now reading sane due
          have sound := acts.sound orderly.sound fun login => (sane message due login).1
          rw [step_handle due] at sound ⊢
          exact ⟨sound, orderly.links, fun addr => (handled_handle due orderly.behind addr).2⟩

/-- A game which comes up has just been started. -/
theorem Orderly.kickoff (orderly : net.Orderly) {happening : Happening}
    (sane : net.Sane happening) (idle : net.hall.engineOf gameId = none)
    (live : ((net.step config happening).hall.engineOf gameId).isSome = true) :
    ∃ (addrs : List SocketAddr) (warmups : Fin addrs.length → Nat),
      (net.step config happening).Kickoff gameId addrs warmups config.disableOutputCache := by
  have next : (net.step config happening).Orderly := orderly.step sane
  suffices wakes : Hall.Wakes config net.hall (net.step config happening).hall by
    obtain ⟨addrs, warmups, runs⟩ := wakes gameId idle live
    exact ⟨addrs, warmups, next, runs⟩
  have asleep : Hall.Wakes config net.hall net.hall := Hall.Sleeps.wakes (fun _ => id) config
  cases happening with
  | transmit src transmission => exact asleep
  | handle src now reading =>
      cases due : net.due src with
      | none =>
          rw [step_idle due]
          exact asleep
      | some message =>
          exact Acts.wakes (orderly.acts sane due) orderly.sound

/-! ## A game which goes on -/

/-- What a live game owes to its start: calls, among them for every slot which is not dropped
the inputs of its player in order. -/
structure Tracks (start : Netplay) (gameId : UInt32) (addrs : List SocketAddr)
    (sync : SyncManager) (net : Netplay) : Prop extends net.Orderly where
  since : ∀ src, start.handled src ≤ net.handled src
  calls : ∃ calls, Hall.GoesOn gameId addrs sync start.hall net.hall calls ∧
    ∀ (slot : Nat) (addr : SocketAddr), addrs[slot]? = some addr →
      ((SyncManager.machine gameId).final sync calls).engine.isPlayerDropped slot = false →
        ((calls.filterMap Call.fed).filter fun fed => fed.1 = slot).map Prod.snd =
          net.played addr (start.handled addr)

/-- A link which goes on does not change what was handled. -/
theorem Tracks.transmit (tracks : start.Tracks gameId addrs sync net) {transmission : Transmission}
    (sane : net.Sane (.transmit src transmission)) :
    start.Tracks gameId addrs sync (net.step config (.transmit src transmission)) := by
  refine ⟨tracks.toOrderly.step sane, tracks.since, ?_⟩
  obtain ⟨calls, goesOn, fed⟩ := tracks.calls
  refine ⟨calls, goesOn, fun slot addr listed stays => (fed slot addr listed stays).trans ?_⟩
  obtain ⟨more, longer⟩ := @handled_transmit config net src transmission addr
  have taken : ((net.step config (.transmit src transmission)).link addr).session.handled.take
      (net.handled addr) = (net.link addr).session.handled.take (net.handled addr) := by
    rw [← longer, List.take_append_of_le_length (tracks.behind addr)]
  rw [played, ← taken]
  rfl

/-- A message which is handled calls the engine of a live game with the input which it carries,
if its sender plays the game. -/
theorem goesOn_acts {config : Config} {before after : Hall} {message : ParsedMessage}
    (sound : before.Sound Hall.nobody) (runs : before.Runs gameId addrs sync)
    (acts : Acts config src message before after)
    (outside : message.messageType = Msg.userLogin → ∀ gameId game,
      before.room gameId = some game → ∀ player ∈ game.players, player.addr ≠ src)
    (live : (after.engineOf gameId).isSome = true) :
    ∃ calls, Hall.GoesOn gameId addrs sync before after calls ∧
      ∀ (slot : Nat) (addr : SocketAddr), addrs[slot]? = some addr →
        sync.engine.isPlayerDropped slot = false →
          ((calls.filterMap Call.fed).filter fun fed => fed.1 = slot).map Prod.snd =
            if src = addr then (inputOf message.messageType message.data).toList else [] := by
  have silent : ∀ addr : SocketAddr, (([] : List Call).filterMap Call.fed).map Prod.snd =
      if src = addr then (none : Option ClientInput).toList else [] := by
    intro addr
    split <;> rfl
  unfold Acts at acts
  split at acts
  next login =>
    refine ⟨[], acts.goesOn runs (outside login), fun slot addr _ _ => ?_⟩
    rw [login]
    exact silent addr
  next =>
    unfold inputOf
    cases asked : requestOf message.messageType message.data with
    | some request =>
        rw [asked] at acts
        obtain rfl : after = before.handle config src request := acts
        obtain ⟨calls, goesOn, inputs⟩ := Hall.goesOn_handle sound runs config src request live
        refine ⟨calls, goesOn, fun slot addr listed stays => ?_⟩
        rw [inputs]
        exact Hall.inputs_of_stays sound runs listed stays src request
    | none =>
        rw [asked] at acts
        exact ⟨[], acts.spares.goesOn runs, fun slot addr _ _ => silent addr⟩

theorem played_handle {message : ParsedMessage} (due : net.due src = some message)
    (server : ServerState) {since : Nat} (past : since ≤ net.handled addr) :
    ({ net with server, handled := Function.update net.handled src (net.handled src + 1) } :
        Netplay).played addr since =
      net.played addr since ++
        if src = addr then (inputOf message.messageType message.data).toList else [] := by
  unfold played
  dsimp only
  by_cases own : src = addr
  · subst own
    obtain ⟨inRange, here⟩ := List.getElem?_eq_some_iff.mp due
    have past : since ≤ ((net.link src).session.handled.take (net.handled src)).length := by
      rw [List.length_take, Nat.min_eq_left inRange.le]
      exact past
    rw [Function.update_self, List.take_add_one, List.getElem?_eq_getElem inRange, here,
      Option.toList_some, List.drop_append_of_le_length past, List.filterMap_append, if_pos rfl]
    congr 1
  · rw [Function.update_of_ne (Ne.symm own), if_neg own, List.append_nil]

theorem Tracks.handle (tracks : start.Tracks gameId addrs sync net) {message : ParsedMessage}
    (due : net.due src = some message) {now : Nat} {reading : Reading}
    (sane : net.Sane (.handle src now reading))
    (live : ((net.step config (.handle src now reading)).hall.engineOf gameId).isSome = true) :
    start.Tracks gameId addrs sync (net.step config (.handle src now reading)) := by
  have next : (net.step config (.handle src now reading)).Orderly := tracks.toOrderly.step sane
  obtain ⟨calls, goesOn, fed⟩ := tracks.calls
  have counted := handled_handle due tracks.behind
  obtain ⟨more, goesOnMore, fedMore⟩ := goesOn_acts tracks.sound goesOn.runs
    (tracks.toOrderly.acts sane due) (fun login => (sane message due login).1) live
  refine ⟨next, ?_, calls ++ more, goesOn.trans goesOnMore, fun slot addr listed stays => ?_⟩
  · rw [step_handle due]
    exact fun addr => (tracks.since addr).trans (counted addr).1
  · rw [Transducer.final_append] at stays
    obtain ⟨game, there, -, running⟩ := goesOn.runs
    have serves := ((tracks.sound.rooms gameId game there).playing _ running).2
    have stayed := SyncManager.stays_of_final serves.settled gameId stays
    rw [List.filterMap_append, List.filter_append, List.map_append, fed slot addr listed stayed,
      fedMore slot addr listed stayed, step_handle due, played_handle due _ (tracks.since addr)]

/-- What is tracked is tracked as long as the game stays live. -/
theorem Tracks.step (tracks : start.Tracks gameId addrs sync net) {happening : Happening}
    (sane : net.Sane happening)
    (live : ((net.step config happening).hall.engineOf gameId).isSome = true) :
    start.Tracks gameId addrs sync (net.step config happening) := by
  cases happening with
  | transmit src transmission => exact tracks.transmit sane
  | handle src now reading =>
      cases due : net.due src with
      | none =>
          rw [step_idle due]
          exact tracks
      | some message => exact tracks.handle due sane live

variable {warmups : Fin addrs.length → Nat} {disableOutputCache : Bool}

theorem Kickoff.tracks (kickoff : start.Kickoff gameId addrs warmups disableOutputCache) :
    start.Tracks gameId addrs ⟨addrs.length, .start (fun _ => 1) warmups disableOutputCache⟩
      start := by
  refine ⟨kickoff.toOrderly, fun _ => Nat.le_refl _, [], .refl kickoff.runs, fun slot addr _ _ => ?_⟩
  rw [played, List.drop_eq_nil_of_le (List.length_take_le _ _)]
  rfl

/-- A game which stayed live is tracked. -/
theorem tracks_final (kickoff : start.Kickoff gameId addrs warmups disableOutputCache)
    {happenings : List Happening}
    (allowed : (network config).Along (Allowed gameId) start happenings)
    (live : (((network config).final start happenings).hall.engineOf gameId).isSome = true) :
    start.Tracks gameId addrs ⟨addrs.length, .start (fun _ => 1) warmups disableOutputCache⟩
      ((network config).final start happenings) := by
  refine (network config).invariant_along (fun net => (net.hall.engineOf gameId).isSome = true →
    start.Tracks gameId addrs _ net) ?_ (fun _ => kickoff.tracks) allowed live
  exact fun net happening tracks here liveNext => (tracks here.1).step here.2 liveNext

/-! ## What players see -/

/-- A client sends nothing but inputs to its game from message `since` on, by the client rule;
chat and the like may come between. -/
structure Feeds (net : Netplay) (addr : SocketAddr) (since : Nat) (raws : List Bytes) : Prop where
  sent : ((net.link addr).sent.drop since).filterMap (fun message => inputOf message.1 message.2) =
    encodeClientInputs .new raws
  nonempty : ∀ raw ∈ raws, raw ≠ []

/-- The slot is not dropped. -/
def Stays (net : Netplay) (gameId : UInt32) (slot : Nat) : Prop :=
  ∃ sync, net.hall.engineOf gameId = some sync ∧ sync.engine.isPlayerDropped slot = false

/-- The engine responses which were sent to an address of a game, after the first `since`
responses of the game. -/
def responses (net : Netplay) (gameId : UInt32) (addr : SocketAddr) (since : Nat) :
    List ServerResponse :=
  (((net.hall.stream gameId).drop since).filter fun output => output.addr = addr).map fun output =>
    output.frame.response

/-- What a player sees of the frames of its game, when the server has its inputs `raws`: behind
its warmup frames it decodes all of them, and its own slot has its inputs without a gap. -/
structure Sees (frames : List (List Bytes)) {count : Nat} (slot : Fin count) (warmup : Nat)
    (raws : List Bytes) (responses : List ServerResponse) : Prop where
  decoded : ∃ sizes : List Nat, sizes.length = min warmup raws.length ∧
    client.outputs [] responses =
      (sizes.map (fun size => List.replicate (count * size) 0) ++ frames.map List.flatten).map some
  supplied : frames.length ≤ (DelayedGameSync.scheduledFeed warmup raws).length
  own : frames.map (fun slots => slots[slot.val]?) =
    ((DelayedGameSync.scheduledFeed warmup raws).take frames.length).map some

/-- What was handled of a client, by what it sent. -/
theorem played_eq (follows : (net.link addr).Follows) (since : Nat) :
    net.played addr since = ((((net.link addr).sent.take
      ((net.link addr).sent.length - (net.link addr).missed)).take (net.handled addr)).drop
        since).filterMap fun message => inputOf message.1 message.2 := by
  have contents := Link.map_messageAt (net.link addr).sent
    (Nat.sub_le (net.link addr).sent.length (net.link addr).missed)
  have handled := follows.represents.handled
  dsimp only at handled
  rw [← handled] at contents
  rw [← contents, ← List.map_take, ← List.map_drop, List.filterMap_map]
  rfl

/-- It is the first part of what the client sent. -/
theorem played_begins (follows : (net.link addr).Follows) (since : Nat) :
    net.played addr since <+: ((net.link addr).sent.drop since).filterMap fun message =>
      inputOf message.1 message.2 := by
  rw [played_eq follows]
  exact (((List.take_prefix _ _).trans (List.take_prefix _ _)).drop since).filterMap _

/-- When nothing is on its way, everything is handled. -/
theorem played_all (follows : (net.link addr).Follows) (arrived : (net.link addr).missed = 0)
    (handledAll : net.handled addr = (net.link addr).sent.length) (since : Nat) :
    net.played addr since = ((net.link addr).sent.drop since).filterMap fun message =>
      inputOf message.1 message.2 := by
  rw [played_eq follows, arrived, handledAll, Nat.sub_zero, List.take_length, List.take_length]

/-- The inputs of a client which were handled are those which it sent first. -/
theorem Feeds.played {since : Nat} {raws : List Bytes} (feeds : net.Feeds addr since raws)
    (follows : (net.link addr).Follows) :
    net.played addr since = encodeClientInputs .new (raws.take (net.played addr since).length) := by
  have first := List.prefix_iff_eq_take.mp (played_begins follows since)
  rw [feeds.sent, encodeClientInputs_take] at first
  exact first

theorem toSlot_addr_eq (distinct : addrs.Nodup) (frame : Frame) (slot : Fin addrs.length)
    (inRange : frame.slot < addrs.length) :
    (frame.toSlot addrs).addr = addrs[slot] ↔ frame.slot = slot := by
  rw [Frame.toSlot, List.getD_eq_getElem?_getD, List.getElem?_eq_getElem inRange, Option.getD_some]
  exact distinct.getElem_inj_iff

/-- The responses for a slot go to the address of its player. -/
theorem filter_toSlot (distinct : addrs.Nodup) (gameId : UInt32) (slot : Fin addrs.length)
    (outputs : List (CachedPlayerOutput addrs.length)) :
    (((outputs.map (SyncManager.frame gameId)).map (Frame.toSlot addrs)).filter fun output =>
        output.addr = addrs[slot]).map (fun output => output.frame.response) =
      responsesFor slot outputs := by
  rw [List.map_map, List.filter_map, List.map_map, responsesFor]
  have same : ∀ output : CachedPlayerOutput addrs.length,
      ((fun output : TargetOutput => decide (output.addr = addrs[slot])) ∘
        (Frame.toSlot addrs ∘ SyncManager.frame gameId)) output =
          decide (output.playerId = slot) := by
    intro output
    have inRange : (SyncManager.frame gameId output).slot < addrs.length := output.playerId.isLt
    rw [Function.comp_apply, Function.comp_apply, decide_eq_decide,
      toSlot_addr_eq distinct _ slot inRange]
    exact Fin.ext_iff.symm
  rw [List.filter_congr fun output _ => same output]
  rfl

/-! ## The match -/

section Match

variable {happenings : List Happening} {slot : Fin addrs.length} {raws : List Bytes}

/-- The inputs of a client which the server has handled since a start. -/
def supplied (net start : Netplay) (addr : SocketAddr) (raws : List Bytes) : List Bytes :=
  raws.take (net.played addr (start.handled addr)).length

/-- When nothing is on its way, the server has them all. -/
theorem Feeds.supplied_all (feeds : net.Feeds addr (start.handled addr) raws)
    (follows : (net.link addr).Follows) (arrived : (net.link addr).missed = 0)
    (handledAll : net.handled addr = (net.link addr).sent.length) :
    supplied net start addr raws = raws := by
  have all := played_all follows arrived handledAll (start.handled addr)
  rw [feeds.sent] at all
  rw [supplied, all]
  exact List.take_of_length_le (Nat.le_of_eq (length_encodeClientInputs .new raws).symm)

/-- What the engine of a match was called with, and what it has sent. -/
structure Match (start net : Netplay) (gameId : UInt32) (addrs : List SocketAddr)
    (warmups : Fin addrs.length → Nat) (disableOutputCache : Bool) (calls : List Call) : Prop where
  stays : ∀ slot : Fin addrs.length, net.Stays gameId slot ↔ Call.drop slot ∉ calls
  honest : ∀ (slot : Fin addrs.length) (raws : List Bytes), net.Stays gameId slot →
    net.Feeds addrs[slot] (start.handled addrs[slot]) raws →
      DelayedGameSync.Honest calls slot (supplied net start addrs[slot] raws)
  received : ∀ slot : Fin addrs.length,
    net.responses gameId addrs[slot] (start.hall.stream gameId).length =
      DelayedGameSync.received slot ((DelayedGameSync.machine addrs.length).outputs
        (.start (fun _ => 1) warmups disableOutputCache) calls)

/-- A tracked game is a match of its players, as long as all of them are registered. -/
theorem Tracks.toMatch
    (tracks : start.Tracks gameId addrs
      ⟨addrs.length, .start (fun _ => 1) warmups disableOutputCache⟩ net)
    (registered : ∀ addr ∈ addrs, (net.hall.member addr).isSome = true) :
    ∃ calls, start.Match net gameId addrs warmups disableOutputCache calls := by
  obtain ⟨calls, goesOn, fed⟩ := tracks.calls
  have distinct : addrs.Nodup := by
    obtain ⟨game, here, listed, -⟩ := goesOn.runs
    rw [← listed]
    exact (tracks.sound.rooms gameId game here).distinct
  have engine := goesOn.runs.engineOf
  rw [SyncManager.final_engine] at engine fed
  have stays : ∀ slot : Fin addrs.length, net.Stays gameId slot ↔ Call.drop slot ∉ calls := by
    intro slot
    have flag := @DelayedGameSync.isPlayerDropped_final _ warmups disableOutputCache calls _
      (fun _ => Nat.le_refl 1) slot
    constructor
    · rintro ⟨sync, running, isOpen⟩
      obtain rfl := Option.some.inj (running.symm.trans engine)
      exact DelayedGameSync.not_dropped_of_flag (fun _ => Nat.le_refl 1) isOpen
    · intro stayed
      exact ⟨_, engine, flag.trans (DelayedGameSync.droppedIn_feedOf warmups disableOutputCache stayed)⟩
  refine ⟨calls, stays, fun slot raws stayed feeds => ?_, fun slot => ?_⟩
  · refine ⟨(stays slot).mp stayed, ?_, fun raw member => feeds.nonempty raw (List.mem_of_mem_take member)⟩
    obtain ⟨sync, running, isOpen⟩ := stayed
    obtain rfl := Option.some.inj (running.symm.trans engine)
    rw [DelayedGameSync.messagesOf_eq, fed slot addrs[slot] (by simp) isOpen]
    exact feeds.played (tracks.links addrs[slot])
  · rw [responses, goesOn.stream registered, List.drop_left, SyncManager.answers_engine,
      filter_toSlot distinct]
    rfl

/-- Frames, each with one slot for every player, which all players of a game see who are not
dropped and follow the client rule; if all who are not dropped follow it, there are as many
frames as the slowest of them has supplied. -/
structure Shares (start net : Netplay) (gameId : UInt32) (addrs : List SocketAddr)
    (warmups : Fin addrs.length → Nat) (frames : List (List Bytes)) : Prop where
  wide : ∀ slots ∈ frames, slots.length = addrs.length
  seen : ∀ (slot : Fin addrs.length) (raws : List Bytes), net.Stays gameId slot →
    net.Feeds addrs[slot] (start.handled addrs[slot]) raws →
      Sees frames slot (warmups slot) (supplied net start addrs[slot] raws)
        (net.responses gameId addrs[slot] (start.hall.stream gameId).length)
  complete : ∀ (slot : Fin addrs.length) (raws : List Bytes),
    net.Feeds addrs[slot] (start.handled addrs[slot]) raws → (net.link addrs[slot]).missed = 0 →
      net.handled addrs[slot] = (net.link addrs[slot]).sent.length →
        supplied net start addrs[slot] raws = raws
  slowest : (∃ slot : Fin addrs.length, net.Stays gameId slot) →
    (∀ slot : Fin addrs.length, net.Stays gameId slot →
      ∃ raws, net.Feeds addrs[slot] (start.handled addrs[slot]) raws) →
    ∃ (slot : Fin addrs.length) (raws : List Bytes), net.Stays gameId slot ∧
      net.Feeds addrs[slot] (start.handled addrs[slot]) raws ∧
      frames.length = (DelayedGameSync.scheduledFeed (warmups slot)
        (supplied net start addrs[slot] raws)).length

theorem Tracks.shares
    (tracks : start.Tracks gameId addrs
      ⟨addrs.length, .start (fun _ => 1) warmups disableOutputCache⟩ net)
    (registered : ∀ addr ∈ addrs, (net.hall.member addr).isSome = true) :
    ∃ frames, start.Shares net gameId addrs warmups frames := by
  obtain ⟨calls, played⟩ := tracks.toMatch registered
  obtain ⟨frames, wide, shared, slowest⟩ :=
    DelayedGameSync.end_to_end_lockstep warmups disableOutputCache calls
  refine ⟨frames, wide, fun slot raws stays feeds => ?_,
    fun slot raws feeds => feeds.supplied_all (tracks.links addrs[slot]), ?_⟩
  · obtain ⟨decoded, enough, own⟩ := shared slot _ (played.honest slot raws stays feeds)
    rw [← played.received slot] at decoded
    exact ⟨decoded, enough, own⟩
  · rintro ⟨slot, stays⟩ everyone
    have honest : ∀ slot : Fin addrs.length, Call.drop slot ∉ calls →
        ∃ raws, DelayedGameSync.Honest calls slot raws := by
      intro slot stayed
      have stays := (played.stays slot).mpr stayed
      obtain ⟨raws, feeds⟩ := everyone slot stays
      exact ⟨_, played.honest slot raws stays feeds⟩
    obtain ⟨last, inputs, same, exactly⟩ := slowest ⟨slot, (played.stays slot).mp stays⟩ honest
    have lastStays := (played.stays last).mpr same.stays
    obtain ⟨raws, feeds⟩ := everyone last lastStays
    refine ⟨last, raws, lastStays, feeds, ?_⟩
    rw [exactly, ← same.resolved warmups disableOutputCache,
      (played.honest last raws lastStays feeds).resolved warmups disableOutputCache]

theorem Opening.idle (opening : net.Opening) (gameId : UInt32) :
    net.hall.engineOf gameId = none := by
  have noRoom : net.hall.room gameId = none := opening.lobby.noGames gameId
  rw [Hall.engineOf, noRoom, Option.bind_none]

/-- A live game is one match for all its players. Whatever gets lost or comes again on the links,
in whichever order the sessions handle what is due, and whoever logs in or leaves: a game which
is live began with a new engine and its players in their slots, has been live since, and if all
its players are still registered, those who are not dropped share the frames of one match. -/
theorem match_over_network (config : Config) (opening : start.Opening)
    (sane : (network config).Along Sane start happenings)
    (live : (((network config).final start happenings).hall.engineOf gameId).isSome = true) :
    ∃ (before after : List Happening) (addrs : List SocketAddr)
      (warmups : Fin addrs.length → Nat), happenings = before ++ after ∧
        ((network config).final start before).Kickoff gameId addrs warmups
          config.disableOutputCache ∧
        (network config).Along (Allowed gameId) ((network config).final start before) after ∧
        (∃ sync, ((network config).final start happenings).hall.Runs gameId addrs sync) ∧
        ((∀ addr ∈ addrs,
            (((network config).final start happenings).hall.member addr).isSome = true) →
          ∃ frames, ((network config).final start before).Shares
            ((network config).final start happenings) gameId addrs warmups frames) := by
  have low : ¬(start.hall.engineOf gameId).isSome = true := by simp [opening.idle]
  obtain ⟨before, rise, after, rfl, idle, risen, stays⟩ := (network config).exists_last_rise
    (fun net => (net.hall.engineOf gameId).isSome = true) low sane live
  have saneBefore := (network config).along_append.mp ((network config).along_append.mp sane).1
  have orderly := (network config).invariant_along Orderly
    (fun net happening orderly here => orderly.step here) opening.orderly saneBefore.1
  obtain ⟨addrs, warmups, kickoff⟩ : ∃ (addrs : List SocketAddr) (warmups : Fin addrs.length → Nat),
      ((network config).final start (before ++ [rise])).Kickoff gameId addrs warmups
        config.disableOutputCache := by
    rw [Transducer.final_concat] at risen ⊢
    exact orderly.kickoff saneBefore.2.1 (by simpa using idle) risen
  have onwards := (network config).final_append start (before ++ [rise]) after
  rw [onwards] at live ⊢
  have tracks := tracks_final kickoff stays live
  obtain ⟨_, goesOn, _⟩ := tracks.calls
  exact ⟨before ++ [rise], after, addrs, warmups, rfl, kickoff, stays, ⟨_, goesOn.runs⟩,
    tracks.shares⟩

/-- A check which what happens passes if it is sane and is not a login into a server with games. -/
def plainly (net : Netplay) : Happening → Bool
  | .transmit src transmission => decide ((net.link src).Allowed transmission)
  | .handle src _ reading => (net.due src).all fun message =>
      decide (message.messageType = Msg.userLogin → net.server.lobby.games.next = 0 ∧
        (net.server.named reading.login.found ((parseLogin message.data).1.take 31)).isNone = true)

theorem sane_of_plainly {happening : Happening} (passes : net.plainly happening = true) :
    net.Sane happening := by
  cases happening with
  | transmit src transmission =>
      exact (of_decide_eq_true passes : (net.link src).Allowed transmission)
  | handle src now reading =>
      intro message due login
      simp only [plainly, due, Option.all_some, decide_eq_true_eq] at passes
      obtain ⟨empty, free⟩ := passes login
      refine ⟨fun gameId game here => ?_, Option.isNone_iff_eq_none.mp free⟩
      obtain ⟨ref, found, _⟩ := Option.map_eq_some_iff.mp
        (here : (net.server.lobby.games.byId gameId).map net.server.lobby.games.arena = some game)
      have below := net.server.lobby.games.valid gameId ref found
      rw [empty] at below
      exact absurd below (Nat.not_lt_zero ref)

theorem perm_id (entries : List Nat) : (id entries).Perm entries := .refl entries

/-- At time 0, with the maps in order. -/
def unmoved : Reading :=
  let unsorted : Iteration := ⟨id, perm_id⟩
  ⟨⟨0, 0, unsorted, unsorted⟩, ⟨0, [], unsorted, unsorted⟩⟩

/-- A message which arrives and is handled. -/
def say (src : SocketAddr) (messageType : UInt8) (data : Bytes) : List Happening :=
  [.transmit src (.send messageType data true), .handle src 0 unmoved]

/-- Two players log in and start a game. The first input of the first player gets lost and comes
with the second one, which repeats it by position. -/
def twoPlayers : List Happening :=
  say 1 Msg.userLogin [65, 0, 0, 1] ++ say 2 Msg.userLogin [66, 0, 0, 1] ++
    say 1 Msg.createGame [0, 71, 0] ++
    say 2 Msg.joinGame [0, 1, 0, 0, 0, 0, 0, 0, 0, 0, 0, 0, 1] ++
    say 1 Msg.startGame [0, 255, 255, 255, 255] ++
    [.transmit 1 (.send Msg.gameData [0, 1, 0, 5] false)] ++ say 1 Msg.gameCache [0, 0] ++
    say 2 Msg.gameData [0, 1, 0, 7] ++ say 2 Msg.gameData [0, 1, 0, 8] ++ [.handle 1 0 unmoved]

/-- An empty server. -/
def silence : Netplay := ⟨.new, fun _ => .new, fun _ => 0⟩

theorem silence_opening : silence.Opening where
  lobby := .ofLogins _ _ fun _ member => absurd member List.not_mem_nil
  links := fun _ => Link.follows_new
  behind := fun _ => Nat.zero_le _

theorem match_over_network_two_players :
    ∃ (before after : List Happening) (warmups : Fin 2 → Nat) (frames : List (List Bytes)),
      twoPlayers = before ++ after ∧
        ((network oneFrame).final silence before).Shares
          ((network oneFrame).final silence twoPlayers) 1 [1, 2] warmups frames := by
  have sane : (network oneFrame).Along Sane silence twoPlayers := by
    refine (network oneFrame).along_mono (fun _ _ => sane_of_plainly) ?_
    decide +kernel
  have live : (((network oneFrame).final silence twoPlayers).hall.engineOf 1).isSome = true := by
    decide +kernel
  have listed : (((network oneFrame).final silence twoPlayers).hall.room 1).map (fun game =>
      game.players.map GamePlayerInfo.addr) = some [1, 2] := by
    decide +kernel
  have registered : ∀ addr ∈ [1, 2],
      (((network oneFrame).final silence twoPlayers).hall.member addr).isSome = true := by
    decide +kernel
  obtain ⟨before, after, addrs, warmups, split, -, -, ⟨_, game, here, players, -⟩, shares⟩ :=
    match_over_network oneFrame silence_opening sane live
  rw [here, Option.map_some, players] at listed
  obtain rfl := Option.some.inj listed
  obtain ⟨frames, shared⟩ := shares registered
  exact ⟨before, after, warmups, frames, split, shared⟩

end Match

end Netplay

end Direlera.Server
