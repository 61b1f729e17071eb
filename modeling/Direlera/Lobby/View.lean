import Direlera.Lobby.Server

/-!
# The observed state

`view` is the state without what connections alone care about: packet generators,
player statuses and the datagrams which carry no engine response. A `Quiet` task keeps
the view in every section; the announcements of the handlers are quiet.
-/

namespace Direlera.Lobby

open Direlera.Library Direlera.Sync Direlera.Wire

/-- A queued engine response: where it goes, and the game its recipient was in. -/
structure Delivery where
  addr : SocketAddr
  frame : Frame
  recipientGame : Option UInt32
deriving DecidableEq, Repr

/-- The delivery which a datagram makes, if it carries an engine response. -/
def Message.delivery (message : Message) : Option Delivery :=
  message.frame.map fun frame => ⟨message.addr, frame, message.recipientGame⟩

/-- The state as far as games and engine responses are concerned. -/
structure View where
  byAddr : List (SocketAddr × SessionId)
  member : SessionId → Option Member
  games : GameTable
  nextGameId : UInt32
  deliveries : List Delivery
  calls : List (UInt32 × Call)
  produced : List TargetOutput
  handed : List TargetOutput

/-- The clients of a registry as members. -/
def ClientRegistry.member (registry : ClientRegistry) (session : SessionId) : Option Member :=
  (registry.byId session).map ClientInfo.toMember

/-- The view of a state. -/
def AppState.view (state : AppState) : View where
  byAddr := state.clients.byAddr
  member := state.clients.member
  games := state.games
  nextGameId := state.nextGameId
  deliveries := state.tx.filterMap Message.delivery
  calls := state.calls
  produced := state.produced
  handed := state.handed

/-! ## Announcements

An announcement draws packets from the generators of its recipients and queues them. A
value is `Deaf` when neither changes it; a task made of reads and announcements then keeps
the value in every section.
-/

/-- Every section keeps a value of the state. -/
abbrev Keeps {Value Result : Type} (value : AppState → Value) (task : Handler Result) : Prop :=
  Task.Each (fun before after => value after = value before) task

/-- Drawing a packet does not change the value, nor does queueing a datagram without an
engine response. -/
structure Deaf {Value : Type} (value : AppState → Value) : Prop where
  draws : ∀ (state : AppState) session packetType data,
    value { state with clients := state.clients.update session fun client =>
      (client.makeSendPacket packetType data).2 } = value state
  queues : ∀ (state : AppState) addr data game,
    value { state with tx := state.tx ++ [⟨data, addr, none, game⟩] } = value state

section Keeps

variable {Value Result Next : Type} {value : AppState → Value}

theorem keeps_pure (result : Result) : Keeps value (pure result : Handler Result) := trivial

theorem keeps_fail (report : Report) : Keeps value (.fail report : Handler Result) := trivial

theorem keeps_inspect (read : AppState → Result) : Keeps value (.inspect read : Handler Result) :=
  Task.each_critical fun _ => rfl

theorem keeps_getGame (gameId : UInt32) : Keeps value (getGame gameId) := by
  refine (keeps_inspect _).bind fun ref => ?_
  cases ref with
  | none => exact keeps_pure none
  | some ref => exact (keeps_inspect _).bind fun game => keeps_pure (some game)

/-- A task which only reads stays within every reflexive bound. -/
theorem each_of_reads {allowed : AppState → AppState → Prop} (refl : ∀ state, allowed state state)
    {task : Handler Result} (reads : Keeps id task) : Task.Each allowed task := by
  refine reads.mono fun before after same => ?_
  have unmoved : after = before := same
  rw [unmoved]
  exact refl before

/-- The opening check of a creation may only clear the game of its client. -/
theorem each_checkAlreadyInGame {allowed : AppState → AppState → Prop}
    (refl : ∀ state, allowed state state) {src : SocketAddr}
    (clears : Task.Each allowed (withClientMut src fun client => { client with gameId := none })) :
    Task.Each allowed (checkAlreadyInGame src) := by
  apply Task.Each.bind (Task.each_inspect refl _)
  rintro (_ | client)
  · exact Task.each_pure false
  dsimp only
  cases client.gameId with
  | none => exact Task.each_pure false
  | some gameId =>
      apply Task.Each.bind (each_of_reads refl (keeps_getGame gameId))
      intro game
      split
      · exact Task.each_pure true
      · exact Task.Each.bind clears fun _ => Task.each_pure false

theorem keeps_fetchClientInfo (src : SocketAddr) : Keeps value (fetchClientInfo src) := by
  refine (keeps_inspect _).bind fun client => ?_
  cases client with
  | none => exact keeps_fail _
  | some client => exact keeps_pure client

theorem keeps_fetchGameInfo (src : SocketAddr) : Keeps value (fetchGameInfo src) := by
  refine (keeps_inspect _).bind fun client => ?_
  cases client with
  | none => exact keeps_fail _
  | some client =>
      cases inGame : client.gameId with
      | none => simpa only [inGame] using keeps_fail _
      | some gameId =>
          simp only [inGame]
          refine (keeps_getGame gameId).bind fun game => ?_
          cases game with
          | none => exact keeps_fail _
          | some game => exact keeps_pure game

theorem keeps_resolveInGame (src : SocketAddr) : Keeps value (resolveInGame src) := by
  refine (keeps_inspect _).bind fun gameId => ?_
  cases gameId with
  | none => exact keeps_pure none
  | some gameId =>
      refine (keeps_inspect _).bind fun ref => ?_
      cases ref with
      | none => exact keeps_pure none
      | some ref =>
          refine (keeps_inspect _).bind fun playerId => ?_
          cases playerId with
          | none => exact keeps_pure none
          | some playerId => exact keeps_pure (some (gameId, playerId))

theorem keeps_makePlayerInformation (src : SocketAddr) (game : GameInfo) :
    Keeps value (makePlayerInformation src game) := by
  refine Task.Each.bind (Task.Each.collect (fun player => ?_) _) fun others => keeps_pure _
  exact (keeps_inspect _).bind fun client => keeps_pure _

theorem keeps_fetchPings (config : Config) (players : List GamePlayerInfo) :
    Keeps value (fetchPings config players) := by
  unfold fetchPings
  split
  · exact keeps_pure []
  · refine Task.Each.collect (fun player => ?_) players
    refine (keeps_inspect _).bind fun client => ?_
    cases client with
    | none => exact keeps_pure 0
    | some client => exact keeps_pure client.ping

namespace Deaf

variable (deaf : Deaf value)

include deaf

theorem sendMessage (addr : SocketAddr) (data : Bytes) :
    Keeps value (sendMessage none addr data) :=
  Task.each_critical fun state => deaf.queues state addr data _

theorem sendPacket (addr : SocketAddr) (packetType : UInt8) (data : Bytes) :
    Keeps value (sendPacket addr packetType data) := by
  refine Task.Each.bind ?_ fun packet => deaf.sendMessage addr packet
  refine (keeps_inspect _).bind fun session => ?_
  cases session with
  | none => exact keeps_fail _
  | some session =>
      refine Task.each_critical fun state => ?_
      cases state.clients.byId session with
      | none => rfl
      | some client =>
          simp only [List.append_nil]
          exact deaf.draws state session packetType data

/-- Making packets only draws them. -/
theorem makePackets (selected : ClientInfo → Bool) (packetType : UInt8) (data : Bytes)
    (addrs : List SocketAddr) (state : AppState) :
    value { state with
      clients := (makePackets selected packetType data addrs state.clients).2 } = value state := by
  induction addrs generalizing state with
  | nil => rfl
  | cons addr rest ih =>
      rw [Lobby.makePackets]
      split
      next session client _ _ =>
        split
        · let drawn : AppState := { state with
            clients := state.clients.update session fun client =>
              (client.makeSendPacket packetType data).2 }
          exact (ih drawn).trans (deaf.draws state session packetType data)
        · exact ih state
      next => exact ih state

theorem broadcast (selected : ClientInfo → Bool) (packetType : UInt8) (data : Bytes)
    (addrs : List SocketAddr) : Keeps value (broadcast selected packetType data addrs) := by
  refine Task.Each.bind (Task.each_critical fun state => ?_) fun packets => ?_
  · exact deaf.makePackets selected packetType data addrs state
  · exact Task.Each.forEach (fun packet => deaf.sendMessage packet.1 packet.2) packets

theorem broadcastPacket (packetType : UInt8) (data : Bytes) :
    Keeps value (broadcastPacket packetType data) :=
  (keeps_inspect _).bind fun addrs => deaf.broadcast _ packetType data addrs

theorem broadcastPacketToGame (gameId : UInt32) (packetType : UInt8) (data : Bytes) :
    Keeps value (broadcastPacketToGame gameId packetType data) := by
  refine (keeps_getGame gameId).bind fun game => ?_
  cases game with
  | none => exact keeps_fail _
  | some game => exact deaf.broadcast _ packetType data _

/-- The players are shown to a newcomer, and then the newcomer is greeted. -/
theorem introduce (src : SocketAddr) (game : GameInfo) {greet : ClientInfo → Handler Unit}
    (greets : ∀ client, Keeps value (greet client)) :
    Keeps value (do
      let playersInfo ← makePlayerInformation src game
      Lobby.sendPacket src Msg.playerInformation playersInfo
      let some client ← getClient src | .fail (.message "Client not found")
      greet client) := by
  refine (keeps_makePlayerInformation src game).bind fun info => ?_
  refine (deaf.sendPacket src _ info).bind fun _ => (keeps_inspect _).bind fun client => ?_
  cases client with
  | none => exact keeps_fail _
  | some client => exact greets client

theorem announceCreatedGame (src : SocketAddr) (gameId : UInt32) (game : GameInfo)
    (client : ClientInfo) : Keeps value (announceCreatedGame src gameId game client) := by
  refine (deaf.broadcastPacket _ _).bind fun _ => (deaf.broadcastPacket _ _).bind fun _ => ?_
  exact deaf.introduce src game fun client => deaf.sendPacket src _ _

theorem announceJoinedGame (src : SocketAddr) (gameId : UInt32) :
    Keeps value (announceJoinedGame src gameId) := by
  refine (keeps_getGame gameId).bind fun game => ?_
  cases game with
  | none => exact keeps_fail _
  | some game =>
      refine (keeps_inspect _).bind fun addrs => ?_
      refine Task.Each.bind (Task.Each.forEach (fun addr => deaf.sendPacket addr _ _) addrs)
        fun _ => ?_
      exact deaf.introduce src game fun client => deaf.broadcastPacketToGame gameId _ _

theorem announceStatus (gameId : UInt32) : Keeps value (announceStatus gameId) := by
  refine (keeps_getGame gameId).bind fun game => ?_
  cases game with
  | none => exact keeps_pure ()
  | some game => exact deaf.broadcastPacket _ _

theorem announceOwner (gameId : UInt32) (owner : Option Bytes) :
    Keeps value (announceOwner gameId owner) := by
  cases owner with
  | none => exact keeps_pure ()
  | some owner =>
      refine (keeps_getGame gameId).bind fun game => ?_
      cases game with
      | none => exact keeps_pure ()
      | some game => exact deaf.broadcastPacketToGame gameId _ _

theorem announceKick (gameId : UInt32) (addr : SocketAddr) (quitData : Bytes) :
    Keeps value (announceKick gameId addr quitData) := by
  refine (deaf.sendPacket addr _ quitData).bind fun _ => (keeps_getGame gameId).bind fun game => ?_
  cases game with
  | none => exact keeps_pure ()
  | some game =>
      exact (deaf.broadcastPacketToGame gameId _ quitData).bind fun _ => deaf.broadcastPacket _ _

end Deaf

end Keeps

/-! ## Quiet tasks -/

/-- Every section keeps the view. -/
abbrev Quiet {Result : Type} (task : Handler Result) : Prop :=
  Task.Each (fun before after => after.view = before.view) task

section Quiet

variable {Result Next : Type}

theorem quiet_pure (result : Result) : Quiet (pure result : Handler Result) := trivial

theorem quiet_fail (report : Report) : Quiet (.fail report : Handler Result) := trivial

theorem quiet_inspect (read : AppState → Result) : Quiet (.inspect read : Handler Result) :=
  keeps_inspect read

theorem Quiet.bind {task : Handler Result} {continuation : Result → Handler Next}
    (first : Quiet task) (later : ∀ result, Quiet (continuation result)) :
    Quiet (task >>= continuation) :=
  Task.Each.bind first later

/-- The run of a quiet task keeps the view. -/
theorem Quiet.run {task : Handler Result} (quiet : Quiet task) (state : AppState) :
    (task.run state).2.view = state.view :=
  quiet.keeps state

/-- A client changed within its connection is the same member. -/
theorem ClientRegistry.member_update {registry : ClientRegistry} {session : SessionId}
    {change : ClientInfo → ClientInfo} (same : ∀ client, (change client).toMember = client.toMember) :
    (registry.update session change).member = registry.member := by
  ext1 other
  by_cases here : other = session
  · subst here
    simp only [member, update, Function.update_self, Option.map_map]
    exact congrArg (fun f => (registry.byId other).map f) (funext same)
  · simp [member, update, here]

/-- The view hears no announcement. -/
theorem deaf_view : Deaf AppState.view where
  draws := by
    intro state session packetType data
    have members : (state.clients.update session fun client =>
        (client.makeSendPacket packetType data).2).member = state.clients.member :=
      ClientRegistry.member_update fun _ => rfl
    simp only [AppState.view, members]
    rfl
  queues := by
    intro state addr data game
    simp [AppState.view, Message.delivery]

theorem quiet_updateClient {change : ClientInfo → Result × ClientInfo} (addr : SocketAddr)
    (same : ∀ client, (change client).2.toMember = client.toMember) :
    Quiet (updateClient addr change) := by
  refine (quiet_inspect _).bind fun session => ?_
  cases session with
  | none => exact quiet_fail _
  | some session =>
      refine Task.each_critical fun state => ?_
      cases known : state.clients.byId session with
      | none => rfl
      | some client =>
          have members : (state.clients.update session fun client => (change client).2).member =
              state.clients.member := ClientRegistry.member_update same
          simp only [AppState.view, members, List.append_nil]
          rfl

theorem quiet_sendPacket (addr : SocketAddr) (packetType : UInt8) (data : Bytes) :
    Quiet (sendPacket addr packetType data) := deaf_view.sendPacket addr packetType data

/-- Making packets touches nothing but packet generators. -/
theorem makePackets_registry (selected : ClientInfo → Bool) (packetType : UInt8) (data : Bytes)
    (addrs : List SocketAddr) (registry : ClientRegistry) :
    (makePackets selected packetType data addrs registry).2.byAddr = registry.byAddr ∧
      (makePackets selected packetType data addrs registry).2.member = registry.member := by
  have same := deaf_view.makePackets selected packetType data addrs (.opened registry)
  exact ⟨congrArg View.byAddr same, congrArg View.member same⟩

theorem quiet_broadcastPacket (packetType : UInt8) (data : Bytes) :
    Quiet (broadcastPacket packetType data) := deaf_view.broadcastPacket packetType data

theorem quiet_getGame (gameId : UInt32) : Quiet (getGame gameId) := keeps_getGame gameId

theorem quiet_broadcastPacketToGame (gameId : UInt32) (packetType : UInt8) (data : Bytes) :
    Quiet (broadcastPacketToGame gameId packetType data) :=
  deaf_view.broadcastPacketToGame gameId packetType data

theorem quiet_fetchGameInfo (src : SocketAddr) : Quiet (fetchGameInfo src) :=
  keeps_fetchGameInfo src

theorem quiet_resolveInGame (src : SocketAddr) : Quiet (resolveInGame src) :=
  keeps_resolveInGame src

theorem quiet_fetchPings (config : Config) (players : List GamePlayerInfo) :
    Quiet (fetchPings config players) := keeps_fetchPings config players

theorem quiet_announceCreatedGame (src : SocketAddr) (gameId : UInt32) (game : GameInfo)
    (client : ClientInfo) : Quiet (announceCreatedGame src gameId game client) :=
  deaf_view.announceCreatedGame src gameId game client

theorem quiet_announceJoinedGame (src : SocketAddr) (gameId : UInt32) :
    Quiet (announceJoinedGame src gameId) := deaf_view.announceJoinedGame src gameId

theorem quiet_announceStatus (gameId : UInt32) : Quiet (announceStatus gameId) :=
  deaf_view.announceStatus gameId

theorem quiet_announceOwner (gameId : UInt32) (owner : Option Bytes) :
    Quiet (announceOwner gameId owner) := deaf_view.announceOwner gameId owner

theorem quiet_announceKick (gameId : UInt32) (addr : SocketAddr) (quitData : Bytes) :
    Quiet (announceKick gameId addr quitData) := deaf_view.announceKick gameId addr quitData

theorem quiet_status (addr : SocketAddr) (status : UInt8) :
    Quiet (withClientMut addr fun client => { client with playerStatus := status }) :=
  quiet_updateClient addr fun _ => rfl

/-- Every listed player's status may be set. -/
theorem quiet_setStatus (players : List GamePlayerInfo) (status : UInt8) :
    Quiet (Task.forEach players fun player =>
      withClientMut player.addr fun client => { client with playerStatus := status }) :=
  Task.Each.forEach (fun player => quiet_status player.addr status) players

theorem quiet_announceStart (gameId : UInt32) (src : SocketAddr) (players : List GamePlayerInfo)
    (advertised : List Nat) : Quiet (announceStart gameId src players advertised) := by
  refine (quiet_setStatus players _).bind fun _ => (quiet_fetchGameInfo src).bind fun game => ?_
  refine (quiet_broadcastPacket _ _).bind fun _ => ?_
  refine Quiet.bind (Task.Each.forEach (fun _ => quiet_sendPacket _ _ _) _) fun _ => ?_
  exact quiet_broadcastPacketToGame gameId _ _

/-- Readiness only concerns player statuses. -/
theorem quiet_handleReadyToPlaySignal (data : Bytes) (src : SocketAddr) :
    Quiet (handleReadyToPlaySignal data src) := by
  unfold handleReadyToPlaySignal
  split
  · exact quiet_pure ()
  · refine Quiet.bind (quiet_updateClient src fun client => ?_) fun alreadyPlaying => ?_
    · split <;> rfl
    cases alreadyPlaying with
    | true => exact quiet_pure ()
    | false =>
        refine (quiet_fetchGameInfo src).bind fun game => (quiet_broadcastPacket _ _).bind fun _ => ?_
        refine (quiet_inspect _).bind fun allReady => ?_
        cases allReady with
        | false => exact quiet_pure ()
        | true =>
            refine Quiet.bind (Task.Each.forEach (fun player => ?_) game.players) fun _ =>
              quiet_broadcastPacketToGame _ _ _
            exact Quiet.bind (quiet_status player.addr _).attempt fun _ => quiet_pure PUnit.unit

end Quiet

end Direlera.Lobby
