import Direlera.Lobby.Chat
import Direlera.Lobby.Displays

/-!
# What handlers tell

Each handler sends messages of a few types only. A display of other types is not moved by it,
whatever the handler does and however it ends; nor are the profiles of the clients.
-/

namespace Direlera.Lobby

open Direlera.Library Direlera.Sync Direlera.Wire

/-- The client of an address as far as its messages are concerned, and what was queued. -/
def AppState.correspondence (state : AppState) :
    (SocketAddr → Option (Profile × UDPPacketGenerator)) × List Message :=
  (fun addr => (state.clients.find addr).map fun client => (client.profile, client.packetGenerator),
    state.tx)

/-- Without a change of the correspondence nothing else is shown. -/
theorem Display.unmoved_of_correspondence {View : Type} {display : Display View}
    {before after : AppState} (same : after.correspondence = before.correspondence) :
    display.Unmoved before after := by
  have clients : ∀ addr, (after.clients.find addr).map
      (fun client => (client.profile, client.packetGenerator)) =
        (before.clients.find addr).map fun client => (client.profile, client.packetGenerator) :=
    fun addr => congrFun (congrArg Prod.fst same) addr
  have tx : after.tx = before.tx := congrArg Prod.snd same
  have shown : display.shown after = display.shown before := shown_of_tx tx
  refine ⟨⟨shown, fun steady addr client known message last => ?_⟩, ?_⟩
  · have both := clients addr
    rw [known, Option.map_some] at both
    obtain ⟨earlier, found, alike⟩ := Option.map_eq_some_iff.mp both.symm
    rw [shown]
    refine steady addr earlier found message ?_
    rw [(Prod.mk.inj alike).2]
    exact last
  · ext1 addr
    have profile := congrArg (Option.map Prod.fst) (clients addr)
    rwa [Option.map_map, Option.map_map] at profile

/-- Run alone, a task sends messages of some types only, and keeps the profiles. -/
def Tells {Result : Type} (types : List UInt8) (task : Handler Result) : Prop :=
  ∀ (View : Type) (display : Display View), display.Ignores types →
    ∀ state, display.Unmoved state (task.run state).2

section Tells

variable {Result Next : Type} {types more : List UInt8} {task : Handler Result}

theorem Tells.mono (tells : Tells types task) (included : types ⊆ more) : Tells more task :=
  fun View display unheard => tells View display fun packetType said =>
    unheard packetType (included said)

/-- A run which is known. -/
theorem Tells.of_run (tells : Tells types task) {View : Type} {display : Display View}
    (unheard : display.Ignores types) {before after : AppState}
    {outcome : Except Report Result} (ran : task.run before = (outcome, after)) :
    display.Unmoved before after := by
  have unmoved := tells View display unheard before
  rwa [ran] at unmoved

theorem tells_of_keeps (keeps : Keeps AppState.correspondence task) : Tells types task :=
  fun _ _ _ state => Display.unmoved_of_correspondence (keeps.keeps state)

theorem tells_pure (result : Result) : Tells types (pure result : Handler Result) :=
  tells_of_keeps (keeps_pure result)

theorem tells_fail (report : Report) : Tells types (.fail report : Handler Result) :=
  tells_of_keeps (keeps_fail report)

theorem tells_inspect (read : AppState → Result) : Tells types (.inspect read : Handler Result) :=
  tells_of_keeps (keeps_inspect read)

theorem tells_getGame (gameId : UInt32) : Tells types (getGame gameId) :=
  tells_of_keeps (keeps_getGame gameId)

theorem Tells.bind {continuation : Result → Handler Next} (first : Tells types task)
    (later : ∀ result, Tells types (continuation result)) : Tells types (task >>= continuation) := by
  intro View display unheard state
  rw [Task.run_bind]
  rcases ran : task.run state with ⟨outcome, next⟩
  have middle := first.of_run unheard ran
  cases outcome with
  | ok result => exact middle.trans (later result View display unheard next)
  | error report => exact middle

theorem Tells.attempt (tells : Tells types task) : Tells types task.attempt := by
  intro View display unheard state
  rw [Task.run_attempt]
  exact tells View display unheard state

theorem Tells.forEach {Item : Type} {body : Item → Handler Unit}
    (each : ∀ item, Tells types (body item)) (items : List Item) :
    Tells types (Task.forEach items body) := by
  induction items with
  | nil => exact tells_pure ()
  | cons item rest ih => exact (each item).bind fun _ => ih

/-- A section which does not touch the correspondence. -/
theorem tells_critical {act : AppState → Except Report Result × AppState}
    (clients : ∀ state, (act state).2.clients = state.clients)
    (tx : ∀ state, (act state).2.tx = state.tx) : Tells types (Task.critical act) := by
  refine tells_of_keeps (Task.each_critical fun state => ?_)
  rw [AppState.correspondence, clients, tx]
  rfl

/-- A client is changed apart from its correspondence. -/
theorem tells_updateClient (addr : SocketAddr) {change : ClientInfo → Result × ClientInfo}
    (same : ∀ client, ((change client).2.profile, (change client).2.packetGenerator) =
      (client.profile, client.packetGenerator)) : Tells types (updateClient addr change) := by
  apply tells_of_keeps
  apply Task.Each.bind (keeps_inspect _)
  rintro (_ | session)
  · exact keeps_fail _
  apply Task.each_critical
  intro state
  cases state.clients.byId session with
  | none => rfl
  | some client =>
      refine Prod.ext ?_ rfl
      ext1 other
      exact state.clients.map_find_update same session other

theorem tells_withClientMut (addr : SocketAddr) {change : ClientInfo → ClientInfo}
    (same : ∀ client, ((change client).profile, (change client).packetGenerator) =
      (client.profile, client.packetGenerator)) : Tells types (withClientMut addr change) :=
  tells_updateClient addr same

end Tells

/-! ## Sending -/

section Sending

variable {types : List UInt8} {packetType : UInt8}

theorem tells_broadcast {selected : ClientInfo → Bool} {data : Bytes} (speaks : packetType ∈ types)
    (unmoved : ∀ client : ClientInfo,
      selected (client.makeSendPacket packetType data).2 = selected client)
    (addrs : List SocketAddr) : Tells types (broadcast selected packetType data addrs) := by
  intro View display unheard state
  exact Display.unmoved_of_mails (mails_broadcast unmoved addrs state) (unheard packetType speaks)

theorem tells_broadcastPacket (speaks : packetType ∈ types) (data : Bytes) :
    Tells types (broadcastPacket packetType data) :=
  (tells_inspect _).bind fun addrs => tells_broadcast speaks (fun _ => rfl) addrs

theorem tells_broadcastPacketToGame (speaks : packetType ∈ types) (gameId : UInt32) (data : Bytes) :
    Tells types (broadcastPacketToGame gameId packetType data) := by
  refine (tells_getGame gameId).bind ?_
  rintro (_ | game)
  · exact tells_fail _
  · exact tells_broadcast speaks (fun _ => rfl) _

theorem tells_drawn (speaks : packetType ∈ types) (handed : List TargetOutput)
    (frame : Option Frame) (addr : SocketAddr) (data : Bytes) :
    Tells types (do
      let packet ← updateClientLogging handed addr fun client =>
        client.makeSendPacket packetType data
      sendMessage frame addr packet : Handler Unit) := by
  intro View display unheard state
  rcases mails_drawn handed frame addr state with ⟨_, same⟩ | ⟨next, ran, mails⟩
  · rw [same]
    exact .refl state
  · rw [ran]
    exact Display.unmoved_of_mails mails (unheard packetType speaks)

theorem tells_sendPacket (speaks : packetType ∈ types) (addr : SocketAddr) (data : Bytes) :
    Tells types (sendPacket addr packetType data) := tells_drawn speaks [] none addr data

theorem tells_sendOutput (speaks : Msg.gameData ∈ types ∧ Msg.gameCache ∈ types)
    (output : TargetOutput) : Tells types (sendOutput output) := by
  have either : (responsePacket output.frame.response).1 ∈ types := by
    cases output.frame.response with
    | gameData data => exact speaks.1
    | gameCache position => exact speaks.2
  exact tells_drawn either [output] (some output.frame) output.addr _

end Sending

/-! ## Handlers of rooms -/

section Rooms

variable {types : List UInt8}

/-- The players are shown to a newcomer, and then the newcomer is greeted. -/
theorem tells_introduce (speaks : Msg.playerInformation ∈ types) (src : SocketAddr)
    (game : GameInfo) {greet : ClientInfo → Handler Unit} (greets : ∀ client, Tells types (greet client)) :
    Tells types (do
      let playersInfo ← makePlayerInformation src game
      sendPacket src Msg.playerInformation playersInfo
      let some client ← getClient src | .fail (.message "Client not found")
      greet client) := by
  refine (tells_of_keeps (keeps_makePlayerInformation src game)).bind fun info => ?_
  refine (tells_sendPacket speaks src info).bind fun _ => (tells_inspect _).bind ?_
  rintro (_ | client)
  · exact tells_fail _
  · exact greets client

def createMail : List UInt8 :=
  [Msg.createGame, Msg.updateGameStatus, Msg.playerInformation, Msg.joinGame]

theorem tells_handleCreateGame (data : Bytes) (src : SocketAddr) :
    Tells createMail (handleCreateGame data src) := by
  have cleared : Tells createMail (checkAlreadyInGame src) := by
    refine (tells_inspect _).bind ?_
    rintro (_ | client)
    · exact tells_pure false
    dsimp only
    cases client.gameId with
    | none => exact tells_pure false
    | some gameId =>
        refine (tells_getGame gameId).bind fun game => ?_
        split
        · exact tells_pure true
        · exact (tells_withClientMut src (by intro client; rfl)).bind fun _ => tells_pure false
  refine cleared.bind ?_
  rintro (_ | _)
  · refine (tells_critical (fun _ => rfl) fun _ => rfl).bind fun gameId => ?_
    refine (tells_of_keeps (keeps_fetchClientInfo src)).bind fun client => ?_
    refine (tells_critical (fun _ => rfl) fun _ => rfl).bind fun _ => ?_
    refine (tells_withClientMut src (by intro client; rfl)).bind fun _ => ?_
    refine (tells_broadcastPacket (by decide) _).bind fun _ => ?_
    refine (tells_broadcastPacket (by decide) _).bind fun _ => ?_
    exact tells_introduce (by decide) src _ fun client => tells_sendPacket (by decide) src _
  · exact tells_pure ()

/-- The sections of a change of the game of a client. -/
theorem tells_withGameMut (src : SocketAddr) (change : GameInfo → GameInfo) :
    Tells types (withGameMut src change) := by
  refine (tells_inspect _).bind ?_
  rintro (_ | client)
  · exact tells_fail _
  dsimp only
  cases client.gameId with
  | none => exact tells_fail _
  | some gameId =>
      refine (tells_inspect _).bind ?_
      rintro (_ | ref)
      · exact tells_fail _
      · exact tells_critical (fun _ => rfl) fun _ => rfl

def joinMail : List UInt8 := [Msg.updateGameStatus, Msg.playerInformation, Msg.joinGame]

theorem tells_handleJoinGame (data : Bytes) (src : SocketAddr) :
    Tells joinMail (handleJoinGame data src) := by
  unfold handleJoinGame
  cases parseJoinGame data with
  | none => exact tells_pure ()
  | some gameId =>
      refine (tells_inspect _).bind ?_
      rintro (_ | client)
      · exact tells_fail _
      dsimp only
      split
      · exact tells_pure ()
      · refine (tells_getGame gameId).bind ?_
        rintro (_ | game)
        · exact tells_pure ()
        dsimp only
        split
        · refine (tells_withClientMut src (by intro client; rfl)).bind fun _ => ?_
          refine (tells_withGameMut src _).bind fun _ => (tells_getGame gameId).bind ?_
          rintro (_ | game)
          · exact tells_fail _
          refine (tells_inspect _).bind fun addrs => ?_
          refine (Tells.forEach (fun addr => tells_sendPacket (by decide) addr _) addrs).bind fun _ => ?_
          exact tells_introduce (by decide) src game fun client =>
            tells_broadcastPacketToGame (by decide) gameId _
        · exact tells_pure ()

/-! ## Dropping and leaving -/

def dropMail : List UInt8 :=
  [Msg.updateGameStatus, Msg.closeGame, Msg.dropGame, Msg.gameData, Msg.gameCache]

/-- The marking section posts the status of a game which ends in it. -/
theorem tells_markDropped (gameId : UInt32) (ref : GameRef) (playerId : Nat) :
    Tells dropMail (Task.critical (markDropped gameId ref playerId)) := by
  intro View display unheard state
  rw [Task.run_critical]
  cases running : (state.games.arena ref).syncManager with
  | none =>
      simp only [markDropped, running]
      exact .refl state
  | some sync =>
      rcases called : sync.call gameId (.drop playerId) with ⟨result, next⟩
      simp only [markDropped, running, called]
      cases result with
      | error error => exact Display.unmoved_of_correspondence rfl
      | ok frames =>
          dsimp only
          split
          · have posts := @tells_broadcastPacket dropMail Msg.updateGameStatus (by decide)
            split
            next ran =>
              refine .trans ?_ ((posts _).of_run unheard ran)
              exact Display.unmoved_of_correspondence rfl
            next ran =>
              refine .trans ?_ ((posts _).of_run unheard ran)
              exact Display.unmoved_of_correspondence rfl
          · exact Display.unmoved_of_correspondence rfl

theorem tells_announceDrop (gameId : UInt32) (username : Bytes) (playerId : Nat)
    (frames : List Frame) (players : List GamePlayerInfo) :
    Tells dropMail (announceDrop gameId username playerId frames players) := by
  refine (Tells.forEach (fun player => tells_withClientMut player.addr ?_) players).bind fun _ => ?_
  · intro client
    rfl
  refine (tells_broadcastPacketToGame (by decide) gameId _).bind fun _ => ?_
  refine (Tells.forEach (fun frame => ?_) frames).bind fun _ => tells_pure true
  unfold sendFrame
  split
  · exact tells_fail _
  · exact tells_sendOutput (by decide) _

theorem tells_executeDropGame (gameId : UInt32) (src : SocketAddr) :
    Tells dropMail (executeDropGame gameId src) := by
  refine (tells_inspect _).bind ?_
  rintro (_ | client)
  · exact tells_fail _
  refine (tells_inspect _).bind ?_
  rintro (_ | ref)
  · exact tells_pure false
  refine (tells_inspect _).bind ?_
  rintro (_ | playerId)
  · exact tells_pure false
  refine (tells_inspect _).bind ?_
  rintro (_ | ref)
  · exact tells_fail _
  refine (tells_markDropped gameId ref playerId).bind ?_
  rintro ⟨frames, players, allDropped⟩
  have announced := tells_announceDrop gameId client.username playerId frames players
  cases allDropped with
  | false => exact announced
  | true =>
      refine (tells_getGame gameId).bind fun game => ?_
      split
      · refine (tells_critical (fun _ => rfl) fun _ => rfl).bind fun _ => ?_
        exact (tells_broadcastPacket (by decide) _).bind fun _ => tells_pure true
      · exact announced

theorem tells_handleDropGame (src : SocketAddr) : Tells dropMail (handleDropGame src) := by
  refine (tells_of_keeps (keeps_resolveInGame src)).bind ?_
  rintro (_ | ⟨gameId, _⟩)
  · exact tells_pure ()
  · exact (tells_executeDropGame gameId src).bind fun _ => tells_pure ()

def quitMail : List UInt8 := Msg.quitGame :: Msg.gameChat :: dropMail

theorem tells_settleQuit (gameId : UInt32) (src : SocketAddr) (quitData : Bytes)
    (outcome : GameInfo.QuitOutcome) : Tells quitMail (settleQuit gameId src quitData outcome) := by
  have posts : ∀ game : GameInfo, Tells quitMail (do
      broadcastPacketToGame gameId Msg.quitGame quitData
      broadcastPacket Msg.updateGameStatus (makeUpdateGameStatus game)) := fun game =>
    (tells_broadcastPacketToGame (by decide) gameId _).bind fun _ => tells_broadcastPacket (by decide) _
  cases outcome with
  | playing =>
      have dropped : Tells quitMail (executeDropGame gameId src).attempt :=
        (tells_executeDropGame gameId src).attempt.mono (by decide)
      refine dropped.bind fun _ => (tells_getGame gameId).bind ?_
      rintro (_ | game)
      · exact tells_broadcastPacket (by decide) _
      · exact posts game
  | waitingClosed =>
      refine (tells_critical (fun _ => rfl) fun _ => rfl).bind fun _ => ?_
      exact (tells_broadcastPacket (by decide) _).bind fun _ => tells_broadcastPacket (by decide) _
  | waitingOpen =>
      refine (tells_broadcastPacketToGame (by decide) gameId _).bind fun _ => ?_
      refine (tells_getGame gameId).bind ?_
      rintro (_ | game)
      · exact tells_pure ()
      · exact tells_broadcastPacket (by decide) _

theorem tells_handleQuitGame (src : SocketAddr) : Tells quitMail (handleQuitGame src) := by
  refine (tells_inspect _).bind ?_
  rintro (_ | client)
  · exact tells_pure ()
  dsimp only
  cases client.gameId with
  | none => exact tells_pure ()
  | some gameId =>
      refine (tells_inspect _).bind ?_
      rintro (_ | ref)
      · exact tells_pure ()
      refine (tells_withClientMut src (by intro client; rfl)).bind fun _ => ?_
      refine (tells_critical (fun _ => rfl) fun _ => rfl).bind ?_
      rintro ⟨outcome, newOwner⟩
      refine (tells_settleQuit gameId src _ outcome).bind fun _ => ?_
      cases newOwner with
      | none => exact tells_pure ()
      | some owner =>
          refine (tells_getGame gameId).bind ?_
          rintro (_ | game)
          · exact tells_pure ()
          · exact tells_broadcastPacketToGame (by decide) gameId _

theorem tells_announceKick (gameId : UInt32) (addr : SocketAddr) (quitData : Bytes) :
    Tells quitMail (announceKick gameId addr quitData) := by
  refine (tells_sendPacket (by decide) addr quitData).bind fun _ => (tells_getGame gameId).bind ?_
  rintro (_ | game)
  · exact tells_pure ()
  · exact (tells_broadcastPacketToGame (by decide) gameId _).bind fun _ =>
      tells_broadcastPacket (by decide) _

theorem tells_kickFrom (gameId : UInt32) (addr : SocketAddr) (quitData : Bytes) :
    Tells quitMail (kickFrom gameId addr quitData) := by
  refine (tells_inspect _).bind ?_
  rintro (_ | ref)
  · exact tells_pure ()
  refine (tells_withClientMut addr (by intro client; rfl)).attempt.bind fun _ => ?_
  refine (tells_critical (fun _ => rfl) fun _ => rfl).bind fun outcome => ?_
  have announced := tells_announceKick gameId addr quitData
  split
  · have dropped : Tells quitMail (executeDropGame gameId addr).attempt :=
      (tells_executeDropGame gameId addr).attempt.mono (by decide)
    exact dropped.bind fun _ => announced
  · exact announced

theorem tells_handleKickUser (data : Bytes) (src : SocketAddr) :
    Tells quitMail (handleKickUser data src) := by
  unfold handleKickUser
  cases parseKickUser data with
  | none => exact tells_pure ()
  | some userId =>
      refine (tells_inspect _).bind ?_
      rintro (_ | requester)
      · exact tells_fail _
      dsimp only
      cases requester.gameId with
      | none => exact tells_fail _
      | some gameId =>
          refine (tells_getGame gameId).bind ?_
          rintro (_ | game)
          · exact tells_fail _
          dsimp only
          split
          · refine (tells_inspect _).bind ?_
            rintro (_ | ⟨addr, kicked⟩)
            · exact tells_pure ()
            refine (tells_inspect _).bind ?_
            rintro (_ | target)
            · exact tells_pure ()
            dsimp only
            split
            · exact tells_kickFrom gameId addr _
            · exact tells_pure ()
          · exact tells_pure ()

/-! ## Starting and playing -/

def startMail : List UInt8 := [Msg.gameChat, Msg.updateGameStatus, Msg.startGame]

theorem tells_startFrom (config : Config) (gameId : UInt32) (src : SocketAddr) :
    Tells startMail (startFrom config gameId src) := by
  refine (tells_withGameMut src _).bind fun _ => ?_
  refine (tells_of_keeps (keeps_fetchGameInfo src)).bind fun before => ?_
  refine (tells_of_keeps (keeps_fetchPings config before.players)).bind fun pings => ?_
  refine (tells_withGameMut src _).bind fun _ => ?_
  refine (Tells.forEach (fun player : GamePlayerInfo =>
    tells_withClientMut player.addr ?_) _).bind fun _ => ?_
  · intro client
    rfl
  refine (tells_of_keeps (keeps_fetchGameInfo src)).bind fun game => ?_
  refine (tells_broadcastPacket (by decide) _).bind fun _ => ?_
  refine (Tells.forEach (fun _ => tells_sendPacket (by decide) _ _) _).bind fun _ => ?_
  exact tells_broadcastPacketToGame (by decide) gameId _

theorem tells_handleStartGame (config : Config) (data : Bytes) (src : SocketAddr) :
    Tells startMail (handleStartGame config data src) := by
  unfold handleStartGame
  split
  · exact tells_pure ()
  · refine (tells_inspect _).bind ?_
    rintro (_ | client)
    · exact tells_fail _
    dsimp only
    cases client.gameId with
    | none => exact tells_fail _
    | some gameId =>
        refine (tells_getGame gameId).bind ?_
        rintro (_ | game)
        · exact tells_fail _
        dsimp only
        split
        · split
          · exact tells_broadcastPacketToGame (by decide) gameId _
          · split
            · exact tells_startFrom config gameId src
            · exact tells_pure ()
        · exact tells_pure ()

def inputMail : List UInt8 := [Msg.gameData, Msg.gameCache, Msg.gameChat]

/-- Feeding an engine sends nothing. -/
theorem correspondence_processInput {Failure : Type} (notInitialized : Failure)
    (engineError : GameSyncError → Failure) (invalidPlayer : Nat → Nat → Failure)
    (gameId : UInt32) (ref : GameRef) (playerId : Nat) (input : ClientInput) (state : AppState) :
    (processInput notInitialized engineError invalidPlayer gameId ref playerId input
      state).2.correspondence = state.correspondence := by
  cases running : (state.games.arena ref).syncManager with
  | none => simp only [processInput, running]
  | some sync =>
      rcases called : sync.call gameId (.input playerId input) with ⟨result, next⟩
      simp only [processInput, running, called]
      cases result with
      | error error => rfl
      | ok frames =>
          dsimp only
          split
          · rfl
          · rfl

theorem tells_handleGameData (data : Bytes) (src : SocketAddr) :
    Tells inputMail (handleGameData data src) := by
  unfold handleGameData
  cases parseGameData data with
  | none => exact tells_pure ()
  | some gameData =>
      refine (tells_of_keeps (keeps_resolveInGame src)).bind ?_
      rintro (_ | ⟨gameId, playerId⟩)
      · exact tells_pure ()
      refine (tells_inspect _).bind ?_
      rintro (_ | ref)
      · exact tells_fail _
      refine (tells_of_keeps (Task.each_critical fun state => ?_)).bind fun outputs =>
        Tells.forEach (tells_sendOutput (by decide)) outputs
      exact correspondence_processInput _ _ _ gameId ref playerId _ state

theorem tells_handleGameCache (data : Bytes) (src : SocketAddr) :
    Tells inputMail (handleGameCache data src) := by
  unfold handleGameCache
  cases parseGameCache data with
  | none => exact tells_pure ()
  | some position =>
      refine (tells_of_keeps (keeps_resolveInGame src)).bind ?_
      rintro (_ | ⟨gameId, playerId⟩)
      · exact tells_pure ()
      refine (tells_inspect _).bind ?_
      rintro (_ | ref)
      · exact tells_fail _
      refine (tells_of_keeps (Task.each_critical fun state => ?_)).bind ?_
      · exact correspondence_processInput _ _ _ gameId ref playerId _ state
      rintro (error | outputs)
      · cases error with
        | cachePositionNotFound playerId position =>
            exact (tells_sendPacket (by decide) src _).bind fun _ => tells_fail _
        | _ => exact tells_fail _
      · exact Tells.forEach (tells_sendOutput (by decide)) outputs

def readyMail : List UInt8 := [Msg.updateGameStatus, Msg.readyToPlay]

theorem tells_handleReadyToPlaySignal (data : Bytes) (src : SocketAddr) :
    Tells readyMail (handleReadyToPlaySignal data src) := by
  unfold handleReadyToPlaySignal
  split
  · exact tells_pure ()
  · refine (tells_updateClient src fun client => ?_).bind fun alreadyPlaying => ?_
    · split <;> rfl
    cases alreadyPlaying with
    | true => exact tells_pure ()
    | false =>
        refine (tells_of_keeps (keeps_fetchGameInfo src)).bind fun game => ?_
        refine (tells_broadcastPacket (by decide) _).bind fun _ => (tells_inspect _).bind ?_
        rintro (_ | _)
        · exact tells_pure ()
        · refine (Tells.forEach (fun player : GamePlayerInfo => ?_) _).bind fun _ =>
            tells_broadcastPacketToGame (by decide) _ _
          refine (tells_withClientMut player.addr ?_).attempt.bind fun _ => tells_pure ()
          intro client
          rfl

/-! ## Chatting -/

theorem tells_handleGlobalChat (data : Bytes) (src : SocketAddr) :
    Tells [Msg.globalChat] (handleGlobalChat data src) :=
  (tells_inspect _).bind fun _ => tells_broadcastPacket (by decide) _

theorem tells_handleGameChat (data : Bytes) (src : SocketAddr) :
    Tells [Msg.gameChat] (handleGameChat data src) := by
  refine (tells_inspect _).bind ?_
  rintro (_ | client)
  · exact tells_fail _
  dsimp only
  cases client.gameId with
  | none => exact tells_fail _
  | some gameId =>
      refine (tells_getGame gameId).bind ?_
      rintro (_ | game)
      · exact tells_fail _
      dsimp only
      split
      · split
        · exact tells_pure ()
        · exact tells_broadcastPacketToGame (by decide) gameId _
      · exact tells_pure ()

end Rooms

end Direlera.Lobby
