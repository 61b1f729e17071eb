import Direlera.Lobby.EngineRuns
import Direlera.Lobby.GameLists
import Direlera.Server.LanPlayers

/-!
# What messages do to the hall

A message other than a login is a request of its client, or it leaves the rooms, the members'
games and the sent responses alone. A login under a free name adds its client.
-/

namespace Direlera.Server

open Direlera.Clients (parseLogin)
open Direlera.Library Direlera.Lobby Direlera.Sync Direlera.Wire

/-! ## Messages as requests -/

/-- The request which a message makes, by its type. -/
def requestOf (messageType : UInt8) (data : Bytes) : Option Request :=
  if messageType = Msg.userQuit then some (.userQuit data)
  else if messageType = Msg.userLogin then none
  else if messageType = Msg.clientToServerAck then none
  else if messageType = Msg.globalChat then none
  else if messageType = Msg.gameChat then none
  else if messageType = Msg.clientKeepAlive then none
  else if messageType = Msg.createGame then some (.createGame data)
  else if messageType = Msg.quitGame then some (.quitGame data)
  else if messageType = Msg.joinGame then some (.joinGame data)
  else if messageType = Msg.kickUser then some (.kickUser data)
  else if messageType = Msg.startGame then some (.startGame data)
  else if messageType = Msg.gameData then some (.gameData data)
  else if messageType = Msg.gameCache then some (.gameCache data)
  else if messageType = Msg.dropGame then some (.dropGame data)
  else if messageType = Msg.readyToPlay then some (.readyToPlay data)
  else none

/-- The input which a message carries. -/
def inputOf (messageType : UInt8) (data : Bytes) : Option ClientInput :=
  (requestOf messageType data).bind Request.input

/-- What a request does to the hall; nothing but a ping changes without one. -/
def Heeds (config : Config) (src : SocketAddr) (before after : Hall) : Option Request → Prop
  | some request => after = before.handle config src request
  | none => before.Repinged after ∧ after.deliveries = before.deliveries

/-- A task of the server does what a request asks for. -/
def Obeys (config : Config) (src : SocketAddr) (service : Service Unit)
    (request : Option Request) : Prop :=
  ∀ state, Heeds config src state.lobby.hall (service.run state).2.lobby.hall request

variable {config : Config} {src : SocketAddr}

theorem run_inLobby {Result : Type} (task : Handler Result) (state : ServerState) :
    (inLobby task).run state =
      ((task.run state.lobby).1, { state with lobby := (task.run state.lobby).2 }) :=
  Task.run_within ServerState.lobby (fun lobby state => { state with lobby }) (fun _ _ => rfl)
    (fun _ _ _ => rfl) (fun _ => rfl) task state

theorem obeys_request (request : Request) :
    Obeys config src (inLobby (Lobby.handleMessage config src request)) (some request) := by
  intro state
  rw [run_inLobby]
  exact hall_step config state.lobby (src, request)

/-- What makes no request leaves all games alone. -/
theorem Heeds.spares {before after : Hall} (heeds : Heeds config src before after none)
    {gameId : UInt32} : Hall.Spares gameId before after := by
  obtain ⟨repinged, deliveries⟩ := heeds
  refine ⟨congrFun repinged.room gameId, fun addr here => ?_, by rw [Hall.stream, deliveries]; rfl⟩
  obtain ⟨member, known⟩ := Option.isSome_iff_exists.mp here
  obtain ⟨earlier, there, _⟩ := repinged.known known
  rw [there, Option.isSome_some]

theorem Heeds.refl (hall : Hall) : Heeds config src hall hall none := ⟨⟨fun _ => rfl, rfl⟩, rfl⟩

theorem obeys_quiet {task : Handler Unit} (quiet : Quiet task) :
    Obeys config src (inLobby task) none := by
  intro state
  rw [run_inLobby, quiet.hall state.lobby]
  exact Heeds.refl _

/-- An acknowledgement measures the ping of its client. -/
theorem obeys_ack (surroundings : Surroundings) :
    Obeys config src (inLobby (handleClientToServerAck surroundings src)) none := by
  intro state
  rw [run_inLobby]
  cases found : state.lobby.clients.find src with
  | none =>
      obtain ⟨report, failed⟩ := run_updateClient_missing found [] fun client =>
        (client.ackCount + 1, client.acknowledge surroundings.ping)
      have same : ((handleClientToServerAck surroundings src).run state.lobby).2 = state.lobby :=
        congrArg Prod.snd (Task.run_bind_error failed)
      rw [same]
      exact Heeds.refl _
  | some client =>
      obtain ⟨counted, ran, counts⟩ := run_count surroundings.ping found
      have told : Quiet (if client.ackCount + 1 = 0 then
          .fail (.panic "divide by zero error when dividing duration by scalar")
        else if numAcksForSpeedTest < client.ackCount + 1 then welcomeClient surroundings src
        else sendPacket src Msg.serverToClientAck buildServerToClientAckPacket) := by
        split
        · exact quiet_fail _
        · split
          · exact quiet_welcomeClient surroundings src
          · exact quiet_sendPacket src _ _
      have settled : ((handleClientToServerAck surroundings src).run state.lobby).2.hall =
          counted.hall := by
        rw [handleClientToServerAck, Task.run_bind_ok ran]
        exact told.hall counted
      rw [settled]
      refine ⟨counts.hall, ?_⟩
      change counted.tx.filterMap _ = state.lobby.tx.filterMap _
      rw [counts.tx]

/-! ## The dispatch -/

theorem obeys_dispatch {condition : Prop} [Decidable condition] {handled next : Service Unit}
    {request rest : Option Request} (here : condition → Obeys config src handled request)
    (later : ¬condition → Obeys config src next rest) :
    Obeys config src (if condition then handled else next) (if condition then request else rest) := by
  by_cases holds : condition
  · rw [if_pos holds, if_pos holds]
    exact here holds
  · rw [if_neg holds, if_neg holds]
    exact later holds

/-- A message other than a login does what its request asks for. -/
theorem obeys_handleMessage (reading : Reading) {message : ParsedMessage}
    (inside : message.messageType ≠ Msg.userLogin) :
    Obeys config src (handleMessage config reading src message)
      (requestOf message.messageType message.data) := by
  unfold handleMessage requestOf
  refine obeys_dispatch (fun _ => obeys_request (.userQuit _)) fun _ => ?_
  refine obeys_dispatch (fun login => absurd login inside) fun _ => ?_
  refine obeys_dispatch (fun _ => obeys_ack _) fun _ => ?_
  refine obeys_dispatch (fun _ => obeys_quiet (quiet_handleGlobalChat _ _)) fun _ => ?_
  refine obeys_dispatch (fun _ => obeys_quiet (quiet_handleGameChat _ _)) fun _ => ?_
  refine obeys_dispatch (fun _ => obeys_quiet (quiet_pure ())) fun _ => ?_
  refine obeys_dispatch (fun _ => obeys_request (.createGame _)) fun _ => ?_
  refine obeys_dispatch (fun _ => obeys_request (.quitGame message.data)) fun _ => ?_
  refine obeys_dispatch (fun _ => obeys_request (.joinGame _)) fun _ => ?_
  refine obeys_dispatch (fun _ => obeys_request (.kickUser _)) fun _ => ?_
  refine obeys_dispatch (fun _ => obeys_request (.startGame _)) fun _ => ?_
  refine obeys_dispatch (fun _ => obeys_request (.gameData _)) fun _ => ?_
  refine obeys_dispatch (fun _ => obeys_request (.gameCache _)) fun _ => ?_
  refine obeys_dispatch (fun _ => obeys_request (.dropGame message.data)) fun _ => ?_
  refine obeys_dispatch (fun _ => obeys_request (.readyToPlay _)) fun _ => ?_
  exact fun state => Heeds.refl _

/-! ## Logins -/

/-- An address has its client from now on, if any; nothing else changes. -/
structure Enrols (src : SocketAddr) (before after : Hall) : Prop where
  room : after.room = before.room
  deliveries : after.deliveries = before.deliveries
  others : ∀ addr, addr ≠ src → after.member addr = before.member addr
  lan : ∀ member, after.member src = some member → member.connType = 1

theorem Enrols.refl {hall : Hall} {late : UInt32 → SocketAddr → Prop} (sound : hall.Sound late) :
    Enrols src hall hall :=
  ⟨rfl, rfl, fun _ _ => rfl, sound.lan src⟩

/-- Who is in no room does not stand in a game after logging in. -/
theorem Enrols.sound {before after : Hall} {late : UInt32 → SocketAddr → Prop}
    (enrols : Enrols src before after) (sound : before.Sound late)
    (outside : ∀ gameId game, before.room gameId = some game →
      ∀ player ∈ game.players, player.addr ≠ src) : after.Sound late where
  rooms := by
    rw [enrols.room]
    exact sound.rooms
  seated := by
    intro gameId game here player listed
    rw [enrols.room] at here
    have same := enrols.others player.addr (outside gameId game here player listed)
    rw [Hall.gameOf, same]
    exact sound.seated gameId game here player listed
  lan := by
    intro addr member here
    by_cases same : addr = src
    · exact enrols.lan member (same ▸ here)
    · rw [enrols.others addr same] at here
      exact sound.lan addr member here

/-- A live game goes on while somebody logs in who is in no room. -/
theorem Enrols.goesOn {before after : Hall} {gameId : UInt32} {addrs : List SocketAddr}
    {sync : SyncManager} (enrols : Enrols src before after) (runs : before.Runs gameId addrs sync)
    (outside : ∀ gameId game, before.room gameId = some game →
      ∀ player ∈ game.players, player.addr ≠ src) :
    Hall.GoesOn gameId addrs sync before after [] := by
  obtain ⟨game, here, rfl, running⟩ := runs
  refine ⟨⟨game, (congrFun enrols.room gameId).trans here, rfl, running⟩, fun addr listed => ?_,
    fun _ => ?_⟩
  · obtain ⟨player, seat, rfl⟩ := List.mem_map.mp listed
    rw [enrols.others player.addr (outside gameId game here player seat)]
    exact id
  · rw [Hall.stream, enrols.deliveries]
    exact (List.append_nil _).symm

theorem enrols_enrol {username emulatorName : Bytes} {connType : UInt8} (lan : connType = 1)
    (now : Nat) {state : ServerState} (sound : state.lobby.hall.Sound Hall.nobody) :
    Enrols src state.lobby.hall
      ((enrol src username emulatorName connType now).run state).2.lobby.hall := by
  let drawn : ServerState := { state with nextUserId := state.nextUserId + 1 }
  let client : ClientInfo :=
    .login username emulatorName connType state.nextUserId state.nextSessionId
  have taken : takeNextUserId.run state = (.ok state.nextUserId, drawn) := rfl
  have told : ((enrol src username emulatorName connType now).run state).2.lobby.hall =
      (drawn.enrol src username emulatorName connType state.nextUserId now).lobby.hall := by
    rw [enrol, Task.run_bind_ok taken, Task.run_bind, Task.run_critical]
    dsimp only
    rw [run_inLobby]
    exact (quiet_sendPacket src _ _).hall _
  rw [told]
  refine ⟨rfl, rfl, fun addr different => ?_, fun member here => ?_⟩
  · rw [hall_member, hall_member]
    exact congrArg _ (state.lobby.clients.find_add_of_ne different client)
  · rw [hall_member] at here
    obtain ⟨found, known, rfl⟩ := Option.map_eq_some_iff.mp here
    change (state.lobby.clients.add src client).find src = some found at known
    by_cases unused : client.sessionId ∉ state.lobby.clients.byAddr.map Prod.snd
    · rw [state.lobby.clients.find_add unused] at known
      obtain rfl := Option.some.inj known
      exact lan
    · rw [ClientRegistry.add, dif_neg unused] at known
      exact sound.lan src _ (by rw [hall_member, known]; rfl)

theorem hall_rejectLogin (message : Bytes) (state : ServerState) :
    ((rejectLogin src message).run state).2.lobby.hall = state.lobby.hall := by
  rw [rejectLogin, run_inLobby]
  exact Quiet.hall (deaf_view.sendMessage src _) state.lobby

/-- A login under a free name adds its client, or is rejected. -/
theorem enrols_handleUserLogin (reading : LoginReading) (data : Bytes) {state : ServerState}
    (sound : state.lobby.hall.Sound Hall.nobody)
    (free : state.named reading.found ((parseLogin data).1.take 31) = none) :
    Enrols src state.lobby.hall
      ((handleUserLogin reading data src).run state).2.lobby.hall := by
  unfold handleUserLogin
  rcases parsed : parseLogin data with ⟨name, emulatorName, connType⟩
  rw [parsed] at free
  dsimp only at free ⊢
  split
  · rw [hall_rejectLogin]
    exact .refl sound
  next admitted =>
    have looked : (findClientByUsername reading.found (name.take 31)).run state =
        (.ok none, state) := by
      rw [findClientByUsername, Task.run_bind, Task.run_inspect, free]
      rfl
    rw [Task.run_bind_ok looked]
    exact enrols_enrol (not_not.mp admitted) reading.later sound

/-! ## Sessions -/

/-- Noting the time does not touch the lobby. -/
theorem run_updateClientActivity (addr : SocketAddr) (now : Nat) (state : ServerState) :
    ∃ activity, (updateClientActivity addr now).run state = (.ok (), { state with activity }) := by
  rw [updateClientActivity, Task.run_critical]
  split
  · exact ⟨state.activity, rfl⟩
  · exact ⟨_, rfl⟩

/-- A session handles one message. -/
theorem run_handlePacket (config : Config) (src : SocketAddr) (now : Nat) (reading : Reading)
    (message : ParsedMessage) (state : ServerState) :
    ∃ activity, ((handlePacket config src now [(reading, message)]).run state).2 =
      ((handleMessage config reading src message).run { state with activity }).2 := by
  obtain ⟨activity, ran⟩ := run_updateClientActivity src now state
  refine ⟨activity, ?_⟩
  rw [handlePacket, Task.run_bind_ok ran]
  have handled : ((handleMessage config reading src message).attempt.run { state with activity }) =
      (.ok _, _) := Task.run_attempt _ _
  rw [Task.run_forEach_cons (Task.run_bind_ok handled)]
  rfl

/-- What a message does to the hall. -/
def Acts (config : Config) (src : SocketAddr) (message : ParsedMessage) (before after : Hall) :
    Prop :=
  if message.messageType = Msg.userLogin then Enrols src before after
  else Heeds config src before after (requestOf message.messageType message.data)

theorem Acts.sound {message : ParsedMessage} {before after : Hall}
    (acts : Acts config src message before after) (sound : before.Sound Hall.nobody)
    (outside : message.messageType = Msg.userLogin → ∀ gameId game,
      before.room gameId = some game → ∀ player ∈ game.players, player.addr ≠ src) :
    after.Sound Hall.nobody := by
  unfold Acts at acts
  split at acts
  next login => exact acts.sound sound (outside login)
  next =>
    cases asked : requestOf message.messageType message.data with
    | none =>
        rw [asked] at acts
        exact acts.1.sound sound
    | some request =>
        rw [asked] at acts
        rw [acts]
        exact sound.handle config src request

/-- An engine which comes up with a message starts in lockstep. -/
theorem Acts.wakes {message : ParsedMessage} {before after : Hall}
    (acts : Acts config src message before after) (sound : before.Sound Hall.nobody) :
    Hall.Wakes config before after := by
  unfold Acts at acts
  split at acts
  next => exact (Hall.Sleeps.of_room acts.room).wakes config
  next =>
    cases asked : requestOf message.messageType message.data with
    | none =>
        rw [asked] at acts
        exact (Hall.Sleeps.of_room acts.1.room).wakes config
    | some request =>
        rw [asked] at acts
        rw [acts]
        exact Hall.wakes_handle sound config src request

theorem acts_handlePacket (now : Nat) (reading : Reading) {message : ParsedMessage}
    {state : ServerState} (sound : state.lobby.hall.Sound Hall.nobody)
    (free : message.messageType = Msg.userLogin →
      state.named reading.login.found ((parseLogin message.data).1.take 31) = none) :
    Acts config src message state.lobby.hall
      ((handlePacket config src now [(reading, message)]).run state).2.lobby.hall := by
  obtain ⟨activity, ran⟩ := run_handlePacket config src now reading message state
  rw [ran, Acts]
  split
  next login =>
    have dispatched : handleMessage config reading src message =
        handleUserLogin reading.login message.data src := by
      rw [handleMessage, login]
      rfl
    rw [dispatched]
    exact @enrols_handleUserLogin src reading.login message.data { state with activity } sound
      (free login)
  next inside => exact obeys_handleMessage reading inside { state with activity }

end Direlera.Server
