import Direlera.Lobby.Statuses
import Direlera.Lobby.LobbyInvariant

/-!
# The ready signal

What a `READY_TO_PLAY` message does to the statuses, and whom it makes the server tell
that everybody is ready.
-/

namespace Direlera.Lobby

open Direlera.Library Direlera.Sync Direlera.Wire

/-! ## Datagrams -/

/-- The type of the newest message in a datagram. -/
def Message.newestType (message : Message) : Option UInt8 := message.data[5]?

/-- Those in a game whom a step told that everybody is ready. -/
def told (before after : AppState) (gameId : UInt32) : List SocketAddr :=
  ((after.tx.drop before.tx.length).filter fun message =>
    message.newestType = some Msg.readyToPlay ∧ message.recipientGame = some gameId).map Message.addr

/-- The newest message of a packet is the one which it was made for. -/
theorem newestType_makeSendPacket (client : ClientInfo) (packetType : UInt8) (data : Bytes) :
    (client.makeSendPacket packetType data).1[5]? = some packetType := by
  simp [ClientInfo.makeSendPacket, UDPPacketGenerator.makeSendPacket, makePacket, putU16Le,
    littleEndianBytes]

/-- A packet for each selected client, drawn from its generator. -/
theorem makePackets_spec {selected : ClientInfo → Bool} {packetType : UInt8} {data : Bytes}
    (unmoved : ∀ client : ClientInfo,
      selected (client.makeSendPacket packetType data).2 = selected client)
    (addrs : List SocketAddr) (registry : ClientRegistry) :
    (makePackets selected packetType data addrs registry).1.map Prod.fst =
        addrs.filter (fun addr => (registry.find addr).any selected) ∧
      ∀ packet ∈ (makePackets selected packetType data addrs registry).1,
        ∃ client : ClientInfo, packet.2 = (client.makeSendPacket packetType data).1 := by
  induction addrs generalizing registry with
  | nil => simp [makePackets]
  | cons addr rest ih =>
      rw [makePackets]
      split
      next session client here found =>
        split
        next chosen =>
          obtain ⟨addresses, drawn⟩ := ih (registry.update session fun client =>
            (client.makeSendPacket packetType data).2)
          have sameSelected : ∀ other, ((registry.update session fun client =>
              (client.makeSendPacket packetType data).2).find other).any selected =
                (registry.find other).any selected := by
            intro other
            rw [registry.find_update here]
            by_cases same : other = addr
            · subst same
              simp [found, unmoved]
            · simp [same]
          refine ⟨?_, ?_⟩
          · simp only [List.map_cons, addresses, sameSelected]
            rw [List.filter_cons_of_pos (by simpa [found] using chosen)]
          · intro packet member
            rcases List.mem_cons.mp member with rfl | later
            · exact ⟨client, rfl⟩
            · exact drawn packet later
        next passed =>
          rw [List.filter_cons_of_neg (by simpa [found] using passed)]
          exact ih registry
      next missing =>
        have absent : registry.find addr = none := by
          cases here : registry.session addr with
          | none => simp [ClientRegistry.find, here]
          | some session =>
              obtain ⟨client, found, _⟩ := registry.find_of_session here
              exact (missing session client here found).elim
        rw [List.filter_cons_of_neg (by simp [absent])]
        exact ih registry

/-- What queueing packets adds. -/
theorem run_queue (packets : List (SocketAddr × Bytes)) (state : AppState) :
    (Task.forEach packets fun packet => sendMessage none packet.1 packet.2).run state =
      (.ok (), { state with tx := state.tx ++ packets.map fun packet =>
        ⟨packet.2, packet.1, none, state.hall.gameOf packet.1⟩ }) := by
  induction packets generalizing state with
  | nil => simp [Task.forEach, Task.run]
  | cons packet rest ih =>
      have sent : (sendMessage none packet.1 packet.2).run state = (.ok (), { state with
          tx := state.tx ++ [⟨packet.2, packet.1, none, state.hall.gameOf packet.1⟩] }) := by
        rw [hall_gameOf]
        rfl
      refine (Task.run_bind_ok sent).trans ((ih _).trans ?_)
      simp only [List.map_cons, List.append_assoc, List.singleton_append]
      rfl

/-- What a broadcast queues was drawn from the generators of its recipients. -/
theorem tx_broadcast_drawn {selected : ClientInfo → Bool} {packetType : UInt8} {data : Bytes}
    (unmoved : ∀ client : ClientInfo,
      selected (client.makeSendPacket packetType data).2 = selected client)
    (addrs : List SocketAddr) (state : AppState) :
    ∃ sent, ((broadcast selected packetType data addrs).run state).2.tx = state.tx ++ sent ∧
      sent.map Message.addr = addrs.filter (fun addr => (state.clients.find addr).any selected) ∧
      ∀ message ∈ sent,
        (∃ client : ClientInfo, message.data = (client.makeSendPacket packetType data).1) ∧
          message.recipientGame = state.hall.gameOf message.addr := by
  obtain ⟨addresses, drawnFrom⟩ := makePackets_spec unmoved addrs state.clients
  let drawn : AppState := { state with
    clients := (makePackets selected packetType data addrs state.clients).2 }
  have sameHall : drawn.hall = state.hall :=
    congrArg View.hall (deaf_view.makePackets selected packetType data addrs state)
  refine ⟨_, congrArg (fun result => result.2.tx) (run_queue _ drawn), ?_, ?_⟩
  · rw [List.map_map]
    exact addresses
  · intro message member
    obtain ⟨packet, made, rfl⟩ := List.mem_map.mp member
    exact ⟨drawnFrom packet made, by rw [sameHall]⟩

/-- What a broadcast queues. -/
theorem tx_broadcast {selected : ClientInfo → Bool} {packetType : UInt8} {data : Bytes}
    (unmoved : ∀ client : ClientInfo,
      selected (client.makeSendPacket packetType data).2 = selected client)
    (addrs : List SocketAddr) (state : AppState) :
    ∃ sent, ((broadcast selected packetType data addrs).run state).2.tx = state.tx ++ sent ∧
      sent.map Message.addr = addrs.filter (fun addr => (state.clients.find addr).any selected) ∧
      ∀ message ∈ sent, message.newestType = some packetType ∧
        message.recipientGame = state.hall.gameOf message.addr := by
  obtain ⟨sent, queued, addresses, drawn⟩ := tx_broadcast_drawn unmoved addrs state
  refine ⟨sent, queued, addresses, fun message member => ?_⟩
  obtain ⟨⟨client, data⟩, recipient⟩ := drawn message member
  refine ⟨?_, recipient⟩
  rw [Message.newestType, data]
  exact newestType_makeSendPacket client packetType _

/-! ## The signal -/

/-- The game which a client is in, as the server looks it up. -/
def AppState.roomOf (state : AppState) (src : SocketAddr) : Option GameInfo :=
  (state.hall.gameOf src).bind state.games.find

/-- A signal which the server heeds: it is well-formed, and its sender is not playing. -/
def AppState.heeds (state : AppState) (src : SocketAddr) (data : Bytes) : Bool :=
  !data.isEmpty && decide (state.status src ≠ some playerStatusPlaying)

/-- Every listed player but the sender is in net sync. -/
def AppState.othersReady (state : AppState) (src : SocketAddr) (game : GameInfo) : Bool :=
  game.players.all fun player =>
    decide (player.addr = src ∨ state.status player.addr = some playerStatusNetSync)

/-- The section which marks the sender. -/
theorem run_markReady {state : AppState} {src : SocketAddr} {client : ClientInfo}
    (found : state.clients.find src = some client) :
    ∃ next, (updateClient src fun client =>
        if client.playerStatus = playerStatusPlaying then (true, client)
        else (false, { client with playerStatus := playerStatusNetSync })).run state =
          (.ok (decide (client.playerStatus = playerStatusPlaying)), next) ∧
      next.hall = state.hall ∧ next.games = state.games ∧ next.tx = state.tx ∧
      next.status = if client.playerStatus = playerStatusPlaying then state.status
        else assign [src] playerStatusNetSync state.status := by
  obtain ⟨session, here, known⟩ := state.clients.session_of_find found
  let change : ClientInfo → Bool × ClientInfo := fun client =>
    if client.playerStatus = playerStatusPlaying then (true, client)
    else (false, { client with playerStatus := playerStatusNetSync })
  let next : AppState := { state with
    clients := state.clients.update session fun client => (change client).2
    handed := state.handed ++ [] }
  have ran : (updateClient src change).run state = (.ok (change client).1, next) := by
    rw [updateClient, updateClientLogging, Task.run_bind, Task.run_inspect, here]
    simp only [Task.run_critical, known]
    rfl
  have quiet : Quiet (updateClient src change) := quiet_updateClient src fun client => by
    dsimp only [change]
    split <;> rfl
  have sameHall := quiet.hall state
  have status := status_update here fun client => (change client).2
  rw [ran] at sameHall
  refine ⟨next, ?_, sameHall, rfl, rfl, ?_⟩
  · refine ran.trans ?_
    by_cases playing : client.playerStatus = playerStatusPlaying
    · simp [change, playing]
    · simp [change, playing]
  · refine Eq.trans status ?_
    ext1 other
    by_cases playing : client.playerStatus = playerStatusPlaying
    · by_cases same : other = src
      · subst same
        simp [change, playing, found, AppState.status]
      · simp [playing, same]
    · by_cases same : other = src
      · subst same
        simp [change, playing, found, AppState.status, assign]
      · simp [playing, same, assign]

theorem keeps_tx_withClientMut (addr : SocketAddr) (change : ClientInfo → ClientInfo) :
    Keeps AppState.tx (withClientMut addr change) := by
  apply Task.Each.bind (keeps_inspect _)
  rintro (_ | session)
  · exact keeps_fail _
  apply Task.each_critical
  intro state
  cases state.clients.byId session with
  | none => rfl
  | some client => rfl

/-- Setting the statuses of all players, registered or not. -/
theorem run_attemptAll (players : List GamePlayerInfo) (status : UInt8) (state : AppState) :
    ∃ next, (Task.forEach players fun player => do
        let _ ← (withClientMut player.addr fun client =>
          { client with playerStatus := status }).attempt).run state = (.ok (), next) ∧
      next.hall = state.hall ∧ next.tx = state.tx ∧
      next.status = assign (players.map GamePlayerInfo.addr) status state.status := by
  induction players generalizing state with
  | nil => exact ⟨state, rfl, rfl, rfl, rfl⟩
  | cons player rest ih =>
      let set : Handler Unit := withClientMut player.addr fun client =>
        { client with playerStatus := status }
      have ran : (set.attempt >>= fun _ => pure () : Handler Unit).run state =
          (.ok (), (set.run state).2) := by
        rw [Task.run_bind, Task.run_attempt]
        rfl
      obtain ⟨last, later, hall, tx, statuses⟩ := ih (set.run state).2
      refine ⟨last, (Task.run_bind_ok ran).trans later, ?_, ?_, ?_⟩
      · exact hall.trans ((quiet_status player.addr status).hall state)
      · exact tx.trans ((keeps_tx_withClientMut player.addr _).keeps state)
      · rw [statuses, status_setOne, assign_cons, List.map_cons]

/-- The check of the barrier, after the sender was marked. -/
theorem allReady_marked {state next : AppState} {src : SocketAddr}
    (registered : (state.status src).isSome = true)
    (marked : next.status = assign [src] playerStatusNetSync state.status) (game : GameInfo) :
    (game.players.all fun player => (next.clients.find player.addr).any fun client =>
      client.playerStatus == playerStatusNetSync) = state.othersReady src game := by
  apply List.all_congr rfl
  intro player
  have read : ((next.clients.find player.addr).any fun client =>
      client.playerStatus == playerStatusNetSync) =
        decide (next.status player.addr = some playerStatusNetSync) := by
    cases known : next.clients.find player.addr with
    | none => simp [AppState.status, known]
    | some client => simp [AppState.status, known, Bool.beq_eq_decide_eq]
  rw [read, marked]
  by_cases same : player.addr = src
  · obtain ⟨status, known⟩ := Option.isSome_iff_exists.mp registered
    simp [assign, same, known]
  · simp [assign, same]

/-- A step of the server which queues datagrams without a ready notification tells nobody. -/
theorem told_of_append {before after : AppState} {sent : List Message}
    (queued : after.tx = before.tx ++ sent) (gameId : UInt32) :
    told before after gameId = (sent.filter fun message => message.newestType = some Msg.readyToPlay ∧
      message.recipientGame = some gameId).map Message.addr := by
  rw [told, queued, List.drop_left]

/-- What a ready signal of a client in a room does. -/
theorem ready_in_room {state : AppState} {src : SocketAddr} {gameId : UInt32} {game : GameInfo}
    (inGame : state.hall.gameOf src = some gameId) (opened : state.games.find gameId = some game)
    (named : game.gameId = gameId) {data : Bytes} (heeded : state.heeds src data = true) :
    let after := ((handleReadyToPlaySignal data src).run state).2
    after.status = (if state.othersReady src game then
        assign (game.players.map GamePlayerInfo.addr) playerStatusPlaying
          (assign [src] playerStatusNetSync state.status)
      else assign [src] playerStatusNetSync state.status) ∧
    ∀ other, told state after other = if state.othersReady src game = true ∧ other = gameId then
        (game.players.map GamePlayerInfo.addr).filter fun addr =>
          state.hall.gameOf addr = some gameId
      else [] := by
  obtain ⟨client, found, playing⟩ : ∃ client, state.clients.find src = some client ∧
      client.gameId = some gameId := by
    rw [hall_gameOf] at inGame
    exact Option.bind_eq_some_iff.mp inGame
  have registered : state.status src = some client.playerStatus := by simp [AppState.status, found]
  obtain ⟨wellFormed, notPlaying⟩ : data.isEmpty = false ∧
      client.playerStatus ≠ playerStatusPlaying := by
    simpa [AppState.heeds, registered] using heeded
  obtain ⟨marked, ran, hall, games, tx, statuses⟩ := run_markReady found
  rw [if_neg notPlaying] at statuses
  have foundMarked : ∃ client, marked.clients.find src = some client ∧
      client.gameId = some gameId := by
    rw [← hall, hall_gameOf] at inGame
    exact Option.bind_eq_some_iff.mp inGame
  obtain ⟨clientMarked, foundMarked, playingMarked⟩ := foundMarked
  have openedMarked : marked.games.find gameId = some game := games ▸ opened
  obtain ⟨announced, announce, sameHall⟩ :=
    run_broadcastPacket Msg.updateGameStatus (makeUpdateGameStatus game) marked
  have sameStatus := value_of_run (deaf_status.broadcastPacket _ _) announce
  obtain ⟨first, queued, _, types⟩ := @tx_broadcast
    (fun client => decide (numAcksForSpeedTest < client.ackCount)) Msg.updateGameStatus
    (makeUpdateGameStatus game) (fun _ => rfl) (marked.clients.byAddr.map Prod.fst) marked
  have queuedHere : announced.tx = state.tx ++ first := by
    rw [← tx, ← queued]
    exact congrArg (fun result => result.2.tx) announce.symm
  have checked := allReady_marked (Option.isSome_of_eq_some registered)
    (sameStatus.trans statuses) game
  have silent : ∀ other, (first.filter fun message =>
      message.newestType = some Msg.readyToPlay ∧ message.recipientGame = some other) = [] := by
    intro other
    refine List.filter_eq_nil_iff.mpr fun message member => ?_
    simp [(types message member).1, Msg.updateGameStatus, Msg.readyToPlay]
  dsimp only
  rw [handleReadyToPlaySignal, if_neg (by simp [wellFormed]), Task.run_bind_ok ran]
  simp only [notPlaying, decide_false, Bool.false_eq_true, if_false]
  rw [Task.run_bind_ok (run_fetchGameInfo foundMarked playingMarked openedMarked),
    Task.run_bind_ok announce, Task.run_bind, Task.run_inspect]
  simp only [checked]
  split
  next ready =>
    obtain ⟨playing, started, playingHall, playingTx, playingStatus⟩ :=
      run_attemptAll game.players playerStatusPlaying announced
    have hallHere : playing.hall = state.hall := playingHall.trans (sameHall.trans hall)
    have openedHere : playing.games.find gameId = some game :=
      (congrFun (congrArg Hall.room hallHere) gameId).trans opened
    have notified : (broadcastPacketToGame game.gameId Msg.readyToPlay buildReadyToPlayPacket).run
        playing = (broadcast (fun client => decide (client.gameId = some gameId)) Msg.readyToPlay
          buildReadyToPlayPacket (game.players.map GamePlayerInfo.addr)).run playing := by
      rw [broadcastPacketToGame, named, Task.run_bind, run_getGame, openedHere]
    obtain ⟨second, notification, addresses, newest⟩ := @tx_broadcast
      (fun client => decide (client.gameId = some gameId)) Msg.readyToPlay buildReadyToPlayPacket
      (fun _ => rfl) (game.players.map GamePlayerInfo.addr) playing
    have recipients : (game.players.map GamePlayerInfo.addr).filter (fun addr =>
        (playing.clients.find addr).any fun client => decide (client.gameId = some gameId)) =
          (game.players.map GamePlayerInfo.addr).filter fun addr =>
            state.hall.gameOf addr = some gameId := by
      refine List.filter_congr fun addr _ => ?_
      rw [← hallHere, hall_gameOf]
      cases playing.clients.find addr <;> simp
    have newestHere : ∀ message ∈ second, message.newestType = some Msg.readyToPlay ∧
        message.recipientGame = some gameId := by
      intro message member
      have listed : message.addr ∈ (game.players.map GamePlayerInfo.addr).filter fun addr =>
          state.hall.gameOf addr = some gameId := by
        rw [← recipients, ← addresses]
        exact List.mem_map_of_mem member
      obtain ⟨type, recipient⟩ := newest message member
      rw [hallHere] at recipient
      exact ⟨type, recipient.trans (of_decide_eq_true (List.mem_filter.mp listed).2)⟩
    rw [Task.run_bind_ok started, notified]
    constructor
    · refine ((deaf_status.broadcast _ _ _ _).keeps playing).trans ?_
      rw [playingStatus, sameStatus, statuses]
    · intro other
      have queuedBoth : ((broadcast (fun client => decide (client.gameId = some gameId))
          Msg.readyToPlay buildReadyToPlayPacket
          (game.players.map GamePlayerInfo.addr)).run playing).2.tx =
            state.tx ++ (first ++ second) := by
        rw [notification, playingTx, queuedHere, List.append_assoc]
      rw [told_of_append queuedBoth, List.filter_append, silent, List.nil_append]
      split
      next here =>
        obtain rfl := here.2
        rw [List.filter_eq_self.mpr fun message member => by simp [newestHere message member],
          addresses, recipients]
      next elsewhere =>
        have different : other ≠ gameId := fun same => elsewhere ⟨ready, same⟩
        rw [List.filter_eq_nil_iff.mpr fun message member => by
          simp [newestHere message member, different.symm], List.map_nil]
  next waits =>
    refine ⟨sameStatus.trans statuses, fun other => ?_⟩
    rw [if_neg fun ready => waits ready.1]
    exact (told_of_append queuedHere other).trans (by rw [silent, List.map_nil])

/-- A step which queues nothing tells nobody. -/
theorem told_of_same {before after : AppState} (same : after.tx = before.tx) (gameId : UInt32) :
    told before after gameId = [] := by
  exact told_of_append (same.trans (List.append_nil _).symm) gameId

/-- A signal which the server does not heed has no effect. -/
theorem ready_ignored {state : AppState} {src : SocketAddr} {data : Bytes}
    (ignored : state.heeds src data = false) :
    let after := ((handleReadyToPlaySignal data src).run state).2
    after.status = state.status ∧ ∀ gameId, told state after gameId = [] := by
  dsimp only
  cases empty : data.isEmpty with
  | true =>
      rw [handleReadyToPlaySignal, if_pos empty]
      exact ⟨rfl, told_of_same rfl⟩
  | false =>
      have playing : state.status src = some playerStatusPlaying := by
        simpa [AppState.heeds, empty] using ignored
      obtain ⟨client, found, status⟩ := Option.map_eq_some_iff.mp playing
      obtain ⟨next, ran, _, _, tx, statuses⟩ := run_markReady found
      rw [if_pos status] at statuses
      rw [handleReadyToPlaySignal, if_neg (by simp [empty]), Task.run_bind_ok ran]
      simp only [status, decide_true, if_true]
      exact ⟨statuses, told_of_same tx⟩

/-- A signal from outside every room only marks its sender. -/
theorem ready_outside {state : AppState} {src : SocketAddr} {data : Bytes}
    (heeded : state.heeds src data = true) (outside : state.roomOf src = none) :
    let after := ((handleReadyToPlaySignal data src).run state).2
    after.status = assign [src] playerStatusNetSync state.status ∧
      ∀ gameId, told state after gameId = [] := by
  dsimp only
  have wellFormed : data.isEmpty = false := by
    rw [AppState.heeds, Bool.and_eq_true] at heeded
    simpa using heeded.1
  rw [handleReadyToPlaySignal, if_neg (by simp [wellFormed])]
  cases found : state.clients.find src with
  | none =>
      obtain ⟨report, failed⟩ := run_updateClient_missing found [] fun client =>
        if client.playerStatus = playerStatusPlaying then (true, client)
        else (false, { client with playerStatus := playerStatusNetSync })
      have failedHere : (updateClient src fun client =>
        if client.playerStatus = playerStatusPlaying then (true, client)
        else (false, { client with playerStatus := playerStatusNetSync })).run state =
          (.error report, state) := failed
      rw [Task.run_bind_error failedHere]
      refine ⟨?_, told_of_same rfl⟩
      ext1 addr
      by_cases same : addr = src
      · simp [assign, same, AppState.status, found]
      · simp [assign, same]
  | some client =>
      have notPlaying : client.playerStatus ≠ playerStatusPlaying := by
        simpa [AppState.heeds, wellFormed, AppState.status, found] using heeded
      obtain ⟨next, ran, hall, games, tx, statuses⟩ := run_markReady found
      rw [if_neg notPlaying] at statuses
      rw [Task.run_bind_ok ran]
      simp only [notPlaying, decide_false, Bool.false_eq_true, if_false]
      have lost : ∃ report, (fetchGameInfo src).run next = (.error report, next) := by
        rw [AppState.roomOf, ← hall, ← games, hall_gameOf] at outside
        rw [fetchGameInfo, Task.run_bind, run_getClient]
        cases foundNext : next.clients.find src with
        | none => exact ⟨_, rfl⟩
        | some client =>
            dsimp only
            cases inGame : client.gameId with
            | none => exact ⟨_, rfl⟩
            | some gameId =>
                have missing : next.games.find gameId = none := by
                  simpa [foundNext, inGame] using outside
                simp only [Task.run_bind, run_getGame, missing]
                exact ⟨_, rfl⟩
      obtain ⟨report, failed⟩ := lost
      rw [Task.run_bind_error failed]
      exact ⟨statuses, told_of_same tx⟩

end Direlera.Lobby
