import Direlera.Lobby.Model

/-!
# The handlers refine the store

Run to its end, each handler changes the hall as its message says: what a section does
is read off the state it finds, and quiet announcements do not matter.
-/

namespace Direlera.Lobby

open Direlera.Library Direlera.Sync Direlera.Wire

/-! ## The hall of a state -/

@[simp] theorem hall_member (state : AppState) (addr : SocketAddr) :
    state.hall.member addr = (state.clients.find addr).map ClientInfo.toMember := by
  change (state.clients.session addr).bind state.clients.member = _
  simp only [ClientRegistry.find]
  cases state.clients.session addr <;> rfl

@[simp] theorem hall_room (state : AppState) (gameId : UInt32) :
    state.hall.room gameId = state.games.find gameId := rfl

/-- A quiet task keeps the hall. -/
theorem Quiet.hall {Result : Type} {task : Handler Result} (quiet : Quiet task)
    (state : AppState) : (task.run state).2.hall = state.hall :=
  congrArg View.hall (quiet.run state)

/-- A quiet task which follows some work does not matter. -/
theorem hall_bind_quiet {Result Next : Type} {task : Handler Result}
    {continuation : Result → Handler Next} (quiet : ∀ result, Quiet (continuation result))
    (state : AppState) : ((task >>= continuation).run state).2.hall = (task.run state).2.hall := by
  rw [Task.run_bind]
  rcases task.run state with ⟨outcome, next⟩
  cases outcome with
  | error report => rfl
  | ok result => exact (quiet result).hall next

theorem hall_attempt {Result : Type} (task : Handler Result) (state : AppState) :
    (task.attempt.run state).2.hall = (task.run state).2.hall := by
  rw [Task.run_attempt]

/-- Writing a game through its reference changes its room. -/
theorem hall_write {state : AppState} {gameId : UInt32} {ref : GameRef}
    (here : state.games.byId gameId = some ref) (game : GameInfo) :
    ({ state with games := state.games.write ref game } : AppState).hall =
      state.hall.setRoom gameId (some game) := by
  apply Hall.ext
  · rfl
  · rfl
  · exact state.games.find_write here game
  · rfl
  · rfl

theorem hall_insert (state : AppState) (gameId : UInt32) (game : GameInfo) :
    ({ state with games := state.games.insert gameId game } : AppState).hall =
      state.hall.setRoom gameId (some game) := by
  apply Hall.ext
  · rfl
  · rfl
  · exact state.games.find_insert gameId game
  · rfl
  · rfl

theorem hall_remove (state : AppState) (gameId : UInt32) :
    ({ state with games := state.games.remove gameId } : AppState).hall =
      state.hall.setRoom gameId none := by
  apply Hall.ext
  · rfl
  · rfl
  · exact state.games.find_remove gameId
  · rfl
  · rfl

/-- Changing a client changes the member behind its address. -/
theorem hall_update {state : AppState} {addr : SocketAddr} {session : SessionId}
    (here : state.clients.session addr = some session) (change : ClientInfo → ClientInfo)
    (member : Member → Member) (changes : ∀ client, (change client).toMember = member client.toMember) :
    ({ state with clients := state.clients.update session change } : AppState).hall =
      { state.hall with
        member := Function.update state.hall.member addr ((state.hall.member addr).map member) } := by
  apply Hall.ext
  · rfl
  · ext1 other
    rw [hall_member, state.clients.find_update here]
    by_cases same : other = addr
    · subst same
      simp [Function.comp_def, changes]
    · simp [same]
  · rfl
  · rfl
  · rfl

/-! ## Single sections -/

@[simp] theorem run_getClient (addr : SocketAddr) (state : AppState) :
    (getClient addr).run state = (.ok (state.clients.find addr), state) := rfl

@[simp] theorem run_getGameArc (gameId : UInt32) (state : AppState) :
    (getGameArc gameId).run state = (.ok (state.games.byId gameId), state) := rfl

@[simp] theorem run_getGame (gameId : UInt32) (state : AppState) :
    (getGame gameId).run state = (.ok (state.games.find gameId), state) := by
  rw [getGame, Task.run_bind, run_getGameArc]
  cases found : state.games.byId gameId with
  | none => simp [GameTable.find, found]
  | some ref =>
      simp only [GameTable.find, found, Option.map_some]
      rfl

/-- A registered client is put into a game. -/
theorem run_setGame {state : AppState} {addr : SocketAddr} {client : ClientInfo}
    (found : state.clients.find addr = some client) {change : ClientInfo → ClientInfo}
    {gameId : Option UInt32}
    (sets : ∀ client, (change client).toMember = { client.toMember with gameId }) :
    ∃ next, (withClientMut addr change).run state = (.ok (), next) ∧
      next.hall = state.hall.setGame addr gameId ∧ next.games = state.games := by
  obtain ⟨session, here, known⟩ := state.clients.session_of_find found
  refine ⟨{ state with
    clients := state.clients.update session change, handed := state.handed ++ [] }, ?_, ?_, rfl⟩
  · rw [withClientMut, updateClient, updateClientLogging, Task.run_bind, Task.run_inspect, here]
    simp only [Task.run_critical, known]
  · exact hall_update here change (fun member => { member with gameId }) sets

/-- The game of a registered client is changed. -/
theorem run_withGameMut {state : AppState} {addr : SocketAddr} {client : ClientInfo}
    (found : state.clients.find addr = some client) {gameId : UInt32}
    (inGame : client.gameId = some gameId) {game : GameInfo}
    (open_ : state.games.find gameId = some game) (change : GameInfo → GameInfo) :
    ∃ next, (withGameMut addr change).run state = (.ok (), next) ∧
      next.hall = state.hall.setRoom gameId (some (change game)) ∧
      next.clients = state.clients := by
  obtain ⟨ref, here, rfl⟩ := Option.map_eq_some_iff.mp open_
  refine ⟨{ state with games := state.games.write ref (change (state.games.arena ref)) }, ?_,
    hall_write here _, rfl⟩
  rw [withGameMut, Task.run_bind, run_getClient, found]
  simp only [inGame, Task.run_bind, run_getGameArc, here]
  rfl

/-! ## Creating and joining -/

/-- Only the last game a member was put into matters. -/
theorem Hall.setGame_setGame (hall : Hall) (addr : SocketAddr) (first second : Option UInt32) :
    (hall.setGame addr first).setGame addr second = hall.setGame addr second := by
  apply Hall.ext
  · rfl
  · ext1 other
    by_cases same : other = addr
    · subst same
      simp only [Hall.setGame, Function.update_self, Option.map_map]
      rfl
    · simp [Hall.setGame, same]
  · rfl
  · rfl
  · rfl

/-- The opening check clears at most the game of the client. -/
theorem run_checkAlreadyInGame (src : SocketAddr) (state : AppState) :
    ∃ next, (checkAlreadyInGame src).run state = (.ok (state.hall.listed src), next) ∧
      (state.hall.listed src = true ∨ state.clients.find src = none → next = state) ∧
      ∀ gameId, next.hall.setGame src gameId = state.hall.setGame src gameId := by
  rw [checkAlreadyInGame, Task.run_bind, run_getClient]
  cases found : state.clients.find src with
  | none => exact ⟨state, by simp [Hall.listed, found], fun _ => rfl, fun _ => rfl⟩
  | some client =>
      cases inGame : client.gameId with
      | none => exact ⟨state, by simp [Hall.listed, found, inGame], fun _ => rfl, fun _ => rfl⟩
      | some gameId =>
          simp only [inGame, Task.run_bind, run_getGame]
          have sameListed : state.hall.listed src =
              (state.games.find gameId).any fun game => game.lists src := by
            simp [Hall.listed, found, inGame]
          rw [sameListed]
          by_cases lists : ((state.games.find gameId).any fun game => game.lists src) = true
          · simp only [lists, if_true]
            exact ⟨state, rfl, fun _ => rfl, fun _ => rfl⟩
          · have sets : ∀ client : ClientInfo,
                ({ client with gameId := none } : ClientInfo).toMember =
                  { client.toMember with gameId := none } := fun _ => rfl
            obtain ⟨next, cleared, cleaned, _⟩ := run_setGame found sets
            simp only [lists, if_false, Bool.false_eq_true, Task.run_bind, cleared]
            refine ⟨next, rfl, by simp, fun gameId => ?_⟩
            rw [cleaned, Hall.setGame_setGame]

/-- Creating a game. -/
theorem hall_handleCreateGame (data : Bytes) (src : SocketAddr) (state : AppState) :
    ((handleCreateGame data src).run state).2.hall =
      state.hall.create (parseCreateGame data) src := by
  obtain ⟨next, checked, unchanged, cleaned⟩ := run_checkAlreadyInGame src state
  rw [handleCreateGame, Task.run_bind_ok checked, Hall.create]
  by_cases listed : state.hall.listed src = true
  · simp only [listed, if_true]
    rw [unchanged (.inl listed)]
    rfl
  · simp only [listed, if_false, Bool.false_eq_true]
    have sameNext : next.nextGameId = state.nextGameId := congrArg Hall.nextGameId (cleaned none)
    have drawn : (takeNextGameId).run next =
        (.ok next.nextGameId, { next with nextGameId := next.nextGameId + 1 }) := rfl
    rw [Task.run_bind_ok drawn, sameNext]
    have sameMember := congrFun (congrArg Hall.member (cleaned none)) src
    simp only [Hall.setGame, Function.update_self, hall_member, Option.map_map] at sameMember
    cases found : state.clients.find src with
    | none =>
        have same := unchanged (.inr found)
        subst same
        have missing : (fetchClientInfo src).run { next with nextGameId := next.nextGameId + 1 } =
            (.error (.message "Client not found: addr"),
              { next with nextGameId := next.nextGameId + 1 }) := by
          rw [fetchClientInfo, Task.run_bind, run_getClient, found]
          rfl
        rw [Task.run_bind_error missing]
        simp [found]
        rfl
    | some client =>
        rw [found] at sameMember
        obtain ⟨here, foundHere, sameInfo⟩ := Option.map_eq_some_iff.mp sameMember
        have fetched : (fetchClientInfo src).run { next with nextGameId := state.nextGameId + 1 } =
            (.ok here, { next with nextGameId := state.nextGameId + 1 }) := by
          rw [fetchClientInfo, Task.run_bind, run_getClient, foundHere]
          rfl
        rw [Task.run_bind_ok fetched]
        have sameGame := congrArg (createdGame state.nextGameId (parseCreateGame data) src) sameInfo
        change createdGame _ _ src here.toMember = createdGame _ _ src client.toMember at sameGame
        let opened : AppState := { next with
          nextGameId := state.nextGameId + 1
          games := next.games.insert state.nextGameId
            (createdGame state.nextGameId (parseCreateGame data) src here.toMember) }
        have added : (addGame state.nextGameId (createdGame state.nextGameId (parseCreateGame data) src
            here.toMember)).run { next with nextGameId := state.nextGameId + 1 } =
              (.ok (), opened) := rfl
        rw [Task.run_bind_ok added]
        have sets : ∀ client : ClientInfo,
            ({ client with gameId := some state.nextGameId } : ClientInfo).toMember =
              { client.toMember with gameId := some state.nextGameId } := fun _ => rfl
        have foundOpened : opened.clients.find src = some here := foundHere
        obtain ⟨last, entered, hall, _⟩ := run_setGame foundOpened sets
        rw [Task.run_bind_ok entered, (quiet_announceCreatedGame _ _ _ _).hall, hall,
          hall_insert { next with nextGameId := state.nextGameId + 1 }, hall_member, found, sameGame]
        have same := cleaned (some state.nextGameId)
        exact congrArg (fun hall : Hall => ({ hall with nextGameId := state.nextGameId + 1 } : Hall).setRoom
          state.nextGameId (some (createdGame state.nextGameId (parseCreateGame data) src
            client.toMember))) same

/-- A member which was put into a game is found there. -/
theorem find_of_setGame {state next : AppState} {src : SocketAddr} {client : ClientInfo}
    {gameId : Option UInt32} (found : state.clients.find src = some client)
    (hall : next.hall = state.hall.setGame src gameId) :
    ∃ here, next.clients.find src = some here ∧ here.toMember = { client.toMember with gameId } := by
  have sameMember := congrFun (congrArg Hall.member hall) src
  rw [hall_member] at sameMember
  simp only [Hall.setGame, Function.update_self, hall_member, found, Option.map_some] at sameMember
  exact Option.map_eq_some_iff.mp sameMember

/-- Joining a game. -/
theorem hall_handleJoinGame (data : Bytes) (src : SocketAddr) (state : AppState) :
    ((handleJoinGame data src).run state).2.hall =
      match parseJoinGame data with
      | some gameId => state.hall.join gameId src
      | none => state.hall := by
  unfold handleJoinGame
  cases parseJoinGame data with
  | none => rfl
  | some gameId =>
      simp only [Task.run_bind, run_getClient]
      cases found : state.clients.find src with
      | none => simp [Hall.join, found]
      | some client =>
          simp only [Hall.join, hall_member, found, Option.map_some, hall_room]
          cases free : client.gameId with
          | some other => cases state.games.find gameId <;> simp [free]
          | none =>
              simp only [Option.isSome_none, Bool.false_eq_true, if_false, Task.run_bind, run_getGame]
              cases opened : state.games.find gameId with
              | none => rfl
              | some game =>
                  by_cases joinable : game.joinable = true
                  · simp only [joinable, if_true]
                    have sets : ∀ client : ClientInfo,
                        ({ client with gameId := some gameId } : ClientInfo).toMember =
                          { client.toMember with gameId := some gameId } := fun _ => rfl
                    obtain ⟨next, entered, hall, games⟩ := run_setGame found sets
                    obtain ⟨here, foundHere, sameInfo⟩ := find_of_setGame found hall
                    have inGame : here.gameId = some gameId := congrArg Member.gameId sameInfo
                    rw [← games] at opened
                    obtain ⟨last, seated, room, _⟩ := run_withGameMut foundHere inGame opened
                      fun game => game.seat ⟨src, client.username, client.userId, client.connType, false⟩
                    rw [Task.run_bind_ok entered, Task.run_bind_ok seated,
                      (quiet_announceJoinedGame _ _).hall, room, hall, if_pos ⟨free, trivial⟩]
                  · simp [joinable]

/-! ## Sending -/

theorem run_updateClient {Result : Type} {state : AppState} {addr : SocketAddr} {client : ClientInfo}
    (found : state.clients.find addr = some client) (change : ClientInfo → Result × ClientInfo) :
    ∃ result next, (updateClient addr change).run state = (.ok result, next) := by
  obtain ⟨session, here, known⟩ := state.clients.session_of_find found
  refine ⟨(change client).1, { state with
    clients := state.clients.update session fun client => (change client).2
    handed := state.handed ++ [] }, ?_⟩
  rw [updateClient, updateClientLogging, Task.run_bind, Task.run_inspect, here]
  simp only [Task.run_critical, known]

theorem run_updateClient_missing {Result : Type} {state : AppState} {addr : SocketAddr}
    (missing : state.clients.find addr = none) (handed : List TargetOutput)
    (change : ClientInfo → Result × ClientInfo) :
    ∃ report, (updateClientLogging handed addr change).run state = (.error report, state) := by
  rw [updateClientLogging, Task.run_bind, Task.run_inspect]
  cases here : state.clients.session addr with
  | none => exact ⟨_, rfl⟩
  | some session =>
      obtain ⟨client, found, _⟩ := state.clients.find_of_session here
      rw [missing] at found
      exact absurd found (by simp)

/-- Queueing datagrams always succeeds. -/
theorem run_sendMessages (packets : List (SocketAddr × Bytes)) (state : AppState) :
    ∃ next, (Task.forEach packets fun packet => sendMessage none packet.1 packet.2).run state =
      (.ok (), next) := by
  induction packets generalizing state with
  | nil => exact ⟨state, rfl⟩
  | cons packet rest ih => exact ih _

theorem run_broadcast (selected : ClientInfo → Bool) (packetType : UInt8) (data : Bytes)
    (addrs : List SocketAddr) (state : AppState) :
    ∃ next, (broadcast selected packetType data addrs).run state = (.ok (), next) := by
  rw [broadcast, Task.run_bind]
  exact run_sendMessages _ _

/-- A broadcast to the lobby always succeeds. -/
theorem run_broadcastPacket (packetType : UInt8) (data : Bytes) (state : AppState) :
    ∃ next, (broadcastPacket packetType data).run state = (.ok (), next) ∧
      next.hall = state.hall := by
  obtain ⟨next, ran⟩ : ∃ next, (broadcastPacket packetType data).run state = (.ok (), next) :=
    run_broadcast _ packetType data _ state
  refine ⟨next, ran, ?_⟩
  have same := (quiet_broadcastPacket packetType data).hall state
  rwa [ran] at same

/-- A broadcast to a room succeeds while the room exists. -/
theorem run_broadcastPacketToGame {gameId : UInt32} {game : GameInfo} {state : AppState}
    (opened : state.games.find gameId = some game) (packetType : UInt8) (data : Bytes) :
    ∃ next, (broadcastPacketToGame gameId packetType data).run state = (.ok (), next) ∧
      next.hall = state.hall := by
  have unfolded : (broadcastPacketToGame gameId packetType data).run state =
      (broadcast (fun client => decide (client.gameId = some gameId)) packetType data
        (game.players.map GamePlayerInfo.addr)).run state := by
    rw [broadcastPacketToGame, Task.run_bind, run_getGame, opened]
  obtain ⟨next, ran⟩ := run_broadcast (fun client => decide (client.gameId = some gameId)) packetType
    data (game.players.map GamePlayerInfo.addr) state
  rw [← unfolded] at ran
  refine ⟨next, ran, ?_⟩
  have same := (quiet_broadcastPacketToGame gameId packetType data).hall state
  rwa [ran] at same

/-- Setting statuses succeeds exactly when every player is registered. -/
theorem run_setStatus (players : List GamePlayerInfo) (status : UInt8) (state : AppState) :
    ∃ next, next.hall = state.hall ∧
      if players.all fun player => (state.hall.member player.addr).isSome then
        (Task.forEach players fun player => withClientMut player.addr fun client =>
          { client with playerStatus := status }).run state = (.ok (), next)
      else ∃ report, (Task.forEach players fun player => withClientMut player.addr fun client =>
        { client with playerStatus := status }).run state = (.error report, next) := by
  induction players generalizing state with
  | nil => exact ⟨state, rfl, by simp [Task.forEach, Task.run]⟩
  | cons player rest ih =>
      cases found : state.clients.find player.addr with
      | none =>
          obtain ⟨report, failed⟩ := run_updateClient_missing found []
            fun client => ((), { client with playerStatus := status })
          refine ⟨state, rfl, ?_⟩
          simp only [List.all_cons, hall_member, found, Option.map_none, Option.isSome_none,
            Bool.false_and, Bool.false_eq_true, if_false]
          exact ⟨report, Task.run_bind_error failed⟩
      | some client =>
          obtain ⟨_, next, changed⟩ := run_updateClient found
            fun client => ((), { client with playerStatus := status })
          have same := (quiet_status player.addr status).hall state
          have changedHere : (withClientMut player.addr fun client =>
              { client with playerStatus := status }).run state = (.ok (), next) := changed
          rw [changedHere] at same
          obtain ⟨last, sameLast, rest⟩ := ih next
          refine ⟨last, sameLast.trans same, ?_⟩
          have registered : (state.hall.member player.addr).isSome = true := by simp [found]
          rw [same] at rest
          simp only [List.all_cons, registered, Bool.true_and]
          split at rest
          next all =>
            rw [if_pos all]
            exact (Task.run_bind_ok changedHere).trans rest
          next all =>
            rw [if_neg all]
            obtain ⟨report, failed⟩ := rest
            exact ⟨report, (Task.run_bind_ok changedHere).trans failed⟩

/-- Sending a response to a client delivers it to the member. -/
theorem run_sendOutput {state : AppState} {output : TargetOutput} {client : ClientInfo}
    (found : state.clients.find output.addr = some client) :
    ∃ next, (sendOutput output).run state = (.ok (), next) ∧
      next.hall = state.hall.send output client.toMember := by
  obtain ⟨session, here, known⟩ := state.clients.session_of_find found
  let packet := responsePacket output.frame.response
  let change : ClientInfo → ClientInfo := fun client =>
    (client.makeSendPacket packet.1 packet.2).2
  let logged : AppState := { state with
    clients := state.clients.update session change
    handed := state.handed ++ [output] }
  have updated : (updateClientLogging [output] output.addr fun client =>
      client.makeSendPacket packet.1 packet.2).run state =
        (.ok (client.makeSendPacket packet.1 packet.2).1, logged) := by
    rw [updateClientLogging, Task.run_bind, Task.run_inspect, here]
    simp only [Task.run_critical, known]
    rfl
  have sameMembers : ∀ client, (change client).toMember = id client.toMember := fun _ => rfl
  have hall : logged.hall = state.hall := by
    have updatedHall := hall_update here change id sameMembers
    refine Eq.trans updatedHall ?_
    simp only [Option.map_id_fun, id_eq, Function.update_eq_self]
  have foundLogged : (logged.clients.find output.addr).bind (fun client => client.gameId) =
      client.gameId := by
    have member := congrFun (congrArg Hall.member hall) output.addr
    rw [hall_member, hall_member, found] at member
    obtain ⟨other, foundOther, same⟩ := Option.map_eq_some_iff.mp member
    rw [foundOther, Option.bind_some]
    exact congrArg Member.gameId same
  refine ⟨_, Task.run_bind_ok updated, ?_⟩
  rw [← hall]
  apply Hall.ext
  · rfl
  · rfl
  · rfl
  · rfl
  · change (logged.tx ++ [_]).filterMap Message.delivery = logged.tx.filterMap Message.delivery ++ [_]
    rw [List.filterMap_append, foundLogged]
    rfl

theorem run_sendOutput_missing {state : AppState} {output : TargetOutput}
    (missing : state.clients.find output.addr = none) :
    ∃ report, (sendOutput output).run state = (.error report, state) := by
  obtain ⟨report, failed⟩ := run_updateClient_missing missing [output] fun client =>
    client.makeSendPacket (responsePacket output.frame.response).1
      (responsePacket output.frame.response).2
  exact ⟨report, Task.run_bind_error failed⟩

/-- A pass which sends the response of each item delivers these responses. -/
theorem hall_forEach_deliver {Item : Type} (body : Item → Handler Unit)
    (target : Item → Option TargetOutput)
    (addressed : ∀ item output, target item = some output → body item = sendOutput output)
    (lost : ∀ item, target item = none → ∃ report, ∀ state,
      (body item).run state = (.error report, state))
    (items : List Item) (state : AppState) :
    ((Task.forEach items body).run state).2.hall = state.hall.deliver (items.map target) := by
  induction items generalizing state with
  | nil => rfl
  | cons item rest ih =>
      rw [List.map_cons]
      cases goes : target item with
      | none =>
          obtain ⟨report, failed⟩ := lost item goes
          rw [Task.run_forEach_cons_error (failed state)]
          rfl
      | some output =>
          have same := addressed item output goes
          rw [Hall.deliver, hall_member]
          cases found : state.clients.find output.addr with
          | none =>
              obtain ⟨report, failed⟩ := run_sendOutput_missing found
              rw [← same] at failed
              rw [Task.run_forEach_cons_error failed]
              rfl
          | some client =>
              obtain ⟨next, sent, hall⟩ := run_sendOutput found
              rw [← same] at sent
              rw [Task.run_forEach_cons sent, ih, hall]
              rfl

/-- Sending frames to the players by slot delivers them to these slots. -/
theorem hall_sendFrames (game : GameInfo) (frames : List Frame) (state : AppState) :
    ((Task.forEach frames (sendFrame game.players)).run state).2.hall =
      state.hall.deliver (frames.map game.target) := by
  apply hall_forEach_deliver
  · intro frame output goes
    obtain ⟨player, slot, rfl⟩ := Option.map_eq_some_iff.mp goes
    rw [sendFrame, slot]
  · intro frame nowhere
    refine ⟨.message "Invalid player_id", fun state => ?_⟩
    rw [sendFrame, Option.map_eq_none_iff.mp nowhere]
    rfl

/-! ## Dropping -/

/-- Only the last state of a room matters. -/
theorem Hall.setRoom_setRoom (hall : Hall) (gameId : UInt32) (first second : Option GameInfo) :
    (hall.setRoom gameId first).setRoom gameId second = hall.setRoom gameId second := by
  simp [Hall.setRoom]

/-- Announcing a drop releases its frames. -/
theorem hall_announceDrop {gameId : UInt32} {state : AppState} {opened : GameInfo}
    (found : state.games.find gameId = some opened) (username : Bytes) (playerId : Nat)
    (frames : List Frame) (game : GameInfo) :
    ((announceDrop gameId username playerId frames game.players).run state).2.hall =
      state.hall.release game frames := by
  obtain ⟨next, same, statuses⟩ := run_setStatus game.players playerStatusIdle state
  rw [Hall.release]
  split at statuses
  next all =>
    rw [if_pos all, announceDrop, Task.run_bind_ok statuses]
    have stillOpen : next.games.find gameId = some opened :=
      (congrFun (congrArg Hall.room same) gameId).trans found
    obtain ⟨last, announced, sameLast⟩ := run_broadcastPacketToGame stillOpen Msg.dropGame
      (buildDropGamePacket username (.ofNat (playerId + 1)))
    rw [Task.run_bind_ok announced, hall_bind_quiet fun _ => quiet_pure true, hall_sendFrames,
      sameLast, same]
  next all =>
    obtain ⟨report, failed⟩ := statuses
    rw [if_neg all, announceDrop, Task.run_bind_error failed, same]

/-- The marking section of a live game. -/
theorem run_markDropped {gameId : UInt32} {ref : GameRef} {state : AppState}
    (here : state.games.byId gameId = some ref) {sync : SyncManager}
    (live : (state.games.arena ref).syncManager = some sync) (playerId : Nat) :
    ∃ outcome next, markDropped gameId ref playerId state = (outcome, next) ∧
      match sync.call gameId (.drop playerId) with
      | (.error error, sync) =>
          outcome = .error (.sync "Failed to mark player dropped" error) ∧
            next.hall = state.hall.setRoom gameId
              (some { state.games.arena ref with syncManager := some sync })
      | (.ok frames, sync) =>
          let marked : GameInfo := { state.games.arena ref with syncManager := some sync }
          outcome = .ok (frames, (state.games.arena ref).players, sync.allPlayersDropped) ∧
            next.hall = state.hall.setRoom gameId
              (some (if sync.allPlayersDropped then marked.finish else marked)) := by
  rw [markDropped]
  simp only [live]
  rcases sync.call gameId (.drop playerId) with ⟨result, next⟩
  cases result with
  | error error => exact ⟨_, _, rfl, rfl, hall_write here _⟩
  | ok frames =>
      by_cases all : next.allPlayersDropped = true
      · simp only [all, if_true]
        let finished : GameInfo :=
          ({ state.games.arena ref with syncManager := some next } : GameInfo).finish
        let logged : AppState := { state with
          calls := state.calls ++ [(gameId, Call.drop playerId)]
          produced := state.produced ++ (state.games.arena ref).targets frames
          games := state.games.write ref finished }
        obtain ⟨last, ran, same⟩ :=
          run_broadcastPacket Msg.updateGameStatus (makeUpdateGameStatus finished) logged
        have written : logged.hall = state.hall.setRoom gameId (some finished) := hall_write here finished
        have step : (broadcastPacket Msg.updateGameStatus (makeUpdateGameStatus finished)).run
            logged = (.ok (), last) := ran
        simp only [logged, finished] at step
        rw [step]
        exact ⟨_, _, rfl, rfl, same.trans written⟩
      · simp only [all, if_false, Bool.false_eq_true]
        exact ⟨_, _, rfl, rfl, hall_write here _⟩

/-- Dropping a player of a live game. -/
theorem hall_executeDropGame (gameId : UInt32) (src : SocketAddr) (state : AppState) :
    ((executeDropGame gameId src).run state).2.hall = state.hall.drop gameId src := by
  rw [executeDropGame, Task.run_bind, run_getClient, Hall.drop, hall_member, hall_room]
  cases found : state.clients.find src with
  | none => rfl
  | some client =>
      simp only [Option.map_some, Task.run_bind, run_getGameArc, GameTable.find]
      cases here : state.games.byId gameId with
      | none => rfl
      | some ref =>
          simp only [Option.map_some, Task.run_bind, Task.run_inspect]
          cases slot : dropperSlot src (state.games.arena ref) with
          | none => rfl
          | some playerId =>
              simp only [Task.run_bind, run_getGameArc, here, Task.run_critical]
              cases live : (state.games.arena ref).syncManager with
              | none =>
                  simp only [markDropped, live]
              | some sync =>
                  obtain ⟨outcome, next, ran, spec⟩ := run_markDropped here live playerId
                  simp only [ran]
                  rcases call : sync.call gameId (.drop playerId) with ⟨result, marked⟩
                  rw [call] at spec
                  cases result with
                  | error error =>
                      obtain ⟨rfl, hall⟩ := spec
                      exact hall
                  | ok frames =>
                      obtain ⟨rfl, hall⟩ := spec
                      have opened := (congrFun (congrArg Hall.room hall) gameId).trans
                        (Function.update_self ..)
                      rw [hall_room] at opened
                      simp only
                      by_cases all : marked.allPlayersDropped = true
                      · simp only [all, if_true] at opened hall ⊢
                        simp only [Task.run_bind, run_getGame, opened, Option.all_some]
                        by_cases empty : ({ state.games.arena ref with
                            syncManager := some marked } : GameInfo).finish.players.isEmpty = true
                        · simp only [empty, if_true]
                          have removed : (removeGame gameId).run next =
                              (.ok (), { next with games := next.games.remove gameId }) := rfl
                          rw [Task.run_bind_ok removed, hall_bind_quiet fun _ => quiet_pure true,
                            (quiet_broadcastPacket _ _).hall, hall_remove, hall, Hall.setRoom_setRoom]
                        · simp only [empty, if_false, Bool.false_eq_true]
                          rw [hall_announceDrop opened, hall]
                      · simp only [all, if_false, Bool.false_eq_true] at opened hall ⊢
                        rw [hall_announceDrop opened, hall]

/-- Resolving reads the member's game and its slot. -/
@[simp] theorem run_resolveInGame (src : SocketAddr) (state : AppState) :
    (resolveInGame src).run state = (.ok (state.hall.resolve src), state) := by
  rw [resolveInGame, Task.run_bind, Task.run_inspect, Hall.resolve, hall_member]
  cases found : state.clients.find src with
  | none => rfl
  | some client =>
      simp only [Option.map_some, Option.bind_some]
      cases inGame : client.gameId with
      | none => rfl
      | some gameId =>
          simp only [Option.bind_some, Task.run_bind, run_getGameArc, hall_room, GameTable.find]
          cases here : state.games.byId gameId with
          | none => rfl
          | some ref =>
              simp only [Option.map_some, Option.bind_some, Task.run_bind, Task.run_inspect]
              cases (state.games.arena ref).position src <;> rfl

theorem hall_handleDropGame (src : SocketAddr) (state : AppState) :
    ((handleDropGame src).run state).2.hall =
      match state.hall.resolve src with
      | some (gameId, _) => state.hall.drop gameId src
      | none => state.hall := by
  rw [handleDropGame, Task.run_bind, run_resolveInGame]
  cases state.hall.resolve src with
  | none => rfl
  | some place =>
      obtain ⟨gameId, slot⟩ := place
      simp only
      rw [hall_bind_quiet fun _ => quiet_pure (), hall_executeDropGame]

/-! ## Leaving -/

/-- Telling a room and then the lobby succeeds while the room exists. -/
theorem run_tellRoom {gameId : UInt32} {game : GameInfo} {state : AppState}
    (opened : state.games.find gameId = some game) (first second : UInt8) (data status : Bytes) :
    ∃ next, (do
        broadcastPacketToGame gameId first data
        broadcastPacket second status : Handler Unit).run state = (.ok (), next) ∧
      next.hall = state.hall := by
  obtain ⟨next, told, same⟩ := run_broadcastPacketToGame opened first data
  obtain ⟨last, announced, sameLast⟩ := run_broadcastPacket second status next
  exact ⟨last, (Task.run_bind_ok told).trans announced, sameLast.trans same⟩

theorem run_announceOwner (gameId : UInt32) (owner : Option Bytes) (state : AppState) :
    ∃ next, (announceOwner gameId owner).run state = (.ok (), next) ∧ next.hall = state.hall := by
  cases owner with
  | none => exact ⟨state, rfl, rfl⟩
  | some owner =>
      rw [announceOwner, Task.run_bind, run_getGame]
      cases opened : state.games.find gameId with
      | none => exact ⟨state, rfl, rfl⟩
      | some game => exact run_broadcastPacketToGame opened _ _

theorem run_settleQuit {gameId : UInt32} (src : SocketAddr) (outcome : GameInfo.QuitOutcome)
    {state : AppState} {game : GameInfo} (opened : state.games.find gameId = some game)
    (quitData : Bytes) :
    ∃ next, (settleQuit gameId src quitData outcome).run state = (.ok (), next) ∧
      next.hall = state.hall.settle gameId src outcome := by
  cases outcome with
  | playing =>
      have dropped := hall_executeDropGame gameId src state
      rcases ran : (executeDropGame gameId src).run state with ⟨result, next⟩
      rw [ran] at dropped
      rw [settleQuit, Task.run_bind, Task.run_attempt, ran]
      simp only [Task.run_bind, run_getGame]
      cases stillOpen : next.games.find gameId with
      | some game =>
          obtain ⟨last, told, same⟩ := run_tellRoom stillOpen Msg.quitGame Msg.updateGameStatus quitData
            (makeUpdateGameStatus game)
          exact ⟨last, told, same.trans dropped⟩
      | none =>
          obtain ⟨last, told, same⟩ := run_broadcastPacket Msg.quitGame quitData next
          exact ⟨last, told, same.trans dropped⟩
  | waitingClosed =>
      let closed : AppState := { state with games := state.games.remove gameId }
      obtain ⟨next, told, same⟩ :=
        run_broadcastPacket Msg.closeGame (buildCloseGamePacket gameId) closed
      obtain ⟨last, again, sameLast⟩ := run_broadcastPacket Msg.quitGame quitData next
      have removed : (removeGame gameId).run state = (.ok (), closed) := rfl
      refine ⟨last, ?_, (sameLast.trans same).trans (hall_remove state gameId)⟩
      rw [settleQuit, Task.run_bind_ok removed, Task.run_bind_ok told, again]
  | waitingOpen =>
      obtain ⟨next, told, same⟩ := run_broadcastPacketToGame opened Msg.quitGame quitData
      have stillOpen : next.games.find gameId = some game :=
        (congrFun (congrArg Hall.room same) gameId).trans opened
      obtain ⟨last, announced, sameLast⟩ :=
        run_broadcastPacket Msg.updateGameStatus (makeUpdateGameStatus game) next
      refine ⟨last, ?_, sameLast.trans same⟩
      rw [settleQuit, Task.run_bind_ok told, announceStatus, Task.run_bind, run_getGame, stillOpen]
      exact announced

/-- Quitting a game always succeeds. -/
theorem run_handleQuitGame (src : SocketAddr) (state : AppState) :
    ∃ next, (handleQuitGame src).run state = (.ok (), next) ∧ next.hall = state.hall.quit src := by
  rw [handleQuitGame, Task.run_bind, run_getClient, Hall.quit, hall_member]
  cases found : state.clients.find src with
  | none => exact ⟨state, rfl, rfl⟩
  | some client =>
      simp only [Option.map_some, Option.bind_some]
      cases inGame : client.gameId with
      | none => exact ⟨state, rfl, rfl⟩
      | some gameId =>
          simp only [Task.run_bind, run_getGameArc, Hall.leave, hall_room, GameTable.find]
          cases here : state.games.byId gameId with
          | none => exact ⟨state, rfl, rfl⟩
          | some ref =>
              have sets : ∀ client : ClientInfo,
                  client.toLobby.toMember = { client.toMember with gameId := none } := fun _ => rfl
              obtain ⟨next, left, hall, games⟩ := run_setGame found sets
              simp only [Option.map_some, Task.run_bind, left, lockGame, Task.run_critical]
              rw [← games] at here ⊢
              have written := hall_write here ((next.games.arena ref).leave src).2
              have opened := (congrFun (congrArg Hall.room written) gameId).trans
                (Function.update_self ..)
              rw [hall_room] at opened
              obtain ⟨settledState, ran, settledHall⟩ := run_settleQuit src
                ((next.games.arena ref).leave src).1.1 opened
                (buildQuitGamePacket client.username client.userId)
              obtain ⟨last, announced, sameLast⟩ := run_announceOwner gameId
                ((next.games.arena ref).leave src).1.2 settledState
              refine ⟨last, ?_, ?_⟩
              · simp only [ran, announced]
              · rw [sameLast, settledHall, written, hall]

theorem hall_removeClient (state : AppState) (addr : SocketAddr) :
    ({ state with clients := state.clients.remove addr } : AppState).hall =
      state.hall.forget addr := by
  apply Hall.ext
  · change (state.clients.byAddr.filter _).map Prod.fst = (state.clients.byAddr.map Prod.fst).filter _
    rw [List.filter_map]
    rfl
  · ext1 other
    rw [hall_member, state.clients.find_remove]
    by_cases same : other = addr
    · simp [Hall.forget, same]
    · simp [Hall.forget, same]
  · rfl
  · rfl
  · rfl

theorem quiet_closeSession (addr : SocketAddr) : Quiet (closeSession addr) :=
  Task.each_critical fun _ => rfl

/-- A user quit leaves the game and then the lobby. -/
theorem hall_handleUserQuit (data : Bytes) (src : SocketAddr) (state : AppState) :
    ((handleUserQuit data src).run state).2.hall = (state.hall.quit src).forget src := by
  obtain ⟨next, ran, hall⟩ := run_handleQuitGame src state
  have removed : (removeClient src).run next =
      (.ok (next.clients.find src), { next with clients := next.clients.remove src }) := rfl
  rw [handleUserQuit, Task.run_bind_ok ran, Task.run_bind_ok removed, ← hall,
    ← hall_removeClient next src]
  apply Quiet.hall
  cases next.clients.find src with
  | none => exact (quiet_pure ()).bind fun _ => quiet_closeSession src
  | some client => exact (quiet_broadcastPacket _ _).bind fun _ => quiet_closeSession src

/-- An entry of the address map is what its address leads to. -/
theorem ClientRegistry.session_of_mem {registry : ClientRegistry}
    {entry : SocketAddr × SessionId} (member : entry ∈ registry.byAddr) :
    registry.session entry.1 = some entry.2 := by
  cases found : registry.session entry.1 with
  | none =>
      have absent := List.lookup_eq_none_iff.mp found entry member
      simp at absent
  | some session =>
      have known := registry.mem_of_session found
      have same := List.inj_on_of_nodup_map registry.addrsDistinct known member rfl
      exact congrArg some (congrArg Prod.snd same)

/-- Searching by user id over the address map is searching the roster. -/
theorem findByUserId_roster (state : AppState) (userId : UInt16) :
    (state.clients.findByUserId userId).map Prod.fst = state.hall.findByUserId userId := by
  have search : ∀ entries : List (SocketAddr × SessionId), (∀ entry ∈ entries,
      entry ∈ state.clients.byAddr) → (entries.findSome? fun entry =>
        (state.clients.byId entry.2).bind fun client =>
          if client.userId = userId then some (entry.1, client) else none).map Prod.fst =
        (entries.map Prod.fst).find? fun addr =>
          (state.hall.member addr).any fun member => member.userId = userId := by
    intro entries members
    induction entries with
    | nil => rfl
    | cons entry rest ih =>
        have known := ClientRegistry.session_of_mem (members entry List.mem_cons_self)
        obtain ⟨client, found, byId⟩ := state.clients.find_of_session known
        have later := ih fun other member => members other (List.mem_cons_of_mem _ member)
        rw [List.findSome?_cons, byId, Option.bind_some, List.map_cons, List.find?_cons, hall_member,
          found]
        by_cases same : client.userId = userId
        · simp [same]
        · simpa [same] using later
  exact search state.clients.byAddr fun _ member => member

/-- Expelling a member of a room. -/
theorem hall_kickFrom (gameId : UInt32) (addr : SocketAddr) (quitData : Bytes) (state : AppState)
    {client : ClientInfo} (found : state.clients.find addr = some client) :
    ((kickFrom gameId addr quitData).run state).2.hall = state.hall.expel gameId addr := by
  rw [kickFrom, Task.run_bind, run_getGameArc, Hall.expel, hall_room, GameTable.find]
  cases here : state.games.byId gameId with
  | none => rfl
  | some ref =>
      have sets : ∀ client : ClientInfo,
          client.toLobby.toMember = { client.toMember with gameId := none } := fun _ => rfl
      obtain ⟨next, left, hall, games⟩ := run_setGame found sets
      simp only [Option.map_some, Task.run_bind, Task.run_attempt, left, lockGame, Task.run_critical]
      rw [← games] at here ⊢
      have written := hall_write here ((next.games.arena ref).leave addr).2
      by_cases playing : ((next.games.arena ref).leave addr).1.1 = .playing
      · simp only [playing, if_true]
        rw [hall_bind_quiet fun _ => quiet_announceKick _ _ _, hall_attempt, hall_executeDropGame,
          written, hall]
      · simp only [playing, if_false]
        rw [(quiet_announceKick _ _ _).hall, written, hall]

/-- Kicking a member. -/
theorem hall_handleKickUser (data : Bytes) (src : SocketAddr) (state : AppState) :
    ((handleKickUser data src).run state).2.hall =
      match parseKickUser data with
      | some userId => state.hall.kick userId src
      | none => state.hall := by
  unfold handleKickUser
  cases parseKickUser data with
  | none => rfl
  | some userId =>
      simp only [Task.run_bind, run_getClient, Hall.kick, hall_member, ← findByUserId_roster]
      cases found : state.clients.find src with
      | none => rfl
      | some requester =>
          simp only [Option.map_some]
          cases inGame : requester.gameId with
          | none => rfl
          | some gameId =>
              simp only [Task.run_bind, run_getGame, hall_room]
              cases opened : state.games.find gameId with
              | none => rfl
              | some game =>
                  simp only
                  by_cases allowed : game.lists src = true ∧ game.ownerUserId = requester.userId
                  · simp only [allowed, and_self, if_true, Task.run_bind, Task.run_inspect]
                    cases target : state.clients.findByUserId userId with
                    | none => rfl
                    | some entry =>
                        obtain ⟨addr, kicked⟩ := entry
                        simp only [Option.map_some, Task.run_bind, run_getClient]
                        cases foundTarget : state.clients.find addr with
                        | none => simp
                        | some client =>
                            simp only [Option.map_some, Option.bind_some]
                            by_cases same : client.gameId = some gameId
                            · simp only [same, if_true]
                              rw [if_pos ⟨allowed.1, allowed.2, trivial⟩]
                              exact hall_kickFrom gameId addr _ state foundTarget
                            · simp [same]
                  · rw [if_neg allowed]
                    cases state.clients.findByUserId userId with
                    | none => rfl
                    | some entry =>
                        simp only [Option.map_some]
                        rw [if_neg fun all => allowed ⟨all.1, all.2.1⟩]
                        rfl

/-! ## Starting -/

theorem run_fetchGameInfo {state : AppState} {src : SocketAddr} {client : ClientInfo}
    (found : state.clients.find src = some client) {gameId : UInt32}
    (inGame : client.gameId = some gameId) {game : GameInfo}
    (opened : state.games.find gameId = some game) :
    (fetchGameInfo src).run state = (.ok game, state) := by
  rw [fetchGameInfo, Task.run_bind, run_getClient, found]
  simp only [inGame, Task.run_bind, run_getGame, opened]
  rfl

theorem run_fetchPings (config : Config) (players : List GamePlayerInfo) (state : AppState) :
    (fetchPings config players).run state = (.ok (state.hall.pings config players), state) := by
  unfold fetchPings Hall.pings
  cases config.fixedGameDelay with
  | some delay => rfl
  | none =>
      apply Task.run_collect
      intro player
      rw [Task.run_bind, run_getClient, hall_member]
      cases state.clients.find player.addr <;> rfl

/-- Starting a game installs its engine. -/
theorem hall_startFrom (config : Config) {state : AppState} {src : SocketAddr} {client : ClientInfo}
    (found : state.clients.find src = some client) {gameId : UInt32}
    (inGame : client.gameId = some gameId) {game : GameInfo}
    (opened : state.games.find gameId = some game) :
    ((startFrom config gameId src).run state).2.hall =
      state.hall.setRoom gameId (some (game.purge.begin
        (game.purge.players.map fun player => player.connType.toNat)
        (sizeDelays config game.purge.players (state.hall.pings config game.purge.players)).2
        config.disableOutputCache)) := by
  obtain ⟨purged, ran, hall, clients⟩ := run_withGameMut found inGame opened GameInfo.purge
  rw [← clients] at found
  have openedPurged : purged.games.find gameId = some game.purge :=
    (congrFun (congrArg Hall.room hall) gameId).trans (Function.update_self ..)
  rw [startFrom, Task.run_bind_ok ran, Task.run_bind_ok (run_fetchGameInfo found inGame openedPurged),
    Task.run_bind_ok (run_fetchPings config game.purge.players purged)]
  have samePings : purged.hall.pings config game.purge.players =
      state.hall.pings config game.purge.players := by
    rw [hall]
    rfl
  rw [samePings]
  obtain ⟨started, begun, hallStarted, _⟩ := run_withGameMut found inGame openedPurged fun game' =>
    game'.begin (game.purge.players.map fun player => player.connType.toNat)
      (sizeDelays config game.purge.players (state.hall.pings config game.purge.players)).2
      config.disableOutputCache
  simp only
  rw [Task.run_bind_ok begun, (quiet_announceStart _ _ _ _).hall, hallStarted, hall,
    Hall.setRoom_setRoom]

theorem hall_handleStartGame (config : Config) (data : Bytes) (src : SocketAddr) (state : AppState) :
    ((handleStartGame config data src).run state).2.hall =
      if (readStringBytes data).2.length < 4 then state.hall else state.hall.start config src := by
  unfold handleStartGame
  by_cases short : (readStringBytes data).2.length < 4
  · simp only [short, if_true]
    rfl
  · simp only [short, if_false, Task.run_bind, run_getClient, Hall.start, hall_member]
    cases found : state.clients.find src with
    | none => rfl
    | some client =>
        simp only [Option.map_some]
        cases inGame : client.gameId with
        | none => rfl
        | some gameId =>
            simp only [Task.run_bind, run_getGame, hall_room]
            cases opened : state.games.find gameId with
            | none => rfl
            | some game =>
                simp only
                by_cases lists : game.lists src = true
                · by_cases live : game.syncManager.isSome = true
                  · simp only [lists, live, if_true]
                    rw [(quiet_broadcastPacketToGame _ _ _).hall]
                    simp
                  · by_cases owner : game.ownerUserId = client.userId
                    · simp only [lists, live, owner, if_true, if_false, Bool.false_eq_true]
                      rw [hall_startFrom config found inGame opened]
                      simp
                    · simp [lists, live, owner]
                · simp [lists]

/-! ## Playing -/

/-- Where every frame has an address, none is lost. -/
theorem GameInfo.targets_of_resolved {game : GameInfo} {frames : List Frame}
    (resolved : ∀ frame ∈ frames, (game.target frame).isSome = true) :
    (game.targets frames).map some = frames.map game.target := by
  induction frames with
  | nil => rfl
  | cons frame rest ih =>
      obtain ⟨output, goes⟩ := Option.isSome_iff_exists.mp (resolved frame List.mem_cons_self)
      have later := ih fun other member => resolved other (List.mem_cons_of_mem _ member)
      rw [GameInfo.targets, List.filterMap_cons_some goes, List.map_cons, List.map_cons, goes]
      exact congrArg (some output :: ·) later

/-- The section which feeds the engine, followed by sending what it resolved. -/
theorem run_processInput {Failure : Type} (notInitialized : Failure)
    (engineError : GameSyncError → Failure) (invalidPlayer : Nat → Nat → Failure)
    {gameId : UInt32} {ref : GameRef} {state : AppState}
    (here : state.games.byId gameId = some ref) (slot : Nat) (input : ClientInput) :
    ∃ outcome next, processInput notInitialized engineError invalidPlayer gameId ref slot input state =
        (outcome, next) ∧
      (∀ outputs, outcome = .ok outputs →
        next.hall.deliver (outputs.map some) = state.hall.feed gameId slot input) ∧
      ∀ failure, outcome = .error failure → next.hall = state.hall.feed gameId slot input := by
  rw [processInput, Hall.feed, hall_room, GameTable.find, here]
  simp only [Option.map_some]
  cases live : (state.games.arena ref).syncManager with
  | none => exact ⟨_, _, rfl, by simp, fun _ _ => rfl⟩
  | some sync =>
      simp only
      rcases sync.call gameId (.input slot input) with ⟨result, marked⟩
      have written := hall_write here { state.games.arena ref with syncManager := some marked }
      cases result with
      | error error => exact ⟨_, _, rfl, by simp, fun _ _ => written⟩
      | ok frames =>
          simp only
          cases invalid : frames.find? fun frame => ((state.games.arena ref).target frame).isNone with
          | some frame =>
              have unresolved : ¬ (frames.all fun frame =>
                  ((state.games.arena ref).target frame).isSome) = true := by
                intro all
                have missing := List.find?_some invalid
                have resolved := List.all_eq_true.mp all frame (List.mem_of_find?_eq_some invalid)
                simp only [Option.isNone_iff_eq_none] at missing
                rw [missing] at resolved
                exact Bool.noConfusion resolved
              simp only [unresolved]
              exact ⟨_, _, rfl, by simp, fun _ _ => written⟩
          | none =>
              have resolved : ∀ frame ∈ frames, ((state.games.arena ref).target frame).isSome = true := by
                intro frame member
                have notNone := List.find?_eq_none.mp invalid frame member
                simpa [Option.isSome_iff_ne_none] using notNone
              have all : (frames.all fun frame =>
                  ((state.games.arena ref).target frame).isSome) = true :=
                List.all_eq_true.mpr resolved
              have targets := GameInfo.targets_of_resolved resolved
              simp only [all, if_true]
              refine ⟨_, _, rfl, ?_, by simp⟩
              rintro outputs ⟨rfl⟩
              rw [targets]
              exact congrArg (fun hall : Hall => hall.deliver _) written

/-- The games which a resolved member is in exist. -/
theorem byId_of_resolve {state : AppState} {src : SocketAddr} {gameId : UInt32} {slot : Nat}
    (resolved : state.hall.resolve src = some (gameId, slot)) :
    ∃ ref, state.games.byId gameId = some ref := by
  obtain ⟨found, _, place⟩ := Option.bind_eq_some_iff.mp resolved
  obtain ⟨game, opened, position⟩ := Option.bind_eq_some_iff.mp place
  obtain ⟨_, _, same⟩ := Option.map_eq_some_iff.mp position
  obtain ⟨rfl, _⟩ := Prod.mk.inj same
  obtain ⟨ref, here, _⟩ := Option.map_eq_some_iff.mp opened
  exact ⟨ref, here⟩

/-- Sending resolved outputs delivers them. -/
theorem hall_sendOutputs (outputs : List TargetOutput) (state : AppState) :
    ((Task.forEach outputs sendOutput).run state).2.hall = state.hall.deliver (outputs.map some) := by
  apply hall_forEach_deliver
  · rintro output _ ⟨rfl⟩
    rfl
  · intro output nowhere
    exact absurd nowhere (by simp)

theorem hall_handleGameData (data : Bytes) (src : SocketAddr) (state : AppState) :
    ((handleGameData data src).run state).2.hall =
      match parseGameData data with
      | some bytes => state.hall.play (.gameData bytes) src
      | none => state.hall := by
  unfold handleGameData
  cases parseGameData data with
  | none => rfl
  | some bytes =>
      simp only [Task.run_bind, run_resolveInGame, Hall.play]
      cases resolved : state.hall.resolve src with
      | none => rfl
      | some place =>
          obtain ⟨gameId, slot⟩ := place
          obtain ⟨ref, here⟩ := byId_of_resolve resolved
          simp only [Task.run_bind, run_getGameArc, here, Task.run_critical]
          obtain ⟨outcome, next, ran, sent, failed⟩ := run_processInput
            (Report.message "SimpleGameSync not initialized") (Report.sync "Game sync error")
            (fun _ _ => .message "Invalid player_id") here slot (.gameData bytes)
          rw [ran]
          cases outcome with
          | error report => exact failed report rfl
          | ok outputs => exact (hall_sendOutputs outputs next).trans (sent outputs rfl)

theorem hall_handleGameCache (data : Bytes) (src : SocketAddr) (state : AppState) :
    ((handleGameCache data src).run state).2.hall =
      match parseGameCache data with
      | some position => state.hall.play (.gameCache position) src
      | none => state.hall := by
  unfold handleGameCache
  cases parseGameCache data with
  | none => rfl
  | some position =>
      simp only [Task.run_bind, run_resolveInGame, Hall.play]
      cases resolved : state.hall.resolve src with
      | none => rfl
      | some place =>
          obtain ⟨gameId, slot⟩ := place
          obtain ⟨ref, here⟩ := byId_of_resolve resolved
          simp only [Task.run_bind, run_getGameArc, here, processCache, Task.run_critical]
          obtain ⟨outcome, next, ran, sent, failed⟩ := run_processInput
            (GameSyncError.bufferInconsistency "sync_manager not initialized") id .invalidPlayerId
            here slot (.gameCache position)
          rw [ran]
          cases outcome with
          | ok outputs => exact (hall_sendOutputs outputs next).trans (sent outputs rfl)
          | error error =>
              refine Eq.trans (Quiet.hall ?_ next) (failed error rfl)
              cases error with
              | cachePositionNotFound playerId missing =>
                  exact (quiet_sendPacket src _ _).bind fun _ => quiet_fail _
              | invalidPlayerId playerId playerCount => exact quiet_fail _
              | bufferInconsistency message => exact quiet_fail _

/-! ## Runs -/

/-- A complete handler run changes the hall as its message says. -/
theorem hall_step (config : Config) (state : AppState) (request : SocketAddr × Request) :
    ((server config).step state request).2.hall = state.hall.handle config request.1 request.2 := by
  obtain ⟨src, request⟩ := request
  cases request with
  | createGame data => exact hall_handleCreateGame data src state
  | joinGame data => exact hall_handleJoinGame data src state
  | quitGame data =>
      obtain ⟨next, ran, hall⟩ := run_handleQuitGame src state
      exact (congrArg (fun result => result.2.hall) ran).trans hall
  | userQuit data => exact hall_handleUserQuit data src state
  | kickUser data => exact hall_handleKickUser data src state
  | startGame data => exact hall_handleStartGame config data src state
  | dropGame data => exact hall_handleDropGame src state
  | gameData data => exact hall_handleGameData data src state
  | gameCache data => exact hall_handleGameCache data src state
  | readyToPlay data => exact (quiet_handleReadyToPlaySignal data src).hall state

/-- The hall after a run. -/
def Hall.run (config : Config) (hall : Hall) : List (SocketAddr × Request) → Hall
  | [] => hall
  | request :: rest => (hall.handle config request.1 request.2).run config rest

/-- A run of the server is a run of the hall. -/
theorem hall_final (config : Config) (state : AppState) (requests : List (SocketAddr × Request)) :
    ((server config).final state requests).hall = state.hall.run config requests := by
  induction requests generalizing state with
  | nil => rfl
  | cons request rest ih =>
      rw [Transducer.final_cons, ih, hall_step]
      rfl

end Direlera.Lobby
