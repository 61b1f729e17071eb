import Direlera.Lobby.BoardUpkeep
import Direlera.Lobby.Legible

/-!
# Every handler posts what it changes

What quitting, kicking and dropping leave to do: creating, joining, starting, and the
messages of a running game.
-/

namespace Direlera.Lobby

open Direlera.Library Direlera.Sync Direlera.Wire

section Handlers

variable {opened : Listing} {state : AppState} {gameId : UInt32} {game : GameInfo}
  {src : SocketAddr} {client : ClientInfo}

/-! ## Starting -/

/-- A client is found again in a state with the same hall. -/
theorem find_of_hall {next : AppState} (found : state.clients.find src = some client)
    (same : next.hall = state.hall) :
    ∃ here, next.clients.find src = some here ∧ here.toMember = client.toMember := by
  have member := congrFun (congrArg Hall.member same) src
  rw [hall_member, hall_member, found] at member
  exact Option.map_eq_some_iff.mp member

/-- The status of a started game is posted, as all its players are registered. -/
theorem posts_announceStart (due : state.Due opened gameId)
    (found : state.clients.find src = some client) (inGame : client.gameId = some gameId)
    (there : state.games.find gameId = some game) (named : game.gameId = gameId)
    {players : List GamePlayerInfo}
    (registered : ∀ player ∈ players, (state.hall.member player.addr).isSome = true)
    (advertised : List Nat) :
    ((announceStart gameId src players advertised).run state).2.Posted opened := by
  obtain ⟨idle, hall, statuses⟩ := run_setStatus players playerStatusIdle state
  rw [if_pos (List.all_eq_true.mpr registered)] at statuses
  have unseen := unseen_of_quiet (quiet_setStatus players playerStatusIdle)
    (@leaves_forEach_status opened players playerStatusIdle) state
  rw [statuses] at unseen
  obtain ⟨here, foundHere, same⟩ := find_of_hall found hall
  have inGameHere : here.gameId = some gameId := (congrArg Member.gameId same).trans inGame
  have room : idle.hall.room gameId = some game := by
    rw [hall]
    exact there
  obtain ⟨next, posts, _, posted⟩ := run_postStatus (due.unseen unseen) room named
  rw [announceStart, Task.run_bind_ok statuses,
    Task.run_bind_ok (run_fetchGameInfo foundHere inGameHere room), Task.run_bind_ok posts]
  refine posted.unseen (unseen_of_quiet ?_ ?_ next)
  · refine Quiet.bind (Task.Each.forEach (fun _ => quiet_sendPacket _ _ _) _) fun _ => ?_
    exact quiet_broadcastPacketToGame gameId _ _
  · refine (Task.Leaves.forEach (fun _ => leaves_sendPacket (by decide) _) _).bind fun _ => ?_
    exact leaves_broadcastPacketToGame (by decide) gameId

/-- The run of a task which keeps the screens. -/
theorem screens_of_run {Result : Type} {task : Handler Result}
    (keeps : Keeps (AppState.screens opened) task) {before after : AppState}
    {outcome : Except Report Result} (ran : task.run before = (outcome, after)) :
    after.screens opened = before.screens opened := by
  have same := keeps.keeps before
  rwa [ran] at same

theorem posts_startFrom (config : Config) (named : state.hall.Named) (posted : state.Posted opened)
    (found : state.clients.find src = some client) (inGame : client.gameId = some gameId)
    (there : state.games.find gameId = some game)
    (registered : ∀ player ∈ game.inRoom, (state.hall.member player.addr).isSome = true) :
    ((startFrom config gameId src).run state).2.Posted opened := by
  have kept : ∀ change, Keeps (AppState.screens opened) (withGameMut src change) :=
    keeps_withGameMut (fun _ _ => rfl) src
  obtain ⟨purged, ran, hall, clients⟩ := run_withGameMut found inGame there GameInfo.purge
  have duePurged : purged.Due opened gameId :=
    (posted.due gameId).setRoom hall (screens_of_run (kept _) ran)
  rw [← clients] at found
  have openedPurged : purged.games.find gameId = some game.purge :=
    (congrFun (congrArg Hall.room hall) gameId).trans (Function.update_self ..)
  rw [startFrom, Task.run_bind_ok ran, Task.run_bind_ok (run_fetchGameInfo found inGame openedPurged),
    Task.run_bind_ok (run_fetchPings config game.purge.players purged)]
  obtain ⟨started, begun, hallStarted, clientsStarted⟩ := run_withGameMut found inGame openedPurged
    fun game' => game'.begin (game.purge.players.map fun player => player.connType.toNat)
      (sizeDelays config game.purge.players (purged.hall.pings config game.purge.players)).2
      config.disableOutputCache
  have dueStarted : started.Due opened gameId :=
    duePurged.setRoom hallStarted (screens_of_run (kept _) begun)
  rw [← clientsStarted] at found
  have openedStarted := (congrFun (congrArg Hall.room hallStarted) gameId).trans
    (Function.update_self ..)
  simp only
  rw [Task.run_bind_ok begun]
  refine posts_announceStart dueStarted found inGame openedStarted (named gameId game there)
    (fun player member => ?_) _
  rw [hallStarted, hall]
  exact registered player member

theorem posts_handleStartGame (config : Config) (sound : state.hall.Sound Hall.nobody)
    (named : state.hall.Named) (posted : state.Posted opened) (data : Bytes) (src : SocketAddr) :
    ((handleStartGame config data src).run state).2.Posted opened := by
  unfold handleStartGame
  split
  next => exact posted
  next =>
    rw [Task.run_bind, run_getClient]
    cases found : state.clients.find src with
    | none => exact posted
    | some client =>
        simp only
        cases inGame : client.gameId with
        | none => exact posted
        | some gameId =>
            simp only [Task.run_bind, run_getGame]
            cases there : state.games.find gameId with
            | none => exact posted
            | some game =>
                simp only
                split
                next =>
                  split
                  next =>
                    exact posted.unseen (unseen_of_quiet (quiet_broadcastPacketToGame _ _ _)
                      (leaves_broadcastPacketToGame (by decide) gameId) state)
                  next =>
                    split
                    next =>
                      exact posts_startFrom config named posted found inGame there
                        fun player inRoom => (sound.registered there inRoom).2
                    next => exact posted
                next => exact posted

/-! ## Creating -/

/-- Introducing a newcomer posts nothing. -/
theorem AppState.Posted.introduce (posted : state.Posted opened) (src : SocketAddr)
    (game : GameInfo) {greet : ClientInfo → Handler Unit}
    (quiet : ∀ client, Quiet (greet client))
    (leaves : ∀ client, Task.Leaves (AppState.screens opened) (greet client)) :
    ((do
      let playersInfo ← makePlayerInformation src game
      sendPacket src Msg.playerInformation playersInfo
      let some client ← getClient src | .fail (.message "Client not found")
      greet client : Handler Unit).run state).2.Posted opened := by
  refine posted.unseen (unseen_of_quiet (deaf_view.introduce src game quiet) ?_ state)
  refine (keeps_makePlayerInformation src game).leaves.bind fun info => ?_
  refine (leaves_sendPacket (by decide) src).bind fun _ => (keeps_inspect _).leaves.bind ?_
  rintro (_ | client)
  · exact (keeps_fail _).leaves
  · exact leaves client

/-- A created game is announced and then posted. -/
theorem posts_announceCreatedGame (due : state.Due opened gameId)
    (there : state.hall.room gameId = some game) (named : game.gameId = gameId)
    (legible : client.Legible) (name : 0 ∉ game.gameName) (short : game.gameName.length ≤ 127) :
    ((announceCreatedGame src gameId game client).run state).2.Posted opened := by
  have fits : (buildNewGameNotification client.username game.gameName client.emulatorName
      gameId).length ≤ maxPayload := by
    have user := legible.usernameShort
    have emulator := legible.emulatorNameShort
    simp only [buildNewGameNotification, putBytesWithNull, putU32Le, littleEndianBytes,
      List.length_append, List.length_cons, List.length_nil, receiveBuffer, maxPayload] at *
    omega
  obtain ⟨announced, ran, hall, dueStill, _⟩ := run_notify due fits
    (Board.hear_createGame legible.username name legible.emulatorName gameId)
  obtain ⟨next, posts, _, posted⟩ := run_postStatus dueStill (hall ▸ there) named
  rw [announceCreatedGame, Task.run_bind_ok ran, Task.run_bind_ok posts]
  exact posted.introduce src game (fun _ => quiet_sendPacket src _ _)
    fun _ => leaves_sendPacket (by decide) src

theorem posts_handleCreateGame (legible : state.hall.Legible) (posted : state.Posted opened)
    (data : Bytes) (src : SocketAddr) : ((handleCreateGame data src).run state).2.Posted opened := by
  obtain ⟨checked, ran, unchanged, cleaned⟩ := run_checkAlreadyInGame src state
  have keeps : Keeps (AppState.screens opened) (checkAlreadyInGame src) := by
    refine each_checkAlreadyInGame ?_ (keeps_screens_update fun _ => rfl)
    intro before
    rfl
  have screens : checked.screens opened = state.screens opened := screens_of_run keeps ran
  have rooms : checked.hall.room = state.hall.room := by
    have same := congrArg Hall.room (cleaned none)
    exact same
  have postedChecked := posted.unseen (unseen_of_room rooms screens)
  rw [handleCreateGame, Task.run_bind_ok ran]
  cases state.hall.listed src with
  | true => exact postedChecked
  | false =>
      let drawn : AppState := { checked with nextGameId := checked.nextGameId + 1 }
      have draws : takeNextGameId.run checked = (.ok checked.nextGameId, drawn) := rfl
      have postedDrawn : drawn.Posted opened :=
        postedChecked.unseen (unseen_of_room rfl (screens_congr rfl rfl))
      simp only [Bool.false_eq_true, if_false]
      rw [Task.run_bind_ok draws]
      cases found : checked.clients.find src with
      | none =>
          have missing : (fetchClientInfo src).run drawn =
              (.error (.message "Client not found: addr"), drawn) := by
            rw [fetchClientInfo, Task.run_bind, run_getClient, found]
            rfl
          rw [Task.run_bind_error missing]
          exact postedDrawn
      | some client =>
          have fetched : (fetchClientInfo src).run drawn = (.ok client, drawn) := by
            rw [fetchClientInfo, Task.run_bind, run_getClient, found]
            rfl
          have names : client.Legible := by
            -- the check may have cleared the game of the client, but not its names
            have sameMember := congrFun (congrArg Hall.member (cleaned none)) src
            simp only [Hall.setGame, Function.update_self, hall_member, Option.map_map, found,
              Option.map_some] at sameMember
            obtain ⟨before, foundBefore, same⟩ := Option.map_eq_some_iff.mp sameMember.symm
            obtain ⟨username, emulatorName, usernameShort, emulatorNameShort⟩ :=
              legible.members src before.toMember (by rw [hall_member, foundBefore]; rfl)
            have sameUsername : before.username = client.username :=
              (Member.mk.inj same).1
            have sameEmulator : before.emulatorName = client.emulatorName :=
              (Member.mk.inj same).2.1
            exact ⟨sameUsername ▸ username, sameEmulator ▸ emulatorName,
              sameUsername ▸ usernameShort, sameEmulator ▸ emulatorNameShort⟩
          let game := createdGame checked.nextGameId (parseCreateGame data) src client.toMember
          let added : AppState := { drawn with games := drawn.games.insert checked.nextGameId game }
          have adds : (addGame checked.nextGameId game).run drawn = (.ok (), added) := rfl
          have hall : added.hall = drawn.hall.setRoom checked.nextGameId (some game) :=
            hall_insert drawn checked.nextGameId game
          have dueAdded : added.Due opened checked.nextGameId :=
            (postedDrawn.due _).setRoom hall (screens_congr rfl rfl)
          have sets : ∀ client : ClientInfo,
              ({ client with gameId := some checked.nextGameId } : ClientInfo).toMember =
                { client.toMember with gameId := some checked.nextGameId } := fun _ => rfl
          have foundAdded : added.clients.find src = some client := found
          obtain ⟨entered, enters, hallEntered, _⟩ := run_setGame foundAdded sets
          have kept : entered.screens opened = added.screens opened :=
            screens_of_run (keeps_screens_update fun _ => rfl) enters
          have there : entered.hall.room checked.nextGameId = some game := by
            rw [hallEntered]
            exact (congrFun (congrArg Hall.room hall) _).trans (Function.update_self ..)
          have rooms : entered.hall.room = added.hall.room := by
            rw [hallEntered]
            rfl
          have dueEntered := dueAdded.unseen (unseen_of_room rooms kept)
          rw [Task.run_bind_ok fetched, Task.run_bind_ok adds, Task.run_bind_ok enters]
          exact posts_announceCreatedGame dueEntered there rfl names
            (GameInfo.parseCreateGame_plain data) (List.length_take_le ..)

/-! ## Joining -/

/-- The status of a joined game is sent to everybody. -/
theorem posts_announceJoinedGame (due : state.Due opened gameId)
    (there : state.hall.room gameId = some game) (named : game.gameId = gameId) (src : SocketAddr) :
    ((announceJoinedGame src gameId).run state).2.Posted opened := by
  have updates : Board.hear opened Msg.updateGameStatus (makeUpdateGameStatus game) =
      fun board => Function.update board gameId (some game.listing) := by
    ext1 board
    rw [Board.hear_updateGameStatus, named]
  have again : ∀ board : Board,
      (board.hear opened Msg.updateGameStatus (makeUpdateGameStatus game)).hear opened
          Msg.updateGameStatus (makeUpdateGameStatus game) =
        board.hear opened Msg.updateGameStatus (makeUpdateGameStatus game) := by
    intro board
    rw [updates]
    exact Function.update_idem ..
  obtain ⟨next, ran, hall, heard⟩ := @screens_sendEach opened _ _
    (by change 8 ≤ 65534; decide : (makeUpdateGameStatus game).length ≤ maxPayload) again state
  rw [updates] at heard
  have posted : next.Posted opened := (due_heard due hall heard).2 (by rw [there]; rfl)
  have everybody : getAllClientAddrs.run state = (.ok (state.clients.byAddr.map Prod.fst), state) :=
    rfl
  have found : state.games.find gameId = some game := there
  rw [announceJoinedGame, Task.run_bind, run_getGame, found]
  simp only
  rw [Task.run_bind_ok everybody, Task.run_bind_ok ran]
  exact posted.introduce src game (fun _ => quiet_broadcastPacketToGame gameId _ _)
    fun _ => leaves_broadcastPacketToGame (by decide) gameId

theorem posts_handleJoinGame (named : state.hall.Named) (posted : state.Posted opened)
    (data : Bytes) (src : SocketAddr) : ((handleJoinGame data src).run state).2.Posted opened := by
  unfold handleJoinGame
  cases parseJoinGame data with
  | none => exact posted
  | some gameId =>
      simp only [Task.run_bind, run_getClient]
      cases found : state.clients.find src with
      | none => exact posted
      | some client =>
          simp only
          split
          next => exact posted
          next =>
            simp only [Task.run_bind, run_getGame]
            cases there : state.games.find gameId with
            | none => exact posted
            | some game =>
                simp only
                split
                next joinable =>
                  have own := named gameId game there
                  have sets : ∀ client : ClientInfo,
                      ({ client with gameId := some gameId } : ClientInfo).toMember =
                        { client.toMember with gameId := some gameId } := fun _ => rfl
                  obtain ⟨entered, enters, hall, games⟩ := run_setGame found sets
                  have keptEntered : entered.screens opened = state.screens opened :=
                    screens_of_run (keeps_screens_update fun _ => rfl) enters
                  have rooms : entered.hall.room = state.hall.room := by
                    rw [hall]
                    rfl
                  obtain ⟨here, foundHere, sameInfo⟩ := find_of_setGame found hall
                  have inGame : here.gameId = some gameId := congrArg Member.gameId sameInfo
                  rw [← games] at there
                  obtain ⟨seated, seats, room, _⟩ := run_withGameMut foundHere inGame there
                    fun game => game.seat ⟨src, client.username, client.userId, client.connType, false⟩
                  have keptSeated : seated.screens opened = entered.screens opened :=
                    screens_of_run (keeps_withGameMut (fun _ _ => rfl) src _) seats
                  have dueSeated : seated.Due opened gameId :=
                    ((posted.unseen (unseen_of_room rooms keptEntered)).due gameId).setRoom room keptSeated
                  have thereSeated := (congrFun (congrArg Hall.room room) gameId).trans
                    (Function.update_self ..)
                  rw [Task.run_bind_ok enters, Task.run_bind_ok seats]
                  refine posts_announceJoinedGame dueSeated thereSeated ?_ src
                  rw [GameInfo.gameId_seat]
                  exact own
                next => exact posted

/-! ## Playing -/

/-- The game which is fetched for a client is in the map. -/
theorem room_of_fetchGameInfo {next : AppState}
    (fetched : (fetchGameInfo src).run state = (.ok game, next)) :
    ∃ gameId, state.hall.room gameId = some game := by
  rw [fetchGameInfo, Task.run_bind, run_getClient] at fetched
  cases found : state.clients.find src with
  | none => simp [found] at fetched
  | some client =>
      simp only [found] at fetched
      cases inGame : client.gameId with
      | none => simp [inGame] at fetched
      | some gameId =>
          simp only [inGame, Task.run_bind, run_getGame] at fetched
          cases there : state.games.find gameId with
          | none => simp [there] at fetched
          | some here =>
              simp only [there, Task.run_pure, Prod.mk.injEq, Except.ok.injEq] at fetched
              obtain ⟨rfl, rfl⟩ := fetched
              exact ⟨gameId, there⟩

/-- A ready signal posts its game again, as it is. -/
theorem posts_handleReadyToPlaySignal (named : state.hall.Named) (posted : state.Posted opened)
    (data : Bytes) (src : SocketAddr) :
    ((handleReadyToPlaySignal data src).run state).2.Posted opened := by
  let change : ClientInfo → Bool × ClientInfo := fun client =>
    if client.playerStatus = playerStatusPlaying then (true, client)
    else (false, { client with playerStatus := playerStatusNetSync })
  have acks : ∀ client, (change client).2.ackCount = client.ackCount := by
    intro client
    dsimp only [change]
    split <;> rfl
  have members : ∀ client, (change client).2.toMember = client.toMember := by
    intro client
    dsimp only [change]
    split <;> rfl
  have marks : state.Unseen opened ((updateClient src change).run state).2 :=
    unseen_of_quiet (quiet_updateClient src members) (keeps_screens_update acks).leaves state
  have hall := (quiet_updateClient src members).hall state
  unfold handleReadyToPlaySignal
  split
  next => exact posted
  next =>
    change (Task.run (updateClient src change >>= _) state).2.Posted opened
    rcases ran : (updateClient src change).run state with ⟨outcome, marked⟩
    rw [ran] at marks hall
    have postedMarked := posted.unseen marks
    cases outcome with
    | error report =>
        rw [Task.run_bind_error ran]
        exact postedMarked
    | ok alreadyPlaying =>
        rw [Task.run_bind_ok ran]
        cases alreadyPlaying with
        | true => exact postedMarked
        | false =>
            simp only [Bool.false_eq_true, if_false]
            rw [Task.run_bind]
            have read := (@keeps_fetchGameInfo _ id src).keeps marked
            rcases fetched : (fetchGameInfo src).run marked with ⟨outcome, same⟩
            rw [fetched] at read
            obtain rfl : same = marked := read
            cases outcome with
            | error report => exact postedMarked
            | ok game =>
                obtain ⟨gameId, there⟩ := room_of_fetchGameInfo fetched
                have own : game.gameId = gameId := named gameId game (hall ▸ there)
                obtain ⟨next, posts, _, postedNext⟩ := run_postStatus (postedMarked.due gameId) there own
                simp only
                rw [Task.run_bind_ok posts]
                refine postedNext.unseen (unseen_of_quiet ?_ ?_ next)
                · refine (quiet_inspect _).bind fun allReady => ?_
                  split
                  · refine Quiet.bind (Task.Each.forEach (fun player => ?_) game.players) fun _ =>
                      quiet_broadcastPacketToGame _ _ _
                    exact Quiet.bind (quiet_status player.addr _).attempt fun _ => quiet_pure PUnit.unit
                  · exact quiet_pure ()
                · refine (keeps_inspect _).leaves.bind fun allReady => ?_
                  split
                  · refine (Task.Each.forEach (fun player => ?_) game.players).leaves.bind fun _ =>
                      leaves_broadcastPacketToGame (by decide) _
                    exact Task.Each.bind (keeps_screens_update fun _ => rfl).attempt
                      fun _ => keeps_pure PUnit.unit
                  · exact (keeps_pure ()).leaves

/-- An input changes nothing which a list of games shows. -/
theorem listing_play (hall : Hall) (input : ClientInput) (src : SocketAddr) (gameId : UInt32) :
    ((hall.play input src).room gameId).map GameInfo.listing =
      (hall.room gameId).map GameInfo.listing := by
  unfold Hall.play
  cases hall.resolve src with
  | none => rfl
  | some place =>
      obtain ⟨current, slot⟩ := place
      simp only
      rcases hall.feed_cases current slot input with same | ⟨game, sync, here, _, _, room⟩
      · rw [same]
      · rw [room, Hall.room_setRoom]
        split
        next same => rw [same, here]; rfl
        next => rfl

theorem tx_processInput {Failure : Type} (notInitialized : Failure)
    (engineError : GameSyncError → Failure) (invalidPlayer : Nat → Nat → Failure) (gameId : UInt32)
    (ref : GameRef) (playerId : Nat) (input : ClientInput) (state : AppState) :
    (processInput notInitialized engineError invalidPlayer gameId ref playerId input state).2.tx =
      state.tx := by
  unfold processInput
  dsimp only
  split
  · rfl
  · split
    · rfl
    · split <;> rfl

theorem posts_handleGameData (posted : state.Posted opened) (data : Bytes) (src : SocketAddr) :
    ((handleGameData data src).run state).2.Posted opened := by
  have screens : Task.Leaves (AppState.screens opened) (handleGameData data src) := by
    unfold handleGameData
    cases parseGameData data with
    | none => exact (keeps_pure ()).leaves
    | some bytes =>
        refine (keeps_resolveInGame src).leaves.bind ?_
        rintro (_ | ⟨gameId, playerId⟩)
        · exact (keeps_pure ()).leaves
        refine (keeps_inspect _).leaves.bind ?_
        rintro (_ | ref)
        · exact (keeps_fail _).leaves
        refine (keeps_screens_critical (clients_processInput _ _ _ _ _ _ _)
          (tx_processInput _ _ _ _ _ _ _)).leaves.bind fun outputs => ?_
        exact Task.Leaves.forEach leaves_sendOutput outputs
  refine posted.unseen ⟨?_, screens state⟩
  ext1 gameId
  rw [listings_hall, hall_handleGameData]
  cases parseGameData data with
  | none => rfl
  | some bytes => exact listing_play state.hall (.gameData bytes) src gameId

theorem posts_handleGameCache (posted : state.Posted opened) (data : Bytes) (src : SocketAddr) :
    ((handleGameCache data src).run state).2.Posted opened := by
  have screens : Task.Leaves (AppState.screens opened) (handleGameCache data src) := by
    unfold handleGameCache
    cases parseGameCache data with
    | none => exact (keeps_pure ()).leaves
    | some position =>
        refine (keeps_resolveInGame src).leaves.bind ?_
        rintro (_ | ⟨gameId, playerId⟩)
        · exact (keeps_pure ()).leaves
        refine (keeps_inspect _).leaves.bind ?_
        rintro (_ | ref)
        · exact (keeps_fail _).leaves
        have processed : Keeps (AppState.screens opened)
            (processCache gameId ref playerId position) :=
          keeps_screens_critical (clients_processInput _ _ _ gameId ref playerId (.gameCache position))
            (tx_processInput _ _ _ gameId ref playerId (.gameCache position))
        refine processed.leaves.bind ?_
        rintro (error | outputs)
        · cases error with
          | cachePositionNotFound playerId missing =>
              exact (leaves_sendPacket (by decide) src).bind fun _ => (keeps_fail _).leaves
          | invalidPlayerId playerId playerCount => exact (keeps_fail _).leaves
          | bufferInconsistency message => exact (keeps_fail _).leaves
        · exact Task.Leaves.forEach leaves_sendOutput outputs
  refine posted.unseen ⟨?_, screens state⟩
  ext1 gameId
  rw [listings_hall, hall_handleGameCache]
  cases parseGameCache data with
  | none => rfl
  | some position => exact listing_play state.hall (.gameCache position) src gameId

/-! ## All messages -/

/-- Every message posts what it changes, also when its handler fails. -/
theorem posts_handleMessage (config : Config) (sound : state.hall.Sound Hall.nobody)
    (named : state.hall.Named) (legible : state.hall.Legible) (posted : state.Posted opened)
    (src : SocketAddr) (request : Request) :
    ((handleMessage config src request).run state).2.Posted opened := by
  cases request with
  | createGame data => exact posts_handleCreateGame legible posted data src
  | joinGame data => exact posts_handleJoinGame named posted data src
  | quitGame data => exact posts_handleQuitGame named posted src
  | userQuit data => exact posts_handleUserQuit named posted data src
  | kickUser data => exact posts_handleKickUser named posted data src
  | startGame data => exact posts_handleStartGame config sound named posted data src
  | dropGame data => exact posts_handleDropGame named posted src
  | gameData data => exact posts_handleGameData posted data src
  | gameCache data => exact posts_handleGameCache posted data src
  | readyToPlay data => exact posts_handleReadyToPlaySignal named posted data src

end Handlers

end Direlera.Lobby
