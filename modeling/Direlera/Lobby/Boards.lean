import Direlera.Library.Mirror
import Direlera.Lobby.DropRuns
import Direlera.Lobby.Handshake
import Direlera.Wire.Grammar

/-!
# Boards

A client keeps a board, which shows the games by id. It rebuilds the board from the newest
messages of the datagrams which are queued for it, in their order. The screens are the boards
of the clients whose handshake is complete.
-/

namespace Direlera.Lobby

open Direlera.Library Direlera.Sync Direlera.Wire

/-! ## Newest messages -/

/-- The newest message of a datagram, as the parser reads it. -/
def Message.newest (message : Message) : Option ParsedMessage :=
  match parsePacket (1 :: message.data.tail) with
  | .ok (newest :: _) => some newest
  | _ => none

/-- The packet of the newest message comes first. -/
theorem tail_makeSendPacket (client : ClientInfo) (packetType : UInt8) (data : Bytes) :
    ∃ seq older, (client.makeSendPacket packetType data).1.tail =
      makePacket packetType seq data ++ older := by
  simp only [ClientInfo.makeSendPacket, UDPPacketGenerator.makeSendPacket, List.tail_cons,
    List.reverse_append, List.reverse_singleton, List.singleton_append, List.flatten_cons]
  exact ⟨_, _, rfl⟩

theorem parsePacket_one (buf : Bytes) : parsePacket (1 :: buf) = parseMessages (1 :: buf) 1 1 buf :=
  rfl

theorem type_makePacket (packetType : UInt8) (seq : UInt16) (data rest : Bytes) :
    (makePacket packetType seq data ++ rest)[4]? = some packetType := by
  simp [makePacket, putU16Le, littleEndianBytes]

section Newest

variable {message : Message} {client : ClientInfo} {packetType : UInt8} {data : Bytes}

/-- Whatever the parser makes of a packet, it reads the type. -/
theorem newest_type (drawn : message.data = (client.makeSendPacket packetType data).1)
    {newest : ParsedMessage} (reads : message.newest = some newest) :
    newest.messageType = packetType := by
  obtain ⟨seq, older, tail⟩ := tail_makeSendPacket client packetType data
  rw [Message.newest, drawn, tail, parsePacket_one] at reads
  split at reads
  next first later parsed =>
    obtain rfl := Option.some.inj reads
    obtain ⟨other, _, rest, same, _, split, _⟩ := parseMessages_succ_iff.mp parsed
    obtain rfl := (List.cons.inj same).1
    have read := congrArg (fun buf : Bytes => buf[4]?) split
    simp only [ParsedMessage.packet, type_makePacket] at read
    exact (Option.some.inj read).symm
  next => cases reads

/-- A message whose length fits its field is read as it was made. -/
theorem newest_fits (drawn : message.data = (client.makeSendPacket packetType data).1)
    (fits : data.length ≤ maxPayload) :
    ∃ seq, message.newest = some (parsedMessage packetType seq data) := by
  obtain ⟨seq, older, tail⟩ := tail_makeSendPacket client packetType data
  refine ⟨seq, ?_⟩
  rw [Message.newest, drawn, tail, parsePacket_one, parseMessages_makePacket _ _ _ _ _ fits]
  rfl

/-- A message whose length wraps around to nothing is refused. -/
theorem newest_wrapped (drawn : message.data = (client.makeSendPacket packetType data).1)
    (wraps : UInt16.ofNat data.length + 1 = 0) : message.newest = none := by
  obtain ⟨seq, older, tail⟩ := tail_makeSendPacket client packetType data
  have enough : ¬(makePacket packetType seq data ++ older).length < 5 := by
    rw [List.length_append, length_makePacket]
    omega
  rw [Message.newest, drawn, tail, parsePacket_one, parseMessages]
  simp only [enough, if_false]
  simp only [makePacket, wraps, List.append_assoc, getU16Le_putU16Le, List.cons_append,
    List.nil_append, getU8]
  rfl

end Newest

/-! ## The board of a client -/

/-- What a list of games shows of a game. -/
def GameInfo.listing (game : GameInfo) : Listing :=
  ⟨game.gameStatus, game.numPlayers, game.maxPlayers⟩

/-- What a client shows of the games. -/
abbrev Board := UInt32 → Option Listing

namespace Board

/-- The messages which are about games. -/
def gameTypes : List UInt8 :=
  [Msg.serverStatus, Msg.createGame, Msg.updateGameStatus, Msg.closeGame]

/-- A message changes the board. A new game is shown as `opened` until its status comes. -/
def hear (opened : Listing) (packetType : UInt8) (data : Bytes) (board : Board) : Board :=
  if packetType = Msg.serverStatus then
    match readServerStatus.run data with
    | some (games, _) => fun gameId => games.lookup gameId
    | none => board
  else if packetType = Msg.createGame then
    match readNewGame.run data with
    | some (gameId, _) => Function.update board gameId (some opened)
    | none => board
  else if packetType = Msg.updateGameStatus then
    match readGameStatus.run data with
    | some ((gameId, listing), _) => Function.update board gameId (some listing)
    | none => board
  else if packetType = Msg.closeGame then
    match readClosedGame.run data with
    | some (gameId, _) => Function.update board gameId none
    | none => board
  else board

/-- A datagram is heard by its newest message. -/
def receive (opened : Listing) (board : Board) (message : Message) : Board :=
  match message.newest with
  | some newest => board.hear opened newest.messageType newest.data
  | none => board

variable {opened : Listing} {packetType : UInt8}

theorem hear_other (other : packetType ∉ gameTypes) (data : Bytes) (board : Board) :
    board.hear opened packetType data = board := by
  simp only [gameTypes, List.mem_cons, List.not_mem_nil, or_false, not_or] at other
  obtain ⟨status, create, update, close⟩ := other
  rw [hear, if_neg status, if_neg create, if_neg update, if_neg close]

theorem hear_updateGameStatus (game : GameInfo) (board : Board) :
    board.hear opened Msg.updateGameStatus (makeUpdateGameStatus game) =
      Function.update board game.gameId (some game.listing) := by
  have read := (reads_gameStatus game.gameId game.gameStatus game.numPlayers game.maxPlayers).run
  change readGameStatus.run (makeUpdateGameStatus game) = _ at read
  rw [hear, if_neg (by decide), if_neg (by decide), if_pos rfl, read]
  rfl

theorem hear_closeGame (gameId : UInt32) (board : Board) :
    board.hear opened Msg.closeGame (buildCloseGamePacket gameId) =
      Function.update board gameId none := by
  rw [hear, if_neg (by decide), if_neg (by decide), if_neg (by decide), if_pos rfl,
    (reads_closedGame gameId).run]

theorem hear_createGame {username gameName emulatorName : Bytes} (user : 0 ∉ username)
    (name : 0 ∉ gameName) (emulator : 0 ∉ emulatorName) (gameId : UInt32) (board : Board) :
    board.hear opened Msg.createGame
        (buildNewGameNotification username gameName emulatorName gameId) =
      Function.update board gameId (some opened) := by
  have read := (reads_newGame user name emulator gameId).run
  rw [hear, if_neg (by decide), if_pos rfl, buildNewGameNotification, read]

theorem hear_serverStatus {users : List StatusUser} {games : List StatusGame}
    (usersPlain : ∀ user ∈ users, 0 ∉ user.username) (gamesPlain : ∀ game ∈ games, game.Plain)
    (fits : (buildServerStatus users games).length ≤ maxPayload) (board : Board) :
    board.hear opened Msg.serverStatus (buildServerStatus users games) =
      fun gameId => (games.map StatusGame.entry).lookup gameId := by
  rw [hear, if_pos rfl, (reads_serverStatus usersPlain gamesPlain fits).run]

/-- What a drawn message does, if its length fits its field. -/
theorem receive_fits {message : Message} {client : ClientInfo} {data : Bytes}
    (drawn : message.data = (client.makeSendPacket packetType data).1)
    (fits : data.length ≤ maxPayload) (board : Board) :
    board.receive opened message = board.hear opened packetType data := by
  obtain ⟨seq, reads⟩ := newest_fits drawn fits
  simp only [receive, reads]
  rfl

/-- A message which is not about games changes no board, however long it is. -/
theorem receive_other {message : Message} {client : ClientInfo} {data : Bytes}
    (drawn : message.data = (client.makeSendPacket packetType data).1)
    (other : packetType ∉ gameTypes) (board : Board) : board.receive opened message = board := by
  rw [receive]
  split
  next newest reads =>
    rw [newest_type drawn reads]
    exact hear_other other newest.data board
  next => rfl

end Board

/-! ## The boards of a state -/

/-- The board of an address, from what was queued for it. -/
def AppState.board (opened : Listing) (state : AppState) (addr : SocketAddr) : Board :=
  (state.tx.filter fun message => message.addr = addr).foldl (Board.receive opened) fun _ => none

/-- The boards of the clients whose handshake is complete. -/
def AppState.screens (opened : Listing) (state : AppState) :
    Copies SocketAddr UInt32 (Option Listing) := fun addr =>
  if (state.clients.find addr).any ClientInfo.complete then some (state.board opened addr) else none

/-- What a list of games shows of the games of the server. -/
def AppState.listings (state : AppState) : Board := fun gameId =>
  (state.games.find gameId).map GameInfo.listing

/-- The acknowledgements which a client has sent. -/
def AppState.acks (state : AppState) (addr : SocketAddr) : Option UInt16 :=
  (state.clients.find addr).map ClientInfo.ackCount

section Screens

variable {opened : Listing} {state next : AppState} {packetType : UInt8} {data : Bytes}

theorem any_complete (state : AppState) (addr : SocketAddr) :
    (state.clients.find addr).any ClientInfo.complete =
      (state.acks addr).any fun ackCount => decide (numAcksForSpeedTest < ackCount) := by
  rw [AppState.acks]
  cases state.clients.find addr <;> rfl

/-- A client whose handshake is complete is registered. -/
theorem mem_of_complete {addr : SocketAddr}
    (complete : (state.clients.find addr).any ClientInfo.complete = true) :
    addr ∈ state.clients.byAddr.map Prod.fst := by
  cases found : state.clients.find addr with
  | none => simp [found] at complete
  | some client =>
      obtain ⟨session, here, _⟩ := state.clients.session_of_find found
      exact List.mem_map_of_mem (state.clients.mem_of_session here)

theorem screens_congr (acks : next.acks = state.acks) (tx : next.tx = state.tx) :
    next.screens opened = state.screens opened := by
  ext1 addr
  simp only [AppState.screens, any_complete, acks, AppState.board, tx]

/-- Acknowledgements hear no announcement. -/
theorem deaf_acks : Deaf AppState.acks where
  draws := by
    intro state session packetType data
    ext1 addr
    exact state.clients.map_find_update (by intro client; rfl) session addr
  queues := fun _ _ _ _ => rfl

/-- A change which counts no acknowledgement keeps the screens. -/
theorem keeps_screens_update {Result : Type} {handed : List TargetOutput} {addr : SocketAddr}
    {change : ClientInfo → Result × ClientInfo}
    (same : ∀ client, (change client).2.ackCount = client.ackCount) :
    Keeps (AppState.screens opened) (updateClientLogging handed addr change) := by
  apply Task.Each.bind (keeps_inspect _)
  rintro (_ | session)
  · exact keeps_fail _
  apply Task.each_critical
  intro state
  cases state.clients.byId session with
  | none => rfl
  | some client =>
      refine screens_congr ?_ rfl
      ext1 other
      exact state.clients.map_find_update same session other

/-- What a section does to the games does not concern the screens. -/
theorem keeps_screens_critical {Result : Type} {act : AppState → Except Report Result × AppState}
    (clients : ∀ state, (act state).2.clients = state.clients)
    (tx : ∀ state, (act state).2.tx = state.tx) :
    Keeps (AppState.screens opened) (Task.critical act) := by
  refine Task.each_critical fun state => screens_congr ?_ (tx state)
  ext1 addr
  rw [AppState.acks, clients]
  rfl

/-! ## Queued messages -/

theorem board_append {sent : List Message} (queued : next.tx = state.tx ++ sent)
    (addr : SocketAddr) :
    next.board opened addr =
      (sent.filter fun message => message.addr = addr).foldl (Board.receive opened)
        (state.board opened addr) := by
  rw [AppState.board, queued, List.filter_append, List.foldl_append]
  rfl

/-- Messages which are not about games change no screen. -/
theorem screens_other (acks : next.acks = state.acks) {sent : List Message}
    (queued : next.tx = state.tx ++ sent) (other : packetType ∉ Board.gameTypes)
    (drawn : ∀ message ∈ sent, ∃ client : ClientInfo,
      message.data = (client.makeSendPacket packetType data).1) :
    next.screens opened = state.screens opened := by
  have unheard : ∀ (messages : List Message) (board : Board), (∀ message ∈ messages,
      ∃ client : ClientInfo, message.data = (client.makeSendPacket packetType data).1) →
        messages.foldl (Board.receive opened) board = board := by
    intro messages
    induction messages with
    | nil => exact fun board _ => rfl
    | cons message rest ih =>
        intro board drawn
        obtain ⟨⟨client, made⟩, later⟩ := List.forall_mem_cons.mp drawn
        rw [List.foldl_cons, Board.receive_other made other, ih board later]
  ext1 addr
  simp only [AppState.screens, any_complete, acks, board_append queued,
    unheard _ _ fun message member => drawn message (List.mem_of_mem_filter member)]

/-- Messages which fit, at most one for each address, are heard by those they go to. -/
theorem screens_sent (acks : next.acks = state.acks) {sent : List Message}
    (queued : next.tx = state.tx ++ sent) (fits : data.length ≤ maxPayload)
    (drawn : ∀ message ∈ sent, ∃ client : ClientInfo,
      message.data = (client.makeSendPacket packetType data).1)
    (once : (sent.map Message.addr).Nodup) :
    next.screens opened = fun addr => if addr ∈ sent.map Message.addr
      then (state.screens opened addr).map (Board.hear opened packetType data)
      else state.screens opened addr := by
  ext1 addr
  simp only [AppState.screens, any_complete, acks, board_append queued]
  by_cases sentHere : addr ∈ sent.map Message.addr
  · have one := List.count_eq_one_of_mem once sentHere
    rw [List.count_eq_countP, List.countP_map, List.countP_eq_length_filter,
      List.length_eq_one_iff] at one
    obtain ⟨message, only⟩ := one
    have member : message ∈ sent := List.mem_of_mem_filter (only ▸ List.mem_singleton_self message)
    obtain ⟨client, made⟩ := drawn message member
    have filtered : (sent.filter fun message => message.addr = addr) = [message] := by
      rw [← only]
      exact List.filter_congr fun other _ => by simp [Bool.beq_eq_decide_eq]
    rw [if_pos sentHere, filtered, List.foldl_cons, List.foldl_nil, Board.receive_fits made fits]
    split <;> rfl
  · have nothing : (sent.filter fun message => message.addr = addr) = [] := by
      refine List.filter_eq_nil_iff.mpr fun message member => ?_
      rw [decide_eq_true_eq]
      rintro rfl
      exact sentHere (List.mem_map_of_mem member)
    rw [if_neg sentHere, nothing, List.foldl_nil]

/-! ## Broadcasts -/

/-- A broadcast which is not about games changes no screen. -/
theorem leaves_broadcast {selected : ClientInfo → Bool} (other : packetType ∉ Board.gameTypes)
    (unmoved : ∀ client : ClientInfo,
      selected (client.makeSendPacket packetType data).2 = selected client)
    (addrs : List SocketAddr) :
    Task.Leaves (AppState.screens opened) (broadcast selected packetType data addrs) := by
  intro state
  obtain ⟨sent, queued, _, drawn⟩ := tx_broadcast_drawn unmoved addrs state
  exact screens_other ((deaf_acks.broadcast _ _ _ _).keeps state) queued other
    fun message member => (drawn message member).1

theorem leaves_broadcastPacket (other : packetType ∉ Board.gameTypes) :
    Task.Leaves (AppState.screens opened) (broadcastPacket packetType data) :=
  (keeps_inspect _).leaves.bind fun addrs => leaves_broadcast other (by intro client; rfl) addrs

theorem leaves_broadcastPacketToGame (other : packetType ∉ Board.gameTypes) (gameId : UInt32) :
    Task.Leaves (AppState.screens opened) (broadcastPacketToGame gameId packetType data) := by
  refine (keeps_getGame gameId).leaves.bind ?_
  rintro (_ | game)
  · exact (keeps_fail _).leaves
  · exact leaves_broadcast other (by intro client; rfl) _

/-- Everybody whose handshake is complete hears a broadcast which fits. -/
theorem screens_broadcastPacket (fits : data.length ≤ maxPayload) (state : AppState) :
    ((broadcastPacket packetType data).run state).2.screens opened = fun addr =>
      (state.screens opened addr).map (Board.hear opened packetType data) := by
  obtain ⟨sent, queued, addresses, drawn⟩ := @tx_broadcast_drawn
    (fun client => decide (numAcksForSpeedTest < client.ackCount)) packetType data
    (fun _ => rfl) (state.clients.byAddr.map Prod.fst) state
  have once : (sent.map Message.addr).Nodup := by
    rw [addresses]
    exact state.clients.addrsDistinct.filter _
  have heard := @screens_sent opened state _ packetType data
    ((deaf_acks.broadcast _ _ _ _).keeps state) sent queued fits
    (fun message member => (drawn message member).1) once
  refine heard.trans ?_
  ext1 addr
  split
  next => rfl
  next missed =>
    have silent : state.screens opened addr = none := by
      rw [addresses, List.mem_filter, not_and] at missed
      refine if_neg fun complete => missed (mem_of_complete complete) ?_
      simpa [ClientInfo.complete, Option.any_eq_true] using complete
    rw [silent]
    rfl

/-! ## Single sends -/

/-- Drawing a packet of a client and queueing it. -/
theorem run_drawn (handed : List TargetOutput) (frame : Option Frame) (addr : SocketAddr)
    (packetType : UInt8) (data : Bytes) (state : AppState) :
    let task : Handler Unit := do
      let packet ← updateClientLogging handed addr fun client =>
        client.makeSendPacket packetType data
      sendMessage frame addr packet
    state.clients.find addr = none ∧ (task.run state).2 = state ∨
      ∃ message next, task.run state = (.ok (), next) ∧ next.acks = state.acks ∧
        next.tx = state.tx ++ [message] ∧ message.addr = addr ∧
        ∃ client : ClientInfo, message.data = (client.makeSendPacket packetType data).1 := by
  intro task
  cases found : state.clients.find addr with
  | none =>
      obtain ⟨report, failed⟩ := run_updateClient_missing found handed fun client =>
        client.makeSendPacket packetType data
      exact .inl ⟨rfl, congrArg Prod.snd (Task.run_bind_error failed)⟩
  | some client =>
      obtain ⟨session, here, known⟩ := state.clients.session_of_find found
      let drawn : AppState := { state with
        clients := state.clients.update session fun client =>
          (client.makeSendPacket packetType data).2
        handed := state.handed ++ handed }
      have updated : (updateClientLogging handed addr fun client =>
          client.makeSendPacket packetType data).run state =
            (.ok (client.makeSendPacket packetType data).1, drawn) := by
        rw [updateClientLogging, Task.run_bind, Task.run_inspect, here]
        simp only [Task.run_critical, known]
        rfl
      have acks : drawn.acks = state.acks := deaf_acks.draws state session packetType data
      exact .inr ⟨_, _, Task.run_bind_ok updated, acks, rfl, rfl, client, rfl⟩

theorem leaves_drawn (other : packetType ∉ Board.gameTypes) (handed : List TargetOutput)
    (frame : Option Frame) (addr : SocketAddr) :
    Task.Leaves (AppState.screens opened) (do
      let packet ← updateClientLogging handed addr fun client =>
        client.makeSendPacket packetType data
      sendMessage frame addr packet : Handler Unit) := by
  intro state
  rcases run_drawn handed frame addr packetType data state with
    ⟨_, same⟩ | ⟨message, next, ran, acks, queued, _, drawn⟩
  · rw [same]
  · have only : ∀ queued ∈ [message], ∃ client : ClientInfo,
        queued.data = (client.makeSendPacket packetType data).1 := by
      simpa using drawn
    rw [ran]
    exact screens_other acks queued other only

theorem leaves_sendPacket (other : packetType ∉ Board.gameTypes) (addr : SocketAddr) :
    Task.Leaves (AppState.screens opened) (sendPacket addr packetType data) :=
  leaves_drawn other [] none addr

theorem leaves_sendOutput (output : TargetOutput) :
    Task.Leaves (AppState.screens opened) (sendOutput output) := by
  have other : (responsePacket output.frame.response).1 ∉ Board.gameTypes := by
    cases output.frame.response with
    | gameData data => exact (by decide : Msg.gameData ∉ Board.gameTypes)
    | gameCache position => exact (by decide : Msg.gameCache ∉ Board.gameTypes)
  exact leaves_drawn other [output] (some output.frame) output.addr

/-- Sending to a registered client succeeds, and it receives what was drawn for it. -/
theorem run_sendRegistered {addr : SocketAddr}
    (registered : (state.hall.member addr).isSome = true) :
    ∃ message next, (sendPacket addr packetType data).run state = (.ok (), next) ∧
      next.hall = state.hall ∧ next.acks = state.acks ∧
      (∃ client : ClientInfo, message.data = (client.makeSendPacket packetType data).1) ∧
      next.board opened = Function.update (state.board opened) addr
        ((state.board opened addr).receive opened message) := by
  rw [hall_member, Option.isSome_map] at registered
  obtain ⟨client, found⟩ := Option.isSome_iff_exists.mp registered
  rcases run_drawn [] none addr packetType data state with
    ⟨missing, _⟩ | ⟨message, next, ran, acks, queued, goes, drawn⟩
  · rw [found] at missing
    cases missing
  · have hall := (quiet_sendPacket addr packetType data).hall state
    have ran : (sendPacket addr packetType data).run state = (.ok (), next) := ran
    rw [ran] at hall
    refine ⟨message, next, ran, hall, acks, drawn, ?_⟩
    ext1 other
    rw [board_append queued]
    by_cases same : other = addr
    · subst same
      rw [Function.update_self, List.filter_cons_of_pos (by simpa using goes), List.filter_nil,
        List.foldl_cons, List.foldl_nil]
    · rw [Function.update_of_ne same, List.filter_cons_of_neg (by simp [goes, Ne.symm same]),
        List.filter_nil, List.foldl_nil]

/-- Sending to a registered client succeeds, and it hears what fits. -/
theorem run_sendPacket {addr : SocketAddr}
    (registered : (state.hall.member addr).isSome = true) :
    ∃ next, (sendPacket addr packetType data).run state = (.ok (), next) ∧
      next.hall = state.hall ∧ next.acks = state.acks ∧
      (data.length ≤ maxPayload → next.board opened = Function.update (state.board opened) addr
        ((state.board opened addr).hear opened packetType data)) := by
  obtain ⟨message, next, ran, hall, acks, ⟨client, drawn⟩, board⟩ :=
    @run_sendRegistered opened state packetType data addr registered
  refine ⟨next, ran, hall, acks, fun fits => ?_⟩
  rw [board, Board.receive_fits drawn fits]

/-- Sending the same to registered clients one by one; hearing it twice is hearing it once. -/
theorem run_sendEach (fits : data.length ≤ maxPayload)
    (again : ∀ board : Board, (board.hear opened packetType data).hear opened packetType data =
      board.hear opened packetType data)
    {addrs : List SocketAddr}
    (registered : ∀ addr ∈ addrs, (state.hall.member addr).isSome = true) :
    ∃ next, (Task.forEach addrs fun addr => sendPacket addr packetType data).run state =
        (.ok (), next) ∧ next.hall = state.hall ∧ next.acks = state.acks ∧
      ∀ addr, next.board opened addr = if addr ∈ addrs
        then (state.board opened addr).hear opened packetType data
        else state.board opened addr := by
  induction addrs generalizing state with
  | nil => exact ⟨state, rfl, rfl, rfl, fun addr => by simp⟩
  | cons first rest ih =>
      obtain ⟨here, others⟩ := List.forall_mem_cons.mp registered
      obtain ⟨middle, ran, hall, acks, board⟩ :=
        @run_sendPacket opened state packetType data first here
      obtain ⟨next, rests, hallNext, acksNext, boards⟩ := @ih middle (by rwa [hall])
      have each : (Task.forEach (first :: rest) fun addr => sendPacket addr packetType data).run
          state = (.ok (), next) := (Task.run_bind_ok ran).trans rests
      refine ⟨next, each, hallNext.trans hall, acksNext.trans acks, fun addr => ?_⟩
      rw [boards, board fits]
      by_cases same : addr = first
      · subst same
        simp [again]
      · simp [same]

/-- Whoever has completed the handshake hears what everybody is sent. -/
theorem screens_sendEach (fits : data.length ≤ maxPayload)
    (again : ∀ board : Board, (board.hear opened packetType data).hear opened packetType data =
      board.hear opened packetType data) (state : AppState) :
    ∃ next, (Task.forEach (state.clients.byAddr.map Prod.fst) fun addr =>
        sendPacket addr packetType data).run state = (.ok (), next) ∧ next.hall = state.hall ∧
      next.screens opened = fun addr =>
        (state.screens opened addr).map (Board.hear opened packetType data) := by
  have registered : ∀ addr ∈ state.clients.byAddr.map Prod.fst,
      (state.hall.member addr).isSome = true := by
    intro addr member
    obtain ⟨entry, listed, rfl⟩ := List.mem_map.mp member
    obtain ⟨client, found, _⟩ :=
      state.clients.find_of_session (ClientRegistry.session_of_mem listed)
    simp [found]
  obtain ⟨next, ran, hall, acks, boards⟩ := @run_sendEach opened _ _ _ fits again _ registered
  refine ⟨next, ran, hall, ?_⟩
  ext1 addr
  simp only [AppState.screens, any_complete, acks, boards]
  rw [← any_complete]
  split
  next complete =>
    rw [if_pos (mem_of_complete complete)]
    rfl
  next => rfl

end Screens

end Direlera.Lobby
