import Direlera.Lobby.BoardHandlers
import Direlera.Lobby.Snapshot

/-!
# Game lists

A client which completes its handshake takes the games of the server from a snapshot; from
then on every handler posts what it changes. So the lists stay true, as long as no snapshot
is too long for its message.
-/

namespace Direlera.Lobby

open Direlera.Library Direlera.Sync Direlera.Wire

/-! ## A measured ping -/

/-- What the server knows of a member besides its ping. -/
def Member.unmeasured (member : Member) : Member := { member with ping := 0 }

namespace Hall

variable {hall after : Hall} {late : UInt32 → SocketAddr → Prop}

/-- Only pings differ. -/
structure Repinged (before after : Hall) : Prop where
  member : ∀ addr, (after.member addr).map Member.unmeasured =
    (before.member addr).map Member.unmeasured
  room : after.room = before.room

theorem Repinged.gameOf (repinged : hall.Repinged after) (addr : SocketAddr) :
    after.gameOf addr = hall.gameOf addr := by
  have apart : ∀ known : Option Member,
      known.bind Member.gameId = (known.map Member.unmeasured).bind Member.gameId := by
    rintro (_ | member) <;> rfl
  rw [Hall.gameOf, Hall.gameOf, apart, repinged.member addr, ← apart]

/-- Who is known after a measurement was known before. -/
theorem Repinged.known (repinged : hall.Repinged after) {addr : SocketAddr} {member : Member}
    (here : after.member addr = some member) :
    ∃ earlier, hall.member addr = some earlier ∧ earlier.unmeasured = member.unmeasured := by
  have same := repinged.member addr
  rw [here, Option.map_some] at same
  exact Option.map_eq_some_iff.mp same.symm

theorem Repinged.sound (repinged : hall.Repinged after) (sound : hall.Sound late) :
    after.Sound late where
  rooms := by
    rw [repinged.room]
    exact sound.rooms
  seated := by
    intro gameId game here player listed
    rw [repinged.room] at here
    rw [repinged.gameOf]
    exact sound.seated gameId game here player listed
  lan := by
    intro addr member here
    obtain ⟨earlier, known, same⟩ := repinged.known here
    have connType := congrArg Member.connType same
    exact connType.symm.trans (sound.lan addr earlier known)

theorem Repinged.legible (repinged : hall.Repinged after) (legible : hall.Legible) :
    after.Legible where
  rooms := by
    rw [repinged.room]
    exact legible.rooms
  members := by
    intro addr member here
    obtain ⟨earlier, known, same⟩ := repinged.known here
    have username := congrArg Member.username same
    have emulatorName := congrArg Member.emulatorName same
    simp only [Member.unmeasured] at username emulatorName
    obtain ⟨plainUser, plainEmulator, shortUser, shortEmulator⟩ := legible.members addr earlier known
    rw [username] at plainUser shortUser
    rw [emulatorName] at plainEmulator shortEmulator
    exact ⟨plainUser, plainEmulator, shortUser, shortEmulator⟩

end Hall

/-! ## Counting an acknowledgement -/

section Counting

variable {opened : Listing} {state next : AppState} {src : SocketAddr}

theorem ackCount_acknowledge (ping : UInt32) (client : ClientInfo) :
    (client.acknowledge ping).ackCount = client.ackCount + 1 := by
  unfold ClientInfo.acknowledge
  split
  next wrapped => exact wrapped.symm
  next => rfl

theorem unmeasured_acknowledge (ping : UInt32) (client : ClientInfo) :
    (client.acknowledge ping).toMember.unmeasured = client.toMember.unmeasured := by
  unfold ClientInfo.acknowledge
  split <;> rfl

/-- The count of one client goes up, and maybe its ping changes; nothing else does. -/
structure AppState.Counts (src : SocketAddr) (before after : AppState) : Prop where
  hall : before.hall.Repinged after.hall
  games : after.games = before.games
  tx : after.tx = before.tx
  byAddr : after.clients.byAddr = before.clients.byAddr
  others : ∀ addr, addr ≠ src → after.clients.find addr = before.clients.find addr
  acks : after.acks src = (before.acks src).map (· + 1)

/-- The section which counts an acknowledgement of a registered client. -/
theorem run_count (ping : UInt32) {client : ClientInfo} (found : state.clients.find src = some client) :
    ∃ next, (updateClient src fun client =>
        (client.ackCount + 1, client.acknowledge ping)).run state =
      (.ok (client.ackCount + 1), next) ∧ state.Counts src next := by
  obtain ⟨session, here, known⟩ := state.clients.session_of_find found
  refine ⟨{ state with
    clients := state.clients.update session (ClientInfo.acknowledge ping)
    handed := state.handed ++ [] }, ?_, ?_⟩
  · rw [updateClient, updateClientLogging, Task.run_bind, Task.run_inspect, here]
    simp only [Task.run_critical, known]
  · have changed := state.clients.find_update here (ClientInfo.acknowledge ping)
    refine ⟨⟨fun addr => ?_, rfl⟩, rfl, rfl, rfl, fun addr other => ?_, ?_⟩
    · rw [hall_member, hall_member, Option.map_map, Option.map_map]
      exact state.clients.map_find_update (unmeasured_acknowledge ping) session addr
    · change (state.clients.update session (ClientInfo.acknowledge ping)).find addr = _
      rw [changed, Function.update_of_ne other]
    · change ((state.clients.update session (ClientInfo.acknowledge ping)).find src).map _ = _
      rw [changed, Function.update_self, AppState.acks, Option.map_map, Option.map_map]
      congr 1
      funext other
      exact ackCount_acknowledge ping other

/-- The snapshot for a client leaves it out, so that its own count does not matter. -/
theorem AppState.Counts.statusSize (counts : state.Counts src next) :
    next.statusSize src = state.statusSize src := by
  have visible : next.visibleUser src = state.visibleUser src := by
    ext1 addr
    unfold AppState.visibleUser
    split
    next => rfl
    next other => rw [counts.others addr other]
  rw [AppState.statusSize, counts.byAddr, visible, counts.games, AppState.statusSize]

theorem AppState.Counts.listings (counts : state.Counts src next) :
    next.listings = state.listings := by
  ext1 gameId
  rw [AppState.listings, counts.games, AppState.listings]

theorem AppState.Counts.board (counts : state.Counts src next) :
    next.board opened = state.board opened := by
  ext1 addr
  rw [AppState.board, counts.tx, AppState.board]

/-- The other screens do not change. -/
theorem AppState.Counts.screens (counts : state.Counts src next) {addr : SocketAddr}
    (other : addr ≠ src) : next.screens opened addr = state.screens opened addr := by
  rw [AppState.screens, AppState.screens, counts.others addr other, counts.board]

end Counting

/-! ## Acknowledgements -/

/-- A lobby in order, with legible names, whose games all screens show. -/
structure AppState.Listed (opened : Listing) (state : AppState) : Prop where
  sound : state.hall.Sound Hall.nobody
  named : state.hall.Named
  legible : state.hall.Legible
  posted : state.Posted opened

section Acknowledging

variable {opened : Listing} {state next : AppState} {src : SocketAddr}

/-- What follows a change which no list shows. -/
theorem AppState.Listed.unseen (listed : state.Listed opened) (hall : next.hall = state.hall)
    (screens : next.screens opened = state.screens opened) : next.Listed opened where
  sound := by
    rw [hall]
    exact listed.sound
  named := by
    rw [hall]
    exact listed.named
  legible := by
    rw [hall]
    exact listed.legible
  posted := listed.posted.unseen (unseen_of_room (congrArg Hall.room hall) screens)

/-- After the snapshot, a client is told nothing about games. -/
theorem leaves_welcomeRest (surroundings : Surroundings) (src : SocketAddr) :
    let rest : Handler Unit := do
      let joined ← makeUserJoined src
      broadcastPacket Msg.userJoined joined
      Task.forEach (makeServerInformation surroundings.welcome) fun information =>
        sendPacket src Msg.serverInformation information
    Quiet rest ∧ Task.Leaves (AppState.screens opened) rest := by
  have told : Quiet (Task.forEach (makeServerInformation surroundings.welcome) fun information =>
      sendPacket src Msg.serverInformation information) ∧
        Task.Leaves (AppState.screens opened) (Task.forEach
          (makeServerInformation surroundings.welcome) fun information =>
            sendPacket src Msg.serverInformation information) :=
    ⟨Task.Each.forEach (fun _ => quiet_sendPacket src _ _) _,
      Task.Leaves.forEach (fun _ => leaves_sendPacket (by decide) src) _⟩
  constructor
  · refine Task.Each.bind ?_ fun joined => Task.Each.bind (quiet_broadcastPacket _ _) fun _ => told.1
    refine Task.Each.bind (keeps_inspect _) ?_
    rintro (_ | client)
    · exact keeps_fail _
    · exact keeps_pure _
  · refine Task.Leaves.bind ?_ fun joined =>
      (leaves_broadcastPacket (by decide)).bind fun _ => told.2
    refine (keeps_inspect _).leaves.bind ?_
    rintro (_ | client)
    · exact (keeps_fail _).leaves
    · exact (keeps_pure _).leaves

/-- Whose handshake is complete receives a snapshot; nobody else hears about games. -/
theorem run_ackComplete (opened : Listing) {client : ClientInfo} (found : state.clients.find src = some client)
    (complete : numAcksForSpeedTest < client.ackCount + 1) (surroundings : Surroundings) :
    let next := ((handleClientToServerAck surroundings src).run state).2
    ∃ (counted : AppState) (message : Message), state.Counts src counted ∧
      (∃ drawer : ClientInfo, message.data = (drawer.makeSendPacket Msg.serverStatus
        (counted.serverStatus surroundings.users surroundings.games src)).1) ∧
      next.hall = counted.hall ∧ next.screens opened = fun addr =>
        if addr = src then some ((state.board opened src).receive opened message)
        else state.screens opened addr := by
  intro next
  obtain ⟨counted, ran, counts⟩ := run_count surroundings.ping found
  have positive : client.ackCount + 1 ≠ 0 := by
    intro wrapped
    rw [wrapped] at complete
    exact absurd complete (by decide)
  have count : counted.acks src = some (client.ackCount + 1) := by
    rw [counts.acks, AppState.acks, found]
    rfl
  have registered : (counted.hall.member src).isSome = true := by
    have known := congrArg Option.isSome count
    rw [AppState.acks, Option.isSome_map, Option.isSome_some] at known
    rw [hall_member, Option.isSome_map, known]
  have made := run_makeServerStatus surroundings.users surroundings.games src counted
  obtain ⟨message, middle, sent, hall, acks, drawn, board⟩ := @run_sendRegistered opened counted
    Msg.serverStatus (counted.serverStatus surroundings.users surroundings.games src) src registered
  obtain ⟨quiet, leaves⟩ := @leaves_welcomeRest opened surroundings src
  have welcomed : (handleClientToServerAck surroundings src).run state =
      (welcomeClient surroundings src).run counted := by
    rw [handleClientToServerAck, Task.run_bind_ok ran, if_neg positive, if_pos complete]
  rw [welcomeClient, Task.run_bind_ok made, Task.run_bind_ok sent] at welcomed
  refine ⟨counted, message, counts, drawn, ?_, ?_⟩
  · exact (congrArg (fun outcome => outcome.2.hall) welcomed).trans ((quiet.hall middle).trans hall)
  · refine (congrArg (fun outcome => outcome.2.screens opened) welcomed).trans
      ((leaves middle).trans ?_)
    ext1 addr
    simp only [AppState.screens, any_complete, acks, board, counts.board]
    by_cases same : addr = src
    · subst same
      rw [if_pos rfl, Function.update_self, count]
      simp [complete]
    · rw [if_neg same, Function.update_of_ne same, ← any_complete, counts.others addr same,
        any_complete]

/-- The snapshot which an acknowledgement asks for fits into a message. -/
def AppState.ListFits (state : AppState) (arrival : SocketAddr × Arrival) : Prop :=
  match arrival.2 with
  | .request _ => True
  | .ack _ => ∀ ackCount ∈ state.acks arrival.1, numAcksForSpeedTest < ackCount + 1 →
      state.statusSize arrival.1 ≤ maxPayload

instance decidableListFits (state : AppState) (arrival : SocketAddr × Arrival) :
    Decidable (state.ListFits arrival) :=
  match arrival with
  | (_, .request _) => inferInstanceAs (Decidable True)
  | (src, .ack _) => @Option.decidableForallMem _
      (fun ackCount => numAcksForSpeedTest < ackCount + 1 → state.statusSize src ≤ maxPayload) _
      (state.acks src)

/-- A client whose handshake is not complete shows nothing. -/
theorem AppState.Counts.posted (counts : state.Counts src next) (posted : state.Posted opened)
    (silent : next.screens opened src = none) : next.Posted opened := by
  rw [AppState.Posted, counts.listings]
  refine Fresh.forget posted fun addr board here => ?_
  have other : addr ≠ src := by
    rintro rfl
    rw [silent] at here
    cases here
  rw [← counts.screens other]
  exact here

/-- The lobby after an acknowledgement was counted, before anything is sent. -/
theorem AppState.Counts.listed (counts : state.Counts src next) (listed : state.Listed opened)
    (silent : next.screens opened src = none) : next.Listed opened where
  sound := counts.hall.sound listed.sound
  named := listed.named.of_eq counts.hall.room
  legible := counts.hall.legible listed.legible
  posted := counts.posted listed.posted silent

/-- A snapshot whose length wraps around to nothing is not read. -/
theorem run_ackUnread (opened : Listing) {client : ClientInfo} (found : state.clients.find src = some client)
    (complete : numAcksForSpeedTest < client.ackCount + 1) (surroundings : Surroundings)
    (wraps : UInt16.ofNat (state.statusSize src) + 1 = 0) :
    let next := ((handleClientToServerAck surroundings src).run state).2
    (next.clients.find src).any ClientInfo.complete = true ∧
      next.board opened src = state.board opened src ∧ next.listings = state.listings := by
  obtain ⟨counted, message, counts, ⟨drawer, drawn⟩, hall, screens⟩ :=
    run_ackComplete opened found complete surroundings
  have unread : message.newest = none :=
    newest_wrapped drawn (by rwa [length_serverStatus, counts.statusSize])
  have shown := congrFun screens src
  rw [if_pos rfl, Board.receive, unread] at shown
  obtain ⟨stays, board⟩ := Option.ite_none_right_eq_some.mp shown
  refine ⟨stays, Option.some.inj board, ?_⟩
  ext1 gameId
  rw [listings_hall, hall, ← listings_hall, counts.listings]

/-- A snapshot which fits shows a client the games of the server. -/
theorem AppState.Listed.welcome (listed : state.Listed opened) {client : ClientInfo}
    (found : state.clients.find src = some client)
    (complete : numAcksForSpeedTest < client.ackCount + 1) (surroundings : Surroundings)
    (fits : state.statusSize src ≤ maxPayload) :
    ((handleClientToServerAck surroundings src).run state).2.Listed opened := by
  obtain ⟨counted, message, counts, ⟨drawer, drawn⟩, hall, screens⟩ :=
    run_ackComplete opened found complete surroundings
  have sound := counts.hall.sound listed.sound
  have named : counted.hall.Named := listed.named.of_eq counts.hall.room
  have legible := counts.hall.legible listed.legible
  have short : counted.statusSize src ≤ maxPayload := by
    rw [counts.statusSize]
    exact fits
  have received : (state.board opened src).receive opened message = counted.listings := by
    rw [Board.receive_fits drawn (by rwa [length_serverStatus])]
    exact hear_snapshot sound named legible _ _ short _
  refine ⟨hall ▸ sound, hall ▸ named, hall ▸ legible, ?_⟩
  have listings : ((handleClientToServerAck surroundings src).run state).2.listings =
      state.listings := by
    ext1 gameId
    rw [listings_hall, hall, ← listings_hall, counts.listings]
  rw [AppState.Posted, listings, screens]
  intro addr board here
  dsimp only at here
  split at here
  next =>
    rw [received, counts.listings] at here
    exact (Option.some.inj here).symm
  next => exact listed.posted addr board here

/-- An acknowledgement keeps the lists, if the snapshot which it asks for fits. -/
theorem AppState.Listed.ack (listed : state.Listed opened) (surroundings : Surroundings)
    (fits : state.ListFits (src, .ack surroundings)) :
    ((handleClientToServerAck surroundings src).run state).2.Listed opened := by
  cases found : state.clients.find src with
  | none =>
      obtain ⟨report, failed⟩ := run_updateClient_missing found [] fun client =>
        (client.ackCount + 1, client.acknowledge surroundings.ping)
      have same : ((handleClientToServerAck surroundings src).run state).2 = state :=
        congrArg Prod.snd (Task.run_bind_error failed)
      rw [same]
      exact listed
  | some client =>
      by_cases complete : numAcksForSpeedTest < client.ackCount + 1
      · refine listed.welcome found complete surroundings ?_
        exact fits client.ackCount (by rw [AppState.acks, found]; rfl) complete
      · obtain ⟨counted, ran, counts⟩ := run_count surroundings.ping found
        have silent : counted.screens opened src = none := by
          rw [AppState.screens, any_complete, counts.acks, AppState.acks, found]
          simp [complete]
        have before : counted.Listed opened := counts.listed listed silent
        rw [handleClientToServerAck, Task.run_bind_ok ran]
        by_cases wrapped : client.ackCount + 1 = 0
        · rw [if_pos wrapped]
          exact before
        · rw [if_neg wrapped, if_neg complete]
          exact before.unseen ((quiet_sendPacket src _ _).hall counted)
            (leaves_sendPacket (by decide) src counted)

/-! ## All runs -/

/-- Every handler keeps the lists, also when it fails. -/
theorem AppState.Listed.step (listed : state.Listed opened) (config : Config)
    (arrival : SocketAddr × Arrival) (fits : state.ListFits arrival) :
    ((lobby config).step state arrival).2.Listed opened := by
  obtain ⟨src, request | surroundings⟩ := arrival
  · have hall := hall_step config state (src, request)
    have posted := posts_handleMessage config listed.sound listed.named listed.legible
      listed.posted src request
    refine ⟨?_, ?_, ?_, posted⟩
    · exact hall ▸ listed.sound.handle config src request
    · exact hall ▸ listed.named.handle config src request
    · exact hall ▸ listed.legible.handle listed.sound config src request
  · exact listed.ack surroundings fits

/-- The names of the clients are texts of the datagrams with which they logged in. -/
def AppState.ReadNames (state : AppState) : Prop :=
  ∀ addr client, state.clients.find addr = some client → ∃ data : Bytes,
    data.length ≤ receiveBuffer ∧ client.username = (readStringBytes data).1.take 31 ∧
      client.emulatorName = (readStringBytes (readStringBytes data).2).1

theorem AppState.ReadNames.ofLogins {clients : List (SocketAddr × ClientInfo)}
    (addrs : (clients.map Prod.fst).Nodup)
    (sessions : (clients.map fun client => client.2.sessionId).Nodup)
    (texts : ∀ login ∈ clients, ∃ data : Bytes, data.length ≤ receiveBuffer ∧
      login.2.username = (readStringBytes data).1.take 31 ∧
        login.2.emulatorName = (readStringBytes (readStringBytes data).2).1) :
    (AppState.opened (.ofLogins clients addrs sessions)).ReadNames := by
  intro addr client found
  obtain ⟨login, member, rfl⟩ := ClientRegistry.mem_of_find_ofLogins addrs sessions found
  exact texts login member

/-- Nobody is shown a game before there is one. -/
theorem AppState.Opening.listed (opening : state.Opening) (names : state.ReadNames) :
    state.Listed opened where
  sound := opening.sound
  named := by simp [Hall.Named, opening.noGames]
  legible := by
    refine ⟨fun addr member known => ?_, by simp [opening.noGames]⟩
    rw [hall_member] at known
    obtain ⟨client, found, rfl⟩ := Option.map_eq_some_iff.mp known
    obtain ⟨data, short, username, emulatorName⟩ := names addr client found
    obtain ⟨plain, first⟩ := readStringBytes_spec data
    obtain ⟨plainNext, second⟩ := readStringBytes_spec (readStringBytes data).2
    refine ⟨?_, ?_, ?_, ?_⟩
    · rw [username]
      exact fun member => plain (List.mem_of_mem_take member)
    · rw [emulatorName]
      exact plainNext
    · rw [username]
      exact List.length_take_le 31 _
    · rw [emulatorName]
      omega
  posted := by
    intro addr board here
    obtain ⟨_, shown⟩ := Option.ite_none_right_eq_some.mp here
    obtain rfl := Option.some.inj shown
    ext1 gameId
    rw [AppState.board, opening.noOutput, AppState.listings, opening.noGames]
    rfl

end Acknowledging

/-- After every run of complete handlers, whoever has completed the handshake has rebuilt the
games of the server, if no snapshot on the way was too long for its message. -/
theorem game_lists_agree (config : Config) (opened : Listing) {start : AppState}
    (opening : start.Opening) (names : start.ReadNames) {arrivals : List (SocketAddr × Arrival)}
    (fits : (lobby config).Along AppState.ListFits start arrivals) {addr : SocketAddr}
    (complete : (((lobby config).final start arrivals).clients.find addr).any
      ClientInfo.complete = true) :
    ((lobby config).final start arrivals).board opened addr =
      ((lobby config).final start arrivals).listings := by
  have listed : ((lobby config).final start arrivals).Listed opened :=
    (lobby config).invariant_along (AppState.Listed opened)
      (fun state arrival listed fits => listed.step config arrival fits) (opening.listed names) fits
  exact listed.posted addr _ (if_pos complete)

/-- A short ping and a short welcome; the maps yield users and games in opposite orders. -/
def plainSurroundings : Surroundings :=
  ⟨20, [ascii "Welcome"], ⟨id, fun _ => .refl _⟩, ⟨List.reverse, List.reverse_perm⟩⟩

/-- A client acknowledges. -/
def acknowledges (src : SocketAddr) : SocketAddr × Arrival := (src, .ack plainSurroundings)

/-- The first client creates a game before the second one is welcomed. -/
def lateWelcome : List (SocketAddr × Arrival) :=
  [(1, .request (.createGame [0, 71, 0])), acknowledges 2, acknowledges 2, acknowledges 2,
    acknowledges 2, (2, .request (.joinGame [0, 1, 0, 0, 0, 0, 0, 0, 0, 0, 0, 0, 1]))]

theorem twoClients_readNames : twoClients.ReadNames := by
  refine .ofLogins _ _ fun login member => ?_
  obtain ⟨_, _, rfl⟩ := List.mem_map.mp member
  exact ⟨[], Nat.zero_le _, rfl, rfl⟩

/-- The second client joins a game which a snapshot showed it. -/
theorem game_lists_agree_late_welcome :
    ((lobby oneFrame).final twoClients lateWelcome).board ⟨0, 0, 0⟩ 2 =
        ((lobby oneFrame).final twoClients lateWelcome).listings ∧
      ((lobby oneFrame).final twoClients lateWelcome).listings 1 = some ⟨0, 2, 4⟩ :=
  ⟨game_lists_agree oneFrame ⟨0, 0, 0⟩ twoClients_opening twoClients_readNames
    (by decide +kernel) (by decide +kernel), by decide +kernel⟩

/-! ## A snapshot which is too long -/

/-- The name of the emulator is long. -/
def crowdLogin (addr : SocketAddr) : ClientInfo :=
  .login [.ofNat addr] (List.replicate (if addr < 17 then 4000 else 1288) 65) 1 (.ofNat addr) addr

/-- Eighteen clients in the lobby. -/
def crowd : AppState :=
  .opened (.ofLogins ((List.range' 1 18).map fun addr => (addr, crowdLogin addr))
    (by simpa [Function.comp_def] using List.nodup_range')
    (by simpa [Function.comp_def, crowdLogin, ClientInfo.login] using List.nodup_range'))

theorem crowd_opening : crowd.Opening := by
  refine .ofLogins _ _ fun login member => ?_
  obtain ⟨addr, _, rfl⟩ := List.mem_map.mp member
  exact ⟨rfl, rfl⟩

/-- Texts which fit into a datagram are read from it. -/
theorem readTexts {username emulatorName : Bytes} (plain : 0 ∉ username)
    (plainEmulator : 0 ∉ emulatorName) (short : username.length ≤ 31)
    (fits : username.length + emulatorName.length + 2 ≤ receiveBuffer) :
    ∃ data : Bytes, data.length ≤ receiveBuffer ∧ username = (readStringBytes data).1.take 31 ∧
      emulatorName = (readStringBytes (readStringBytes data).2).1 := by
  refine ⟨username ++ 0 :: (emulatorName ++ [0]), ?_, ?_, ?_⟩
  · simp only [List.length_append, List.length_cons, List.length_nil]
    omega
  · rw [readStringBytes_text plain, List.take_of_length_le short]
  · rw [readStringBytes_text plain, readStringBytes_text plainEmulator]

theorem crowd_readNames : crowd.ReadNames := by
  refine .ofLogins _ _ fun login member => ?_
  obtain ⟨number, here, rfl⟩ := List.mem_map.mp member
  have plain : ∀ number ∈ List.range' 1 18, (0 : UInt8) ∉ [UInt8.ofNat number] := by decide
  refine readTexts (plain number here) ?_ (Nat.le_add_left 1 30) ?_
  · intro member
    exact absurd (List.eq_of_mem_replicate member) (by decide)
  · simp only [crowdLogin, ClientInfo.login, List.length_replicate, List.length_singleton,
      receiveBuffer]
    split <;> omega

/-- All but the last client create games; the last one acknowledges. -/
def crowding : List (SocketAddr × Arrival) :=
  (List.range' 1 17).map (fun addr => (addr, .request (.createGame [0, 71, 0]))) ++
    List.replicate 3 (acknowledges 18)

/-- The last client is about to be welcomed. -/
def crowded : AppState := (lobby oneFrame).final crowd crowding

theorem statusSize_crowded : crowded.statusSize 18 = 65535 := by decide +kernel

/-- The client which is welcomed with a snapshot of 65535 bytes is shown no game. -/
theorem list_lost_to_long_snapshot :
    crowd.Opening ∧ crowd.ReadNames ∧
      (((lobby oneFrame).final crowd (crowding ++ [acknowledges 18])).clients.find 18).any
        ClientInfo.complete = true ∧
      ((lobby oneFrame).final crowd (crowding ++ [acknowledges 18])).board ⟨0, 0, 0⟩ 18 ≠
        ((lobby oneFrame).final crowd (crowding ++ [acknowledges 18])).listings := by
  have counted : crowded.acks 18 = some 3 := by decide +kernel
  have unlike : crowded.board ⟨0, 0, 0⟩ 18 1 ≠ crowded.listings 1 := by decide +kernel
  obtain ⟨client, found, three⟩ := Option.map_eq_some_iff.mp counted
  have complete : numAcksForSpeedTest < client.ackCount + 1 := by
    rw [three]
    decide
  obtain ⟨stays, board, listings⟩ := run_ackUnread ⟨0, 0, 0⟩ found complete plainSurroundings
    (by rw [statusSize_crowded]; decide)
  have step : ∀ state, (lobby oneFrame).step state (acknowledges 18) =
      (handleClientToServerAck plainSurroundings 18).run state := fun _ => rfl
  rw [Transducer.final_concat, ← crowded, step]
  refine ⟨crowd_opening, crowd_readNames, stays, fun same => unlike ?_⟩
  have shown := congrFun same 1
  rw [← board, ← listings]
  exact shown

end Direlera.Lobby
