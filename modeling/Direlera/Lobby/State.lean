import Direlera.Sync.DelayedGameSync
import Direlera.Wire.Packets

/-!
# The lobby state

Clients by address and by session, games behind shared references, and the queue of
outgoing datagrams. The two maps of the clients, and the map of the games with its
arena, carry the facts which make a lookup unambiguous.
-/

namespace Direlera.Lobby

open Direlera.Sync Direlera.Wire

/-- A socket address; only its identity matters. -/
abbrev SocketAddr := Nat

/-- A session's `Uuid`; only its identity matters. -/
abbrev SessionId := Nat

def playerStatusPlaying : UInt8 := 0
def playerStatusIdle : UInt8 := 1
def playerStatusNetSync : UInt8 := 2

def gameStatusWaiting : UInt8 := 0
def gameStatusPlaying : UInt8 := 1

/-! ## Clients -/

/-- What the lobby knows of a client, apart from its connection. -/
structure Member where
  username : Bytes
  emulatorName : Bytes
  connType : UInt8
  userId : UInt16
  ping : UInt32
  gameId : Option UInt32
deriving DecidableEq, Repr

/-- `ClientInfo`. -/
structure ClientInfo extends Member where
  sessionId : SessionId
  playerStatus : UInt8
  ackCount : UInt16
  packetGenerator : UDPPacketGenerator
deriving DecidableEq, Repr

/-- The client which `handle_user_login` registers. -/
def ClientInfo.login (username emulatorName : Bytes) (connType : UInt8) (userId : UInt16)
    (sessionId : SessionId) : ClientInfo :=
  { username, emulatorName, connType, userId, sessionId, ping := 0, gameId := none,
    playerStatus := playerStatusIdle, ackCount := 0, packetGenerator := .new }

/-- `clients_by_addr` and `clients_by_id`: distinct addresses lead to distinct
sessions, each of which has a client. -/
structure ClientRegistry where
  byAddr : List (SocketAddr × SessionId)
  byId : SessionId → Option ClientInfo
  addrsDistinct : (byAddr.map Prod.fst).Nodup
  sessionsDistinct : (byAddr.map Prod.snd).Nodup
  registered : ∀ entry ∈ byAddr, (byId entry.2).isSome

namespace ClientRegistry

variable (registry : ClientRegistry)

/-- `add_client` for clients with distinct addresses and sessions, in the order of their logins. -/
def ofLogins (clients : List (SocketAddr × ClientInfo)) (addrs : (clients.map Prod.fst).Nodup)
    (sessions : (clients.map fun client => client.2.sessionId).Nodup) : ClientRegistry where
  byAddr := clients.map fun client => (client.1, client.2.sessionId)
  byId session := (clients.find? fun client => client.2.sessionId = session).map Prod.snd
  addrsDistinct := by simpa [Function.comp_def] using addrs
  sessionsDistinct := by simpa [Function.comp_def] using sessions
  registered := by
    intro entry member
    obtain ⟨client, here, rfl⟩ := List.mem_map.mp member
    simpa using ⟨client.1, client.2, here, rfl⟩

/-- The session of an address. -/
def session (addr : SocketAddr) : Option SessionId := registry.byAddr.lookup addr

/-- The client of an address. -/
def find (addr : SocketAddr) : Option ClientInfo := (registry.session addr).bind registry.byId

/-- Whoever is found has logged in. -/
theorem mem_of_find_ofLogins {clients : List (SocketAddr × ClientInfo)}
    (addrs : (clients.map Prod.fst).Nodup)
    (sessions : (clients.map fun client => client.2.sessionId).Nodup) {addr : SocketAddr}
    {client : ClientInfo} (found : (ofLogins clients addrs sessions).find addr = some client) :
    ∃ login ∈ clients, login.2 = client := by
  obtain ⟨session, _, known⟩ := Option.bind_eq_some_iff.mp found
  obtain ⟨login, here, same⟩ := Option.map_eq_some_iff.mp known
  exact ⟨login, List.mem_of_find?_eq_some here, same⟩

/-- Change the client of a session, if there is one. -/
def update (session : SessionId) (change : ClientInfo → ClientInfo) : ClientRegistry where
  byAddr := registry.byAddr
  byId := Function.update registry.byId session ((registry.byId session).map change)
  addrsDistinct := registry.addrsDistinct
  sessionsDistinct := registry.sessionsDistinct
  registered := by
    intro entry member
    by_cases same : entry.2 = session
    · simpa [← same] using registry.registered entry member
    · simpa [same] using registry.registered entry member

theorem session_inj {first second : SocketAddr × SessionId}
    (firstIn : first ∈ registry.byAddr) (secondIn : second ∈ registry.byAddr)
    (same : first.2 = second.2) : first = second :=
  List.inj_on_of_nodup_map registry.sessionsDistinct firstIn secondIn same

theorem mem_of_session {addr : SocketAddr} {session : SessionId}
    (here : registry.session addr = some session) : (addr, session) ∈ registry.byAddr := by
  obtain ⟨before, after, split, _⟩ := List.lookup_eq_some_iff.mp here
  simp [split]

/-- Forget an address together with its session. -/
def remove (addr : SocketAddr) : ClientRegistry where
  byAddr := registry.byAddr.filter fun entry => entry.1 ≠ addr
  byId :=
    match registry.session addr with
    | some session => Function.update registry.byId session none
    | none => registry.byId
  addrsDistinct := registry.addrsDistinct.sublist (List.filter_sublist.map Prod.fst)
  sessionsDistinct := registry.sessionsDistinct.sublist (List.filter_sublist.map Prod.snd)
  registered := by
    intro entry member
    obtain ⟨known, other⟩ := List.mem_filter.mp member
    cases gone : registry.session addr with
    | none => exact registry.registered entry known
    | some session =>
        have different : entry.2 ≠ session := by
          intro same
          have equal := registry.session_inj known (registry.mem_of_session gone) same
          simp [equal] at other
        simpa [different] using registry.registered entry known

theorem find_of_session {addr : SocketAddr} {session : SessionId}
    (here : registry.session addr = some session) :
    ∃ client, registry.find addr = some client ∧ registry.byId session = some client := by
  obtain ⟨client, known⟩ :=
    Option.isSome_iff_exists.mp (registry.registered _ (registry.mem_of_session here))
  exact ⟨client, by simp [find, here, known], known⟩

theorem session_of_find {addr : SocketAddr} {client : ClientInfo}
    (here : registry.find addr = some client) :
    ∃ session, registry.session addr = some session ∧ registry.byId session = some client :=
  Option.bind_eq_some_iff.mp here

theorem session_unshared {addr other : SocketAddr} {session : SessionId}
    (here : registry.session addr = some session) (there : registry.session other = some session) :
    addr = other :=
  congrArg Prod.fst
    (registry.session_inj (registry.mem_of_session here) (registry.mem_of_session there) rfl)

/-- A change of a session is a change of its address alone. -/
theorem find_update {addr : SocketAddr} {session : SessionId}
    (here : registry.session addr = some session) (change : ClientInfo → ClientInfo) :
    (registry.update session change).find =
      Function.update registry.find addr ((registry.find addr).map change) := by
  have sameSession : ∀ other,
      (registry.update session change).session other = registry.session other := fun _ => rfl
  ext1 other
  by_cases same : other = addr
  · subst same
    rw [Function.update_self]
    simp only [find, sameSession, here, Option.bind_some]
    exact Function.update_self ..
  · rw [Function.update_of_ne same]
    simp only [find, sameSession]
    cases there : registry.session other with
    | none => rfl
    | some found =>
        have different : found ≠ session := by
          rintro rfl
          exact same (registry.session_unshared there here)
        simp [update, different]

/-- What a change does not touch is kept for every client. -/
theorem map_find_update {Value : Type} {field : ClientInfo → Value}
    {change : ClientInfo → ClientInfo} (same : ∀ client, field (change client) = field client)
    (session : SessionId) (addr : SocketAddr) :
    ((registry.update session change).find addr).map field = (registry.find addr).map field := by
  have sameSession : (registry.update session change).session addr = registry.session addr := rfl
  simp only [find, sameSession]
  cases registry.session addr with
  | none => rfl
  | some found =>
      by_cases here : found = session
      · subst here
        simp [update, Function.comp_def, same]
      · simp [update, here]

/-- Removing an address leaves every other client. -/
theorem find_remove (addr : SocketAddr) :
    (registry.remove addr).find = Function.update registry.find addr none := by
  have lookups : ∀ other, (registry.remove addr).session other =
      if other = addr then none else registry.session other := by
    intro other
    simp only [session, remove]
    induction registry.byAddr with
    | nil => simp
    | cons entry rest ih =>
        obtain ⟨known, knownSession⟩ := entry
        by_cases gone : known = addr
        · rw [List.filter_cons_of_neg (by simp [gone]), ih]
          by_cases same : other = addr
          · simp [same]
          · have different : (other == known) = false := by simp [gone, same]
            simp [same, List.lookup_cons, different]
        · rw [List.filter_cons_of_pos (by simp [gone]), List.lookup_cons, List.lookup_cons, ih]
          by_cases here : other = known
          · simp [here, gone]
          · have different : (other == known) = false := by simp [here]
            simp [different]
  ext1 other
  by_cases same : other = addr
  · subst same
    simp [find, lookups]
  · rw [Function.update_of_ne same]
    simp only [find, lookups, same, if_false]
    cases there : registry.session other with
    | none => rfl
    | some found =>
        cases gone : registry.session addr with
        | none => simp [remove, gone]
        | some session =>
            have different : found ≠ session := by
              rintro rfl
              exact same (registry.session_unshared there gone)
            simp [remove, gone, different]

end ClientRegistry

/-! ## Games -/

/-- `GamePlayerInfo`; its position in the players vector is its sync slot. -/
structure GamePlayerInfo where
  addr : SocketAddr
  username : Bytes
  userId : UInt16
  connType : UInt8
  leftRoom : Bool
deriving DecidableEq, Repr

/-- A running sync engine with its number of players. -/
structure SyncManager where
  playerCount : Nat
  engine : DelayedGameSync playerCount

/-- `GameInfo`. -/
structure GameInfo where
  gameId : UInt32
  gameName : Bytes
  emulatorName : Bytes
  owner : Bytes
  ownerUserId : UInt16
  numPlayers : UInt8
  maxPlayers : UInt8
  gameStatus : UInt8
  players : List GamePlayerInfo
  syncManager : Option SyncManager

instance : Inhabited GameInfo := ⟨⟨0, [], [], [], 0, 0, 0, 0, [], none⟩⟩

namespace GameInfo

/-- The first entry of an address. -/
def position (game : GameInfo) (addr : SocketAddr) : Option Nat :=
  game.players.findIdx? fun player => player.addr = addr

/-- Some entry, in the room or not, has the address. -/
def lists (game : GameInfo) (addr : SocketAddr) : Bool :=
  game.players.any fun player => player.addr = addr

end GameInfo

/-- A shared reference to a game, `Arc<GameMutex<GameInfo>>`. -/
abbrev GameRef := Nat

/-- The map of the games; a removed game lives on behind its reference. -/
structure GameTable where
  byId : UInt32 → Option GameRef
  arena : GameRef → GameInfo
  next : GameRef
  valid : ∀ gameId ref, byId gameId = some ref → ref < next
  unshared : ∀ gameId other ref, byId gameId = some ref → byId other = some ref → gameId = other

namespace GameTable

variable (table : GameTable)

/-- The game of an id. -/
def find (gameId : UInt32) : Option GameInfo := (table.byId gameId).map table.arena

/-- No games. -/
def empty : GameTable where
  byId := fun _ => none
  arena := fun _ => default
  next := 0
  valid := by simp
  unshared := by simp

/-- `HashMap::insert` of a new shared game. -/
def insert (gameId : UInt32) (game : GameInfo) : GameTable where
  byId := Function.update table.byId gameId (some table.next)
  arena := Function.update table.arena table.next game
  next := table.next + 1
  valid := by
    intro other ref found
    by_cases same : other = gameId
    · rw [same, Function.update_self] at found
      exact Option.some.inj found ▸ Nat.lt_succ_self table.next
    · rw [Function.update_of_ne same] at found
      exact Nat.lt_succ_of_lt (table.valid other ref found)
  unshared := by
    intro first second ref firstFound secondFound
    have older : ∀ id, id ≠ gameId →
        Function.update table.byId gameId (some table.next) id = some ref → ref < table.next := by
      intro id different found
      rw [Function.update_of_ne different] at found
      exact table.valid id ref found
    by_cases firstSame : first = gameId
    · by_cases secondSame : second = gameId
      · rw [firstSame, secondSame]
      · have small := older second secondSame secondFound
        rw [firstSame, Function.update_self, Option.some.injEq] at firstFound
        exact absurd small (firstFound ▸ Nat.lt_irrefl table.next)
    · have small := older first firstSame firstFound
      by_cases secondSame : second = gameId
      · rw [secondSame, Function.update_self, Option.some.injEq] at secondFound
        exact absurd small (secondFound ▸ Nat.lt_irrefl table.next)
      · rw [Function.update_of_ne firstSame] at firstFound
        rw [Function.update_of_ne secondSame] at secondFound
        exact table.unshared first second ref firstFound secondFound

/-- `HashMap::remove`. -/
def remove (gameId : UInt32) : GameTable where
  byId := Function.update table.byId gameId none
  arena := table.arena
  next := table.next
  valid := by
    intro other ref found
    by_cases same : other = gameId
    · simp [same] at found
    · rw [Function.update_of_ne same] at found
      exact table.valid other ref found
  unshared := by
    intro first second ref firstFound secondFound
    by_cases firstSame : first = gameId
    · simp [firstSame] at firstFound
    · by_cases secondSame : second = gameId
      · simp [secondSame] at secondFound
      · rw [Function.update_of_ne firstSame] at firstFound
        rw [Function.update_of_ne secondSame] at secondFound
        exact table.unshared first second ref firstFound secondFound

/-- Write the game behind a reference. -/
def write (ref : GameRef) (game : GameInfo) : GameTable :=
  { table with arena := Function.update table.arena ref game }

@[simp] theorem arena_write (ref : GameRef) (game : GameInfo) :
    (table.write ref game).arena ref = game :=
  Function.update_self ..

theorem find_insert (gameId : UInt32) (game : GameInfo) :
    (table.insert gameId game).find = Function.update table.find gameId (some game) := by
  ext1 other
  by_cases same : other = gameId
  · subst same
    simp [find, insert]
  · rw [Function.update_of_ne same]
    simp only [find, insert, Function.update_of_ne same]
    cases there : table.byId other with
    | none => rfl
    | some ref =>
        have older := Nat.ne_of_lt (table.valid other ref there)
        simp [older]

theorem find_remove (gameId : UInt32) :
    (table.remove gameId).find = Function.update table.find gameId none := by
  ext1 other
  by_cases same : other = gameId
  · simp [find, remove, same]
  · simp [find, remove, same]

/-- Writing through a reference changes the one game behind it. -/
theorem find_write {gameId : UInt32} {ref : GameRef} (here : table.byId gameId = some ref)
    (game : GameInfo) :
    (table.write ref game).find = Function.update table.find gameId (some game) := by
  ext1 other
  by_cases same : other = gameId
  · subst same
    simp [find, write, here]
  · rw [Function.update_of_ne same]
    simp only [find, write]
    cases there : table.byId other with
    | none => rfl
    | some found =>
        have different : found ≠ ref := by
          rintro rfl
          exact same (table.unshared other gameId found there here)
        simp [different]

end GameTable

/-! ## The shared state -/

/-- A response of a game's engine for one of its slots. -/
structure Frame where
  origin : UInt32
  slot : Nat
  response : ServerResponse
deriving DecidableEq, Repr

/-- A response with the address it goes to. -/
structure TargetOutput where
  addr : SocketAddr
  frame : Frame
deriving DecidableEq, Repr

/-- A datagram. For a packet made from an engine response it also records the response
and the game which the recipient was in when the datagram was queued. -/
structure Message where
  data : Bytes
  addr : SocketAddr
  frame : Option Frame
  recipientGame : Option UInt32
deriving DecidableEq, Repr

/-- `AppState`, with three histories: the calls on the engines, the responses which they
produced under the game lock, and those handed to packet generators. -/
structure AppState where
  clients : ClientRegistry
  games : GameTable
  nextGameId : UInt32
  tx : List Message
  sessionCloseTx : List SocketAddr
  calls : List (UInt32 × Call)
  produced : List TargetOutput
  handed : List TargetOutput

/-- `AppState::new`, after the logins of its clients. -/
def AppState.opened (clients : ClientRegistry) : AppState :=
  ⟨clients, .empty, 1, [], [], [], [], []⟩

/-- No games yet, and clients which each logged in once, over a LAN connection as
`handle_user_login` demands. -/
structure AppState.Opening (state : AppState) : Prop where
  noGames : ∀ gameId, state.games.find gameId = none
  noOutput : state.tx = []
  inLobby : ∀ addr client, state.clients.find addr = some client → client.gameId = none
  lan : ∀ addr client, state.clients.find addr = some client → client.connType = 1

/-- Clients which just logged in over a LAN connection open a lobby. -/
theorem AppState.Opening.ofLogins {clients : List (SocketAddr × ClientInfo)}
    (addrs : (clients.map Prod.fst).Nodup)
    (sessions : (clients.map fun client => client.2.sessionId).Nodup)
    (fresh : ∀ login ∈ clients, login.2.gameId = none ∧ login.2.connType = 1) :
    (AppState.opened (.ofLogins clients addrs sessions)).Opening where
  noGames := fun _ => rfl
  noOutput := rfl
  inLobby := by
    intro addr client found
    obtain ⟨login, member, rfl⟩ := ClientRegistry.mem_of_find_ofLogins addrs sessions found
    exact (fresh login member).1
  lan := by
    intro addr client found
    obtain ⟨login, member, rfl⟩ := ClientRegistry.mem_of_find_ofLogins addrs sessions found
    exact (fresh login member).2

/-- The lobby of clients which logged in from the given addresses, each with its address
as user id. -/
def lanLobby (addrs : List SocketAddr) (distinct : addrs.Nodup) : AppState :=
  .opened (.ofLogins (addrs.map fun addr => (addr, .login [] [] 1 (.ofNat addr) addr))
    (by simpa [Function.comp_def] using distinct)
    (by simpa [Function.comp_def, ClientInfo.login] using distinct))

theorem lanLobby_opening (addrs : List SocketAddr) (distinct : addrs.Nodup) :
    (lanLobby addrs distinct).Opening := by
  refine .ofLogins _ _ fun login member => ?_
  obtain ⟨addr, _, rfl⟩ := List.mem_map.mp member
  exact ⟨rfl, rfl⟩

/-- The configuration which the lobby reads. -/
structure Config where
  fixedGameDelay : Option UInt16
  sameGameDelay : Bool
  sharedGameDelayWindow : Bool
  sharedGameDelayWindowMarginFrames : UInt16
  disableOutputCache : Bool
deriving DecidableEq, Repr

/-- What a handler reports on failure. -/
inductive Report where
  | message (text : String)
  | sync (context : String) (error : GameSyncError)
  | panic (text : String)
deriving DecidableEq, Repr

end Direlera.Lobby
