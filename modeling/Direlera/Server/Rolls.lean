import Direlera.Clients.Usernames
import Direlera.Server.Dispatch

/-!
# The roll of a server

The whole server and the `Directory` are two models of the client maps. A `Roll` is what both of
them keep: which address is bound to which session, and under which name. A login does to the
roll of either what `Roll.logIn` says, so that what is known of logins on the one holds of those
on the other.
-/

namespace Direlera.Server

open Direlera.Clients (Directory Touch GameFlow Access Clerical parseLogin lanConnectionType
  sessionAliveThresholdSecs)
open Direlera.Library Direlera.Lobby Direlera.Sync Direlera.Wire

/-! ## Rolls -/

/-- Which address is bound to which session, the name and the session which the client of a
session carries, when sessions were heard, what logins draw next, and which sessions are to
close. -/
structure Roll where
  session : SocketAddr → Option SessionId
  entry : SessionId → Option (Bytes × SessionId)
  activity : SessionId → Nat
  nextUserId : UInt16
  nextSessionId : SessionId
  closing : List SocketAddr

namespace Roll

variable (roll : Roll)

/-- No session is bound twice, or before it is drawn, or has a client before that. -/
structure Sound : Prop where
  once : ∀ first second session, roll.session first = some session →
    roll.session second = some session → first = second
  drawn : ∀ addr session, roll.session addr = some session → session < roll.nextSessionId
  known : ∀ session entry, roll.entry session = some entry → session < roll.nextSessionId

/-- The first session with a name. -/
def named (ids : Iteration) (username : Bytes) : Option SessionId :=
  (ids.order (List.range roll.nextSessionId)).find? fun session =>
    (roll.entry session).any fun entry => decide (entry.1 = username)

open Classical in
/-- The address which is bound to a session. -/
noncomputable def holder (session : SessionId) : Option SocketAddr :=
  if bound : ∃ addr, roll.session addr = some session then some bound.choose else none

/-- The address of the first session with a name, and the session which its client carries. -/
noncomputable def search (ids : Iteration) (username : Bytes) : Option (SocketAddr × SessionId) :=
  (roll.named ids username).bind fun session => (roll.holder session).bind fun addr =>
    (roll.entry session).map fun entry => (addr, entry.2)

/-- An address and its session are forgotten. -/
def forget (addr : SocketAddr) (session : SessionId) : Roll :=
  { roll with
    session := Function.update roll.session addr none
    entry := Function.update roll.entry session none
    closing := roll.closing ++ [addr] }

/-- The first session with a name is evicted. -/
noncomputable def evict (ids : Iteration) (username : Bytes) : Roll :=
  match (roll.named ids username).bind fun session =>
      (roll.holder session).map fun addr => (addr, session) with
  | none => roll
  | some (addr, session) => roll.forget addr session

/-- A client is added under ids which are drawn for it. -/
def enrol (src : SocketAddr) (username : Bytes) (now : Nat) : Roll :=
  { roll with
    session := Function.update roll.session src (some roll.nextSessionId)
    entry := Function.update roll.entry roll.nextSessionId (some (username, roll.nextSessionId))
    activity := Function.update roll.activity roll.nextSessionId now
    nextUserId := roll.nextUserId + 1
    nextSessionId := roll.nextSessionId + 1 }

/-- A login evicts a stale client of its name, is turned down because of one which is not stale,
or finds none. -/
noncomputable def logIn (found removed : Iteration) (src : SocketAddr) (data : Bytes)
    (now later : Nat) : Roll :=
  let (name, _, connType) := parseLogin data
  if connType ≠ lanConnectionType then roll
  else
    match roll.search found (name.take 31) with
    | none => roll.enrol src (name.take 31) later
    | some (_, session) =>
        if now - roll.activity session < sessionAliveThresholdSecs then roll
        else (roll.evict removed (name.take 31)).enrol src (name.take 31) later

variable {roll} {addr : SocketAddr} {session : SessionId}

theorem Sound.holder_iff (sound : roll.Sound) :
    roll.holder session = some addr ↔ roll.session addr = some session := by
  unfold holder
  constructor
  · intro here
    split at here
    next bound => exact Option.some.inj here ▸ bound.choose_spec
    next => cases here
  · intro bound
    have some_bound : ∃ addr, roll.session addr = some session := ⟨addr, bound⟩
    rw [dif_pos some_bound, sound.once _ _ session some_bound.choose_spec bound]

/-- Whatever finds just the bound address is the holder. -/
theorem Sound.holder_eq (sound : roll.Sound) {found : Option SocketAddr}
    (finds : ∀ addr, found = some addr ↔ roll.session addr = some session) :
    roll.holder session = found := by
  ext1 addr
  rw [sound.holder_iff, finds]

theorem Sound.forget (sound : roll.Sound) (addr : SocketAddr) (session : SessionId) :
    (roll.forget addr session).Sound := by
  have earlier : ∀ other bound, (roll.forget addr session).session other = some bound →
      roll.session other = some bound := by
    intro other bound here
    by_cases same : other = addr
    · simp [Roll.forget, same] at here
    · simpa [Roll.forget, same] using here
  refine ⟨fun first second bound here there =>
    sound.once first second bound (earlier first bound here) (earlier second bound there),
    fun other bound here => sound.drawn other bound (earlier other bound here), ?_⟩
  intro other entry here
  by_cases same : other = session
  · simp [Roll.forget, same] at here
  · exact sound.known other entry (by simpa [Roll.forget, same] using here)

theorem Sound.evict (sound : roll.Sound) (ids : Iteration) (username : Bytes) :
    (roll.evict ids username).Sound := by
  unfold Roll.evict
  split
  · exact sound
  · exact sound.forget _ _

theorem Sound.enrol (sound : roll.Sound) (src : SocketAddr) (username : Bytes) (now : Nat) :
    (roll.enrol src username now).Sound := by
  have bound : ∀ addr session, (roll.enrol src username now).session addr = some session →
      addr = src ∧ session = roll.nextSessionId ∨ roll.session addr = some session := by
    intro addr session here
    by_cases same : addr = src
    · left
      exact ⟨same, by simpa [Roll.enrol, same, eq_comm] using here⟩
    · right
      simpa [Roll.enrol, same] using here
  constructor
  · intro first second session here there
    rcases bound first session here with ⟨firstOwn, fresh⟩ | before
    · rcases bound second session there with ⟨secondOwn, _⟩ | later
      · rw [firstOwn, secondOwn]
      · exact absurd (fresh ▸ sound.drawn second session later) (Nat.lt_irrefl _)
    · rcases bound second session there with ⟨_, fresh⟩ | later
      · exact absurd (fresh ▸ sound.drawn first session before) (Nat.lt_irrefl _)
      · exact sound.once first second session before later
  · intro addr session here
    rcases bound addr session here with ⟨_, rfl⟩ | here
    · exact Nat.lt_succ_self roll.nextSessionId
    · exact Nat.lt_succ_of_lt (sound.drawn addr session here)
  · intro session entry here
    by_cases same : session = roll.nextSessionId
    · exact same ▸ Nat.lt_succ_self roll.nextSessionId
    · exact Nat.lt_succ_of_lt (sound.known session entry (by simpa [Roll.enrol, same] using here))

theorem Sound.logIn (sound : roll.Sound) (found removed : Iteration) (src : SocketAddr)
    (data : Bytes) (now later : Nat) : (roll.logIn found removed src data now later).Sound := by
  unfold Roll.logIn
  obtain ⟨name, emulatorName, connType⟩ := parseLogin data
  dsimp only
  split
  · exact sound
  · split
    · exact sound.enrol _ _ _
    · split
      · exact sound
      · exact (sound.evict _ _).enrol _ _ _

end Roll

/-- The name and the session of a client. -/
def entryOf (client : ClientInfo) : Bytes × SessionId := (client.username, client.sessionId)

/-! ## The maps on their own -/

section Directory

variable {directory before after : Directory} {Result : Type}

/-- The roll of a directory. -/
def rollOf (directory : Directory) : Roll where
  session addr := directory.byAddr.lookup addr
  entry session := (directory.byId.lookup session).map entryOf
  activity := directory.activity
  nextUserId := directory.nextUserId
  nextSessionId := directory.nextSessionId
  closing := directory.sessionCloseTx

/-- A search through the sessions meets them in an order of iteration. -/
def Lists (ids : Iteration) (directory : Directory) : Prop :=
  directory.byId.keys = (ids.order (List.range directory.nextSessionId)).filter fun session =>
    (directory.byId.lookup session).isSome

/-- The roll of a directory, and the order in which its sessions are listed. -/
def listing (directory : Directory) : Roll × List SessionId := (rollOf directory, directory.byId.keys)

/-- A task which keeps the roll of a directory and the order of its sessions. -/
abbrev KeepsListing (task : Access Result) : Prop :=
  Task.Each (fun before after => listing after = listing before) task

theorem listing_touch (directory : Directory) (touches : SessionId → Touch) :
    listing (directory.touch touches) = listing directory := by
  refine Prod.ext ?_ ?_
  · have entries : (rollOf (directory.touch touches)).entry = (rollOf directory).entry := by
      funext session
      simp only [rollOf, Directory.touch, EntryMap.lookup_amend, Option.map_map]
      congr 1
      funext client
      exact Prod.ext ((touches session).username client) ((touches session).sessionId client)
    simp only [listing, rollOf] at entries ⊢
    rw [entries]
    rfl
  · simp [listing, Directory.touch, EntryMap.amend, AList.keys, List.keys]

theorem keepsListing_inspect (read : Directory → Result) :
    KeepsListing (.inspect read : Access Result) :=
  Task.each_critical fun _ => rfl

theorem keepsListing_updateClient (addr : SocketAddr) (touch : Touch) :
    KeepsListing (Clients.updateClient addr touch) := by
  apply Task.Each.bind (keepsListing_inspect _)
  rintro (_ | session)
  · exact Task.each_fail _
  apply Task.each_critical
  intro directory
  split
  · exact listing_touch directory _
  · rfl

theorem keepsListing_playThrough (flow : GameFlow) : KeepsListing (Clients.playThrough flow) := by
  refine Task.Each.bind (Task.Each.forEach (fun touch => ?_) _) fun _ => trivial
  exact Task.Each.bind (keepsListing_updateClient touch.1 touch.2).attempt fun _ => Task.each_pure ()

/-- A broadcast succeeds and keeps the listing. -/
theorem run_clients_broadcastPacket (packetType : UInt8) (data : Bytes) (directory : Directory) :
    ∃ next, (Clients.broadcastPacket packetType data).run directory = (.ok (), next) ∧
      listing next = listing directory :=
  ⟨_, rfl, listing_touch directory _⟩

/-- The roll and the order say whom a search finds. -/
theorem named_of_lists {ids : Iteration} (lists : Lists ids directory) (username : Bytes) :
    (directory.named username).map Prod.fst = (rollOf directory).named ids username := by
  rw [Directory.named, EntryMap.map_fst_first, lists, List.find?_filter]
  refine List.find?_congr fun session _ => ?_
  cases known : directory.byId.lookup session with
  | none => simp [rollOf, known]
  | some client => simp [rollOf, known, entryOf]

/-- The first address of a session is its holder. -/
theorem holder_directory (sound : (rollOf directory).Sound) (session : SessionId) :
    (rollOf directory).holder session = directory.holder session := by
  refine sound.holder_eq fun addr => ⟨Directory.holder_spec, fun bound => ?_⟩
  cases held : directory.holder session with
  | none => exact absurd bound (Directory.holder_eq_none held addr)
  | some other => rw [sound.once other addr session (Directory.holder_spec held) bound]

theorem Lists.of_listing {ids : Iteration} (lists : Lists ids before)
    (same : listing after = listing before) : Lists ids after := by
  obtain ⟨roll, keys⟩ := Prod.mk.inj same
  have known : ∀ session,
      (after.byId.lookup session).isSome = (before.byId.lookup session).isSome := by
    intro session
    have entry := congrArg Option.isSome (congrFun (congrArg Roll.entry roll) session)
    simpa [rollOf] using entry
  have drawn : after.nextSessionId = before.nextSessionId := congrArg Roll.nextSessionId roll
  rw [Lists, keys, lists, drawn]
  simp only [known]

/-- `find_client_by_username` searches the roll. -/
theorem run_clients_find {ids : Iteration} (sound : (rollOf directory).Sound)
    (lists : Lists ids directory) (username : Bytes) :
    ∃ found, (Clients.findClientByUsername username).run directory = (.ok found, directory) ∧
      found.map (fun entry => (entry.1, entry.2.sessionId)) =
        (rollOf directory).search ids username := by
  have searched := named_of_lists lists username
  rw [Clients.findClientByUsername, Task.run_bind, Task.run_inspect, Roll.search, ← searched]
  cases named : directory.named username with
  | none => exact ⟨none, rfl, rfl⟩
  | some entry =>
      obtain ⟨session, client⟩ := entry
      have known := (Directory.named_spec named).1
      have held := holder_directory sound session
      dsimp only
      rw [Task.run_bind, Task.run_inspect, Option.map_some, Option.bind_some, held]
      cases directory.holder session with
      | none => exact ⟨none, rfl, rfl⟩
      | some addr => exact ⟨some (addr, client), rfl, by simp [rollOf, known, entryOf]⟩

/-- An address and a session which are erased are forgotten. -/
theorem rollOf_erase (directory : Directory) (addr : SocketAddr) (session : SessionId)
    (activeSessions : Int) :
    rollOf { directory with
      byAddr := directory.byAddr.erase addr
      byId := directory.byId.erase session
      activeSessions := activeSessions
      sessionCloseTx := directory.sessionCloseTx ++ [addr] } =
      (rollOf directory).forget addr session := by
  have sessions := @EntryMap.lookup_erase_eq_update _ _ _ directory.byAddr addr
  have entries : (fun other => ((directory.byId.erase session).lookup other).map entryOf) =
      Function.update (fun other => (directory.byId.lookup other).map entryOf) session none :=
    (congrArg (Option.map entryOf ∘ ·) (EntryMap.lookup_erase_eq_update session)).trans
      (Function.comp_update (Option.map entryOf) _ _ _)
  simp only [rollOf, Roll.forget, sessions, entries]

/-- The stale session of a name is evicted from the roll. -/
theorem run_clients_evict {ids : Iteration} (sound : (rollOf directory).Sound)
    (lists : Lists ids directory) (username : Bytes) :
    ∃ next, (Clients.evict username).run directory = (.ok (), next) ∧
      rollOf next = (rollOf directory).evict ids username := by
  have searched := named_of_lists lists username
  rw [Roll.evict, ← searched]
  cases named : directory.named username with
  | none =>
      have removed : (Clients.removeClientByUsername username).run directory =
          (.ok none, directory) := by
        rw [Clients.removeClientByUsername, Task.run_bind, Task.run_inspect, named]
        rfl
      exact ⟨directory, Task.run_bind_ok removed, rfl⟩
  | some entry =>
      obtain ⟨session, client⟩ := entry
      have known := (Directory.named_spec named).1
      rw [Option.map_some, Option.bind_some, holder_directory sound session]
      cases held : directory.holder session with
      | none =>
          have removed : (Clients.removeClientByUsername username).run directory =
              (.ok none, directory) := by
            simp [Clients.removeClientByUsername, Task.run_bind, named, held]
          exact ⟨directory, Task.run_bind_ok removed, rfl⟩
      | some addr =>
          obtain ⟨erased, removed, gone⟩ : ∃ erased,
              (Clients.removeClientByUsername username).run directory =
                (.ok (some (addr, client)), erased) ∧
              erased = { directory with
                byAddr := directory.byAddr.erase addr
                byId := directory.byId.erase session
                activeSessions := directory.activeSessions - 1 } := by
            refine ⟨_, ?_, rfl⟩
            simp [Clients.removeClientByUsername, Task.run_bind, named, held, known]
          obtain ⟨told, broadcast, same⟩ := run_clients_broadcastPacket Msg.userQuit
            (buildUserQuitPacket client.username client.userId (ascii "reconnected")) erased
          refine ⟨{ told with sessionCloseTx := told.sessionCloseTx ++ [addr] },
            (Task.run_bind_ok removed).trans (Task.run_bind_ok broadcast), ?_⟩
          have kept : rollOf told = rollOf erased := congrArg Prod.fst same
          have closed : rollOf { told with sessionCloseTx := told.sessionCloseTx ++ [addr] } =
              { rollOf told with closing := (rollOf told).closing ++ [addr] } := rfl
          rw [closed, kept, gone]
          exact rollOf_erase directory addr session (directory.activeSessions - 1)

/-- A login adds its client to the roll. -/
theorem roll_clients_enrol (src : SocketAddr) (username emulatorName : Bytes) (connType : UInt8)
    (now : Nat) (directory : Directory) :
    rollOf ((Clients.enrol src username emulatorName connType now).erase.run directory).2 =
      (rollOf directory).enrol src username now := by
  have added : rollOf ({ directory with nextUserId := directory.nextUserId + 1 }.enrol src username
      emulatorName connType directory.nextUserId now) = (rollOf directory).enrol src username now := by
    have sessions := @EntryMap.lookup_insert_eq_update _ _ _ directory.byAddr src
      directory.nextSessionId
    have entries : ∀ client : ClientInfo, (fun session =>
        ((directory.byId.insert directory.nextSessionId client).lookup session).map entryOf) =
          Function.update (fun session => (directory.byId.lookup session).map entryOf)
            directory.nextSessionId (some (entryOf client)) := fun client =>
      (congrArg (Option.map entryOf ∘ ·) (EntryMap.lookup_insert_eq_update _ client)).trans
        (Function.comp_update (Option.map entryOf) _ _ _)
    exact congrArg₂ (fun session entry => ({ (rollOf directory).enrol src username now with
      session := session, entry := entry } : Roll)) sessions (entries _)
  have sends : KeepsListing
      (Clients.sendPacket src Msg.serverToClientAck buildServerToClientAckPacket) := by
    apply Task.Each.bind (keepsListing_updateClient src _)
    exact fun _ => Task.each_critical fun _ => rfl
  have ran : (Clients.enrol src username emulatorName connType now).erase.run directory =
      (Clients.sendPacket src Msg.serverToClientAck buildServerToClientAckPacket).run
        ({ directory with nextUserId := directory.nextUserId + 1 }.enrol src username emulatorName
          connType directory.nextUserId now) := by
    simp [Clients.enrol, Clients.takeNextUserId, Task.run_bind]
  rw [ran]
  exact (congrArg Prod.fst (sends.keeps _)).trans added

/-- `handle_user_login` on the maps alone does to the roll what a login does. -/
theorem roll_userLogin {ids : Iteration} (sound : (rollOf directory).Sound)
    (lists : Lists ids directory) (src : SocketAddr) (data : Bytes) (now later : Nat)
    (flow : GameFlow) :
    rollOf ((Clients.userLogin src data now later flow).erase.run directory).2 =
      (rollOf directory).logIn ids ids src data now later := by
  unfold Clients.userLogin Roll.logIn
  obtain ⟨name, emulatorName, connType⟩ := parseLogin data
  dsimp only
  split
  · rfl
  · obtain ⟨found, ran, searched⟩ := run_clients_find sound lists (name.take 31)
    rw [Labelled.erase_bind, Labelled.erase_ofTask, Task.run_bind_ok ran, ← searched]
    cases found with
    | none => exact roll_clients_enrol src _ _ _ _ directory
    | some entry =>
        obtain ⟨addr, old⟩ := entry
        simp only [Option.map_some, Labelled.erase_bind, Labelled.erase_ofTask]
        rw [Task.run_bind, Task.run_inspect]
        dsimp only
        have heard : (rollOf directory).activity old.sessionId = directory.activity old.sessionId := rfl
        rw [heard]
        split
        next alive => rfl
        next stale =>
          -- evicting, once the game flow is through
          have evicts : ∀ middle, listing middle = listing directory →
              rollOf (((Clients.evict (name.take 31)) >>= fun _ =>
                (Clients.enrol src (name.take 31) emulatorName connType later).erase).run middle).2 =
              ((rollOf directory).evict ids (name.take 31)).enrol src (name.take 31) later := by
            intro middle same
            have roll : rollOf middle = rollOf directory := congrArg Prod.fst same
            obtain ⟨next, evicted, after⟩ := run_clients_evict (roll ▸ sound) (lists.of_listing same)
              (name.take 31)
            rw [Task.run_bind_ok evicted, roll_clients_enrol, after, roll]
          split
          · rw [Labelled.erase_bind, Labelled.erase_ofTask, Task.run_bind, Task.run_attempt]
            simpa using evicts _ ((keepsListing_playThrough flow).keeps directory)
          · simpa using evicts directory rfl

end Directory

/-! ## The whole server -/

section Lobby

variable {Result : Type}

/-- What the lobby has of the roll. -/
def lobbyRoll (state : AppState) :
    (SocketAddr → Option SessionId) × (SessionId → Option (Bytes × SessionId)) × List SocketAddr :=
  (state.clients.session, fun session => (state.clients.byId session).map entryOf,
    state.sessionCloseTx)

/-- A change of a client which keeps its name and its session. -/
theorem lobbyRoll_update (state : AppState) (session : SessionId) {change : ClientInfo → ClientInfo}
    (same : ∀ client, entryOf (change client) = entryOf client) :
    lobbyRoll { state with clients := state.clients.update session change } = lobbyRoll state := by
  have entries : (fun other => ((state.clients.update session change).byId other).map entryOf) =
      fun other => (state.clients.byId other).map entryOf := by
    funext other
    by_cases own : other = session
    · subst own
      simp only [ClientRegistry.update, Function.update_self, Option.map_map]
      congr 1
      funext client
      exact same client
    · simp only [ClientRegistry.update, Function.update_of_ne own]
  simp only [lobbyRoll, entries]
  rfl

theorem deaf_lobbyRoll : Deaf lobbyRoll where
  draws := fun state session _ _ => lobbyRoll_update state session fun _ => rfl
  queues := fun _ _ _ _ => rfl

theorem rolls_updateClientLogging {handed : List TargetOutput} {addr : SocketAddr}
    {change : ClientInfo → Result × ClientInfo}
    (same : ∀ client, entryOf (change client).2 = entryOf client) :
    Keeps lobbyRoll (updateClientLogging handed addr change) := by
  apply Task.Each.bind (keeps_inspect _)
  rintro (_ | session)
  · exact keeps_fail _
  apply Task.each_critical
  intro state
  cases state.clients.byId session with
  | none => rfl
  | some client => exact lobbyRoll_update state session same

/-- What a section does to the games does not concern the roll. -/
theorem rolls_critical {act : AppState → Except Report Result × AppState}
    (clients : ∀ state, (act state).2.clients = state.clients)
    (closing : ∀ state, (act state).2.sessionCloseTx = state.sessionCloseTx) :
    Keeps lobbyRoll (Task.critical act) :=
  Task.each_critical fun state => by
    simp only [lobbyRoll, clients, closing]

theorem rolls_markDropped (gameId : UInt32) (ref : GameRef) (playerId : Nat) :
    Keeps lobbyRoll (Task.critical (markDropped gameId ref playerId)) := by
  refine Task.each_critical fun state => ?_
  cases running : (state.games.arena ref).syncManager with
  | none => simp only [markDropped, running]
  | some sync =>
      rcases called : sync.call gameId (.drop playerId) with ⟨result, next⟩
      simp only [markDropped, running, called]
      cases result with
      | error error => rfl
      | ok frames =>
          dsimp only
          split
          · split
            next ran =>
              rw [value_of_run (deaf_lobbyRoll.broadcastPacket _ _) ran]
              rfl
            next ran =>
              rw [value_of_run (deaf_lobbyRoll.broadcastPacket _ _) ran]
              rfl
          · rfl

theorem rolls_withClientMut (addr : SocketAddr) {change : ClientInfo → ClientInfo}
    (same : ∀ client, entryOf (change client) = entryOf client) :
    Keeps lobbyRoll (withClientMut addr change) :=
  rolls_updateClientLogging same

theorem rolls_announceDrop (gameId : UInt32) (username : Bytes) (playerId : Nat)
    (frames : List Frame) (players : List GamePlayerInfo) :
    Keeps lobbyRoll (announceDrop gameId username playerId frames players) := by
  refine Task.Each.bind (Task.Each.forEach (fun player => ?_) players) fun _ => ?_
  · exact rolls_withClientMut player.addr fun _ => rfl
  refine Task.Each.bind (deaf_lobbyRoll.broadcastPacketToGame gameId _ _) fun _ => ?_
  refine Task.Each.bind (Task.Each.forEach (fun frame => ?_) frames) fun _ => keeps_pure true
  unfold sendFrame
  split
  · exact keeps_fail _
  · refine Task.Each.bind (rolls_updateClientLogging fun _ => rfl) fun packet => ?_
    exact Task.each_critical fun _ => rfl

theorem rolls_executeDropGame (gameId : UInt32) (src : SocketAddr) :
    Keeps lobbyRoll (executeDropGame gameId src) := by
  refine Task.Each.bind (keeps_inspect _) ?_
  rintro (_ | client)
  · exact keeps_fail _
  refine Task.Each.bind (keeps_inspect _) ?_
  rintro (_ | ref)
  · exact keeps_pure false
  refine Task.Each.bind (keeps_inspect _) ?_
  rintro (_ | playerId)
  · exact keeps_pure false
  refine Task.Each.bind (keeps_inspect _) ?_
  rintro (_ | ref)
  · exact keeps_fail _
  refine Task.Each.bind (rolls_markDropped gameId ref playerId) ?_
  rintro ⟨frames, players, allDropped⟩
  have announced := rolls_announceDrop gameId client.username playerId frames players
  cases allDropped with
  | false => exact announced
  | true =>
      refine Task.Each.bind (keeps_getGame gameId) fun game => ?_
      split
      · refine Task.Each.bind (rolls_critical (fun _ => rfl) fun _ => rfl) fun _ => ?_
        exact Task.Each.bind (deaf_lobbyRoll.broadcastPacket _ _) fun _ => keeps_pure true
      · exact announced

theorem rolls_settleQuit (gameId : UInt32) (src : SocketAddr) (quitData : Bytes)
    (outcome : GameInfo.QuitOutcome) : Keeps lobbyRoll (settleQuit gameId src quitData outcome) := by
  cases outcome with
  | playing =>
      refine Task.Each.bind (rolls_executeDropGame gameId src).attempt fun _ =>
        Task.Each.bind (keeps_getGame gameId) ?_
      rintro (_ | game)
      · exact deaf_lobbyRoll.broadcastPacket _ _
      · exact Task.Each.bind (deaf_lobbyRoll.broadcastPacketToGame gameId _ _) fun _ =>
          deaf_lobbyRoll.broadcastPacket _ _
  | waitingClosed =>
      refine Task.Each.bind (rolls_critical (fun _ => rfl) fun _ => rfl) fun _ => ?_
      exact Task.Each.bind (deaf_lobbyRoll.broadcastPacket _ _) fun _ =>
        deaf_lobbyRoll.broadcastPacket _ _
  | waitingOpen =>
      refine Task.Each.bind (deaf_lobbyRoll.broadcastPacketToGame gameId _ _) fun _ => ?_
      refine Task.Each.bind (keeps_getGame gameId) ?_
      rintro (_ | game)
      · exact keeps_pure ()
      · exact deaf_lobbyRoll.broadcastPacket _ _

theorem rolls_handleQuitGame (src : SocketAddr) : Keeps lobbyRoll (handleQuitGame src) := by
  refine Task.Each.bind (keeps_inspect _) ?_
  rintro (_ | client)
  · exact keeps_pure ()
  dsimp only
  cases client.gameId with
  | none => exact keeps_pure ()
  | some gameId =>
      refine Task.Each.bind (keeps_inspect _) ?_
      rintro (_ | ref)
      · exact keeps_pure ()
      refine Task.Each.bind (rolls_withClientMut src fun _ => rfl) fun _ => ?_
      refine Task.Each.bind (rolls_critical (fun _ => rfl) fun _ => rfl) ?_
      rintro ⟨outcome, newOwner⟩
      refine Task.Each.bind (rolls_settleQuit gameId src _ outcome) fun _ => ?_
      cases newOwner with
      | none => exact keeps_pure ()
      | some owner =>
          refine Task.Each.bind (keeps_getGame gameId) ?_
          rintro (_ | game)
          · exact keeps_pure ()
          · exact deaf_lobbyRoll.broadcastPacketToGame gameId _ _

end Lobby

section Server

variable {state : ServerState} {ids : Iteration}

/-- The roll of a server. -/
def ServerState.roll (state : ServerState) : Roll where
  session := state.lobby.clients.session
  entry session := (state.lobby.clients.byId session).map entryOf
  activity := state.activity
  nextUserId := state.nextUserId
  nextSessionId := state.nextSessionId
  closing := state.lobby.sessionCloseTx

/-- A lobby with the same part of the roll. -/
theorem roll_of_lobby {after : AppState} (same : lobbyRoll after = lobbyRoll state.lobby) :
    { state with lobby := after }.roll = state.roll := by
  obtain ⟨session, rest⟩ := Prod.mk.inj same
  obtain ⟨entry, closing⟩ := Prod.mk.inj rest
  simp only [ServerState.roll, session, entry, closing]

/-- Work in the lobby which keeps its part of the roll. -/
theorem roll_inLobby {Result : Type} {task : Handler Result} (keeps : Keeps lobbyRoll task) :
    ((inLobby task).run state).2.roll = state.roll := by
  rw [run_inLobby]
  exact roll_of_lobby (keeps.keeps state.lobby)

theorem named_server (ids : Iteration) (username : Bytes) :
    (state.named ids username).map Prod.fst = state.roll.named ids username := by
  rw [ServerState.named, Roll.named, List.find?_eq_findSome?_guard, List.map_findSome?]
  refine congrArg (fun pick => List.findSome? pick _) (funext fun session => ?_)
  cases known : state.lobby.clients.byId session with
  | none => simp [ServerState.roll, known, Option.guard]
  | some client =>
      by_cases same : client.username = username <;>
        simp [ServerState.roll, known, entryOf, same, Option.guard]

/-- Whoever is found by a name is known. -/
theorem known_of_named {username : Bytes} {session : SessionId} {client : ClientInfo}
    (named : state.named ids username = some (session, client)) :
    state.lobby.clients.byId session = some client := by
  obtain ⟨other, _, found⟩ := List.exists_of_findSome?_eq_some named
  obtain ⟨known, here, named⟩ := Option.bind_eq_some_iff.mp found
  split at named
  · cases named
    exact here
  · cases named

/-- An address is the holder of the session to which it is bound. -/
theorem holder_server (sound : state.roll.Sound) (session : SessionId) :
    state.roll.holder session = state.lobby.clients.holder session := by
  have bound : ∀ addr held, (addr, held) ∈ state.lobby.clients.byAddr ↔
      state.roll.session addr = some held := fun addr held =>
    ⟨state.lobby.clients.session_of_mem, state.lobby.clients.mem_of_session⟩
  refine sound.holder_eq fun addr => ?_
  rw [← bound]
  constructor
  · intro found
    obtain ⟨⟨_, held⟩, first, rfl⟩ := Option.map_eq_some_iff.mp found
    have same : held = session := by simpa using List.find?_some first
    exact same ▸ List.mem_of_find?_eq_some first
  · intro member
    cases first : state.lobby.clients.byAddr.find? fun entry => entry.2 = session with
    | none => simpa using List.find?_eq_none.mp first _ member
    | some entry =>
        have same : entry.2 = session := by simpa using List.find?_some first
        have unique := List.inj_on_of_nodup_map state.lobby.clients.sessionsDistinct
          (List.mem_of_find?_eq_some first) member same
        rw [ClientRegistry.holder, first, unique]
        rfl

/-- `find_client_by_username` searches the roll. -/
theorem run_server_find (sound : state.roll.Sound) (username : Bytes) :
    ∃ found, (findClientByUsername ids username).run state = (.ok found, state) ∧
      found.map (fun entry => (entry.1, entry.2.sessionId)) = state.roll.search ids username := by
  rw [findClientByUsername, Task.run_bind, Task.run_inspect, Roll.search, ← named_server]
  cases named : state.named ids username with
  | none => exact ⟨none, rfl, rfl⟩
  | some entry =>
      obtain ⟨session, client⟩ := entry
      have known := known_of_named named
      have held := holder_server sound session
      dsimp only
      rw [Task.run_bind, Task.run_inspect, Option.map_some, Option.bind_some, held]
      cases state.lobby.clients.holder session with
      | none => exact ⟨none, rfl, rfl⟩
      | some addr => exact ⟨some (addr, client), rfl, by simp [ServerState.roll, known, entryOf]⟩

/-- The sections of `remove_client_by_username` forget an address and its session. -/
theorem roll_forget {addr : SocketAddr} {session : SessionId} (held : state.roll.session addr = some session) :
    { state with
      lobby := { state.lobby with
        clients := (state.lobby.clients.forgetAddr addr).forgetSession session
        sessionCloseTx := state.lobby.sessionCloseTx ++ [addr] } }.roll =
      state.roll.forget addr session := by
  have sessions : (state.lobby.clients.forgetAddr addr).session =
      Function.update state.lobby.clients.session addr none := by
    funext other
    by_cases same : other = addr
    · subst same
      rw [Function.update_self]
      refine List.lookup_eq_none_iff.mpr fun entry member => bne_iff_ne.mpr ?_
      exact Ne.symm (of_decide_eq_true (List.mem_filter.mp member).2)
    · rw [Function.update_of_ne same]
      exact ClientRegistry.lookup_without same _
  have unheld : session ∉ (state.lobby.clients.forgetAddr addr).byAddr.map Prod.snd := by
    intro member
    obtain ⟨⟨other, _⟩, listed, rfl⟩ := List.mem_map.mp member
    obtain ⟨known, different⟩ := List.mem_filter.mp listed
    have unique := state.lobby.clients.session_inj known
      (state.lobby.clients.mem_of_session held) rfl
    exact of_decide_eq_true different (congrArg Prod.fst unique)
  have entries := Function.comp_update (Option.map entryOf) state.lobby.clients.byId session none
  rw [ClientRegistry.forgetSession, dif_pos unheld]
  exact congrArg₂ (fun session entry => ({ state.roll.forget addr 0 with session, entry } : Roll))
    sessions entries

/-- The stale session of a name is evicted from the roll. -/
theorem run_server_evict (sound : state.roll.Sound) (username : Bytes) :
    ∃ next, (evict ids username).run state = (.ok (), next) ∧
      next.roll = state.roll.evict ids username := by
  rw [Roll.evict, ← named_server]
  cases named : state.named ids username with
  | none =>
      have removed : (removeClientByUsername ids username).run state = (.ok none, state) := by
        rw [removeClientByUsername, Task.run_bind, Task.run_inspect, named]
        rfl
      exact ⟨state, Task.run_bind_ok removed, rfl⟩
  | some entry =>
      obtain ⟨session, client⟩ := entry
      have known := known_of_named named
      rw [Option.map_some, Option.bind_some, holder_server sound session]
      cases held : state.lobby.clients.holder session with
      | none =>
          have removed : (removeClientByUsername ids username).run state = (.ok none, state) := by
            rw [removeClientByUsername, Task.run_bind, Task.run_inspect, named]
            dsimp only
            rw [Task.run_bind, run_inLobby, Task.run_critical, held]
            rfl
          exact ⟨state, Task.run_bind_ok removed, rfl⟩
      | some addr =>
          have bound : state.roll.session addr = some session :=
            sound.holder_iff.mp ((holder_server sound session).trans held)
          let gone : AppState := { state.lobby with
            clients := (state.lobby.clients.forgetAddr addr).forgetSession session }
          have removed : (removeClientByUsername ids username).run state =
              (.ok (some (addr, client)), { state with lobby := gone }) := by
            rw [removeClientByUsername, Task.run_bind, Task.run_inspect, named]
            dsimp only
            rw [Task.run_bind, run_inLobby, Task.run_critical, held]
            dsimp only
            rw [run_inLobby, Task.run_critical]
            simp [ClientRegistry.forgetAddr, known, gone]
          obtain ⟨told, broadcast, _⟩ := run_broadcastPacket Msg.userQuit
            (buildUserQuitPacket client.username client.userId (ascii "reconnected")) gone
          have same := value_of_run (deaf_lobbyRoll.broadcastPacket _ _) broadcast
          have announced : (inLobby <| broadcastPacket Msg.userQuit
              (buildUserQuitPacket client.username client.userId (ascii "reconnected"))).run
                { state with lobby := gone } = (.ok (), { state with lobby := told }) := by
            rw [run_inLobby, broadcast]
          refine ⟨{ state with lobby := { told with sessionCloseTx := told.sessionCloseTx ++ [addr] } },
            (Task.run_bind_ok removed).trans ((Task.run_bind_ok announced).trans
              (run_inLobby (closeSession addr) _)), ?_⟩
          dsimp only [Option.map_some]
          rw [← roll_forget bound]
          refine @roll_of_lobby { state with lobby := { gone with
            sessionCloseTx := gone.sessionCloseTx ++ [addr] } } _ ?_
          obtain ⟨session, rest⟩ := Prod.mk.inj same
          obtain ⟨entry, closing⟩ := Prod.mk.inj rest
          simp only [lobbyRoll, session, entry, closing]

/-- A login adds its client to the roll. -/
theorem roll_server_enrol (sound : state.roll.Sound) (src : SocketAddr)
    (username emulatorName : Bytes) (connType : UInt8) (now : Nat) :
    ((enrol src username emulatorName connType now).run state).2.roll =
      state.roll.enrol src username now := by
  let drawn : ServerState := { state with nextUserId := state.nextUserId + 1 }
  have unused : state.nextSessionId ∉ state.lobby.clients.byAddr.map Prod.snd := by
    intro member
    obtain ⟨⟨addr, _⟩, listed, rfl⟩ := List.mem_map.mp member
    exact Nat.lt_irrefl _ (sound.drawn addr _ (state.lobby.clients.session_of_mem listed))
  have ran : (enrol src username emulatorName connType now).run state =
      (inLobby <| sendPacket src Msg.serverToClientAck buildServerToClientAckPacket).run
        (drawn.enrol src username emulatorName connType state.nextUserId now) := by
    simp [enrol, takeNextUserId, Task.run_bind, drawn]
  rw [ran, roll_inLobby (deaf_lobbyRoll.sendPacket _ _ _)]
  let client : ClientInfo := .login username emulatorName connType state.nextUserId state.nextSessionId
  have sessions : (state.lobby.clients.add src client).session =
      Function.update state.lobby.clients.session src (some state.nextSessionId) :=
    state.lobby.clients.session_add unused
  have added : (state.lobby.clients.add src client).byId =
      Function.update state.lobby.clients.byId state.nextSessionId (some client) := by
    rw [ClientRegistry.add, dif_pos (show client.sessionId ∉ _ from unused)]
    rfl
  have entries : Option.map entryOf ∘ (state.lobby.clients.add src client).byId =
      Function.update (Option.map entryOf ∘ state.lobby.clients.byId) state.nextSessionId
        (some (entryOf client)) := by
    rw [added, Function.comp_update]
    rfl
  exact congrArg₂ (fun session entry => ({ state.roll.enrol src username now with session, entry } :
    Roll)) sessions entries

/-- `handle_user_login` on the whole server does to the roll what a login does. -/
theorem roll_handleUserLogin (sound : state.roll.Sound) (reading : LoginReading) (data : Bytes)
    (src : SocketAddr) :
    ((handleUserLogin reading data src).run state).2.roll =
      state.roll.logIn reading.found reading.removed src data reading.now reading.later := by
  have rejects : ∀ message, ((rejectLogin src message).run state).2.roll = state.roll := fun message =>
    roll_inLobby (deaf_lobbyRoll.sendMessage _ _)
  unfold handleUserLogin Roll.logIn
  obtain ⟨name, emulatorName, connType⟩ := parseLogin data
  dsimp only
  split
  · exact rejects _
  · obtain ⟨found, ran, searched⟩ := run_server_find sound (name.take 31)
    rw [Task.run_bind_ok ran, ← searched]
    cases found with
    | none => exact roll_server_enrol sound src _ _ _ _
    | some entry =>
        obtain ⟨addr, old⟩ := entry
        dsimp only [Option.map_some]
        rw [Task.run_bind, Task.run_inspect]
        have heard : state.roll.activity old.sessionId = state.activity old.sessionId := rfl
        rw [heard]
        dsimp only
        split
        · exact rejects _
        · -- evicting, once the game is left
          have evicts : ∀ middle : ServerState, middle.roll = state.roll →
              ((evict reading.removed (name.take 31) >>= fun _ =>
                enrol src (name.take 31) emulatorName connType reading.later).run middle).2.roll =
              (state.roll.evict reading.removed (name.take 31)).enrol src (name.take 31)
                reading.later := by
            intro middle same
            obtain ⟨next, evicted, after⟩ :=
              @run_server_evict middle reading.removed (same ▸ sound) (name.take 31)
            have still : next.roll.Sound := after ▸ same ▸ sound.evict _ _
            rw [Task.run_bind_ok evicted, roll_server_enrol still, after, same]
          split
          · rw [Task.run_bind, Task.run_attempt]
            exact evicts _ (roll_inLobby (rolls_handleQuitGame addr))
          · exact evicts state rfl

end Server

/-! ## Both models -/

/-- The maps can be iterated over in any order. -/
theorem exists_lists {directory : Directory} (sound : (rollOf directory).Sound) (ids : Iteration) :
    ∃ order, Lists ids (directory.rehash .same order) ∧
      rollOf (directory.rehash .same order) = rollOf directory := by
  have perm : ((ids.order (List.range directory.nextSessionId)).filter fun session =>
      (directory.byId.lookup session).isSome).Perm directory.byId.keys := by
    have arranged := ids.rearranges (List.range directory.nextSessionId)
    refine (List.perm_ext_iff_of_nodup ?_ directory.byId.keys_nodup).mpr fun session => ?_
    · exact (arranged.nodup_iff.mpr List.nodup_range).filter _
    · rw [List.mem_filter, arranged.mem_iff, List.mem_range, ← AList.mem_keys,
        ← AList.lookup_isSome]
      refine and_iff_right_of_imp fun here => ?_
      obtain ⟨client, known⟩ := Option.isSome_iff_exists.mp here
      exact sound.known session (entryOf client) (by simp [rollOf, known])
  obtain ⟨order, keys⟩ := EntryMap.exists_reorder perm
  refine ⟨order, ?_, ?_⟩
  · rw [Lists]
    simpa [Directory.rehash] using keys
  · simp [rollOf, Directory.rehash]

/-- A login which a session is to handle: what it reads, the message and its sender. -/
structure Login where
  src : SocketAddr
  data : Bytes
  reading : LoginReading

/-- The errands of a login on the maps alone, which are iterated over in a given order. -/
def Login.errands (login : Login) (order : EntryMap.Order SessionId ClientInfo) :
    List (SocketAddr × Clients.Errand) :=
  [(login.src, .rehash .same order),
    (login.src, .login login.data login.reading.now login.reading.later .idle)]

/-- One login after the other. -/
def logins : Transducer ServerState Login (Except Report Unit) where
  step state login := (handleUserLogin login.reading login.data login.src).run state

/-- What logins do to the whole server, their errands do to the maps alone, if these are iterated
over as the server does it; the two searches of one login meet the clients in one order, since
nobody is added or removed between them. -/
theorem logins_alike {state : ServerState} {directory : Directory} (sound : state.roll.Sound)
    (alike : rollOf directory = state.roll) (list : List Login)
    (steady : ∀ login ∈ list, login.reading.removed = login.reading.found) :
    ∃ orders, orders.length = list.length ∧
      rollOf (Clients.clerk.final directory (List.zipWith Login.errands list orders).flatten) =
        (logins.final state list).roll ∧
      (logins.final state list).roll.Sound := by
  induction list generalizing state directory with
  | nil => exact ⟨[], rfl, alike, sound⟩
  | cons login rest ih =>
      obtain ⟨src, data, reading⟩ := login
      have onServer := roll_handleUserLogin sound reading data src
      obtain ⟨order, lists, same⟩ := exists_lists (alike ▸ sound) reading.found
      have rolls : rollOf (directory.rehash .same order) = state.roll := same.trans alike
      have onMaps := roll_userLogin (rolls ▸ sound) lists src data reading.now reading.later .idle
      have oneOrder : reading.removed = reading.found := steady _ List.mem_cons_self
      obtain ⟨orders, each, after, stillSound⟩ :=
        @ih ((handleUserLogin reading data src).run state).2 _
          (onServer ▸ sound.logIn _ _ _ _ _ _)
          (onMaps.trans (by rw [rolls, onServer, oneOrder]))
          fun later member => steady later (List.mem_cons_of_mem _ member)
      exact ⟨order :: orders, congrArg Nat.succ each, after, stillSound⟩

end Direlera.Server
