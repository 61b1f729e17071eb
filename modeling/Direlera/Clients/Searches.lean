import Direlera.Clients.Usernames

/-!
# Searching for a name

A login searches `clients_by_id` for its name, and once more when it evicts a stale client; it
adds its own client in a later section, and the search sees only the first entry with the name.
The labels here say what the last search of a login noted. The names of connected clients stay
unique as long as no login adds its client after another of its name logged in behind its
search, or after a search which stopped at an entry without an address.
-/

namespace Direlera.Clients

open Direlera.Library Direlera.Lobby Direlera.Sync Direlera.Wire

/-! ## Logins with their searches -/

/-- What is noted of a search: the sessions from `moment` on were not drawn yet, and an entry
without an address led it astray. -/
structure Search where
  moment : SessionId
  astray : Bool
deriving DecidableEq, Repr

/-- A login adds its client, some time after its last search for the name. -/
structure Arrival extends Enrolment where
  search : Search
deriving DecidableEq, Repr

/-- A search for a name, as it is noted. -/
def Directory.search (directory : Directory) (username : Bytes) : Search where
  moment := directory.nextSessionId
  astray := (directory.named username).any fun entry => (directory.holder entry.1).isNone

/-- `find_client_by_username`, with its search. -/
def searchClient (username : Bytes) : Access (Option (SocketAddr × ClientInfo) × Search) := do
  let (entry, search) ← Task.inspect fun directory : Directory =>
    (directory.named username, directory.search username)
  let some (session, client) := entry | return (none, search)
  let some addr ← Task.inspect fun directory : Directory => directory.holder session
    | return (none, search)
  return (some (addr, client), search)

/-- `remove_client_by_username`, with its search. -/
def searchRemoved (username : Bytes) : Access (Option (SocketAddr × ClientInfo) × Search) := do
  let (entry, search) ← Task.inspect fun directory : Directory =>
    (directory.named username, directory.search username)
  let some (session, _) := entry | return (none, search)
  let some addr ← Task.critical fun directory : Directory =>
      match directory.holder session with
      | none => (.ok none, directory)
      | some addr => (.ok (some addr), { directory with byAddr := directory.byAddr.erase addr })
    | return (none, search)
  let removed ← Task.critical fun directory : Directory =>
    match directory.byId.lookup session with
    | none => (.ok none, directory)
    | some client => (.ok (some (addr, client)), { directory with
        byId := directory.byId.erase session
        activeSessions := directory.activeSessions - 1 })
  return (removed, search)

/-- The stale session of a name is evicted, with the search for it. -/
def searchEvicted (username : Bytes) : Access Search := do
  let (removed, search) ← searchRemoved username
  match removed with
  | some (addr, evicted) =>
      broadcastPacket Msg.userQuit
        (buildUserQuitPacket evicted.username evicted.userId (ascii "reconnected"))
      closeSession addr
      return search
  | none => return search

/-- `enrol`, after a search. -/
def arrive (search : Search) (src : SocketAddr) (username emulatorName : Bytes) (connType : UInt8)
    (now : Nat) : Labelled Directory Arrival Report Unit := do
  let userId ← .ofTask takeNextUserId
  Labelled.critical ⟨⟨src, username⟩, search⟩ fun directory =>
    (.ok (), directory.enrol src username emulatorName connType userId now)
  .ofTask (sendPacket src Msg.serverToClientAck buildServerToClientAckPacket)

/-- `handle_user_login`, with its searches. -/
def searchingLogin (src : SocketAddr) (data : Bytes) (now later : Nat) (flow : GameFlow) :
    Labelled Directory Arrival Report Unit := do
  let (name, emulatorName, connType) := parseLogin data
  if connType ≠ lanConnectionType then
    .ofTask (rejectLogin src (ascii "Only LAN connection type is allowed."))
  else
    let username := name.take 31
    let (found, search) ← .ofTask (searchClient username)
    match found with
    | some (_, old) =>
        let lastActive ← .ofTask (Task.inspect fun directory : Directory =>
          directory.activity old.sessionId)
        if now - lastActive < sessionAliveThresholdSecs then
          .ofTask (rejectLogin src (ascii "Username is already in use."))
        else if old.gameId.isSome then
          let _ ← .ofTask (playThrough flow).attempt
          let search ← .ofTask (searchEvicted username)
          arrive search src username emulatorName connType later
        else
          let search ← .ofTask (searchEvicted username)
          arrive search src username emulatorName connType later
    | none => arrive search src username emulatorName connType later

/-- An errand with its searches. -/
def searching (src : SocketAddr) : Errand → Labelled Directory Arrival Report Unit
  | .login data now later flow => searchingLogin src data now later flow
  | errand => .ofTask (runErrand src errand).erase

/-- The sessions of a server, which run errands on the client maps section by section. -/
abbrev clerks : Program Directory Report Unit SocketAddr Errand
    (Option (Labelled Directory Arrival Report Unit)) :=
  .labelled searching

/-! ## Without the searches -/

theorem searchClient_found (username : Bytes) :
    (searchClient username >>= fun found => pure found.1) = findClientByUsername username := by
  unfold searchClient
  rw [Task.bind_assoc]
  apply Task.inspect_bind_congr
  intro directory
  dsimp only
  cases directory.named username with
  | none => rfl
  | some entry =>
      dsimp only
      rw [Task.bind_assoc]
      apply Task.inspect_bind_congr
      intro directory
      cases directory.holder entry.1 with
      | none => rfl
      | some addr => rfl

theorem searchRemoved_removed (username : Bytes) :
    (searchRemoved username >>= fun removed => pure removed.1) =
      removeClientByUsername username := by
  unfold searchRemoved
  rw [Task.bind_assoc]
  apply Task.inspect_bind_congr
  intro directory
  dsimp only
  cases directory.named username with
  | none => rfl
  | some entry =>
      dsimp only
      rw [Task.bind_assoc]
      refine congrArg _ (funext fun addr => ?_)
      cases addr with
      | none => rfl
      | some addr =>
          dsimp only
          rw [Task.bind_assoc]
          exact Task.bind_pure _

theorem searchEvicted_evicted (username : Bytes) :
    (searchEvicted username >>= fun _ => pure ()) = evict username := by
  unfold searchEvicted evict
  rw [Task.bind_assoc, ← searchRemoved_removed, Task.bind_assoc]
  refine congrArg _ (funext fun removed => ?_)
  obtain ⟨removed, search⟩ := removed
  cases removed with
  | none => rfl
  | some evicted =>
      dsimp only
      simp only [Task.bind_assoc]
      refine congrArg _ (funext fun _ => ?_)
      exact Task.bind_pure _

/-- Without its search an arrival is an enrolment. -/
theorem erase_arrive (search : Search) (src : SocketAddr) (username emulatorName : Bytes)
    (connType : UInt8) (now : Nat) :
    (arrive search src username emulatorName connType now).erase =
      (enrol src username emulatorName connType now).erase := by
  simp only [arrive, enrol, Labelled.erase_bind, Labelled.erase_critical, Labelled.erase_ofTask]

/-- Without its searches an errand is the errand. -/
theorem erase_searching (src : SocketAddr) (errand : Errand) :
    (searching src errand).erase = (runErrand src errand).erase := by
  cases errand with
  | login data now later flow =>
      simp only [searching, runErrand, searchingLogin, userLogin]
      obtain ⟨name, emulatorName, connType⟩ := parseLogin data
      dsimp only
      have evicts : ∀ rest : Access Unit,
          (searchEvicted (name.take 31) >>= fun _ => rest) = evict (name.take 31) >>= fun _ => rest := by
        intro rest
        rw [← searchEvicted_evicted, Task.bind_assoc]
        rfl
      split
      · rfl
      · simp only [Labelled.erase_bind, Labelled.erase_ofTask]
        rw [← searchClient_found, Task.bind_assoc]
        refine congrArg _ (funext fun found => ?_)
        obtain ⟨found, search⟩ := found
        cases found with
        | none => exact erase_arrive _ _ _ _ _ _
        | some known =>
            change Labelled.erase _ = Labelled.erase _
            simp only [Labelled.erase_bind, Labelled.erase_ofTask]
            refine congrArg _ (funext fun lastActive => ?_)
            split
            · rfl
            · split <;> simp only [Labelled.erase_bind, Labelled.erase_ofTask, erase_arrive, evicts]
  | _ => exact Labelled.erase_ofTask _

/-! ## Sections -/

open Directory

/-- Every section of a task files the client of its arrival, or nobody. -/
abbrev Searching {Result : Type} (task : Labelled Directory Arrival Report Result) : Prop :=
  Labelled.Each (fun arrival before after _ =>
    Files before (arrival.map Arrival.toEnrolment) after) task

/-- Every section of a task fades. -/
abbrev Fading {Result : Type} (task : Access Result) : Prop := Task.Each Fades task

section Searching

variable {Result : Type}

theorem Working.fading {task : Access Result}
    (working : Working (fun client => client.username) (fun _ => True) task) : Fading task :=
  Task.Each.mono working fun _ _ => fades_of_works

theorem searching_ofTask {task : Access Result} (fading : Fading task) :
    Searching (.ofTask task) :=
  Labelled.each_ofTask fading fun _ _ fades => .fade fades

theorem fading_searchClient (username : Bytes) : Fading (searchClient username) := by
  have found := Working.fading (working_findClientByUsername username)
  rw [← searchClient_found] at found
  exact found.of_bind

theorem fading_searchEvicted (username : Bytes) : Fading (searchEvicted username) := by
  have evicted := (working_evict covers_username username).fading
  rw [← searchEvicted_evicted] at evicted
  exact evicted.of_bind

theorem fading_takeNextUserId : Fading takeNextUserId :=
  Task.each_critical fun _ => ⟨fun _ _ => id, fun _ client here => ⟨client, here, rfl⟩, rfl⟩

theorem searching_arrive (search : Search) (src : SocketAddr) (username emulatorName : Bytes)
    (connType : UInt8) (now : Nat) :
    Searching (arrive search src username emulatorName connType now) := by
  apply Labelled.Each.bind (searching_ofTask fading_takeNextUserId)
  intro userId
  apply Labelled.Each.bind
  · exact fun _ => ⟨.enrol src username emulatorName connType userId now, trivial⟩
  · exact fun _ => searching_ofTask
      (working_sendPacket covers_username.unsent src _ _ covers_username.answers).fading

theorem searching_searchingLogin (src : SocketAddr) (data : Bytes) (now later : Nat)
    (flow : GameFlow) : Searching (searchingLogin src data now later flow) := by
  have rejects : ∀ message, Searching (.ofTask (rejectLogin src message)) := fun message =>
    searching_ofTask (working_rejectLogin covers_username.rejects src message).fading
  unfold searchingLogin
  obtain ⟨name, emulatorName, connType⟩ := parseLogin data
  dsimp only
  have arrives : ∀ search,
      Searching (arrive search src (name.take 31) emulatorName connType later) := fun search =>
    searching_arrive search src (name.take 31) emulatorName connType later
  have evicts := Labelled.Each.bind (searching_ofTask (fading_searchEvicted (name.take 31))) arrives
  split
  · exact rejects _
  · apply Labelled.Each.bind (searching_ofTask (fading_searchClient _))
    rintro ⟨_ | ⟨oldAddr, old⟩, search⟩
    · exact arrives search
    · apply Labelled.Each.bind (searching_ofTask (working_inspect _).fading)
      intro lastActive
      split
      · exact rejects _
      · split
        · apply Labelled.Each.bind (searching_ofTask (Task.Each.attempt (Working.fading
            (working_playThrough fun touch _ => touch.2.username))))
          exact fun _ => evicts
        · exact evicts

theorem searching_searching (src : SocketAddr) (errand : Errand) :
    Searching (searching src errand) := by
  cases errand with
  | login data now later flow => exact searching_searchingLogin src data now later flow
  | _ =>
      exact searching_ofTask (working_runErrand covers_username src
        (fun touch _ => touch.2.username) (by simp)).fading

end Searching

/-! ## What a search leaves -/

namespace Directory

variable {directory before middle after : Directory} {username : Bytes} {moment : SessionId}
  {found : Option SessionId}

/-- Whoever of a name is connected has a session which was drawn since a moment, or the one which
was found. -/
def ClearedBut (directory : Directory) (username : Bytes) (moment : SessionId)
    (found : Option SessionId) : Prop :=
  ∀ addr session client, directory.byAddr.lookup addr = some session →
    directory.byId.lookup session = some client → client.username = username →
      moment ≤ session ∨ found = some session

/-- Two addresses do not share a session under which one client is connected. -/
theorem Unique.same_addr (unique : directory.Unique) {first second : SocketAddr}
    {one two : SessionId} {client other : ClientInfo}
    (here : directory.byAddr.lookup first = some one)
    (known : directory.byId.lookup one = some client)
    (there : directory.byAddr.lookup second = some two)
    (knownToo : directory.byId.lookup two = some other) (same : client.username = other.username) :
    first = second :=
  unique first second client other (Option.bind_eq_some_iff.mpr ⟨one, here, known⟩)
    (Option.bind_eq_some_iff.mpr ⟨two, there, knownToo⟩) same

/-- A search which is not led astray finds whoever of the name is connected. -/
theorem clearedBut_of_search (unique : directory.Unique)
    (straight : (directory.search username).astray = false) (moment : SessionId) :
    directory.ClearedBut username moment ((directory.named username).map Prod.fst) := by
  intro addr session client bound known same
  right
  cases entry : directory.named username with
  | none =>
      have unnamed := EntryMap.first_eq_none_iff.mp entry session client known
      exact absurd same (of_decide_eq_false unnamed)
  | some pair =>
      obtain ⟨first, other⟩ := pair
      obtain ⟨knownFirst, named⟩ := named_spec entry
      cases held : directory.holder first with
      | none => simp [search, entry, held] at straight
      | some holder =>
          have boundFirst := holder_spec held
          have here := unique.same_addr bound known boundFirst knownFirst
            (same.trans named.symm)
          rw [here] at bound
          exact boundFirst.symm.trans bound

/-- What was found and has no address is out of the way. -/
theorem ClearedBut.unheld {session : SessionId}
    (cleared : directory.ClearedBut username moment (some session))
    (unheld : directory.holder session = none) : directory.ClearedBut username moment none := by
  intro addr other client bound known same
  rcases cleared addr other client bound known same with later | found
  · exact .inl later
  · exact absurd (bound.trans found.symm) (holder_eq_none unheld addr)

/-- What was found and loses its address is out of the way. -/
theorem ClearedBut.unbind {session : SessionId} {holder : SocketAddr} (unique : directory.Unique)
    (cleared : directory.ClearedBut username moment (some session))
    (held : directory.holder session = some holder) :
    ({ directory with byAddr := directory.byAddr.erase holder } : Directory).ClearedBut username
      moment none := by
  intro addr other client bound known same
  have boundBefore := EntryMap.lookup_of_erase bound
  rcases cleared addr other client boundBefore known same with later | found
  · exact .inl later
  · obtain rfl := Option.some.inj found
    obtain rfl := unique.same_addr boundBefore known (holder_spec held) known rfl
    change (directory.byAddr.erase addr).lookup addr = some session at bound
    rw [AList.lookup_erase] at bound
    cases bound

/-- Sessions are drawn in order, and who is out of the way stays so. -/
structure Later (before after : Directory) : Prop where
  drawn : before.nextSessionId ≤ after.nextSessionId
  cleared : ∀ username moment found, moment ≤ before.nextSessionId →
    before.ClearedBut username moment found → after.ClearedBut username moment found

theorem Later.refl (directory : Directory) : Later directory directory :=
  ⟨Nat.le_refl _, fun _ _ _ _ cleared => cleared⟩

theorem Later.trans (before middle after : Directory) (first : Later before middle)
    (second : Later middle after) : Later before after where
  drawn := Nat.le_trans first.drawn second.drawn
  cleared := fun username moment found drawn cleared =>
    second.cleared username moment found (Nat.le_trans drawn first.drawn)
      (first.cleared username moment found drawn cleared)

theorem Fades.later (fades : Fades before after) : Later before after where
  drawn := Nat.le_of_eq fades.drawn.symm
  cleared := by
    intro username moment found drawn cleared addr session client bound known same
    obtain ⟨earlier, there, named⟩ := fades.known session client known
    exact cleared addr session earlier (fades.bound addr session bound) there (named.trans same)

end Directory

theorem Files.later {before after : Directory} {enrolment : Option Enrolment}
    (files : Files before enrolment after) : Later before after := by
  cases files with
  | fade fades => exact fades.later
  | enrol src username emulatorName connType userId now =>
      refine ⟨Nat.le_succ _, ?_⟩
      intro name moment found old cleared addr session client bound known same
      by_cases new : session = before.nextSessionId
      · exact .inl (new ▸ old)
      · change (before.byAddr.insert src before.nextSessionId).lookup addr = some session at bound
        have other : addr ≠ src := by
          rintro rfl
          rw [AList.lookup_insert] at bound
          exact new (Option.some.inj bound).symm
        rw [AList.lookup_insert_ne other] at bound
        exact cleared addr session client bound ((AList.lookup_insert_ne new).symm.trans known) same

/-! ## What a login leaves before it arrives -/

/-- After a search which was not led astray, whoever of the name is connected logged in behind
it. -/
structure Search.Settled (search : Search) (username : Bytes) (directory : Directory) : Prop where
  drawn : search.moment ≤ directory.nextSessionId
  cleared : search.astray = false → directory.ClearedBut username search.moment none

theorem Search.Settled.later {search : Search} {username : Bytes} {before after : Directory}
    (settled : search.Settled username before) (later : Later before after) :
    search.Settled username after where
  drawn := Nat.le_trans settled.drawn later.drawn
  cleared := fun straight =>
    later.cleared username search.moment none settled.drawn (settled.cleared straight)

/-- An arrival comes some time after its search settled. -/
def Arrives (directory : Directory) (arrival : Arrival) : Prop :=
  arrival.search.Settled arrival.username directory

/-- Sessions are drawn before they are used, and names are unique. -/
structure Sound (directory : Directory) : Prop where
  drawn : directory.Drawn
  unique : directory.Unique

/-- A task arrives only after its search settled, as long as the other sessions leave the
directory sound. -/
abbrev Settles {Result : Type} (since : Directory)
    (task : Labelled Directory Arrival Report Result)
    (ends : Directory → Result → Prop) : Prop :=
  task.Promises Later Sound Arrives since ends

section Settles

variable {since : Directory}

/-- A task which fades leaves a later directory. -/
theorem settles_fading {Result : Type} {task : Access Result} (fading : Fading task) :
    Settles since (.ofTask task) fun directory _ => Later since directory :=
  Labelled.promises_ofTask_later Later.trans (fading.mono fun _ _ fades _ => fades.later)
    (.refl since)

/-- A login which finds nobody has settled its search. -/
theorem settles_searchClient (username : Bytes) :
    Settles since (.ofTask (searchClient username)) fun directory found =>
      found.1 = none → found.2.Settled username directory := by
  apply Labelled.promises_inspect_bind
  intro directory _ sound
  have cleared := fun straight : (directory.search username).astray = false =>
    clearedBut_of_search sound.unique straight directory.nextSessionId
  dsimp only
  cases entry : directory.named username with
  | none =>
      rw [entry] at cleared
      exact fun _ => ⟨Nat.le_refl _, cleared⟩
  | some found =>
      rw [entry] at cleared
      apply Labelled.promises_inspect_bind
      intro after later _
      cases held : after.holder found.1 with
      | none =>
          refine fun _ => ⟨later.drawn, fun straight => ?_⟩
          exact (later.cleared _ _ _ (Nat.le_refl _) (cleared straight)).unheld held
      | some addr => rintro ⟨⟩

/-- An eviction settles its search. -/
theorem settles_searchRemoved (username : Bytes) :
    Settles since (.ofTask (searchRemoved username)) fun directory removed =>
      removed.2.Settled username directory := by
  apply Labelled.promises_inspect_bind
  intro directory _ sound
  have cleared := fun straight : (directory.search username).astray = false =>
    clearedBut_of_search sound.unique straight directory.nextSessionId
  dsimp only
  cases entry : directory.named username with
  | none =>
      rw [entry] at cleared
      exact ⟨Nat.le_refl _, cleared⟩
  | some found =>
      rw [entry] at cleared
      apply Labelled.promises_critical_bind
      intro after later soundAfter addr bound
      have still := fun straight => later.cleared username directory.nextSessionId (some found.1)
        (Nat.le_refl _) (cleared straight)
      cases held : after.holder found.1 with
      | none =>
          simp only [held, Except.ok.injEq] at bound ⊢
          subst bound
          exact ⟨later.drawn, fun straight => (still straight).unheld held⟩
      | some holder =>
          simp only [held, Except.ok.injEq] at bound ⊢
          subst bound
          have settled : (directory.search username).Settled username
              { after with byAddr := after.byAddr.erase holder } :=
            ⟨later.drawn, fun straight => (still straight).unbind soundAfter.unique held⟩
          apply Labelled.promises_critical_bind
          intro last further _ removed _
          refine (settled.later further).later ?_
          split
          · exact .refl last
          · exact (fades_of_works (.discard found.1 _)).later

theorem settles_searchEvicted (username : Bytes) :
    Settles since (.ofTask (searchEvicted username)) fun directory search =>
      search.Settled username directory := by
  unfold searchEvicted
  rw [Labelled.ofTask_bind]
  apply (settles_searchRemoved username).bind
  rintro directory ⟨removed, search⟩ settled
  cases removed with
  | none => exact settled
  | some evicted =>
      simp only [Labelled.ofTask_bind]
      apply (settles_fading (working_broadcastPacket covers_username.unsent _ _
        covers_username.leaves).fading).bind
      intro middle _ first
      apply (settles_fading (working_closeSession evicted.1).fading).bind
      exact fun after _ second => (settled.later first).later second

theorem settles_arrive {search : Search} {username : Bytes} (settled : search.Settled username since)
    (src : SocketAddr) (emulatorName : Bytes) (connType : UInt8) (now : Nat) :
    Settles since (arrive search src username emulatorName connType now) fun _ _ => True := by
  apply (settles_fading fading_takeNextUserId).bind
  intro directory userId later
  apply Labelled.Promises.bind
  · exact Labelled.promises_critical (settled.later later)
  · exact fun _ _ _ => Labelled.promises_ofTask _

theorem settles_searching (src : SocketAddr) (errand : Errand) :
    Settles since (searching src errand) fun _ _ => True := by
  cases errand with
  | login data now later flow =>
      simp only [searching, searchingLogin]
      obtain ⟨name, emulatorName, connType⟩ := parseLogin data
      dsimp only
      have evicts : ∀ directory, Settles directory (do
          let search ← .ofTask (searchEvicted (name.take 31))
          arrive search src (name.take 31) emulatorName connType later) fun _ _ => True :=
        fun directory => (settles_searchEvicted _).bind fun _ _ settled =>
          settles_arrive settled src emulatorName connType later
      split
      · exact Labelled.promises_ofTask _
      · apply (settles_searchClient (name.take 31)).bind
        rintro directory ⟨_ | ⟨oldAddr, old⟩, search⟩ settled
        · exact settles_arrive (settled rfl) src emulatorName connType later
        · apply (Labelled.promises_ofTask _).bind
          intro _ lastActive _
          split
          · exact Labelled.promises_ofTask _
          · split
            · exact (Labelled.promises_ofTask _).bind fun directory _ _ => evicts directory
            · exact evicts _
  | _ => exact Labelled.promises_ofTask _

end Settles

/-! ## Every interleaving -/

/-- Since the last search of the login no other client of its name logged in who is still
connected, and the search was not led astray. -/
def Arrival.Timely (arrival : Arrival) (directory : Directory) : Prop :=
  arrival.search.astray = false ∧ ∀ entry ∈ directory.byAddr.entries,
    ∀ client ∈ directory.byId.lookup entry.2, client.username = arrival.username →
      entry.1 ≠ arrival.src → entry.2 < arrival.search.moment

instance decidableArrivalTimely (arrival : Arrival) (directory : Directory) :
    Decidable (arrival.Timely directory) :=
  inferInstanceAs (Decidable (_ ∧ ∀ entry ∈ directory.byAddr.entries,
    ∀ client ∈ directory.byId.lookup entry.2, _ → _ → _))

/-- The clients at work, with what is left of their errands. -/
abbrev ClerkPool := LabelledPool Directory Arrival Report Unit SocketAddr

/-- The next section of a session is no untimely arrival. -/
def Timely (pool : ClerkPool) : Turn SocketAddr Errand → Prop
  | .receive _ _ => True
  | .advance src => ∀ arrival ∈ pool.label src, arrival.Timely pool.state

instance decidableTimely (pool : ClerkPool) :
    ∀ turn : Turn SocketAddr Errand, Decidable (Timely pool turn)
  | .receive _ _ => .isTrue trivial
  | .advance src => inferInstanceAs (Decidable (∀ arrival ∈ pool.label src, _))

/-- A timely arrival after a settled search keeps the names unique. -/
theorem Files.sound {before after : Directory} {arrival : Option Arrival}
    (files : Files before (arrival.map Arrival.toEnrolment) after) (sound : Sound before)
    (settled : ∀ own ∈ arrival, Arrives before own)
    (timely : ∀ own ∈ arrival, own.Timely before) : Sound after := by
  refine ⟨files.drawn sound.drawn, ?_⟩
  cases arrival with
  | none =>
      cases files with
      | fade fades => exact sound.unique.fade fades
  | some arrival =>
      obtain ⟨⟨src, username⟩, search⟩ := arrival
      obtain ⟨straight, earlier⟩ := timely _ rfl
      have cleared := (settled _ rfl).cleared straight
      cases files with
      | enrol src username emulatorName connType userId now =>
          refine (unique_enrol_iff sound.drawn sound.unique).mpr fun addr client here same => ?_
          obtain ⟨session, bound, known⟩ := Option.bind_eq_some_iff.mp here
          by_contra other
          have older := earlier ⟨addr, session⟩ (List.of_mem_dlookup bound) client known same other
          rcases cleared addr session client bound known same with newer | found
          · exact absurd older (Nat.not_lt_of_le newer)
          · cases found

theorem sound_empty : Sound .empty where
  drawn := by
    constructor
    · rintro addr session ⟨⟩
    · rintro session client ⟨⟩
  unique := by rintro first second one two ⟨⟩

/-- However logins, quits, evictions and timeouts interleave and whatever the maps iterate
first, the names of connected clients are unique, if no login adds its client when another
client of its name has logged in since its last search for the name, or when that search
stopped at an entry without an address. -/
theorem usernames_unique {turns : List (Turn SocketAddr Errand)}
    (timely : clerks.machine.Along Timely (.idle .empty) turns) :
    (clerks.machine.final (.idle .empty) turns).state.Unique := by
  have sound := promising_along searching_searching Later.refl Later.trans
    (fun src errand since => settles_searching src errand) ?_ sound_empty timely
  · exact sound.1.unique
  · intro pool src next allowed sound promised files
    refine ⟨files.sound sound ?_ allowed, files.later⟩
    intro arrival label
    obtain ⟨since, later, settled⟩ := promised arrival label
    exact settled.later later

/-- Clients 1 and 2 log in as `a` and `b` in step. When client 1 was not heard for long, the
maps are visited in the opposite order and client 3 logs in as `a` while client 2 quits. -/
def loginInterleaved : List (Turn SocketAddr Errand) :=
  [.receive 1 loginA, .receive 2 (.login [98, 0, 0, 1] 100 100 .idle)] ++
    (List.replicate 8 ([1, 2].map Turn.advance)).flatten ++
    [.receive 4 (.rehash .opposite .opposite), .advance 4, .advance 4,
      .receive 3 (.login [97, 0, 0, 1] 200 200 .idle), .receive 2 (.userQuit [] .idle)] ++
    (List.replicate 16 ([3, 2].map Turn.advance)).flatten

theorem usernames_unique_interleaved :
    (clerks.machine.final (.idle .empty) loginInterleaved).state.Unique ∧
      [1, 2, 3].map (fun addr =>
        ((clerks.machine.final (.idle .empty) loginInterleaved).state.find addr).map
          fun client => client.username) = [none, none, some [97]] := by
  refine ⟨usernames_unique ?_, by decide +kernel⟩
  decide +kernel

/-- Two connected clients share a name. -/
theorem not_unique {directory : Directory} {first second : SocketAddr} {name : Bytes}
    (here : (directory.find first).map (fun client => client.username) = some name)
    (there : (directory.find second).map (fun client => client.username) = some name)
    (distinct : first ≠ second) : ¬directory.Unique := by
  intro unique
  obtain ⟨one, found, oneName⟩ := Option.map_eq_some_iff.mp here
  obtain ⟨two, foundToo, twoName⟩ := Option.map_eq_some_iff.mp there
  exact distinct (unique first second one two found foundToo (oneName.trans twoName.symm))

/-- Two clients log in with one name; both look it up before either adds its client. -/
def loginTogether : List (Turn SocketAddr Errand) :=
  [.receive 1 loginA, .receive 2 loginA] ++ (List.replicate 5 ([1, 2].map Turn.advance)).flatten

/-- Client 1 logs in as `a` and then as `b`, which leaves an entry `a` without an address; clients
2 and 3 log in as `a`, one after the other, and the maps are visited in the opposite order
between. -/
def loginAstray : List (Turn SocketAddr Errand) :=
  [.receive 1 loginA] ++ List.replicate 10 (.advance 1) ++
    [.receive 1 (.login [98, 0, 0, 1] 100 100 .idle)] ++ List.replicate 10 (.advance 1) ++
    [.receive 2 loginA] ++ List.replicate 10 (.advance 2) ++
    [.receive 4 (.rehash .opposite .opposite)] ++ List.replicate 2 (.advance 4) ++
    [.receive 3 loginA] ++ List.replicate 10 (.advance 3)

theorem usernames_shared :
    ¬(clerks.machine.final (.idle .empty) loginTogether).state.Unique ∧
      ¬(clerks.machine.final (.idle .empty) loginAstray).state.Unique := by
  constructor
  · refine @not_unique _ 1 2 [97] ?_ ?_ (by decide)
    · decide +kernel
    · decide +kernel
  · refine @not_unique _ 2 3 [97] ?_ ?_ (by decide)
    · decide +kernel
    · decide +kernel

end Direlera.Clients
