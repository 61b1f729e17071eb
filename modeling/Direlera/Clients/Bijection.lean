import Direlera.Clients.Usernames

/-!
# The client maps as a bijection

Complete errands keep the two client maps in bijection, except for a login from an address
which is bound already: `add_client` binds the address anew and leaves the old client without
an address. Only the client which the login itself evicts is out of the way by then.
-/

namespace Direlera.Clients

open Direlera.Library Direlera.Lobby Direlera.Sync Direlera.Wire

namespace Directory

variable {directory before after : Directory} {addr src : SocketAddr} {session : SessionId}

/-- Addresses and sessions with clients correspond one to one, and the gauge counts them. -/
structure Bijective (directory : Directory) : Prop where
  registered : ∀ addr session, directory.byAddr.lookup addr = some session →
    (directory.byId.lookup session).isSome = true
  held : ∀ session, (directory.byId.lookup session).isSome = true →
    ∃! addr, directory.byAddr.lookup addr = some session
  counted : directory.activeSessions = directory.byAddr.entries.length

/-- A session is bound to one address. -/
theorem Bijective.unshared (bijective : directory.Bijective) {other : SocketAddr}
    (here : directory.byAddr.lookup addr = some session)
    (there : directory.byAddr.lookup other = some session) : addr = other := by
  obtain ⟨holder, _, unique⟩ := bijective.held session (bijective.registered addr session here)
  exact (unique addr here).trans (unique other there).symm

theorem bijective_of_lookup (bijective : before.Bijective)
    (bound : ∀ addr, after.byAddr.lookup addr = before.byAddr.lookup addr)
    (known : ∀ session, (after.byId.lookup session).isSome = (before.byId.lookup session).isSome)
    (counted : after.activeSessions = after.byAddr.entries.length) : after.Bijective where
  registered := by
    intro addr session here
    rw [known]
    rw [bound] at here
    exact bijective.registered addr session here
  held := by
    intro session here
    rw [known] at here
    simp only [bound]
    exact bijective.held session here
  counted := counted

theorem Bijective.keep (bijective : before.Bijective) (inPlace : InPlace before after) :
    after.Bijective := by
  apply bijective_of_lookup bijective
  · intro addr
    rw [inPlace.byAddr]
  · exact inPlace.isSome_eq
  · rw [inPlace.activeSessions, inPlace.byAddr]
    exact bijective.counted

theorem Bijective.rehash (bijective : directory.Bijective)
    (addrs : EntryMap.Order SocketAddr SessionId) (ids : EntryMap.Order SessionId ClientInfo) :
    (directory.rehash addrs ids).Bijective := by
  apply bijective_of_lookup bijective
  · intro addr
    rw [Directory.rehash, EntryMap.lookup_reorder]
  · intro session
    rw [Directory.rehash, EntryMap.lookup_reorder]
  · rw [Directory.rehash, EntryMap.length_reorder]
    exact bijective.counted

/-- A client which is removed takes its session with it. -/
theorem Bijective.removeClient (bijective : directory.Bijective) (addr : SocketAddr) :
    (directory.removeClient addr).Bijective := by
  unfold Directory.removeClient
  cases bound : directory.byAddr.lookup addr with
  | none => exact bijective
  | some session =>
      have known := bijective.registered addr session bound
      have others : ∀ other, other ≠ addr →
          (directory.byAddr.erase addr).lookup other = directory.byAddr.lookup other :=
        fun other different => AList.lookup_erase_ne different
      constructor
      · intro other kept here
        dsimp only at here ⊢
        have different : other ≠ addr := by
          rintro rfl
          rw [AList.lookup_erase] at here
          cases here
        rw [others other different] at here
        have unrelated : kept ≠ session := by
          rintro rfl
          exact different (bijective.unshared here bound)
        rw [AList.lookup_erase_ne unrelated]
        exact bijective.registered other kept here
      · intro kept here
        dsimp only at here ⊢
        have unrelated : kept ≠ session := by
          rintro rfl
          rw [AList.lookup_erase] at here
          cases here
        rw [AList.lookup_erase_ne unrelated] at here
        obtain ⟨holder, holds, unique⟩ := bijective.held kept here
        have different : holder ≠ addr := by
          rintro rfl
          exact unrelated (Option.some.inj (holds.symm.trans bound))
        refine ⟨holder, (others holder different).trans holds, ?_⟩
        intro other there
        by_cases gone : other = addr
        · subst gone
          rw [AList.lookup_erase] at there
          cases there
        · exact unique other ((others other gone).symm.trans there)
      · have length := EntryMap.length_erase bound
        dsimp only
        rw [if_pos known, bijective.counted]
        omega

variable {username emulatorName : Bytes} {connType : UInt8} {userId : UInt16} {now : Nat}

/-- A login keeps the maps in bijection exactly if its address is not bound. -/
theorem bijective_enrol_iff (bijective : directory.Bijective) (drawn : directory.Drawn) :
    (directory.enrol src username emulatorName connType userId now).Bijective ↔
      directory.byAddr.lookup src = none := by
  have own : (directory.enrol src username emulatorName connType userId now).byAddr.lookup src =
      some directory.nextSessionId :=
    AList.lookup_insert _
  have others : ∀ other, other ≠ src →
      (directory.enrol src username emulatorName connType userId now).byAddr.lookup other =
        directory.byAddr.lookup other :=
    fun other different => AList.lookup_insert_ne different
  have known : ∀ session, session ≠ directory.nextSessionId →
      (directory.enrol src username emulatorName connType userId now).byId.lookup session =
        directory.byId.lookup session :=
    fun session different => AList.lookup_insert_ne different
  constructor
  · intro after
    cases bound : directory.byAddr.lookup src with
    | none => rfl
    | some session =>
        -- the old session of the address keeps its client, but no address leads to it
        have older : session ≠ directory.nextSessionId := Nat.ne_of_lt (drawn.bound src session bound)
        have there := bijective.registered src session bound
        rw [← known session older] at there
        obtain ⟨holder, holds, _⟩ := after.held session there
        by_cases same : holder = src
        · subst same
          rw [own] at holds
          exact absurd (Option.some.inj holds).symm older
        · rw [others holder same] at holds
          exact absurd (bijective.unshared holds bound) same
  · intro unbound
    constructor
    · intro addr session here
      by_cases same : addr = src
      · subst same
        rw [own] at here
        obtain rfl := Option.some.inj here
        have here : (directory.enrol addr username emulatorName connType userId now).byId.lookup
          directory.nextSessionId = some _ := AList.lookup_insert _
        rw [here]
        rfl
      · rw [others addr same] at here
        rw [known session (Nat.ne_of_lt (drawn.bound addr session here))]
        exact bijective.registered addr session here
    · intro session here
      by_cases new : session = directory.nextSessionId
      · subst new
        refine ⟨src, own, fun other there => ?_⟩
        by_contra different
        have bound := (others other different).symm.trans there
        exact absurd (drawn.bound other _ bound) (Nat.lt_irrefl _)
      · rw [known session new] at here
        obtain ⟨holder, holds, unique⟩ := bijective.held session here
        have different : holder ≠ src := by
          rintro rfl
          rw [unbound] at holds
          cases holds
        refine ⟨holder, (others holder different).trans holds, fun other there => ?_⟩
        by_cases same : other = src
        · subst same
          exact absurd (Option.some.inj (own.symm.trans there)).symm new
        · exact unique other ((others other same).symm.trans there)
    · have length := EntryMap.length_insert unbound directory.nextSessionId
      change directory.activeSessions + 1 =
        (directory.byAddr.insert src directory.nextSessionId).entries.length
      rw [length, bijective.counted]
      omega

end Directory

/-! ## Sections which keep the bijection -/

open Directory

/-- Every section of a task keeps the maps in bijection. -/
abbrev Balanced {Result : Type} (task : Access Result) : Prop :=
  Task.Each (fun before after => before.Bijective → after.Bijective) task

section Balanced

variable {Result : Type}

theorem Keeping.balanced {task : Access Result} (keeping : Keeping task) : Balanced task :=
  Task.Each.mono keeping fun _ _ inPlace bijective => bijective.keep inPlace

/-- The run of such a task keeps the maps in bijection. -/
theorem Balanced.run {task : Access Result} (balanced : Balanced task) {directory : Directory}
    (bijective : directory.Bijective) : (task.run directory).2.Bijective := by
  have kept := @Task.Each.run _ _ _ (fun before after => before.Bijective → after.Bijective)
    (fun _ => id) (fun _ _ _ first second => second ∘ first) task balanced directory
  exact kept bijective

theorem balanced_removeClient (addr : SocketAddr) : Balanced (removeClient addr) :=
  Task.each_critical fun _ bijective => bijective.removeClient addr

theorem balanced_dismiss (addr : SocketAddr) (reason : Bytes) : Balanced (dismiss addr reason) := by
  apply Task.Each.bind (balanced_removeClient addr)
  rintro (_ | removed)
  · exact Task.each_pure ()
  · exact (keeping_broadcastPacket _ _).balanced

theorem balanced_expel (addr : SocketAddr) (client : ClientInfo) (reason : Bytes)
    (flow : GameFlow) : Balanced (expel addr client reason flow) := by
  unfold expel
  split
  · apply Task.Each.bind (keeping_playThrough flow).balanced.attempt
    exact fun _ => balanced_dismiss addr reason
  · exact balanced_dismiss addr reason

theorem balanced_endSession (addr : SocketAddr) (reason : Bytes) (flow : GameFlow) :
    Balanced (endSession addr reason flow) := by
  have removed : Balanced (do let _ ← removeClient addr : Access Unit) :=
    Task.Each.bind (balanced_removeClient addr) fun _ => Task.each_pure ()
  apply Task.Each.bind (keeping_inspect _).balanced
  rintro (_ | client)
  · exact removed
  · exact Task.Each.bind (balanced_expel addr client reason flow) fun _ => removed

theorem balanced_reap (addr : SocketAddr) (flow : GameFlow) : Balanced (reap addr flow) := by
  apply Task.Each.bind (keeping_inspect _).balanced
  rintro (_ | client)
  · exact Task.Each.bind (balanced_removeClient addr) fun _ => Task.each_pure ()
  · exact balanced_expel addr client _ flow

theorem balanced_userQuit (src : SocketAddr) (data : Bytes) (flow : GameFlow) :
    Balanced (userQuit src data flow) := by
  apply Task.Each.bind (keeping_playThrough flow).balanced
  intro _
  exact Task.Each.bind (balanced_dismiss src _) fun _ => (keeping_closeSession src).balanced

end Balanced

/-! ## Logging in, run to the end -/

/-- What `find_client_by_username` finds. -/
def Directory.found (directory : Directory) (username : Bytes) : Option (SocketAddr × ClientInfo) :=
  (directory.named username).bind fun entry =>
    (directory.holder entry.1).map fun addr => (addr, entry.2)

theorem run_findClientByUsername (username : Bytes) (directory : Directory) :
    (findClientByUsername username).run directory = (.ok (directory.found username), directory) := by
  unfold findClientByUsername Directory.found
  rw [Task.run_bind, Task.run_inspect]
  cases directory.named username with
  | none => rfl
  | some entry =>
      dsimp only [Option.bind_some]
      rw [Task.run_bind, Task.run_inspect]
      cases directory.holder entry.1 with
      | none => rfl
      | some addr => rfl

/-- Who is found by name is bound to its session. -/
theorem lookup_of_found {directory : Directory} {username : Bytes} {addr : SocketAddr}
    {client : ClientInfo} (found : directory.found username = some (addr, client)) :
    ∃ session, directory.named username = some (session, client) ∧
      directory.holder session = some addr ∧ directory.byAddr.lookup addr = some session ∧
        directory.byId.lookup session = some client := by
  obtain ⟨⟨session, known⟩, named, held⟩ := Option.bind_eq_some_iff.mp found
  obtain ⟨holder, holds, same⟩ := Option.map_eq_some_iff.mp held
  obtain ⟨rfl, rfl⟩ := Prod.mk.inj same
  exact ⟨session, named, holds, Directory.holder_spec holds, (Directory.named_spec named).1⟩

/-- An eviction removes the client which was found by name. -/
theorem run_evict {directory before : Directory} {username : Bytes} {addr : SocketAddr}
    {client : ClientInfo} (found : before.found username = some (addr, client))
    (inPlace : InPlace before directory) :
    ∃ last, (evict username).run directory = (.ok (), last) ∧
      InPlace (directory.removeClient addr) last := by
  obtain ⟨session, named, holds, bound, known⟩ := lookup_of_found found
  have again := inPlace.named username
  rw [named] at again
  obtain ⟨⟨same, present⟩, here, rfl⟩ := Option.map_eq_some_iff.mp again
  have stored := (Directory.named_spec here).1
  have holder : directory.holder same = some addr := by
    rw [Directory.holder, inPlace.byAddr]
    exact holds
  have removed : (removeClientByUsername username).run directory =
      (.ok (some (addr, present)), directory.removeClient addr) := by
    unfold removeClientByUsername
    rw [Task.run_bind, Task.run_inspect, here]
    dsimp only
    rw [Task.run_bind, Task.run_critical, holder]
    dsimp only
    rw [Task.run_critical, stored]
    simp only [Directory.removeClient, inPlace.byAddr, bound, stored]
    rfl
  unfold evict
  rw [Task.run_bind_ok removed]
  have kept := Keeping.run (Task.Each.bind (keeping_broadcastPacket Msg.userQuit
    (buildUserQuitPacket present.username present.userId (ascii "reconnected")))
      fun _ => keeping_closeSession addr) (directory.removeClient addr)
  exact ⟨_, rfl, kept⟩

/-- A login which gets past its checks ends with its client added to maps which were kept
since. -/
theorem run_enrol (src : SocketAddr) (username emulatorName : Bytes) (connType : UInt8) (now : Nat)
    (directory : Directory) : ∃ ready userId, InPlace directory ready ∧
      InPlace (ready.enrol src username emulatorName connType userId now)
        ((enrol src username emulatorName connType now).erase.run directory).2 := by
  have ready := keeping_takeNextUserId.run directory
  refine ⟨_, directory.nextUserId, ready, ?_⟩
  have sent := (keeping_sendPacket src Msg.serverToClientAck buildServerToClientAckPacket).run
    ((takeNextUserId.run directory).2.enrol src username emulatorName connType
      directory.nextUserId now)
  unfold enrol
  simp only [Labelled.erase_bind, Labelled.erase_ofTask, Labelled.erase_critical]
  exact sent

/-- A login from a LAN connection whose name is free or held by a stale client. -/
def Directory.Accepts (directory : Directory) (data : Bytes) (now : Nat) : Prop :=
  (parseLogin data).2.2 = lanConnectionType ∧
    ∀ addr client, directory.found ((parseLogin data).1.take 31) = some (addr, client) →
      sessionAliveThresholdSecs ≤ now - directory.activity client.sessionId

/-- The login evicts the client at an address. -/
def Directory.Evicts (directory : Directory) (data : Bytes) (addr : SocketAddr) : Prop :=
  ∃ client, directory.found ((parseLogin data).1.take 31) = some (addr, client)

theorem erase_userLogin (src : SocketAddr) (data : Bytes) (now later : Nat) (flow : GameFlow) :
    (userLogin src data now later flow).erase =
      if (parseLogin data).2.2 ≠ lanConnectionType then
        rejectLogin src (ascii "Only LAN connection type is allowed.")
      else (do
        match ← findClientByUsername ((parseLogin data).1.take 31) with
        | some (_, old) =>
            let lastActive ← Task.inspect fun directory : Directory =>
              directory.activity old.sessionId
            if now - lastActive < sessionAliveThresholdSecs then
              rejectLogin src (ascii "Username is already in use.")
            else if old.gameId.isSome then
              let _ ← (playThrough flow).attempt
              evict ((parseLogin data).1.take 31)
              (enrol src ((parseLogin data).1.take 31) (parseLogin data).2.1 (parseLogin data).2.2
                later).erase
            else
              evict ((parseLogin data).1.take 31)
              (enrol src ((parseLogin data).1.take 31) (parseLogin data).2.1 (parseLogin data).2.2
                later).erase
        | none =>
            (enrol src ((parseLogin data).1.take 31) (parseLogin data).2.1 (parseLogin data).2.2
              later).erase) := by
  unfold userLogin
  obtain ⟨name, emulatorName, connType⟩ := parseLogin data
  dsimp only
  split
  · exact Labelled.erase_ofTask _
  · rw [Labelled.erase_bind, Labelled.erase_ofTask]
    congr 1
    funext found
    cases found with
    | none => rfl
    | some found =>
        dsimp only
        rw [Labelled.erase_bind, Labelled.erase_ofTask]
        congr 1
        funext lastActive
        split
        · exact Labelled.erase_ofTask _
        · split
          · simp only [Labelled.erase_bind, Labelled.erase_ofTask]
          · simp only [Labelled.erase_bind, Labelled.erase_ofTask]

/-- A login which is not accepted keeps the maps. -/
theorem run_userLogin_rejected {directory : Directory} {data : Bytes} {now : Nat}
    (rejected : ¬directory.Accepts data now) (src : SocketAddr) (later : Nat) (flow : GameFlow) :
    InPlace directory ((userLogin src data now later flow).erase.run directory).2 := by
  rw [erase_userLogin]
  split
  next => exact (keeping_rejectLogin src _).run directory
  next lan =>
    rw [Task.run_bind_ok (run_findClientByUsername _ directory)]
    cases found : directory.found ((parseLogin data).1.take 31) with
    | none =>
        exact absurd ⟨not_not.mp lan, by simp [found]⟩ rejected
    | some entry =>
        obtain ⟨addr, client⟩ := entry
        dsimp only
        rw [Task.run_bind, Task.run_inspect]
        dsimp only
        split
        next => exact (keeping_rejectLogin src _).run directory
        next stale =>
          refine absurd ⟨not_not.mp lan, ?_⟩ rejected
          intro other there same
          rw [found] at same
          obtain ⟨rfl, rfl⟩ := Prod.mk.inj (Option.some.inj same)
          exact Nat.le_of_not_lt stale

/-- A login which is accepted adds its client, after it evicted the stale client which it
found. -/
theorem run_userLogin_accepted {directory : Directory} {data : Bytes} {now : Nat}
    (accepts : directory.Accepts data now) (src : SocketAddr) (later : Nat) (flow : GameFlow) :
    ∃ cleared ready userId, InPlace cleared ready ∧
      InPlace (ready.enrol src ((parseLogin data).1.take 31) (parseLogin data).2.1
        (parseLogin data).2.2 userId later) ((userLogin src data now later flow).erase.run directory).2 ∧
      match directory.found ((parseLogin data).1.take 31) with
      | none => cleared = directory
      | some (addr, _) => ∃ kept, InPlace directory kept ∧ cleared = kept.removeClient addr := by
  obtain ⟨lan, stale⟩ := accepts
  rw [erase_userLogin, if_neg (not_not.mpr lan)]
  rw [Task.run_bind_ok (run_findClientByUsername _ directory)]
  cases found : directory.found ((parseLogin data).1.take 31) with
  | none =>
      obtain ⟨ready, userId, kept, enrolled⟩ := run_enrol src ((parseLogin data).1.take 31)
        (parseLogin data).2.1 (parseLogin data).2.2 later directory
      exact ⟨directory, ready, userId, kept, enrolled, rfl⟩
  | some entry =>
      obtain ⟨addr, client⟩ := entry
      have old := Nat.not_lt_of_le (stale addr client found)
      dsimp only
      rw [Task.run_bind, Task.run_inspect]
      dsimp only
      rw [if_neg old]
      -- the eviction and the rest of the login, after the flow in which the client quits its game
      have rest : ∀ kept, InPlace directory kept → ∃ cleared ready userId, InPlace cleared ready ∧
          InPlace (ready.enrol src ((parseLogin data).1.take 31) (parseLogin data).2.1
            (parseLogin data).2.2 userId later) ((do
              evict ((parseLogin data).1.take 31)
              (enrol src ((parseLogin data).1.take 31) (parseLogin data).2.1 (parseLogin data).2.2
                later).erase : Access Unit).run kept).2 ∧
          ∃ kept, InPlace directory kept ∧ cleared = kept.removeClient addr := by
        intro kept inPlace
        obtain ⟨last, evicted, removed⟩ := run_evict found inPlace
        obtain ⟨ready, userId, still, enrolled⟩ := run_enrol src ((parseLogin data).1.take 31)
          (parseLogin data).2.1 (parseLogin data).2.2 later last
        refine ⟨kept.removeClient addr, ready, userId, removed.trans still, ?_, kept, inPlace, rfl⟩
        rw [Task.run_bind_ok evicted]
        exact enrolled
      split
      · rw [Task.run_bind_ok (Task.run_attempt _ _)]
        exact rest _ ((keeping_playThrough flow).run directory)
      · exact rest directory (.refl directory)

/-! ## Every run -/

/-- An accepted login comes from an address which is not bound, or which it evicts. -/
def Lands (directory : Directory) : SocketAddr × Errand → Prop
  | (src, .login data now _ _) => directory.Accepts data now →
      directory.byAddr.lookup src = none ∨ directory.Evicts data src
  | _ => True

theorem bijective_congr {before after : Directory} (inPlace : InPlace before after) :
    after.Bijective ↔ before.Bijective :=
  ⟨fun bijective => bijective.keep inPlace.symm, fun bijective => bijective.keep inPlace⟩

/-- A login keeps the maps in bijection exactly if it lands. -/
theorem bijective_login_iff {directory : Directory} (bijective : directory.Bijective)
    (drawn : directory.Drawn) (src : SocketAddr) (data : Bytes) (now later : Nat)
    (flow : GameFlow) :
    ((userLogin src data now later flow).erase.run directory).2.Bijective ↔
      Lands directory (src, .login data now later flow) := by
  by_cases accepts : directory.Accepts data now
  · obtain ⟨cleared, ready, userId, still, enrolled, from'⟩ :=
      run_userLogin_accepted accepts src later flow
    have lands : Lands directory (src, .login data now later flow) ↔
        (directory.byAddr.lookup src = none ∨ directory.Evicts data src) :=
      ⟨fun lands => lands accepts, fun free _ => free⟩
    rw [bijective_congr enrolled, lands]
    cases found : directory.found ((parseLogin data).1.take 31) with
    | none =>
        rw [found] at from'
        obtain rfl := from'
        rw [bijective_enrol_iff (bijective.keep still) (drawn.fade (fades_of_inPlace still)),
          still.byAddr]
        have spares : ¬cleared.Evicts data src := by
          rintro ⟨client, here⟩
          rw [found] at here
          cases here
        simp [spares]
    | some entry =>
        obtain ⟨addr, client⟩ := entry
        rw [found] at from'
        obtain ⟨kept, inPlace, rfl⟩ := from'
        obtain ⟨session, _, _, bound, _⟩ := lookup_of_found found
        have removed := ((bijective.keep inPlace).removeClient addr).keep still
        have drawn := ((drawn.fade (fades_of_inPlace inPlace)).fade
          (fades_removeClient kept addr)).fade (fades_of_inPlace still)
        have erased : ready.byAddr = directory.byAddr.erase addr := by
          rw [still.byAddr, Directory.removeClient, inPlace.byAddr, bound]
        rw [bijective_enrol_iff removed drawn, erased]
        by_cases same : src = addr
        · subst same
          exact iff_of_true (AList.lookup_erase _ _) (.inr ⟨client, found⟩)
        · have spares : ¬directory.Evicts data src := by
            rintro ⟨other, here⟩
            rw [found] at here
            exact same (Prod.mk.inj (Option.some.inj here)).1.symm
          rw [AList.lookup_erase_ne same]
          simp [spares]
  · have kept := run_userLogin_rejected accepts src later flow
    exact iff_of_true (bijective.keep kept) fun accepted => absurd accepted accepts

/-- An errand keeps the maps in bijection exactly if it lands. -/
theorem bijective_step_iff {directory : Directory} (bijective : directory.Bijective)
    (drawn : directory.Drawn) (errand : SocketAddr × Errand) :
    (clerk.step directory errand).2.Bijective ↔ Lands directory errand := by
  obtain ⟨src, errand⟩ := errand
  have balanced : ∀ {task : Access Unit}, Balanced task →
      ((Labelled.ofTask task : Clerical Unit).erase.run directory).2.Bijective := by
    intro task balanced
    rw [Labelled.erase_ofTask]
    exact balanced.run bijective
  cases errand with
  | login data now later flow => exact bijective_login_iff bijective drawn src data now later flow
  | userQuit data flow => exact iff_of_true (balanced (balanced_userQuit src data flow)) trivial
  | endSession reason flow =>
      exact iff_of_true (balanced (balanced_endSession src reason flow)) trivial
  | reap flow => exact iff_of_true (balanced (balanced_reap src flow)) trivial
  | other flow => exact iff_of_true (balanced (keeping_playThrough flow).balanced) trivial
  | hear now => exact iff_of_true (bijective.keep (.hear directory src now)) trivial
  | rehash addrs ids => exact iff_of_true (bijective.rehash addrs ids) trivial

/-- An errand draws every session which it binds. -/
theorem drawn_errand {directory : Directory} (drawn : directory.Drawn)
    (errand : SocketAddr × Errand) : (clerk.step directory errand).2.Drawn := by
  have each := (filing_runErrand errand.1 errand.2).erase fun _ before after _ files =>
    (files.drawn : before.Drawn → after.Drawn)
  have kept := @Task.Each.run _ _ _ (fun before after => before.Drawn → after.Drawn)
    (fun _ => id) (fun _ _ _ first second => second ∘ first) _ each directory
  exact kept drawn

/-- After every part of a run of complete errands the client maps are in bijection exactly if
every accepted login of the run comes from an address which is not bound, or which it evicts. -/
theorem maps_bijective_iff (errands : List (SocketAddr × Errand)) :
    (∀ count, (clerk.final .empty (errands.take count)).Bijective) ↔
      clerk.Along Lands .empty errands := by
  apply clerk.forall_take_iff_along Directory.Drawn Directory.Bijective
  · exact fun directory errand drawn => drawn_errand drawn errand
  · exact fun directory errand drawn bijective => bijective_step_iff bijective drawn errand
  · constructor
    · rintro addr session ⟨⟩
    · rintro session client ⟨⟩
  · constructor
    · rintro addr session ⟨⟩
    · rintro session ⟨⟩
    · rfl

/-- Client `a` logs in again from its address under another name. -/
def loginAgain : List (SocketAddr × Errand) :=
  [(1, loginA), (1, .login [98, 0, 0, 1] 100 100 .idle)]

theorem maps_not_bijective : ¬(clerk.final .empty loginAgain).Bijective := by
  intro bijective
  have counts : (clerk.final .empty loginAgain).activeSessions = 2 ∧
      (clerk.final .empty loginAgain).byAddr.entries.length = 1 := by
    decide +kernel
  have counted := bijective.counted
  rw [counts.1, counts.2] at counted
  exact absurd counted (by decide)

end Direlera.Clients
