import Direlera.Clients.IdDraws

/-!
# User ids of connected clients

Owner rights and kicks go by user ids, which a 16-bit counter gives out. It comes round after
65536 logins, so a client which stays connected for so long meets its own id again. A `Tally`
numbers the draws: ids are distinct as long as no login adds its client while another is
connected whose draw came a multiple of 65536 draws before.
-/

namespace Direlera.Clients

open Direlera.Library Direlera.Lobby Direlera.Sync Direlera.Wire

/-- The owner test of `handle_start_game` and `handle_kick_user`. -/
def OwnerTest (game : GameInfo) (src : SocketAddr) (client : ClientInfo) : Prop :=
  game.lists src = true ∧ game.ownerUserId = client.userId

namespace Directory

/-- The client which `handle_kick_user` selects: the first one with the user id. -/
def kickTarget (directory : Directory) (userId : UInt16) : Option (SocketAddr × ClientInfo) :=
  (directory.byAddr.first fun _ session =>
    (directory.byId.lookup session).any fun client => client.userId = userId).bind fun entry =>
      (directory.byId.lookup entry.2).map fun client => (entry.1, client)

/-- User ids identify connected clients: one client passes the owner test of a game, and a kick
selects the client which carries the id. -/
structure Identified (directory : Directory) : Prop where
  distinct : ∀ first second one two, directory.find first = some one →
    directory.find second = some two → one.userId = two.userId → first = second
  owner : ∀ (game : GameInfo) first second one two, directory.find first = some one →
    directory.find second = some two → OwnerTest game first one → OwnerTest game second two →
      first = second
  target : ∀ addr client, directory.find addr = some client →
    directory.kickTarget client.userId = some (addr, client)

variable {directory : Directory}

/-- Distinct ids are enough. -/
theorem identified_iff :
    directory.Identified ↔ directory.UniqueBy fun client => client.userId := by
  constructor
  · exact fun identified => identified.distinct
  · intro unique
    refine ⟨unique, ?_, ?_⟩
    · intro game first second one two here there ⟨_, ownsFirst⟩ ⟨_, ownsSecond⟩
      exact unique first second one two here there (ownsFirst.symm.trans ownsSecond)
    · intro addr client here
      obtain ⟨session, bound, known⟩ := Option.bind_eq_some_iff.mp here
      cases found : directory.byAddr.first fun _ session =>
          (directory.byId.lookup session).any fun other => other.userId = client.userId with
      | none =>
          have unwanted := EntryMap.first_eq_none_iff.mp found addr session bound
          simp [known] at unwanted
      | some entry =>
          obtain ⟨other, otherSession⟩ := entry
          obtain ⟨otherBound, wanted⟩ := EntryMap.lookup_of_first found
          obtain ⟨otherClient, otherKnown, same⟩ : ∃ otherClient,
              directory.byId.lookup otherSession = some otherClient ∧
                otherClient.userId = client.userId := by
            simpa [Option.any_eq_true] using wanted
          have there : directory.find other = some otherClient :=
            Option.bind_eq_some_iff.mpr ⟨otherSession, otherBound, otherKnown⟩
          obtain rfl := unique other addr otherClient client there here same
          obtain rfl := Option.some.inj (there.symm.trans here)
          simp [kickTarget, found, otherKnown]

end Directory

/-! ## Numbered draws -/

/-- The number of draws so far, and the draws by which logins and sessions got their ids. -/
structure Tally where
  drawn : Nat
  pending : SocketAddr → Nat
  number : SessionId → Nat

namespace Tally

/-- Before anybody draws. -/
def blank : Tally := ⟨0, fun _ => 0, fun _ => 0⟩

/-- Keep the tally of labelled sections. -/
def observe (src : SocketAddr) : IdStep → Directory → Tally → Tally
  | .draw, _, tally =>
      { tally with
        drawn := tally.drawn + 1
        pending := Function.update tally.pending src tally.drawn }
  | .add _, directory, tally =>
      { tally with
        number := Function.update tally.number directory.nextSessionId (tally.pending src) }

/-- The counter, the clients and the logins which are about to add one have the ids of their
draws. -/
structure Keeps (tally : Tally) (directory : Directory) (labels : SocketAddr → Option IdStep) :
    Prop where
  counter : directory.nextUserId = .ofNat (tally.drawn + 1)
  sessions : directory.Drawn
  known : ∀ session client, directory.byId.lookup session = some client →
    client.userId = .ofNat (tally.number session + 1)
  pending : ∀ src userId, labels src = some (.add userId) →
    userId = .ofNat (tally.pending src + 1)

end Tally

/-- The clients at work, under the tally. -/
abbrev chores : Transducer (LabelledPool Directory IdStep Report Unit SocketAddr × Tally)
    (Turn SocketAddr Chore) Unit :=
  Program.watched runChore Tally.observe

/-- When a login is about to add its client, nobody is connected from another address whose draw
came a multiple of 65536 draws before. -/
def LoginsApart (watched : LabelledPool Directory IdStep Report Unit SocketAddr × Tally) :
    Turn SocketAddr Chore → Prop
  | .receive _ _ => True
  | .advance src => ∀ userId, watched.1.label src = some (.add userId) →
      ∀ addr session client, watched.1.state.byAddr.lookup addr = some session →
        watched.1.state.byId.lookup session = some client → addr ≠ src →
          watched.2.number session % 65536 ≠ watched.2.pending src % 65536

/-- Two draws give one id exactly if they are a multiple of 65536 apart. -/
theorem drawn_eq_iff {first second : Nat} :
    UInt16.ofNat (first + 1) = UInt16.ofNat (second + 1) ↔ first % 65536 = second % 65536 := by
  rw [← UInt16.toNat_inj, UInt16.toNat_ofNat', UInt16.toNat_ofNat']
  omega

/-! ## Sections -/

theorem Steady.retains {before after : Directory} (steady : Steady before after) :
    Retains (fun client => client.userId) before after :=
  ⟨steady.bound, steady.known, steady.drawn⟩

namespace Tally.Keeps

variable {tally : Tally} {directory : Directory} {labels : SocketAddr → Option IdStep}
  {src : SocketAddr}

/-- A label which adds no client. -/
theorem relabel (keeps : tally.Keeps directory labels) {next : Option IdStep}
    (idle : ∀ userId, next ≠ some (.add userId)) :
    tally.Keeps directory (Function.update labels src next) where
  counter := keeps.counter
  sessions := keeps.sessions
  known := keeps.known
  pending := by
    intro other userId label
    by_cases same : other = src
    · subst same
      rw [Function.update_self] at label
      exact absurd label (idle userId)
    · rw [Function.update_of_ne same] at label
      exact keeps.pending other userId label

/-- Every section keeps the tally. -/
theorem section_ (keeps : tally.Keeps directory labels) {label next : Option IdStep}
    {after : Directory} (here : labels src = label) (draws : Draws src directory label after next) :
    (observed Tally.observe src label directory tally).Keeps after
      (Function.update labels src next) := by
  cases draws with
  | steady steady idle =>
      have kept : tally.Keeps after labels := by
        refine ⟨steady.counter.trans keeps.counter, keeps.sessions.retain steady.retains, ?_,
          keeps.pending⟩
        intro session client known
        obtain ⟨earlier, there, same⟩ := steady.known session client known
        rw [← same]
        exact keeps.known session earlier there
      exact kept.relabel idle
  | draw =>
      refine ⟨?_, ⟨keeps.sessions.bound, keeps.sessions.known⟩, keeps.known, ?_⟩
      · change directory.nextUserId + 1 = .ofNat (tally.drawn + 1 + 1)
        rw [keeps.counter, UInt16.ofNat_add (tally.drawn + 1) 1]
        rfl
      · intro other userId label
        change userId = .ofNat (Function.update tally.pending src tally.drawn other + 1)
        by_cases same : other = src
        · subst same
          rw [Function.update_self] at label ⊢
          obtain rfl : directory.nextUserId = userId := by simpa using label
          exact keeps.counter
        · rw [Function.update_of_ne same] at label ⊢
          exact keeps.pending other userId label
  | add username emulatorName connType userId now idle =>
      have added : ({ tally with
          number := Function.update tally.number directory.nextSessionId (tally.pending src) } :
          Tally).Keeps (directory.enrol src username emulatorName connType userId now) labels := by
        refine ⟨keeps.counter, keeps.sessions.enrol, ?_, keeps.pending⟩
        intro session client known
        dsimp only
        by_cases own : session = directory.nextSessionId
        · subst own
          rw [Function.update_self]
          have entered := (AList.lookup_insert directory.byId).symm.trans known
          obtain rfl := Option.some.inj entered
          exact keeps.pending src userId here
        · rw [Function.update_of_ne own]
          exact keeps.known session client ((AList.lookup_insert_ne own).symm.trans known)
      exact added.relabel idle

end Tally.Keeps

variable {pool : LabelledPool Directory IdStep Report Unit SocketAddr} {tally : Tally}

/-- The rules of chores. -/
abbrev Diligent (pool : LabelledPool Directory IdStep Report Unit SocketAddr) : Prop :=
  Obeying (fun src label before after next => Draws src before label after next) pool

/-- A turn keeps ids distinct exactly if no client is added to one of its id. -/
theorem unique_turn_iff (diligent : Diligent pool) (keeps : tally.Keeps pool.state pool.label)
    (unique : pool.state.UniqueBy fun client => client.userId) (turn : Turn SocketAddr Chore) :
    ((chores.step (pool, tally) turn).2.1.state.UniqueBy fun client => client.userId) ↔
      LoginsApart (pool, tally) turn := by
  cases turn with
  | receive src chore =>
      change (((Program.labelled runChore).step pool (.receive src chore)).state.UniqueBy _) ↔ True
      rw [Program.state_receive]
      exact iff_of_true unique trivial
  | advance src =>
      change (((Program.labelled runChore).step pool (.advance src)).state.UniqueBy _) ↔ _
      rw [Program.state_advance]
      rcases diligent.upcoming src with ⟨next, draws⟩ | ⟨idle, same⟩
      · generalize here : pool.label src = label at draws
        generalize pool.upcoming src = after at draws
        have free : (∀ userId, label ≠ some (.add userId)) → LoginsApart (pool, tally) (.advance src) :=
          fun idle userId adding => absurd (here.symm.trans adding) (idle userId)
        cases draws with
        | steady steady idle => exact iff_of_true (unique.retain steady.retains) (free (by simp))
        | draw => exact iff_of_true unique (free (by simp))
        | add username emulatorName connType userId now idle =>
            rw [Directory.uniqueBy_enrol_iff keeps.sessions unique]
            have drew := keeps.pending src userId here
            constructor
            · intro alone other adding addr session client bound known elsewhere meets
              have carries : client.userId = userId := by
                rw [keeps.known session client known, drew]
                exact drawn_eq_iff.mpr meets
              exact elsewhere (alone addr client
                (Option.bind_eq_some_iff.mpr ⟨session, bound, known⟩) carries)
            · intro apart addr client found carries
              obtain ⟨session, bound, known⟩ := Option.bind_eq_some_iff.mp found
              by_contra elsewhere
              refine apart userId here addr session client bound known elsewhere ?_
              apply drawn_eq_iff.mp
              rw [← keeps.known session client known, ← drew]
              exact carries
      · rw [same]
        refine iff_of_true unique ?_
        intro userId label
        rw [idle] at label
        cases label

/-- Ids stay distinct exactly if no login adds its client to one of its id. -/
theorem unique_run_iff (turns : List (Turn SocketAddr Chore)) :
    (∀ count, (chores.final (.idle .empty, .blank) (turns.take count)).1.state.UniqueBy
        fun client => client.userId) ↔
      chores.Along LoginsApart (.idle .empty, .blank) turns := by
  apply chores.forall_take_iff_along
    (fun watched => Diligent watched.1 ∧ watched.2.Keeps watched.1.state watched.1.label)
    fun watched => watched.1.state.UniqueBy fun client => client.userId
  · rintro ⟨pool, tally⟩ turn ⟨diligent, keeps⟩
    refine ⟨diligent.step drawing_runChore turn, ?_⟩
    apply diligent.watched_step Tally.observe fun state labels tally => tally.Keeps state labels
    · exact fun src chore keeps _ => keeps.relabel (begins_runChore src chore)
    · rintro src next rfl keeps draws
      exact keeps.section_ rfl draws
    · exact keeps
  · rintro ⟨pool, tally⟩ turn ⟨diligent, keeps⟩ unique
    exact unique_turn_iff diligent keeps unique turn
  · refine ⟨obeying_idle _, rfl, ⟨?_, ?_⟩, ?_, ?_⟩
    · rintro addr session ⟨⟩
    · rintro session client ⟨⟩
    · rintro session client ⟨⟩
    · rintro src userId ⟨⟩
  · rintro first second one two ⟨⟩

/-- However logins, quits, game operations and timeouts interleave, user ids identify connected
clients in every state of a run exactly if no login ever adds its client while another is
connected whose draw came a multiple of 65536 draws before. -/
theorem user_ids_identify_iff (turns : List (Turn SocketAddr Chore)) :
    (∀ count, ((Program.labelled runChore).machine.final (.idle .empty)
        (turns.take count)).state.Identified) ↔
      chores.Along LoginsApart (.idle .empty, .blank) turns := by
  rw [← unique_run_iff]
  refine forall_congr' fun count => ?_
  rw [Directory.identified_iff, watched_final]

/-! ## The counter comes round -/

/-- A login under a name of one byte. -/
def loginAs (name : UInt8) : Errand := .login [name, 0, 0, 1] 100 100 .idle

/-- Client 1 has the first user id, client 2 is not connected, and `count` others logged in
since and left. -/
structure Away (count : Nat) (directory : Directory) : Prop where
  bound : directory.byAddr.lookup 1 = some 0
  away : directory.byAddr.lookup 2 = none
  known : ∃ client, directory.byId.lookup 0 = some client ∧ client.userId = 1
  named : ∀ session client, directory.byId.lookup session = some client → client.username = [97]
  counter : directory.nextUserId = .ofNat (count + 2)
  sessions : directory.nextSessionId = count + 1

/-- Client 2 has come back and has the next user id. -/
structure Visited (count : Nat) (directory : Directory) : Prop where
  bound : directory.byAddr.lookup 1 = some 0
  visitor : directory.byAddr.lookup 2 = some (count + 1)
  visiting : ∃ client, directory.byId.lookup (count + 1) = some client ∧
    client.userId = .ofNat (count + 2)
  known : ∃ client, directory.byId.lookup 0 = some client ∧ client.userId = 1
  named : ∀ session client, directory.byId.lookup session = some client →
    session = count + 1 ∨ client.username = [97]
  counter : directory.nextUserId = .ofNat (count + 3)
  sessions : directory.nextSessionId = count + 2

/-- Client 2 with the next user id. -/
def Directory.joined (directory : Directory) : Directory :=
  ({ directory with nextUserId := directory.nextUserId + 1 } : Directory).enrol 2 [98] [] 1
    directory.nextUserId 100

/-- Client 2 logs in while its name is free. -/
theorem final_login {directory : Directory} (free : directory.named [98] = none) :
    clerk.final directory [(2, loginAs 98)] =
      (directory.joined.touch fun session =>
        if session = directory.nextSessionId then
          .packet Msg.serverToClientAck buildServerToClientAckPacket
        else .none).notify 2 Msg.serverToClientAck buildServerToClientAckPacket := by
  have parsed : parseLogin [98, 0, 0, 1] = ([98], [], 1) := by decide
  have found : (findClientByUsername [98]).run directory = (.ok none, directory) := by
    simp [findClientByUsername, Task.run_bind, free]
  have bound : directory.joined.byAddr.lookup 2 = some directory.nextSessionId :=
    AList.lookup_insert directory.byAddr
  have known : (directory.joined.byId.lookup directory.nextSessionId).isSome = true := by
    rw [Directory.joined, Directory.enrol, Directory.addClient]
    simp [ClientInfo.login]
  rw [Transducer.final_cons, Transducer.final_nil]
  simp only [clerk, loginAs, runErrand, userLogin, parsed]
  rw [if_neg (by decide), Labelled.erase_bind, Labelled.erase_ofTask,
    List.take_of_length_le (by decide), Task.run_bind_ok found]
  change ((enrol 2 [98] [] 1 100).erase.run directory).2 = _
  simp only [enrol, Labelled.erase_bind, Labelled.erase_ofTask, Labelled.erase_critical]
  change ((sendPacket 2 Msg.serverToClientAck buildServerToClientAckPacket).run
    directory.joined).2 = _
  simp only [sendPacket, updateClient, Task.run_bind, Task.run_inspect, bound, Task.run_critical,
    if_pos known]

/-- The quit of client 2. -/
theorem final_quit {directory : Directory} {client : ClientInfo}
    (here : directory.find 2 = some client) :
    clerk.final directory [(2, .userQuit [] .idle)] =
      { (directory.removeClient 2).announce (directory.removeClient 2).byAddr.keys Msg.userQuit
          (buildUserQuitPacket client.username client.userId (parseUserQuit [])) with
        sessionCloseTx := (directory.removeClient 2).sessionCloseTx ++ [2] } := by
  have idle : (playThrough .idle).run directory = (.ok (), directory) := rfl
  have removed :
      (removeClient 2).run directory = (.ok (some client), directory.removeClient 2) := by
    rw [removeClient, Task.run_critical, here]
  rw [Transducer.final_cons, Transducer.final_nil]
  simp only [clerk, runErrand, Labelled.erase_ofTask, userQuit, dismiss]
  rw [Task.run_bind_ok idle, Task.bind_assoc, Task.run_bind_ok removed]
  rfl

theorem Away.login {count : Nat} {directory : Directory} (away : Away count directory) :
    Visited count (clerk.final directory [(2, loginAs 98)]) := by
  have free : directory.named [98] = none := by
    rw [Directory.named, EntryMap.first_eq_none_iff]
    intro session client known
    simp [away.named session client known]
  have ids : ∀ other, (clerk.final directory [(2, loginAs 98)]).byId.lookup other =
      ((directory.byId.insert (count + 1)
        (.login [98] [] 1 (.ofNat (count + 2)) (count + 1))).lookup other).map
          (if other = count + 1 then
            Touch.packet Msg.serverToClientAck buildServerToClientAckPacket else .none).change := by
    intro other
    rw [final_login free, ← away.counter, ← away.sessions]
    exact EntryMap.lookup_amend _
  constructor
  · rw [final_login free]
    exact (AList.lookup_insert_ne (by decide)).trans away.bound
  · rw [final_login free, ← away.sessions]
    exact AList.lookup_insert directory.byAddr
  · rw [ids, AList.lookup_insert]
    rw [if_pos rfl]
    exact ⟨_, rfl, rfl⟩
  · obtain ⟨client, known, userId⟩ := away.known
    rw [ids, AList.lookup_insert_ne (Nat.succ_ne_zero count).symm, known,
      if_neg (Nat.succ_ne_zero count).symm]
    exact ⟨client, rfl, userId⟩
  · intro other client known
    by_cases same : other = count + 1
    · exact .inl same
    · rw [ids, AList.lookup_insert_ne same, if_neg same] at known
      obtain ⟨earlier, there, rfl⟩ := Option.map_eq_some_iff.mp known
      exact .inr (away.named other earlier there)
  · rw [final_login free, UInt16.ofNat_add (count + 2) 1, ← away.counter]
    rfl
  · rw [final_login free]
    exact congrArg (· + 1) away.sessions

theorem Visited.quit {count : Nat} {directory : Directory} (visited : Visited count directory) :
    Away (count + 1) (clerk.final directory [(2, .userQuit [] .idle)]) := by
  obtain ⟨visitor, visiting, _⟩ := visited.visiting
  have here : directory.find 2 = some visitor :=
    Option.bind_eq_some_iff.mpr ⟨count + 1, visited.visitor, visiting⟩
  have removed : directory.removeClient 2 = { directory with
      byAddr := directory.byAddr.erase 2
      byId := directory.byId.erase (count + 1)
      activeSessions := directory.activeSessions - 1 } := by
    simp [Directory.removeClient, visited.visitor, visiting]
  have ids : ∀ other, ∃ touch : Touch, touch.KeepsUserId ∧
      (clerk.final directory [(2, .userQuit [] .idle)]).byId.lookup other =
        ((directory.byId.erase (count + 1)).lookup other).map touch.change := by
    intro other
    rw [final_quit here, removed]
    exact ⟨_, Steady.keepsUserId_addressed _ _ _ _ other, EntryMap.lookup_amend _⟩
  constructor
  · rw [final_quit here, removed]
    exact (AList.lookup_erase_ne (by decide)).trans visited.bound
  · rw [final_quit here, removed]
    exact AList.lookup_erase 2 directory.byAddr
  · obtain ⟨client, known, userId⟩ := visited.known
    obtain ⟨touch, keeps, same⟩ := ids 0
    rw [same, AList.lookup_erase_ne (Nat.succ_ne_zero count).symm, known]
    exact ⟨touch.change client, rfl, (keeps client).trans userId⟩
  · intro other client known
    obtain ⟨touch, keeps, same⟩ := ids other
    rw [same] at known
    obtain ⟨earlier, there, rfl⟩ := Option.map_eq_some_iff.mp known
    rw [touch.username]
    by_cases gone : other = count + 1
    · rw [gone, AList.lookup_erase] at there
      cases there
    · rw [AList.lookup_erase_ne gone] at there
      exact (visited.named other earlier there).resolve_left gone
  · rw [final_quit here, removed]
    exact visited.counter
  · rw [final_quit here, removed]
    exact visited.sessions

/-- Client 2 comes back with the id of client 1. -/
theorem Visited.not_identified {count : Nat} {directory : Directory}
    (visited : Visited count directory) (wraps : UInt16.ofNat (count + 2) = 1) :
    ¬directory.Identified := by
  intro identified
  obtain ⟨one, first, oneId⟩ := visited.known
  obtain ⟨two, second, twoId⟩ := visited.visiting
  refine absurd (identified.distinct 1 2 one two ?_ ?_ ?_) (by decide)
  · exact Option.bind_eq_some_iff.mpr ⟨0, visited.bound, first⟩
  · exact Option.bind_eq_some_iff.mpr ⟨count + 1, visited.visitor, second⟩
  · rw [oneId, twoId, wraps]

theorem away_first : Away 0 (clerk.final .empty [(1, loginAs 97)]) := by
  refine ⟨rfl, rfl, ⟨_, rfl, rfl⟩, ?_, rfl, rfl⟩
  intro session client known
  have alone : (clerk.final .empty [(1, loginAs 97)]).byId.entries = [⟨0,
      ((ClientInfo.login [97] [] 1 1 0).makeSendPacket Msg.serverToClientAck
        buildServerToClientAckPacket).2⟩] := rfl
  have listed := List.of_mem_dlookup known
  rw [alone, List.mem_singleton] at listed
  cases listed
  rfl

/-- After `count` rounds client 2 is gone, and the counter has moved on as often. -/
theorem away_rounds (count : Nat) :
    Away count (clerk.final .empty ((1, loginAs 97) ::
      (List.replicate count [(2, loginAs 98), (2, .userQuit [] .idle)]).flatten)) := by
  induction count with
  | zero => exact away_first
  | succ count away =>
      have round := away.login.quit
      rw [← Transducer.final_append, ← Transducer.final_append] at round
      rw [List.replicate_succ', List.flatten_append, List.flatten_singleton]
      exact round

/-- Client 1 stays while client 2 logs in 65536 times. -/
def comesRound : List (SocketAddr × Errand) :=
  (1, loginAs 97) :: (List.replicate 65535 [(2, loginAs 98), (2, .userQuit [] .idle)]).flatten ++
    [(2, loginAs 98)]

theorem user_ids_come_round : ¬(clerk.final .empty comesRound).Identified := by
  have visited := (away_rounds 65535).login
  rw [← Transducer.final_append] at visited
  exact visited.not_identified (by decide)

end Direlera.Clients
