import Direlera.Clients.Acks
import Direlera.Clients.InPlace
import Direlera.Clients.Usernames

/-!
# Counting acknowledgements

The count of a client is the number of acknowledgements since its login, as far as 16 bits
hold it. Counting goes wrong at the 65536th acknowledgement: the count wraps around to zero,
by which the sum of the round trip times is then divided.
-/

namespace Direlera.Clients

open Direlera.Library Direlera.Lobby Direlera.Sync Direlera.Wire

/-! ## Records of logins -/

/-- What happened since a login: who logged in, how many acknowledgements were counted, and
what their handlers sent, each message with the number of the acknowledgement. -/
structure LoginRecord where
  src : SocketAddr
  acks : Nat
  sent : List (Nat × Notice)
deriving DecidableEq, Repr

/-- The records of the logins, by the sessions which they drew. -/
abbrev Records := SessionId → LoginRecord

namespace Records

/-- Before anybody logs in. -/
def blank : Records := fun _ => ⟨0, 0, []⟩

/-- One more acknowledgement is counted. -/
def count (records : Records) (session : SessionId) : Records :=
  Function.update records session
    { records session with acks := (records session).acks + 1 }

/-- One more message is sent. -/
def send (records : Records) (session : SessionId) (notice : Notice) : Records :=
  Function.update records session
    { records session with sent := (records session).sent ++ [((records session).acks, notice)] }

/-- Keep the records of labelled sections. -/
def observe (_ : SocketAddr) : AckStep → Directory → Records → Records
  | .enrol enrolment, directory, records =>
      Function.update records directory.nextSessionId ⟨enrolment.src, 0, []⟩
  | .count session, directory, records =>
      if (directory.byId.lookup session).isSome then records.count session else records
  | .prepare _ _, _, records => records
  | .make _ _ _, _, records => records
  | .queue session notice _, _, records => records.send session notice

@[simp] theorem acks_send (records : Records) (session : SessionId) (notice : Notice)
    (other : SessionId) : (records.send session notice other).acks = (records other).acks := by
  by_cases same : other = session
  · subst same
    simp [send]
  · simp [send, same]

end Records

/-- The clients at work, with what is left of their duties. -/
abbrev AckPool := LabelledPool Directory AckStep Report Unit SocketAddr

/-- Every interleaving of duties, under the records. -/
abbrev acknowledging : Transducer (AckPool × Records) (Turn SocketAddr Duty) Unit :=
  Program.watched runDuty Records.observe

/-- The session and the client for which an acknowledgement is about to be counted. -/
def counting (pool : AckPool) (src : SocketAddr) : Option (SessionId × ClientInfo) :=
  match pool.label src with
  | some (.count session) =>
      (pool.state.byId.lookup session).map fun client => (session, client)
  | _ => none

/-- The handler of a session ended by a panic. -/
def Panicked (pool : AckPool) (src : SocketAddr) : Prop :=
  ∃ running text, pool.active src = some running ∧ running.rest = .done (.error (.panic text))

/-- No count overflows or is zero afterwards, and no handler panics over it. -/
def Faultless (watched : AckPool × Records) : Turn SocketAddr Duty → Prop
  | .receive _ _ => True
  | .advance src => ∀ session client, counting watched.1 src = some (session, client) →
      client.ackCount.toNat + 1 < 65536 ∧ client.ackCount + 1 ≠ 0 ∧
        ¬Panicked (acknowledging.step watched (.advance src)).2.1 src

/-- Fewer than 65535 acknowledgements were counted before, since the login. -/
def FewAcks (watched : AckPool × Records) : Turn SocketAddr Duty → Prop
  | .receive _ _ => True
  | .advance src => ∀ session client, counting watched.1 src = some (session, client) →
      (watched.2 session).acks < 65535

/-! ## Counts and records -/

/-- Sessions were drawn, and the counts of the clients are those of the records. -/
structure Records.Tracks (records : Records) (directory : Directory) : Prop where
  drawn : directory.Drawn
  counts : ∀ session client, directory.byId.lookup session = some client →
    client.ackCount = .ofNat (records session).acks

section Tracks

variable {records : Records} {before after directory : Directory} {src : SocketAddr}
  {label next : Option AckStep}

theorem Records.Tracks.retain (tracks : records.Tracks before)
    (retains : Retains (fun client => client.ackCount) before after) : records.Tracks after where
  drawn := tracks.drawn.retain retains
  counts := by
    intro session client here
    obtain ⟨earlier, there, same⟩ := retains.known session client here
    rw [← same]
    exact tracks.counts session earlier there

theorem ackCount_acknowledge (ping : UInt32) (client : ClientInfo) :
    (client.acknowledge ping).ackCount = client.ackCount + 1 := by
  unfold ClientInfo.acknowledge
  split
  next wraps => exact wraps.symm
  next => rfl

/-- Fewer than 65535 acknowledgements and one more are not 0. -/
theorem count_ne_zero {acks : Nat} (few : acks < 65535) : UInt16.ofNat acks + 1 ≠ 0 := by
  intro zero
  have next := congrArg UInt16.toNat zero
  rw [UInt16.toNat_add, UInt16.toNat_ofNat', UInt16.toNat_one, UInt16.toNat_zero] at next
  omega

/-- A new login has a record of its own. -/
theorem Records.Tracks.enrol (tracks : records.Tracks before) (addr : SocketAddr)
    (username emulatorName : Bytes) (connType : UInt8) (userId : UInt16) (now : Nat) :
    Records.Tracks (Function.update records before.nextSessionId ⟨addr, 0, []⟩)
      (before.enrol addr username emulatorName connType userId now) where
  drawn := tracks.drawn.enrol
  counts := by
    intro session client here
    by_cases own : session = before.nextSessionId
    · subst own
      rw [Function.update_self]
      obtain rfl := Option.some.inj ((AList.lookup_insert before.byId).symm.trans here)
      rfl
    · rw [Function.update_of_ne own]
      exact tracks.counts session client ((AList.lookup_insert_ne own).symm.trans here)

/-- What is counted for a client is counted in its record. -/
theorem Records.Tracks.count (tracks : records.Tracks before) (session : SessionId)
    (ping : UInt32) : (records.count session).Tracks
      (before.touch fun other => if other = session then .acknowledge ping else .none) := by
  have looked : ∀ other, (before.touch fun other =>
      if other = session then .acknowledge ping else .none).byId.lookup other =
        (before.byId.lookup other).map
          (if other = session then Touch.acknowledge ping else .none).change :=
    fun other => EntryMap.lookup_amend _
  constructor
  · refine ⟨tracks.drawn.bound, fun other client here => ?_⟩
    rw [looked] at here
    obtain ⟨earlier, there, _⟩ := Option.map_eq_some_iff.mp here
    exact tracks.drawn.known other earlier there
  · intro other client here
    rw [looked] at here
    obtain ⟨earlier, there, rfl⟩ := Option.map_eq_some_iff.mp here
    have known := tracks.counts other earlier there
    by_cases same : other = session
    · subst same
      rw [if_pos rfl, Records.count, Function.update_self, UInt16.ofNat_add, ← known]
      exact ackCount_acknowledge ping earlier
    · rw [if_neg same, Records.count, Function.update_of_ne same]
      exact known

/-- Every section keeps the records. -/
theorem Records.Tracks.section_ (tracks : records.Tracks before)
    (acts : Acts src before label after next) :
    (observed Records.observe src label before records).Tracks after := by
  cases acts with
  | errand retains posts away => exact tracks.retain retains
  | enrol enrolment emulatorName connType userId now away =>
      exact tracks.enrol enrolment.src enrolment.username emulatorName connType userId now
  | begins bound => exact tracks
  | uncounted unknown =>
      simp only [observed, Option.elim, Records.observe, unknown, Option.isSome_none]
      exact tracks
  | counted known ping lines goesOn =>
      simp only [observed, Option.elim, Records.observe, known, Option.isSome_some, if_true]
      exact tracks.count _ ping
  | prepare prepares => exact tracks
  | unmade unknown todo => exact tracks
  | make retains quiet notice todo => exact tracks.retain retains
  | queue retains queued todo =>
      have kept := tracks.retain retains
      refine ⟨kept.drawn, fun session client here => ?_⟩
      simp only [observed, Option.elim, Records.observe, Records.acks_send]
      exact kept.counts session client here

end Tracks

/-! ## Every interleaving -/

variable {pool : AckPool} {records : Records} {src : SocketAddr}

/-- The rules of duties. -/
abbrev Dutiful (pool : AckPool) : Prop :=
  Obeying (fun src label before after next => Acts src before label after next) pool

theorem counting_eq_some {session : SessionId} {client : ClientInfo} :
    counting pool src = some (session, client) ↔
      pool.label src = some (.count session) ∧ pool.state.byId.lookup session = some client := by
  unfold counting
  split
  next other label =>
    rw [label]
    constructor
    · intro here
      obtain ⟨found, known, same⟩ := Option.map_eq_some_iff.mp here
      obtain ⟨rfl, rfl⟩ := Prod.mk.inj same
      exact ⟨rfl, known⟩
    · rintro ⟨same, known⟩
      obtain rfl := AckStep.count.inj (Option.some.inj same)
      rw [known, Option.map_some]
  next idle =>
    constructor
    · rintro ⟨⟩
    · rintro ⟨label, _⟩
      exact absurd label (idle session)

/-- Every turn keeps the records. -/
theorem tracks_step (dutiful : Dutiful pool) (tracks : records.Tracks pool.state)
    (turn : Turn SocketAddr Duty) :
    (acknowledging.step (pool, records) turn).2.2.Tracks
      (acknowledging.step (pool, records) turn).2.1.state :=
  dutiful.watched_step Records.observe (fun state _ records => records.Tracks state)
    (fun _ _ tracks _ => tracks) (fun _ _ _ tracks acts => tracks.section_ acts) tracks

/-- Nobody was counted more often than 16 bits hold. -/
def Records.Bounded (records : Records) : Prop := ∀ session, (records session).acks ≤ 65535

/-- Only counting adds to a record. -/
theorem acks_observed_le {before after : Directory} {label next : Option AckStep} {most : Nat}
    (bounded : ∀ session, (records session).acks ≤ most) (acts : Acts src before label after next)
    (room : ∀ session client, label = some (.count session) →
      before.byId.lookup session = some client → (records session).acks < most)
    (other : SessionId) :
    (observed Records.observe src label before records other).acks ≤ most := by
  cases acts with
  | @counted session client known ping lines next goesOn =>
      simp only [observed, Option.elim, Records.observe, known, Option.isSome_some, if_true]
      by_cases same : other = session
      · rw [same, Records.count, Function.update_self]
        exact room session client rfl known
      · rw [Records.count, Function.update_of_ne same]
        exact bounded other
  | uncounted unknown =>
      simp only [observed, Option.elim, Records.observe, unknown, Option.isSome_none]
      exact bounded other
  | enrol enrolment emulatorName connType userId now away =>
      simp only [observed, Option.elim, Records.observe]
      by_cases own : other = before.nextSessionId
      · rw [own, Function.update_self]
        exact Nat.zero_le _
      · rw [Function.update_of_ne own]
        exact bounded other
  | queue retains queued todo =>
      simp only [observed, Option.elim, Records.observe, Records.acks_send]
      exact bounded other
  | errand | begins | prepare | unmade | make => exact bounded other

theorem bounded_step (dutiful : Dutiful pool) (bounded : records.Bounded)
    {turn : Turn SocketAddr Duty} (few : FewAcks (pool, records) turn) :
    (acknowledging.step (pool, records) turn).2.2.Bounded := by
  refine dutiful.watched_step Records.observe (fun _ _ records => records.Bounded)
    (fun _ _ bounded _ => bounded) ?_ bounded
  rintro src next rfl bounded acts
  exact acks_observed_le bounded acts fun session client label known =>
    few session client (counting_eq_some.mpr ⟨label, known⟩)

/-- A handler which counts something else than 0 goes on to its answer. -/
theorem not_panicked (dutiful : Dutiful pool) {session : SessionId} {client : ClientInfo}
    (here : counting pool src = some (session, client)) (nonzero : client.ackCount + 1 ≠ 0) :
    ¬Panicked (acknowledging.step (pool, records) (.advance src)).2.1 src := by
  rintro ⟨running, text, busy, done⟩
  obtain ⟨label, known⟩ := counting_eq_some.mp here
  rcases dutiful.advances runDuty src with ⟨next, acts, _, labels⟩ | ⟨idle, _⟩
  · rw [label] at acts
    generalize pool.upcoming src = after at acts
    cases acts with
    | uncounted unknown =>
        rw [unknown] at known
        cases known
    | counted there ping lines goesOn =>
        obtain rfl := Option.some.inj (known.symm.trans there)
        rw [if_neg nonzero] at goesOn
        subst goesOn
        have after : Dutiful (acknowledging.step (pool, records) (.advance src)).2.1 :=
          dutiful.step acting_runDuty (.advance src)
        exact after.not_done ((congrFun labels src).trans (Function.update_self ..)) busy _ done
  · rw [label] at idle
    cases idle

/-- A count is sound exactly if fewer than 65535 acknowledgements were counted before. -/
theorem faultless_iff (dutiful : Dutiful pool) (tracks : records.Tracks pool.state)
    (bounded : records.Bounded) (turn : Turn SocketAddr Duty) :
    Faultless (pool, records) turn ↔ FewAcks (pool, records) turn := by
  cases turn with
  | receive src duty => exact Iff.rfl
  | advance src =>
      refine forall_congr' fun session => forall_congr' fun client => imp_congr_right fun here => ?_
      dsimp only at here ⊢
      have counted := tracks.counts session client (counting_eq_some.mp here).2
      have most := bounded session
      have toNat : client.ackCount.toNat = (records session).acks := by
        rw [counted, UInt16.toNat_ofNat']
        omega
      constructor
      · rintro ⟨room, _⟩
        omega
      · intro few
        have nonzero : client.ackCount + 1 ≠ 0 := counted ▸ count_ne_zero few
        exact ⟨by omega, nonzero, not_panicked dutiful here nonzero⟩

/-- However clients acknowledge, log in, quit and time out, no count of acknowledgements faults
exactly if no login is followed by more than 65535 of them. -/
theorem acks_faultless_iff (turns : List (Turn SocketAddr Duty)) :
    acknowledging.Along Faultless (.idle .empty, .blank) turns ↔
      acknowledging.Along FewAcks (.idle .empty, .blank) turns := by
  symm
  apply acknowledging.along_congr_of_first fun watched =>
    Dutiful watched.1 ∧ watched.2.Tracks watched.1.state ∧ watched.2.Bounded
  · rintro ⟨pool, records⟩ turn ⟨dutiful, tracks, bounded⟩ few
    exact ⟨dutiful.step acting_runDuty turn, tracks_step dutiful tracks turn,
      bounded_step dutiful bounded few⟩
  · rintro ⟨pool, records⟩ turn ⟨dutiful, tracks, bounded⟩
    exact (faultless_iff dutiful tracks bounded turn).symm
  · refine ⟨obeying_idle _, ⟨⟨?_, ?_⟩, ?_⟩, fun _ => Nat.zero_le _⟩
    · rintro addr session ⟨⟩
    · rintro session client ⟨⟩
    · rintro session client ⟨⟩

/-! ## One acknowledgement after the other -/

section Rounds

variable {directory : Directory} {session : SessionId}

/-- The answer is made of reads, sends and a broadcast. -/
theorem each_respond {allowed : Directory → Directory → Prop}
    (inspects : ∀ {Result : Type} (read : Directory → Result),
      Task.Each allowed (.inspect read : Access Result))
    (sends : ∀ addr packetType data, Task.Each allowed (sendPacket addr packetType data))
    (broadcasts : ∀ packetType data, Task.Each allowed (broadcastPacket packetType data))
    (findings : Findings) (src : SocketAddr) (session : SessionId) (ackCount : UInt16) :
    Task.Each allowed (respond findings src session ackCount).erase := by
  have tells : ∀ lines, Task.Each allowed
      (tellEach session src Msg.serverInformation lines).erase := by
    intro lines
    induction lines with
    | nil => exact Task.each_pure ()
    | cons data rest ih =>
        simp only [tellEach, Labelled.erase_bind, erase_tell]
        exact Task.Each.bind (sends _ _ _) fun _ => ih
  unfold respond
  split
  · exact Task.each_fail _
  · split
    · simp only [welcome, Labelled.erase_bind, Labelled.erase_inspect, erase_tell]
      refine Task.Each.bind (inspects _) fun status => ?_
      refine Task.Each.bind (sends _ _ _) fun _ => ?_
      refine Task.Each.bind (inspects _) fun found => ?_
      cases found with
      | none => exact Task.each_fail _
      | some client =>
          simp only [Labelled.erase_bind, erase_proclaim]
          exact Task.Each.bind (broadcasts _ _) fun _ => tells _
    · rw [erase_tell]
      exact sends _ _ _

/-- A client is connected for which so many acknowledgements were counted. -/
structure Acked (src : SocketAddr) (count : Nat) (directory : Directory) : Prop where
  connected : ∃ session client, directory.byAddr.lookup src = some session ∧
    directory.byId.lookup session = some client ∧ client.ackCount = .ofNat count

/-- The handler answers the count which it makes. -/
theorem run_clientToServerAck {client : ClientInfo} (findings : Findings) {src : SocketAddr}
    (bound : directory.byAddr.lookup src = some session)
    (known : directory.byId.lookup session = some client) :
    (clientToServerAck findings src).erase.run directory =
      (respond findings src session (client.ackCount + 1)).erase.run
        (directory.touch fun other =>
          if other = session then .acknowledge findings.ping else .none) := by
  simp only [clientToServerAck, Labelled.erase_bind, Labelled.erase_ofTask]
  rw [Task.run_bind, Task.run_inspect, bound]
  simp only [Labelled.erase_bind, Labelled.erase_critical]
  rw [Task.run_bind, Task.run_critical, known]

/-- One more acknowledgement is counted, and its answer keeps the count. -/
theorem Acked.step {src : SocketAddr} {count : Nat} (acked : Acked src count directory)
    (findings : Findings) :
    Acked src (count + 1) (duties.step directory (src, .ack findings)).2 := by
  obtain ⟨session, client, bound, known, counted⟩ := acked.connected
  have run := run_clientToServerAck findings bound known
  have counts : (directory.touch fun other =>
      if other = session then .acknowledge findings.ping else .none).byId.lookup session =
        some (client.acknowledge findings.ping) := by
    rw [Directory.touch, EntryMap.lookup_amend, known, if_pos rfl]
    rfl
  have inPlace := Keeping.run (each_respond keeping_inspect keeping_sendPacket
    keeping_broadcastPacket findings src session (client.ackCount + 1))
    (directory.touch fun other =>
      if other = session then .acknowledge findings.ping else .none)
  have working : Working (fun client => client.ackCount) (fun _ => True)
      (respond findings src session (client.ackCount + 1)).erase :=
    each_respond working_inspect
      (fun addr packetType data =>
        working_sendPacket covers_ackCount.unsent addr packetType data trivial)
      (fun packetType data =>
        working_broadcastPacket covers_ackCount.unsent packetType data trivial) findings src _ _
  have retains := Task.Each.run (Retains.refl fun client => client.ackCount)
    (fun _ _ _ => Retains.trans) (working.mono fun _ _ works => works.retains)
    (directory.touch fun other =>
      if other = session then .acknowledge findings.ping else .none)
  change Acked src (count + 1) ((clientToServerAck findings src).erase.run directory).2
  rw [run]
  have stays := inPlace.isSome_eq session
  rw [counts] at stays
  obtain ⟨last, here⟩ := Option.isSome_iff_exists.mp stays
  obtain ⟨earlier, there, same⟩ := retains.known session last here
  obtain rfl := Option.some.inj (counts.symm.trans there)
  refine ⟨session, last, ?_, here, ?_⟩
  · rw [inPlace.byAddr]
    exact bound
  · rw [← same, ackCount_acknowledge, counted, UInt16.ofNat_add]
    rfl

theorem Acked.rounds {src : SocketAddr} {count : Nat} (acked : Acked src count directory)
    (findings : Findings) (more : Nat) :
    Acked src (count + more)
      (duties.final directory (List.replicate more (src, .ack findings))) := by
  induction more generalizing count directory with
  | zero => exact acked
  | succ more ih =>
      rw [List.replicate_succ, Transducer.final_cons, Nat.add_comm more, ← Nat.add_assoc]
      exact ih (acked.step findings)

end Rounds

/-- A login under the name `a`. -/
def logsIn : Duty := .errand loginA fun _ member => absurd member List.not_mem_nil

/-- An acknowledgement after 20 ms, without games or a welcome. -/
def acksOnce : Duty := .ack ⟨20, [], []⟩

/-- The 65536th acknowledgement of a client makes its handler divide by zero. -/
theorem ack_count_overflows :
    (duties.step (duties.final .empty ((1, logsIn) :: List.replicate 65535 (1, acksOnce)))
      (1, acksOnce)).1 =
        .error (.panic "divide by zero error when dividing duration by scalar") := by
  have first : Acked 1 0 (duties.final .empty [(1, logsIn)]) :=
    ⟨0, _, rfl, rfl, rfl⟩
  have acked := first.rounds ⟨20, [], []⟩ 65535
  rw [← Transducer.final_append] at acked
  obtain ⟨session, client, bound, known, counted⟩ := acked.connected
  have zero : client.ackCount + 1 = 0 := by
    rw [counted]
    decide
  have run := run_clientToServerAck ⟨20, [], []⟩ bound known
  rw [respond, if_pos zero] at run
  exact congrArg Prod.fst run

end Direlera.Clients
