import Direlera.Clients.AckCounts

/-!
# The handshake completes once

What the handlers of a login's acknowledgements send is a script: three answers, and then the
status, the news of the user and the welcome. While a handler runs, the rest of the script is
what its labels have left; a script breaks off only when the client is gone. Acknowledgements
after the fourth one repeat the end of the script.
-/

namespace Direlera.Clients

open Direlera.Library Direlera.Lobby Direlera.Sync Direlera.Wire

/-! ## Scripts -/

/-- What the handlers of so many acknowledgements send, each message with its number. -/
def script (src : SocketAddr) (lines acks : Nat) : List (Nat × Heading) :=
  (List.range' 1 acks).flatMap fun number =>
    (answer src lines (.ofNat number)).map fun heading => (number, heading)

theorem script_succ (src : SocketAddr) (lines acks : Nat) :
    script src lines (acks + 1) = script src lines acks ++
      (answer src lines (.ofNat (acks + 1))).map fun heading => (acks + 1, heading) := by
  rw [script, List.range'_1_concat, List.flatMap_append, List.flatMap_singleton, Nat.add_comm 1]
  rfl

theorem answer_early (src : SocketAddr) (lines : Nat) {number : Nat} (early : number ≤ 3) :
    answer src lines (.ofNat number) = [(some src, Msg.serverToClientAck)] := by
  refine if_neg ?_
  rw [UInt16.lt_iff_toNat_lt, UInt16.toNat_ofNat']
  simp only [numAcksForSpeedTest, UInt16.toNat_ofNat]
  omega

/-- The welcome comes last. -/
theorem script_lines (src : SocketAddr) (lines other : Nat) {acks : Nat} (early : acks ≤ 3) :
    script src lines acks = script src other acks := by
  refine List.flatMap_congr fun number member => ?_
  have small : number ≤ 3 := by
    rw [List.mem_range'_1] at member
    omega
  rw [answer_early src lines small, answer_early src other small]

namespace LoginRecord

/-- What was sent, by its headings. -/
def headings (record : LoginRecord) : List (Nat × Heading) :=
  record.sent.map fun entry => (entry.1, entry.2.heading)

/-- What was sent and what is left make up the script. -/
def Tells (record : LoginRecord) (todo : List Heading) : Prop :=
  ∃ lines, record.headings ++ todo.map (fun heading => (record.acks, heading)) =
    script record.src lines record.acks

theorem tells_new (src : SocketAddr) : Tells ⟨src, 0, []⟩ [] := ⟨0, rfl⟩

end LoginRecord

/-! ## Handlers on their way -/

/-- What a section is about to send for a session. -/
def AckStep.sending : AckStep → Option (SessionId × List Heading)
  | .prepare session todo => some (session, todo)
  | .make session _ todo => some (session, todo)
  | .queue session notice todo => some (session, notice.heading :: todo)
  | .enrol _ => none
  | .count _ => none

/-- What the next section is about to send for a session. -/
def sendingNext (next : Option AckStep) : Option (SessionId × List Heading) :=
  next.bind AckStep.sending

/-- The client of a login is no longer connected. -/
def Gone (directory : Directory) (records : Records) (session : SessionId) : Prop :=
  directory.byId.lookup session = none ∨
    directory.byAddr.lookup (records session).src ≠ some session

/-- The record of a login: either all of its script is sent, or the client is gone. -/
def Rests (directory : Directory) (records : Records) (session : SessionId) : Prop :=
  (records session).Tells [] ∨
    Gone directory records session ∧ ∃ todo, (records session).Tells todo

/-- Every address is bound to a login from there. Whoever is about to count or to send does so
for a login of its own; what it has left completes the script, and at rest nothing is left. -/
structure Told (directory : Directory) (labels : SocketAddr → Option AckStep)
    (records : Records) : Prop where
  owner : ∀ addr session, directory.byAddr.lookup addr = some session →
    (records session).src = addr
  counts : ∀ src session, labels src = some (.count session) → (records session).src = src ∧
    session < directory.nextSessionId ∧
      ((records session).Tells [] ∨ directory.byId.lookup session = none)
  makes : ∀ src session found todo, labels src = some (.make session found todo) →
    found = session ∨ Gone directory records session
  sends : ∀ src session todo, sendingNext (labels src) = some (session, todo) →
    (records session).src = src ∧ session < directory.nextSessionId ∧ (records session).Tells todo
  rests : ∀ session, (∀ todo, sendingNext (labels (records session).src) ≠ some (session, todo)) →
    Rests directory records session

section Told

variable {Value : Type} {field : ClientInfo → Value} {before after : Directory}
  {labels : SocketAddr → Option AckStep} {records later : Records} {src : SocketAddr}
  {session : SessionId} {next : Option AckStep}

/-- Who is gone stays so. -/
theorem Gone.retain (gone : Gone before records session) (retains : Retains field before after)
    (same : (later session).src = (records session).src) : Gone after later session := by
  rcases gone with unknown | elsewhere
  · refine .inl (Option.eq_none_iff_forall_ne_some.mpr fun client known => ?_)
    obtain ⟨earlier, there, _⟩ := retains.known session client known
    rw [unknown] at there
    cases there
  · refine .inr fun bound => elsewhere ?_
    rw [same] at bound
    exact retains.bound _ session bound

theorem Rests.retain (rests : Rests before records session) (retains : Retains field before after)
    (same : later session = records session) : Rests after later session := by
  rcases rests with told | ⟨gone, todo, tells⟩
  · exact .inl (same.symm ▸ told)
  · exact .inr ⟨gone.retain retains (congrArg LoginRecord.src same), todo, same.symm ▸ tells⟩

/-- One session takes a step, which may change the records of its own logins. -/
theorem Told.act (told : Told before labels records) (retains : Retains field before after)
    (kept : ∀ session, (later session).src = (records session).src)
    (others : ∀ session, (records session).src ≠ src → later session = records session)
    (counts : ∀ session, next = some (.count session) → (later session).src = src ∧
      session < after.nextSessionId ∧
        ((later session).Tells [] ∨ after.byId.lookup session = none))
    (makes : ∀ session found todo, next = some (.make session found todo) →
      found = session ∨ Gone after later session)
    (sends : ∀ session todo, sendingNext next = some (session, todo) →
      (later session).src = src ∧ session < after.nextSessionId ∧ (later session).Tells todo)
    (rests : ∀ session, (records session).src = src →
      (∀ todo, sendingNext next ≠ some (session, todo)) → Rests after later session ∨
        later session = records session ∧
          ∀ todo, sendingNext (labels src) ≠ some (session, todo)) :
    Told after (Function.update labels src next) later where
  owner := by
    intro addr session bound
    rw [kept]
    exact told.owner addr session (retains.bound addr session bound)
  counts := by
    intro other session label
    by_cases same : other = src
    · subst same
      rw [Function.update_self] at label
      exact counts session label
    · rw [Function.update_of_ne same] at label
      obtain ⟨own, drawn, known⟩ := told.counts other session label
      rw [others session (own.trans_ne same), retains.drawn]
      refine ⟨own, drawn, known.imp_right fun unknown => ?_⟩
      refine Option.eq_none_iff_forall_ne_some.mpr fun client here => ?_
      obtain ⟨earlier, there, _⟩ := retains.known session client here
      rw [unknown] at there
      cases there
  makes := by
    intro other session found todo label
    by_cases same : other = src
    · subst same
      rw [Function.update_self] at label
      exact makes session found todo label
    · rw [Function.update_of_ne same] at label
      exact (told.makes other session found todo label).imp_right fun gone =>
        gone.retain retains (kept session)
  sends := by
    intro other session todo label
    by_cases same : other = src
    · subst same
      rw [Function.update_self] at label
      exact sends session todo label
    · rw [Function.update_of_ne same] at label
      obtain ⟨own, drawn, tells⟩ := told.sends other session todo label
      rw [others session (own.trans_ne same), retains.drawn]
      exact ⟨own, drawn, tells⟩
  rests := by
    intro session idle
    rw [kept] at idle
    by_cases same : (records session).src = src
    · rw [same, Function.update_self] at idle
      rcases rests session same idle with settled | ⟨unchanged, unsent⟩
      · exact settled
      · refine (told.rests session ?_).retain retains unchanged
        rw [same]
        exact unsent
    · rw [Function.update_of_ne same] at idle
      exact (told.rests session idle).retain retains (others session same)

end Told

/-! ## Every section -/

section Sections

variable {Value : Type} {field : ClientInfo → Value} {before after : Directory}
  {labels : SocketAddr → Option AckStep} {records : Records} {src : SocketAddr}
  {session : SessionId} {next : Option AckStep}

theorem Elsewhere.ne_count (away : Elsewhere next) : next ≠ some (.count session) := by
  rcases away with rfl | ⟨enrolment, rfl⟩ <;> rintro ⟨⟩

theorem Elsewhere.ne_make (away : Elsewhere next) {found : SessionId} {todo : List Heading} :
    next ≠ some (.make session found todo) := by
  rcases away with rfl | ⟨enrolment, rfl⟩ <;> rintro ⟨⟩

theorem Elsewhere.unsent (away : Elsewhere next) : sendingNext next = none := by
  rcases away with rfl | ⟨enrolment, rfl⟩ <;> rfl

/-- Whoever comes from other business and goes on to other business, has nothing to send. -/
theorem Told.errand (told : Told before labels records) (idle : sendingNext (labels src) = none)
    (retains : Retains field before after) (away : Elsewhere next) :
    Told after (Function.update labels src next) records := by
  refine told.act retains (fun _ => rfl) (fun _ _ => rfl) ?_ ?_ ?_ ?_
  · intro session here
    exact absurd here away.ne_count
  · intro session found todo here
    exact absurd here away.ne_make
  · intro session todo here
    rw [away.unsent] at here
    cases here
  · intro session own unsent
    refine .inr ⟨rfl, fun todo here => ?_⟩
    rw [idle] at here
    cases here

/-- The session which a handler finds at its address has no gap in its script. -/
theorem Told.begins (told : Told before labels records) (drawn : before.Drawn)
    (idle : labels src = none) (bound : before.byAddr.lookup src = some session) :
    Told before (Function.update labels src (some (.count session))) records := by
  have own := told.owner src session bound
  have resting : ∀ session todo, sendingNext (labels src) ≠ some (session, todo) := by
    intro session todo
    rw [idle]
    rintro ⟨⟩
  refine told.act (Retains.refl (fun client => client.ackCount) before) (fun _ => rfl)
    (fun _ _ => rfl) ?_ ?_ ?_ ?_
  · rintro _ ⟨⟩
    refine ⟨own, drawn.bound src session bound, ?_⟩
    rcases told.rests session (own ▸ resting session) with settled | ⟨unknown | elsewhere, _⟩
    · exact .inl settled
    · exact .inr unknown
    · exact absurd (own ▸ bound) elsewhere
  · rintro _ _ _ ⟨⟩
  · rintro _ _ ⟨⟩
  · exact fun session _ _ => .inr ⟨rfl, resting session⟩

/-- Who is gone stays so when somebody else logs in. -/
theorem Gone.enrol (gone : Gone before records session) (other : session ≠ before.nextSessionId)
    (addr : SocketAddr) (username emulatorName : Bytes) (connType : UInt8) (userId : UInt16)
    (now : Nat) : Gone (before.enrol addr username emulatorName connType userId now)
      (Function.update records before.nextSessionId ⟨addr, 0, []⟩) session := by
  rw [Gone, Function.update_of_ne other]
  rcases gone with unknown | elsewhere
  · exact .inl ((AList.lookup_insert_ne other).trans unknown)
  · refine .inr fun bound => ?_
    by_cases same : (records session).src = addr
    · rw [same] at bound
      exact other (Option.some.inj ((AList.lookup_insert before.byAddr).symm.trans bound)).symm
    · exact elsewhere ((AList.lookup_insert_ne same).symm.trans bound)

/-- A new login has nothing to be told; whoever was there before, is gone. -/
theorem Told.enrol (told : Told before labels records) (drawn : before.Drawn)
    (idle : sendingNext (labels src) = none) (addr : SocketAddr) (username emulatorName : Bytes)
    (connType : UInt8) (userId : UInt16) (now : Nat) (away : Elsewhere next) :
    Told (before.enrol addr username emulatorName connType userId now)
      (Function.update labels src next)
      (Function.update records before.nextSessionId ⟨addr, 0, []⟩) where
  owner := by
    intro other session bound
    by_cases same : other = addr
    · subst same
      obtain rfl := Option.some.inj ((AList.lookup_insert before.byAddr).symm.trans bound)
      exact congrArg LoginRecord.src (Function.update_self before.nextSessionId _ records)
    · have there := (AList.lookup_insert_ne same).symm.trans bound
      rw [Function.update_of_ne (drawn.bound other session there).ne]
      exact told.owner other session there
  counts := by
    intro other session label
    by_cases same : other = src
    · rw [same, Function.update_self] at label
      exact absurd label away.ne_count
    · rw [Function.update_of_ne same] at label
      obtain ⟨own, older, known⟩ := told.counts other session label
      rw [Function.update_of_ne older.ne]
      refine ⟨own, Nat.lt_succ_of_lt older, known.imp_right fun unknown => ?_⟩
      exact (AList.lookup_insert_ne older.ne).trans unknown
  makes := by
    intro other session found todo label
    by_cases same : other = src
    · rw [same, Function.update_self] at label
      exact absurd label away.ne_make
    · rw [Function.update_of_ne same] at label
      obtain ⟨_, older, _⟩ := told.sends other session todo (by rw [label]; rfl)
      exact (told.makes other session found todo label).imp_right fun gone =>
        gone.enrol older.ne addr username emulatorName connType userId now
  sends := by
    intro other session todo label
    by_cases same : other = src
    · rw [same, Function.update_self, away.unsent] at label
      cases label
    · rw [Function.update_of_ne same] at label
      obtain ⟨own, older, tells⟩ := told.sends other session todo label
      rw [Function.update_of_ne older.ne]
      exact ⟨own, Nat.lt_succ_of_lt older, tells⟩
  rests := by
    intro session unsent
    by_cases new : session = before.nextSessionId
    · rw [Rests, new, Function.update_self]
      exact .inl (LoginRecord.tells_new addr)
    · rw [Function.update_of_ne new] at unsent
      have resting : Rests before records session := by
        refine told.rests session fun todo here => ?_
        by_cases same : (records session).src = src
        · rw [same, idle] at here
          cases here
        · refine unsent todo ?_
          rw [Function.update_of_ne same]
          exact here
      rw [Rests, Function.update_of_ne new]
      rcases resting with settled | ⟨gone, todo, tells⟩
      · exact .inl settled
      · exact .inr ⟨gone.enrol new addr username emulatorName connType userId now, todo, tells⟩

/-- The handler of one session counts or sends, and no other record changes. -/
theorem Told.act_for {later : Records} (told : Told before labels records)
    (retains : Retains field before after) (own : (records session).src = src)
    (drawn : session < before.nextSessionId) (kept : (later session).src = (records session).src)
    (others : ∀ other, other ≠ session → later other = records other)
    (busy : ∀ other todo, sendingNext (labels src) = some (other, todo) → other = session)
    (count : ∀ other, next ≠ some (.count other))
    (make : ∀ other found todo, next = some (.make other found todo) →
      found = other ∨ Gone after later other)
    (sends : ∀ other todo, sendingNext next = some (other, todo) →
      other = session ∧ (later session).Tells todo)
    (ends : sendingNext next = none → Rests after later session) :
    Told after (Function.update labels src next) later := by
  have sources : ∀ other, (later other).src = (records other).src := by
    intro other
    by_cases same : other = session
    · rw [same, kept]
    · rw [others other same]
  refine told.act retains sources (fun other away => others other ?_) ?_ make ?_ ?_
  · rintro rfl
    exact away own
  · exact fun other here => absurd here (count other)
  · intro other todo here
    obtain ⟨rfl, tells⟩ := sends other todo here
    exact ⟨kept.trans own, retains.drawn ▸ drawn, tells⟩
  · intro other _ unsent
    by_cases same : other = session
    · subst same
      refine .inl (ends (Option.eq_none_iff_forall_ne_some.mpr ?_))
      rintro ⟨another, todo⟩ here
      obtain ⟨rfl, _⟩ := sends another todo here
      exact unsent todo here
    · exact .inr ⟨others other same, fun todo here => same (busy other todo here)⟩

/-- Counting begins the next part of the script. -/
theorem Told.count (told : Told before labels records) (label : labels src = some (.count session))
    {client : ClientInfo} (known : before.byId.lookup session = some client)
    (early : (records session).acks ≤ 3) (ping : UInt32) (lines : Nat)
    (goesOn : next = some (.prepare session (answer src lines (.ofNat ((records session).acks + 1))))) :
    Told (before.touch fun other => if other = session then .acknowledge ping else .none)
      (Function.update labels src next) (records.count session) := by
  obtain ⟨own, drawn, tells | unknown⟩ := told.counts src session label
  · have works : Works (fun _ => ()) (fun _ => True) before
        (before.touch fun other => if other = session then .acknowledge ping else .none) :=
      .touched _ fun _ _ => rfl
    have counts : records.count session session =
        { records session with acks := (records session).acks + 1 } := Function.update_self ..
    subst goesOn
    refine told.act_for works.retains own drawn ?_ ?_ ?_ ?_ ?_ ?_ ?_
    · rw [counts]
    · exact fun other same => Function.update_of_ne same ..
    · intro other todo here
      rw [label] at here
      cases here
    · rintro _ ⟨⟩
    · rintro _ _ _ ⟨⟩
    · rintro _ _ ⟨⟩
      refine ⟨rfl, lines, ?_⟩
      obtain ⟨earlier, settled⟩ := tells
      rw [List.map_nil, List.append_nil, script_lines _ earlier lines early] at settled
      rw [counts]
      dsimp only
      rw [script_succ, ← settled, own]
      rfl
    · rintro ⟨⟩
  · rw [unknown] at known
    cases known

/-- A session which looks something up, or makes a datagram, has the same to send as before,
unless its client is gone. -/
theorem Told.carry (told : Told before labels records) (retains : Retains field before after)
    {todo : List Heading} (sent : sendingNext (labels src) = some (session, todo))
    (sends : sendingNext next = some (session, todo) ∨
      sendingNext next = none ∧ Gone before records session)
    (count : ∀ other, next ≠ some (.count other))
    (make : ∀ other found todo, next = some (.make other found todo) →
      found = other ∨ Gone before records other) :
    Told after (Function.update labels src next) records := by
  obtain ⟨own, drawn, tells⟩ := told.sends src session todo sent
  refine told.act_for retains own drawn rfl (fun _ _ => rfl) ?_ count ?_ ?_ ?_
  · intro other more here
    rw [sent] at here
    cases here
    rfl
  · exact fun other found todo here =>
      (make other found todo here).imp_right fun gone => gone.retain retains rfl
  · intro other more here
    rcases sends with same | ⟨nothing, _⟩
    · rw [same] at here
      cases here
      exact ⟨rfl, tells⟩
    · rw [nothing] at here
      cases here
  · intro nothing
    rcases sends with same | ⟨_, gone⟩
    · rw [nothing] at same
      cases same
    · exact .inr ⟨gone.retain retains rfl, todo, tells⟩

/-- Queueing a message moves it from what is left to what was sent. -/
theorem Told.queue (told : Told before labels records) {notice : Notice} {todo : List Heading}
    (label : labels src = some (.queue session notice todo))
    (retains : Retains field before after) :
    Told after (Function.update labels src (upNext session todo)) (records.send session notice) := by
  have sent : sendingNext (labels src) = some (session, notice.heading :: todo) := by
    rw [label]
    rfl
  obtain ⟨own, drawn, tells⟩ := told.sends src session _ sent
  have sends : records.send session notice session = { records session with
      sent := (records session).sent ++ [((records session).acks, notice)] } :=
    Function.update_self ..
  have later : (records.send session notice session).Tells todo := by
    obtain ⟨lines, whole⟩ := tells
    refine ⟨lines, ?_⟩
    rw [sends]
    dsimp only
    rw [← whole, LoginRecord.headings, List.map_append, List.append_assoc]
    rfl
  refine told.act_for retains own drawn ?_ ?_ ?_ ?_ ?_ ?_ ?_
  · rw [sends]
  · exact fun other same => Function.update_of_ne same ..
  · intro other more here
    rw [sent] at here
    cases here
    rfl
  · cases todo <;> rintro _ ⟨⟩
  · cases todo <;> rintro _ _ _ ⟨⟩
  · cases todo with
    | nil => rintro _ _ ⟨⟩
    | cons heading rest =>
        rintro _ _ ⟨⟩
        exact ⟨rfl, later⟩
  · cases todo with
    | nil => exact fun _ => .inl later
    | cons heading rest => rintro ⟨⟩

/-- Every section keeps the scripts, as long as the fourth acknowledgement is the last one. -/
theorem Told.section_ (told : Told before labels records) (tracks : records.Tracks before)
    (acts : Acts src before (labels src) after next)
    (early : ∀ session client, labels src = some (.count session) →
      before.byId.lookup session = some client → (records session).acks ≤ 3) :
    Told after (Function.update labels src next)
      (observed Records.observe src (labels src) before records) := by
  generalize label : labels src = here at acts early
  cases acts with
  | errand retains posts away => exact told.errand (by rw [label]; rfl) retains away
  | enrol enrolment emulatorName connType userId now away =>
      exact told.enrol tracks.drawn (by rw [label]; rfl) _ _ _ _ _ _ away
  | begins bound => exact told.begins tracks.drawn label bound
  | uncounted unknown =>
      simp only [observed, Option.elim, Records.observe, unknown, Option.isSome_none]
      exact told.errand (by rw [label]; rfl) (Retains.refl (fun client => client.ackCount) before)
        (.inl rfl)
  | @counted session client known ping lines next goesOn =>
      simp only [observed, Option.elim, Records.observe, known, Option.isSome_some, if_true]
      have few := early session client rfl known
      refine told.count label known few ping lines ?_
      rw [goesOn, tracks.counts session client known, UInt16.ofNat_add]
      exact if_neg (count_ne_zero (by omega))
  | @prepare session todo next prepares =>
      have sent : sendingNext (labels src) = some (session, todo) := by
        rw [label]
        rfl
      have own := (told.sends src session todo sent).1
      have retains := Retains.refl (fun client => client.ackCount) before
      cases prepares with
      | more => exact told.carry retains sent (.inl rfl) (by rintro _ ⟨⟩) (by rintro _ _ _ ⟨⟩)
      | @found found bound =>
          refine told.carry retains sent (.inl rfl) (by rintro _ ⟨⟩) ?_
          rintro _ _ _ ⟨⟩
          by_cases same : found = session
          · exact .inl same
          · refine .inr (.inr fun here => same ?_)
            rw [own, bound] at here
            exact Option.some.inj here
      | made notice todo =>
          exact told.carry retains sent (.inl rfl) (by rintro _ ⟨⟩) (by rintro _ _ _ ⟨⟩)
      | lost unknown =>
          refine told.carry retains sent (.inr ⟨rfl, ?_⟩) (by rintro _ ⟨⟩) (by rintro _ _ _ ⟨⟩)
          by_cases bound : before.byAddr.lookup (records session).src = some session
          · rw [Directory.find, ← own, bound] at unknown
            exact .inl unknown
          · exact .inr bound
  | @unmade session found unknown todo =>
      have retains := Retains.refl (fun client => client.ackCount) before
      refine told.carry retains (by rw [label]; rfl) (.inr ⟨rfl, ?_⟩) (by rintro _ ⟨⟩)
        (by rintro _ _ _ ⟨⟩)
      rcases told.makes src session found todo label with rfl | gone
      · exact .inl unknown
      · exact gone
  | make retains quiet notice todo =>
      exact told.carry retains (by rw [label]; rfl) (.inl rfl) (by rintro _ ⟨⟩)
        (by rintro _ _ _ ⟨⟩)
  | queue retains queued todo => exact told.queue label retains

end Sections

/-! ## Messages and records -/

/-- The messages which were sent. -/
def LoginRecord.messages (record : LoginRecord) : List Notice := record.sent.map Prod.snd

/-- The queue holds as many messages completing a handshake as the records of all logins. -/
def Records.Accounts (records : Records) (directory : Directory) : Prop :=
  ∀ notice : Notice, Completing notice.packetType → directory.notices.count notice =
    ∑ session ∈ Finset.range directory.nextSessionId, (records session).messages.count notice

section Accounts

variable {before after : Directory} {records : Records} {src : SocketAddr}
  {labels : SocketAddr → Option AckStep} {next : Option AckStep}

theorem Records.Accounts.of_posts (accounts : records.Accounts before)
    (posts : Posts (fun packetType => ¬Completing packetType) before after)
    (drawn : after.nextSessionId = before.nextSessionId) : records.Accounts after := by
  intro notice completing
  obtain ⟨more, queued, others⟩ := posts
  have absent : notice ∉ more := fun member => others notice member completing
  rw [queued, List.count_append, List.count_eq_zero.mpr absent, drawn]
  exact accounts notice completing

theorem Records.Accounts.enrol (accounts : records.Accounts before) (addr : SocketAddr)
    (username emulatorName : Bytes) (connType : UInt8) (userId : UInt16) (now : Nat) :
    Records.Accounts (Function.update records before.nextSessionId ⟨addr, 0, []⟩)
      (before.enrol addr username emulatorName connType userId now) := by
  intro notice completing
  change before.notices.count notice = ∑ session ∈ Finset.range (before.nextSessionId + 1), _
  rw [Finset.sum_range_succ, Function.update_self, accounts notice completing]
  refine Finset.sum_congr rfl fun session member => ?_
  rw [Function.update_of_ne (Finset.mem_range.mp member).ne]

theorem messages_count (session other : SessionId) :
    (records.count session other).messages = (records other).messages := by
  by_cases same : other = session
  · subst same
    rw [Records.count, Function.update_self]
    rfl
  · rw [Records.count, Function.update_of_ne same]

theorem messages_send (session other : SessionId) (notice : Notice) :
    (records.send session notice other).messages =
      (records other).messages ++ if session = other then [notice] else [] := by
  by_cases same : other = session
  · subst same
    rw [Records.send, Function.update_self, if_pos rfl, LoginRecord.messages, List.map_append]
    rfl
  · rw [Records.send, Function.update_of_ne same, if_neg (Ne.symm same), List.append_nil]

/-- Every section keeps the accounts. -/
theorem Records.Accounts.section_ (accounts : records.Accounts before)
    (acts : Acts src before (labels src) after next)
    (drawn : ∀ session todo, sendingNext (labels src) = some (session, todo) →
      session < before.nextSessionId) :
    Records.Accounts (observed Records.observe src (labels src) before records) after := by
  generalize label : labels src = here at acts drawn
  cases acts with
  | errand retains posts away => exact accounts.of_posts posts retains.drawn
  | enrol enrolment emulatorName connType userId now away => exact accounts.enrol _ _ _ _ _ _
  | uncounted unknown =>
      simp only [observed, Option.elim, Records.observe, unknown, Option.isSome_none]
      exact accounts
  | counted known ping lines goesOn =>
      simp only [observed, Option.elim, Records.observe, known, Option.isSome_some, if_true]
      intro notice completing
      simp only [messages_count]
      exact accounts notice completing
  | make retains quiet notice todo => exact accounts.of_posts (.of_eq quiet) retains.drawn
  | @queue session sent after retains queued todo =>
      simp only [observed, Option.elim, Records.observe]
      intro notice completing
      have member := Finset.mem_range.mpr (drawn session _ rfl)
      simp only [messages_send, List.count_append, Finset.sum_add_distrib]
      rw [queued, List.count_append, retains.drawn, accounts notice completing]
      simp only [apply_ite (List.count notice), List.count_nil, Finset.sum_ite_eq, member, if_true]
  | begins | prepare | unmade => exact accounts

end Accounts

/-! ## Once -/

namespace LoginRecord

/-- What the handler of an acknowledgement sent. -/
def sentFor (record : LoginRecord) (number : Nat) : List Heading :=
  (record.headings.filter fun entry => entry.1 = number).map Prod.snd

/-- The first three acknowledgements are answered, the fourth one completes the handshake, and
nothing is sent afterwards. The handler of the latest may still be on its way. -/
structure Once (record : LoginRecord) : Prop where
  answers : ∀ number ≤ 3, record.sentFor number <+: [(some record.src, Msg.serverToClientAck)]
  answered : ∀ number ≤ 3, 0 < number → number < record.acks →
    record.sentFor number = [(some record.src, Msg.serverToClientAck)]
  completes : ∃ lines, record.sentFor 4 <+:
    (some record.src, Msg.serverStatus) :: (none, Msg.userJoined) ::
      List.replicate lines (some record.src, Msg.serverInformation)
  nothing : ∀ number > 4, record.sentFor number = []

/-- Every acknowledgement which was counted had its whole answer. -/
structure Answered (record : LoginRecord) : Prop where
  answers : ∀ number ≤ 3, 0 < number → number ≤ record.acks →
    record.sentFor number = [(some record.src, Msg.serverToClientAck)]
  completes : record.acks = 4 → ∃ lines, record.sentFor 4 =
    (some record.src, Msg.serverStatus) :: (none, Msg.userJoined) ::
      List.replicate lines (some record.src, Msg.serverInformation)

end LoginRecord

section Once

variable {record : LoginRecord} {todo : List Heading} {src : SocketAddr} {number : Nat}

/-- The messages for one acknowledgement, which was handled or is being handled. -/
theorem LoginRecord.Tells.sentFor (tells : record.Tells todo) : ∃ lines, ∀ number,
    record.sentFor number ++ (if number = record.acks then todo else []) =
      if 0 < number ∧ number ≤ record.acks then answer record.src lines (.ofNat number) else [] := by
  obtain ⟨lines, whole⟩ := tells
  refine ⟨lines, fun number => ?_⟩
  have left : ((todo.map fun heading => (record.acks, heading)).filter
      fun entry => entry.1 = number).map Prod.snd = if number = record.acks then todo else [] := by
    split
    next same =>
      subst same
      simp [List.filter_map, Function.comp_def]
    next other => simp [List.filter_map, Function.comp_def, Ne.symm other]
  have scripted : ∀ acks, ((script record.src lines acks).filter
      fun entry => entry.1 = number).map Prod.snd =
        if 0 < number ∧ number ≤ acks then answer record.src lines (.ofNat number) else [] := by
    intro acks
    induction acks with
    | zero =>
        rw [if_neg (by omega)]
        rfl
    | succ acks ih =>
        rw [script_succ, List.filter_append, List.map_append, ih]
        by_cases last : number = acks + 1
        · subst last
          simp [List.filter_map, Function.comp_def]
        · have within : number ≤ acks + 1 ↔ number ≤ acks := by omega
          simp [List.filter_map, Function.comp_def, Ne.symm last, within]
  rw [← scripted, ← whole, List.filter_append, List.map_append, left]
  rfl

theorem LoginRecord.Tells.once (tells : record.Tells todo) (few : record.acks ≤ 4) :
    record.Once := by
  obtain ⟨lines, sent⟩ := tells.sentFor
  constructor
  · intro number early
    have here := sent number
    by_cases counted : 0 < number ∧ number ≤ record.acks
    · rw [if_pos counted, answer_early record.src lines early] at here
      exact ⟨_, here⟩
    · rw [if_neg counted] at here
      rw [(List.append_eq_nil_iff.mp here).1]
      exact List.nil_prefix
  · intro number early positive before
    have here := sent number
    rw [if_neg before.ne, if_pos ⟨positive, before.le⟩, List.append_nil,
      answer_early record.src lines early] at here
    exact here
  · refine ⟨lines, ?_⟩
    have here := sent 4
    by_cases counted : 0 < 4 ∧ 4 ≤ record.acks
    · rw [if_pos counted] at here
      exact ⟨_, here⟩
    · rw [if_neg counted] at here
      rw [(List.append_eq_nil_iff.mp here).1]
      exact List.nil_prefix
  · intro number late
    have here := sent number
    rw [if_neg (by omega : ¬(0 < number ∧ number ≤ record.acks))] at here
    exact (List.append_eq_nil_iff.mp here).1

theorem LoginRecord.Tells.answered (tells : record.Tells []) : record.Answered := by
  obtain ⟨lines, sent⟩ := tells.sentFor
  constructor
  · intro number early positive counted
    have here := sent number
    rw [ite_self, if_pos ⟨positive, counted⟩, List.append_nil, answer_early record.src lines early] at here
    exact here
  · intro four
    refine ⟨lines, ?_⟩
    have here := sent 4
    rw [ite_self, if_pos ⟨by decide, four.ge⟩, List.append_nil] at here
    exact here

end Once

/-! ## Every interleaving -/

/-- Nobody acknowledges whose handshake is complete. -/
def FourAcks (pool : AckPool) : Turn SocketAddr Duty → Prop
  | .receive _ _ => True
  | .advance src => ∀ found ∈ counting pool src, found.2.complete = false

instance (pool : AckPool) : ∀ turn, Decidable (FourAcks pool turn)
  | .receive _ _ => inferInstanceAs (Decidable True)
  | .advance src => inferInstanceAs (Decidable (∀ found ∈ counting pool src, _))

/-- What holds of the records as long as nobody acknowledges more than four times. -/
structure Handshaking (directory : Directory) (labels : SocketAddr → Option AckStep)
    (records : Records) : Prop where
  tracks : records.Tracks directory
  few : ∀ session, (records session).acks ≤ 4
  told : Told directory labels records
  accounts : records.Accounts directory

theorem handshaking_empty : Handshaking .empty (fun _ => none) .blank where
  tracks := ⟨⟨fun _ _ => by rintro ⟨⟩, fun _ _ => by rintro ⟨⟩⟩, fun _ _ => by rintro ⟨⟩⟩
  few := fun _ => Nat.zero_le 4
  told := {
    owner := fun _ _ => by rintro ⟨⟩
    counts := fun _ _ => by rintro ⟨⟩
    makes := fun _ _ _ _ => by rintro ⟨⟩
    sends := fun _ _ _ => by rintro ⟨⟩
    rests := fun _ _ => .inl (LoginRecord.tells_new 0) }
  accounts := fun _ _ => rfl

section Handshaking

variable {directory after : Directory} {labels : SocketAddr → Option AckStep} {records : Records}
  {src : SocketAddr} {session : SessionId} {next : Option AckStep}

/-- Whose handshake is not complete, acknowledged at most three times. -/
theorem Handshaking.early (handshaking : Handshaking directory labels records)
    {client : ClientInfo} (known : directory.byId.lookup session = some client)
    (incomplete : client.complete = false) : (records session).acks ≤ 3 := by
  have counted := handshaking.tracks.counts session client known
  have few := handshaking.few session
  have here : ¬numAcksForSpeedTest < client.ackCount := of_decide_eq_false incomplete
  rw [counted, UInt16.lt_iff_toNat_lt, UInt16.toNat_ofNat'] at here
  simp only [numAcksForSpeedTest, UInt16.toNat_ofNat] at here
  omega

theorem Handshaking.section_ (handshaking : Handshaking directory labels records)
    (acts : Acts src directory (labels src) after next)
    (incomplete : ∀ session client, labels src = some (.count session) →
      directory.byId.lookup session = some client → client.complete = false) :
    Handshaking after (Function.update labels src next)
      (observed Records.observe src (labels src) directory records) where
  tracks := handshaking.tracks.section_ acts
  few := acks_observed_le handshaking.few acts fun session client label known =>
    Nat.lt_succ_of_le (handshaking.early known (incomplete session client label known))
  told := handshaking.told.section_ handshaking.tracks acts fun session client label known =>
    handshaking.early known (incomplete session client label known)
  accounts := handshaking.accounts.section_ acts fun session todo sent =>
    (handshaking.told.sends src session todo sent).2.1

/-- Whatever is left for a login completes its script. -/
theorem Handshaking.tells (handshaking : Handshaking directory labels records)
    (session : SessionId) : ∃ todo, (records session).Tells todo := by
  by_cases busy : ∃ todo, sendingNext (labels (records session).src) = some (session, todo)
  · obtain ⟨todo, sent⟩ := busy
    exact ⟨todo, (handshaking.told.sends _ session todo sent).2.2⟩
  · rcases handshaking.told.rests session (not_exists.mp busy) with settled | ⟨_, told⟩
    · exact ⟨[], settled⟩
    · exact told

end Handshaking

/-- However clients log in, acknowledge, quit and time out, as long as nobody acknowledges whose
handshake is complete, every handshake completes at most once: the first three acknowledgements
are answered, the fourth one completes it, and everything which was counted has its whole answer
once a connected client is at rest. The queue holds no other message completing a handshake. -/
theorem handshakes_complete_once (turns : List (Turn SocketAddr Duty))
    (four : (Program.labelled runDuty).machine.Along FourAcks (.idle .empty) turns) :
    let final := acknowledging.final (.idle .empty, .blank) turns
    final.2.Accounts final.1.state ∧ (∀ session, (final.2 session).Once) ∧
      ∀ session, final.1.active (final.2 session).src = none →
        final.1.state.byAddr.lookup (final.2 session).src = some session →
          (final.1.state.byId.lookup session).isSome → (final.2 session).Answered := by
  intro final
  have handshaking : Handshaking final.1.state final.1.label final.2 := by
    refine labelled_along acting_runDuty Records.observe Handshaking ?_ ?_ .blank
      handshaking_empty four
    · intro directory labels src duty records handshaking idle
      refine ⟨handshaking.tracks, handshaking.few, ?_, handshaking.accounts⟩
      exact handshaking.told.errand (by rw [idle]; rfl)
        (Retains.refl (fun client => client.ackCount) directory) (elsewhere_runDuty src duty)
    · intro pool src next records allowed handshaking acts
      exact handshaking.section_ acts fun session client label known =>
        allowed _ (counting_eq_some.mpr ⟨label, known⟩)
  refine ⟨handshaking.accounts, fun session => ?_, fun session idle bound known => ?_⟩
  · obtain ⟨todo, tells⟩ := handshaking.tells session
    exact tells.once (handshaking.few session)
  · have rests := handshaking.told.rests session fun todo sent => by
      simp [Pool.label, idle, sendingNext] at sent
    rcases rests with settled | ⟨unknown | elsewhere, _⟩
    · exact settled.answered
    · rw [unknown] at known
      cases known
    · exact absurd bound elsewhere

/-- A login under the name `b`. -/
def logsInToo : Duty :=
  .errand (.login [98, 0, 0, 1] 100 100 .idle) fun _ member => absurd member List.not_mem_nil

/-- Two clients log in and acknowledge so often; their handlers take turns. -/
def inTurn (acks : Nat) : List (Turn SocketAddr Duty) :=
  ((logsIn, logsInToo) :: List.replicate acks (acksOnce, acksOnce)).flatMap fun duties =>
    [.receive 1 duties.1, .receive 2 duties.2] ++
      (List.replicate 16 [.advance 1, .advance 2]).flatten

theorem handshakes_complete_once_in_turn :
    let final := acknowledging.final (.idle .empty, .blank) (inTurn 4)
    (final.2 0).Answered ∧ (final.2 0).acks = 4 :=
  ⟨(handshakes_complete_once (inTurn 4) (by decide +kernel)).2.2 0
      (Option.isNone_iff_eq_none.mp (by decide +kernel)) (by decide +kernel) (by decide +kernel),
    by decide +kernel⟩

/-- The fifth acknowledgement of a client completes its handshake once more: it is sent the
status and everybody hears that it joined, for the second time. -/
theorem handshake_completes_twice :
    let final := acknowledging.final (.idle .empty, .blank) (inTurn 5)
    ¬(final.2 0).Once ∧
      (final.2 0).sentFor 5 = [(some 1, Msg.serverStatus), (none, Msg.userJoined)] ∧
        (final.1.state.notices.map Notice.heading).count (some 1, Msg.serverStatus) = 2 := by
  intro final
  have again : (final.2 0).sentFor 5 = [(some 1, Msg.serverStatus), (none, Msg.userJoined)] := by
    decide +kernel
  refine ⟨fun once => ?_, again, by decide +kernel⟩
  rw [once.nothing 5 (by decide)] at again
  cases again

end Direlera.Clients
