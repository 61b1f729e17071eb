import Direlera.Session.Bundles

/-!
# Loss which the redundancy does not mask

A datagram repeats two messages before its newest one. When three datagrams in a row are lost
and another message is sent, the oldest of them is in no later datagram: the session waits for
it and handles nothing any more, whatever arrives.
-/

namespace Direlera.Session

open Direlera.Library Direlera.Sync Direlera.Wire

/-! ## Handled messages stay handled -/

namespace Inbound

theorem handled_drainWithin (bound : Nat) (session : Inbound) :
    session.handled <+: (drainWithin bound session).handled := by
  induction bound generalizing session with
  | zero => exact List.prefix_rfl
  | succ bound ih =>
      rw [drainWithin]
      split
      next => exact List.prefix_rfl
      next message _ => exact (List.prefix_append _ _).trans (ih (session.processPending message))

theorem handled_processMessage (session : Inbound) (message : ParsedMessage) :
    session.handled <+: (session.processMessage message).handled := by
  unfold processMessage
  split
  · exact (List.prefix_append _ _).trans
      (handled_drainWithin _ (session.processOrderedMessage message))
  · split
    · exact List.prefix_rfl
    · exact List.prefix_rfl

theorem handled_processMessages (session : Inbound) (messages : List ParsedMessage) :
    session.handled <+: (session.processMessages messages).handled := by
  have loop : ∀ (rest : List ParsedMessage) (session : Inbound),
      session.handled <+: (rest.foldl processMessage session).handled := by
    intro rest
    induction rest with
    | nil => exact fun _ => List.prefix_rfl
    | cons message rest ih =>
        exact fun session => (handled_processMessage session message).trans (ih _)
  unfold processMessages
  rw [startSequences_eq]
  split
  · exact loop messages session.restarted
  · exact loop messages session

theorem handled_processPacket (session : Inbound) (data : Bytes) :
    session.handled <+: (session.processPacket data).handled := by
  unfold processPacket
  split
  · exact handled_processMessages session _
  · exact List.prefix_rfl

end Inbound

theorem Link.handled_step (link : Link) (transmission : Transmission) :
    link.session.handled <+: (link.step transmission).session.handled := by
  have delivered : ∀ (link : Link) (packet : Bytes) (arrives : Bool),
      link.session.handled <+: (link.deliver packet arrives).session.handled := by
    intro link packet arrives
    unfold Link.deliver
    split
    · exact link.session.handled_processPacket packet
    · exact List.prefix_rfl
  cases transmission with
  | send messageType data arrives =>
      exact delivered { link with
        generator := (link.generator.makeSendPacket messageType data).2
        sent := link.sent ++ [(messageType, data)]
        missed := link.missed + 1 } _ arrives
  | resend arrives =>
      rw [Link.step]
      cases link.generator.lastSent with
      | some packet => exact delivered link packet arrives
      | none => exact List.prefix_rfl

/-! ## A session which waits for a message -/

namespace Inbound

/-- The session has handled the messages before `next` and does not have that one. -/
structure Waits (sent : Nat → ParsedMessage) (session : Inbound) (next : Nat) : Prop where
  counter : session.packetCounter = .ofNat next
  handled : session.handled = (List.range next).map sent
  absent : session.pendingMessages.find (.ofNat next) = none

variable {sent : Nat → ParsedMessage} {session : Inbound} {next : Nat}

theorem Represents.waits {order : Reorder} (represents : Represents sent session order)
    (settled : order.Settled) : Waits sent session order.next where
  counter := represents.counter
  handled := represents.handled
  absent := represents.counter ▸ represents.find_of_settled settled

theorem Waits.congr (waits : Waits sent session next) {other : Nat → ParsedMessage}
    (agree : ∀ index < next, other index = sent index) : Waits other session next where
  counter := waits.counter
  handled := by
    rw [waits.handled]
    exact List.map_congr_left fun index earlier => (agree index (List.mem_range.mp earlier)).symm
  absent := waits.absent

/-- Another message is kept at most. -/
theorem Waits.processMessage (waits : Waits sent session next) {message : ParsedMessage}
    (other : message.messageNumber ≠ .ofNat next) :
    Waits sent (session.processMessage message) next := by
  have early : message.messageNumber ≠ session.packetCounter := waits.counter ▸ other
  rw [Inbound.processMessage, if_neg early]
  split
  · refine ⟨waits.counter, waits.handled, ?_⟩
    exact (KeyedBuffer.find_insertNew_of_ne other.symm message).trans waits.absent
  · exact waits

/-- So are the other messages of a datagram of several. -/
theorem Waits.processMessages (waits : Waits sent session next) {messages : List ParsedMessage}
    (several : messages.length ≠ 1) (others : ∀ message ∈ messages,
      message.messageNumber ≠ .ofNat next) : Waits sent (session.processMessages messages) next := by
  have goesOn : ¬∃ message ∈ messages, session.StartsSequence messages.length message := by
    rintro ⟨message, _, _, single, _⟩
    exact several single
  rw [Inbound.processMessages, startSequences_eq, if_neg goesOn]
  clear several goesOn
  induction messages generalizing session with
  | nil => exact waits
  | cons message rest ih =>
      rw [List.forall_mem_cons] at others
      exact ih (waits.processMessage others.1) others.2

/-- A datagram without the message which is waited for. -/
theorem Waits.bundle {sent : List (UInt8 × Bytes)} (waits : Waits (messageAt sent) session next)
    (fit : ∀ message ∈ sent, message.2.length ≤ maxPayload) (lost : next + 3 < sent.length)
    (bounded : sent.length ≤ next + 65536) :
    Waits (messageAt sent) (session.processPacket (bundle sent)) next := by
  have some_sent : sent ≠ [] := by
    rintro rfl
    exact absurd lost (Nat.not_lt_zero _)
  rw [processPacket, parsePacket_bundle some_sent fit]
  refine waits.processMessages ?_ fun message member => ?_
  · rw [List.length_map, length_bundled, UDPPacketGenerator.maxRecentPackets]
    omega
  · obtain ⟨index, listed, rfl⟩ := List.mem_map.mp member
    obtain ⟨below, recent⟩ := mem_bundled.mp listed
    change UInt16.ofNat index ≠ .ofNat next
    rw [ne_eq, ofNat_inj_of_near (by omega) (by omega)]
    omega

end Inbound

/-! ## How far a session can get -/

/-- How many messages were sent, and how many of them are handled as soon as the last datagram
arrives which has the next one. -/
@[ext] structure Reach where
  count : Nat
  taken : Nat

namespace Reach

/-- The next message is in no datagram any more. -/
def Wedged (reach : Reach) : Prop := reach.taken + 3 < reach.count

instance (reach : Reach) : Decidable reach.Wedged := inferInstanceAs (Decidable (_ < _))

/-- The last datagram arrives or is lost. -/
def deliver (reach : Reach) (arrives : Bool) : Reach :=
  if arrives = true ∧ ¬reach.Wedged then { reach with taken := reach.count } else reach

def step (reach : Reach) : Transmission → Reach
  | .send _ _ arrives => { reach with count := reach.count + 1 }.deliver arrives
  | .resend arrives => reach.deliver arrives

variable {reach : Reach}

theorem deliver_wedged (wedged : reach.Wedged) (arrives : Bool) : reach.deliver arrives = reach :=
  if_neg fun caught => caught.2 wedged

@[simp] theorem wedged_deliver (reach : Reach) (arrives : Bool) :
    (reach.deliver arrives).Wedged ↔ reach.Wedged := by
  unfold deliver
  split
  next caught => exact iff_of_false (Nat.not_lt_of_le (Nat.le_add_right _ 3)) caught.2
  next => exact Iff.rfl

/-- What is in no datagram now is in none later. -/
theorem Wedged.step (wedged : reach.Wedged) (transmission : Transmission) :
    (reach.step transmission).Wedged ∧ (reach.step transmission).taken = reach.taken := by
  cases transmission with
  | send messageType data arrives =>
      have longer : Wedged { reach with count := reach.count + 1 } := Nat.lt_succ_of_lt wedged
      rw [Reach.step, deliver_wedged longer]
      exact ⟨longer, rfl⟩
  | resend arrives =>
      rw [Reach.step, deliver_wedged wedged]
      exact ⟨wedged, rfl⟩

/-- The runs of a gauge. -/
def gauge : Transducer Reach Transmission Unit where
  step reach transmission := ((), reach.step transmission)

theorem Wedged.final (wedged : reach.Wedged) (transmissions : List Transmission) :
    (gauge.final reach transmissions).Wedged ∧
      (gauge.final reach transmissions).taken = reach.taken := by
  refine gauge.invariant (fun later => later.Wedged ∧ later.taken = reach.taken) ⟨wedged, rfl⟩ ?_ _
  rintro later transmission ⟨stuck, same⟩
  have next := stuck.step transmission
  exact ⟨next.1, next.2.trans same⟩

end Reach

namespace Link

/-- A message which is sent fits in its length field. -/
def Fits : Transmission → Prop
  | .send _ data _ => data.length ≤ maxPayload
  | .resend _ => True

/-- The types and payloads of the messages which were handled. -/
def contents (link : Link) : List (UInt8 × Bytes) :=
  link.session.handled.map fun message => (message.messageType, message.data)

/-- A link of which the session has what it can get. -/
structure Reaches (link : Link) (reach : Reach) : Prop where
  generates : Generates link.generator link.sent
  fit : ∀ message ∈ link.sent, message.2.length ≤ maxPayload
  count : link.sent.length = reach.count
  behind : reach.taken ≤ reach.count
  waits : Inbound.Waits (messageAt link.sent) link.session reach.taken
  follows : ¬reach.Wedged → reach.taken + link.missed = reach.count ∧
    Inbound.Represents (messageAt link.sent) link.session ⟨reach.taken, ∅⟩

variable {link : Link} {reach : Reach}

theorem reaches_new : Reaches new ⟨0, 0⟩ where
  generates := generates_new
  fit := by simp [new]
  count := rfl
  behind := Nat.le_refl 0
  waits := ⟨rfl, rfl, rfl⟩
  follows := fun _ => ⟨rfl, Inbound.represents_new _⟩

/-- Another message is sent; its datagram is missed until it arrives. -/
theorem Reaches.send (reaches : Reaches link reach) (message : UInt8 × Bytes)
    (fits : message.2.length ≤ maxPayload) : Reaches { link with
      generator := (link.generator.makeSendPacket message.1 message.2).2
      sent := link.sent ++ [message]
      missed := link.missed + 1 } { reach with count := reach.count + 1 } := by
  have older : ∀ index < reach.taken,
      messageAt (link.sent ++ [message]) index = messageAt link.sent index := fun index earlier =>
    messageAt_concat (Nat.lt_of_lt_of_le earlier (reaches.count ▸ reaches.behind))
  refine ⟨(reaches.generates.makeSendPacket message).2, ?_, ?_, Nat.le_succ_of_le reaches.behind,
    reaches.waits.congr older, fun close => ?_⟩
  · intro other member
    rcases List.mem_append.mp member with earlier | last
    · exact reaches.fit other earlier
    · exact List.mem_singleton.mp last ▸ fits
  · rw [List.length_append, List.length_singleton, reaches.count]
  · obtain ⟨missed, represents⟩ := reaches.follows fun wedged => close (Nat.lt_succ_of_lt wedged)
    refine ⟨congrArg Nat.succ missed, represents.congr ?_⟩
    rintro index (taken | ⟨⟨⟩⟩)
    exact older index taken

/-- The last datagram catches up with what it can. -/
theorem Reaches.deliver (reaches : Reaches link reach) (some_sent : link.sent ≠ [])
    (bounded : link.sent.length ≤ 65536) (arrives : Bool) :
    Reaches (link.deliver (bundle link.sent) arrives) (reach.deliver arrives) := by
  have count := reaches.count
  have behind := reaches.behind
  cases arrives with
  | false => exact reaches
  | true =>
      by_cases wedged : reach.Wedged
      · have lost : reach.taken + 3 < link.sent.length := count ▸ wedged
        rw [Reach.deliver_wedged wedged]
        exact ⟨reaches.generates, reaches.fit, count, behind,
          reaches.waits.bundle reaches.fit lost (bounded.trans (Nat.le_add_left _ _)),
          fun close => absurd wedged close⟩
      · have close : reach.count ≤ reach.taken + 3 := Nat.le_of_not_lt wedged
        have caught_up := (reaches.follows wedged).2.bundle some_sent reaches.fit (by omega) (by omega)
        have caught : reach.deliver true = ⟨reach.count, reach.count⟩ := if_pos ⟨rfl, wedged⟩
        rw [caught, ← count]
        exact ⟨reaches.generates, reaches.fit, rfl, Nat.le_refl _,
          caught_up.waits (Reorder.settled_forget ⟨_, ∅⟩), fun _ => ⟨rfl, caught_up⟩⟩

@[simp] theorem sent_deliver (link : Link) (packet : Bytes) (arrives : Bool) :
    (link.deliver packet arrives).sent = link.sent := by
  cases arrives <;> rfl

theorem length_sent_step (link : Link) (transmission : Transmission) :
    link.sent.length ≤ (link.step transmission).sent.length := by
  cases transmission with
  | send messageType data arrives => simp [Link.step]
  | resend arrives =>
      rw [Link.step]
      cases link.generator.lastSent with
      | some packet => simp
      | none => exact Nat.le_refl _

theorem Reaches.step (reaches : Reaches link reach) {transmission : Transmission}
    (fits : Fits transmission) (bounded : (link.step transmission).sent.length ≤ 65536) :
    Reaches (link.step transmission) (reach.step transmission) := by
  cases transmission with
  | send messageType data arrives =>
      have packet := (reaches.generates.makeSendPacket (messageType, data)).1
      have after := reaches.send (messageType, data) fits
      have some_sent : link.sent ++ [(messageType, data)] ≠ [] := by simp
      have few : (link.sent ++ [(messageType, data)]).length ≤ 65536 := by
        simpa [Link.step] using bounded
      have delivered := after.deliver some_sent few arrives
      rw [← packet] at delivered
      exact delivered
  | resend arrives =>
      rw [Link.step, reaches.generates.last]
      by_cases none_sent : link.sent = []
      · have nothing : reach.count = 0 := by rw [← reaches.count, none_sent]; rfl
        have same : reach.deliver arrives = reach := by
          have behind := reaches.behind
          unfold Reach.deliver
          split
          · ext
            · rfl
            · dsimp only
              omega
          · rfl
        rw [if_pos none_sent, Reach.step, same]
        exact reaches
      · rw [if_neg none_sent]
        exact reaches.deliver none_sent ((length_sent_step link _).trans bounded) arrives

/-- Being allowed is checked. -/
instance decidableAllowed (link : Link) : ∀ transmission, Decidable (link.Allowed transmission)
  | .send _ data _ => inferInstanceAs (Decidable (data.length ≤ maxPayload ∧ link.missed ≤ 2))
  | .resend _ => inferInstanceAs (Decidable True)

theorem length_sent_final (link : Link) (transmissions : List Transmission) :
    link.sent.length ≤ (machine.final link transmissions).sent.length :=
  machine.invariant (fun later => link.sent.length ≤ later.sent.length) (Nat.le_refl _)
    (fun later transmission longer => longer.trans (length_sent_step later transmission)) _

theorem handled_final (link : Link) (transmissions : List Transmission) :
    link.session.handled <+: (machine.final link transmissions).session.handled :=
  machine.invariant (fun later => link.session.handled <+: later.session.handled) List.prefix_rfl
    (fun later transmission longer => longer.trans (later.handled_step transmission)) _

theorem Reaches.final (reaches : Reaches link reach) {transmissions : List Transmission}
    (fits : ∀ transmission ∈ transmissions, Fits transmission)
    (bounded : (machine.final link transmissions).sent.length ≤ 65536) :
    Reaches (machine.final link transmissions) (Reach.gauge.final reach transmissions) := by
  induction transmissions generalizing link reach with
  | nil => exact reaches
  | cons transmission rest ih =>
      rw [List.forall_mem_cons] at fits
      have few := (length_sent_final (link.step transmission) rest).trans bounded
      exact ih (reaches.step fits.1 few) fits.2 bounded

/-- A link is wedged by a message after three datagrams in a row which were lost. -/
theorem Reaches.allowed_iff (reaches : Reaches link reach) (close : ¬reach.Wedged)
    {transmission : Transmission} (fits : Fits transmission) :
    link.Allowed transmission ↔ ¬(reach.step transmission).Wedged := by
  cases transmission with
  | send messageType data arrives =>
      have missed := (reaches.follows close).1
      rw [Reach.step, Reach.wedged_deliver]
      change data.length ≤ maxPayload ∧ link.missed ≤ 2 ↔ ¬reach.taken + 3 < reach.count + 1
      have fits : data.length ≤ maxPayload := fits
      omega
  | resend arrives =>
      rw [Reach.step, Reach.wedged_deliver]
      exact iff_of_true trivial close

theorem Reaches.along_iff (reaches : Reaches link reach) (close : ¬reach.Wedged)
    {transmissions : List Transmission}
    (fits : ∀ transmission ∈ transmissions, Fits transmission)
    (bounded : (machine.final link transmissions).sent.length ≤ 65536) :
    machine.Along Allowed link transmissions ↔ ¬(Reach.gauge.final reach transmissions).Wedged := by
  induction transmissions generalizing link reach with
  | nil => exact iff_of_true trivial close
  | cons transmission rest ih =>
      rw [List.forall_mem_cons] at fits
      have few := (length_sent_final (link.step transmission) rest).trans bounded
      have here := reaches.allowed_iff close fits.1
      by_cases wedged : (reach.step transmission).Wedged
      · exact iff_of_false (fun along => here.mp along.1 wedged) fun later =>
          later (wedged.final rest).1
      · have later := ih (reaches.step fits.1 few) wedged fits.2 bounded
        exact ⟨fun along => later.mp along.2, fun later' => ⟨here.mpr wedged, later.mpr later'⟩⟩

theorem Reaches.length_handled (reaches : Reaches link reach) :
    link.session.handled.length = reach.taken := by
  rw [reaches.waits.handled, List.length_map, List.length_range]

theorem Reaches.contents (reaches : Reaches link reach) :
    link.contents = link.sent.take reach.taken := by
  rw [Link.contents, reaches.waits.handled]
  exact map_messageAt link.sent (reaches.count ▸ reaches.behind)

/-- The redundancy masks exactly the loss of at most two datagrams in a row: otherwise the
session never handles another message of its client, whatever is sent and arrives, as long as
the numbers of its messages do not come round. -/
theorem loss_masked_iff {transmissions : List Transmission}
    (fits : ∀ transmission ∈ transmissions, Fits transmission)
    (short : (machine.final new transmissions).sent.length ≤ 65536) :
    let link := machine.final new transmissions
    ((link.step (.resend true)).contents = link.sent ↔
        machine.Along Allowed new transmissions) ∧
      (¬machine.Along Allowed new transmissions → ∀ more : List Transmission,
        (∀ transmission ∈ more, Fits transmission) →
          (machine.final link more).sent.length ≤ 65536 →
            (machine.final link more).session.handled = link.session.handled) := by
  intro link
  have fresh : ¬Reach.Wedged ⟨0, 0⟩ := Nat.not_lt_zero _
  have reaches : Reaches link _ := reaches_new.final fits short
  have along := reaches_new.along_iff fresh fits short
  rw [along]
  have same : (link.step (.resend true)).sent = link.sent := by
    rw [Link.step]
    cases link.generator.lastSent with
    | some packet => exact sent_deliver link packet true
    | none => rfl
  have arrived := @Reaches.step link _ reaches (.resend true) trivial (same ▸ short)
  constructor
  · rw [arrived.contents, same]
    constructor
    · intro everything wedged
      have behind := congrArg List.length everything
      rw [List.length_take, (wedged.step (.resend true)).2, reaches.count] at behind
      have lost : _ + 3 < _ := wedged
      omega
    · intro close
      have caught : (Reach.gauge.final ⟨0, 0⟩ transmissions).step (.resend true) = _ :=
        if_pos ⟨rfl, close⟩
      rw [caught, ← reaches.count, List.take_length]
  · intro wedged more fitsMore bounded
    have later := reaches.final fitsMore bounded
    have stuck := (not_not.mp wedged).final more
    refine ((handled_final link more).eq_of_length ?_).symm
    rw [reaches.length_handled, later.length_handled, stuck.2]

/-- The first message arrives, the next three datagrams are lost, and the fifth arrives. -/
def gap : List Transmission :=
  [.send 0x03 [1] true, .send 0x08 [2] false, .send 0x08 [3] false, .send 0x08 [4] false,
    .send 0x08 [5] true]

/-- Four messages wait for the second one, and whatever comes after them as well. -/
theorem loss_masked_iff_gap :
    ((machine.final new gap).step (.resend true)).contents ≠ (machine.final new gap).sent ∧
      (machine.final (machine.final new gap) [.send 0x08 [6] true, .resend true]).session.handled =
        (machine.final new gap).session.handled := by
  have fits : ∀ transmission ∈ gap, Fits transmission := by simp [gap, Fits, maxPayload]
  have lost : ¬machine.Along Allowed new gap := by
    simp only [gap, Transducer.Along]
    decide
  obtain ⟨masked, silent⟩ := loss_masked_iff fits (by decide)
  exact ⟨fun everything => lost (masked.mp everything),
    silent lost _ (by simp [Fits, maxPayload]) (by decide)⟩

end Link

end Direlera.Session
