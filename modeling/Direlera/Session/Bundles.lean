import Mathlib.Data.List.GetD
import Direlera.Library.MirroredWindow
import Direlera.Session.InOrder

/-!
# Redundancy masks the loss of datagrams

Every datagram of a generator repeats the two messages before its newest one. A session which
receives them in order has therefore processed everything that was sent by the time a datagram
arrives, as long as no more than two in a row before it were lost. Resending the last datagram
changes nothing for a session which has it.
-/

namespace Direlera.Session

open Direlera.Library Direlera.Library.MirroredWindow Direlera.Sync Direlera.Wire

/-! ## What a generator has sent -/

/-- The packet of message `index`. -/
def packetAt (sent : List (UInt8 × Bytes)) (index : Nat) : Bytes :=
  let message := sent.getD index (0, [])
  makePacket message.1 (.ofNat index) message.2

/-- Message `index` as it is parsed. -/
def messageAt (sent : List (UInt8 × Bytes)) (index : Nat) : ParsedMessage :=
  let message := sent.getD index (0, [])
  parsedMessage message.1 (.ofNat index) message.2

/-- The indices of a bundle, newest first. -/
def bundled (count : Nat) : List Nat :=
  (latest UDPPacketGenerator.maxRecentPackets (List.range count)).reverse

/-- The datagram of the newest message. -/
def bundle (sent : List (UInt8 × Bytes)) : Bytes :=
  .ofNat (min UDPPacketGenerator.maxRecentPackets sent.length) ::
    ((bundled sent.length).map (packetAt sent)).flatten

variable {sent : List (UInt8 × Bytes)} {message : UInt8 × Bytes} {index count : Nat}

theorem numbered_messageAt (sent : List (UInt8 × Bytes)) : Inbound.Numbered (messageAt sent) :=
  fun _ => rfl

theorem messageAt_concat (earlier : index < sent.length) :
    messageAt (sent ++ [message]) index = messageAt sent index := by
  unfold messageAt
  rw [List.getD_append _ _ _ _ earlier]

theorem packetAt_concat (earlier : index < sent.length) :
    packetAt (sent ++ [message]) index = packetAt sent index := by
  unfold packetAt
  rw [List.getD_append _ _ _ _ earlier]

theorem packetAt_length : packetAt (sent ++ [message]) sent.length =
    makePacket message.1 (.ofNat sent.length) message.2 := by
  simp [packetAt]

theorem mem_bundled : index ∈ bundled count ↔ index < count ∧ count ≤ index + 3 := by
  unfold bundled
  rw [List.mem_reverse, latest, List.length_range, List.range_eq_range', List.drop_range',
    List.mem_range'_1]
  simp only [UDPPacketGenerator.maxRecentPackets]
  omega

/-- The packets of a longer history. -/
theorem packets_concat (sent : List (UInt8 × Bytes)) (message : UInt8 × Bytes) :
    (List.range (sent ++ [message]).length).map (packetAt (sent ++ [message])) =
      (List.range sent.length).map (packetAt sent) ++
        [makePacket message.1 (.ofNat sent.length) message.2] := by
  rw [List.length_append, List.length_singleton, List.range_succ, List.map_append,
    List.map_singleton, packetAt_length]
  congr 1
  apply List.map_congr_left
  intro index earlier
  exact packetAt_concat (List.mem_range.mp earlier)

/-- The generator has sent the messages of `sent` and nothing else. -/
structure Generates (generator : UDPPacketGenerator) (sent : List (UInt8 × Bytes)) : Prop where
  recent : generator.recentPackets =
    latest UDPPacketGenerator.maxRecentPackets ((List.range sent.length).map (packetAt sent))
  count : generator.sendCount = .ofNat sent.length
  last : generator.lastSent = if sent = [] then none else some (bundle sent)

theorem generates_new : Generates .new [] := ⟨rfl, rfl, rfl⟩

theorem Generates.recent_concat {generator : UDPPacketGenerator}
    (generates : Generates generator sent) (message : UInt8 × Bytes) :
    (generator.makeSendPacket message.1 message.2).2.recentPackets =
      latest UDPPacketGenerator.maxRecentPackets
        ((List.range (sent ++ [message]).length).map (packetAt (sent ++ [message]))) := by
  rw [packets_concat, ← pushBounded_latest (by decide), ← generates.recent, ← generates.count]
  simp only [UDPPacketGenerator.makeSendPacket, pushBounded]
  split <;> rfl

/-- A bundle is what the generator puts together from its recent packets. -/
theorem bundle_eq (sent : List (UInt8 × Bytes)) {recentPackets : List Bytes}
    (recent : recentPackets = latest UDPPacketGenerator.maxRecentPackets
      ((List.range sent.length).map (packetAt sent))) :
    bundle sent =
      .ofNat (min UDPPacketGenerator.maxRecentPackets recentPackets.length) ::
        recentPackets.reverse.flatten := by
  rw [recent, length_latest, List.length_map, List.length_range, latest_map, ← List.map_reverse,
    bundle, bundled, ← Nat.min_assoc, Nat.min_self]

/-- One more message is sent in the bundle of the longer history. -/
theorem Generates.makeSendPacket {generator : UDPPacketGenerator}
    (generates : Generates generator sent) (message : UInt8 × Bytes) :
    (generator.makeSendPacket message.1 message.2).1 = bundle (sent ++ [message]) ∧
      Generates (generator.makeSendPacket message.1 message.2).2 (sent ++ [message]) := by
  have recent := generates.recent_concat message
  have packet : (generator.makeSendPacket message.1 message.2).1 = bundle (sent ++ [message]) :=
    (bundle_eq _ recent).symm
  refine ⟨packet, recent, ?_, ?_⟩
  · rw [List.length_append, List.length_singleton, UInt16.ofNat_add, ← generates.count]
    rfl
  · rw [if_neg (List.append_ne_nil_of_right_ne_nil _ (List.cons_ne_nil _ _)), ← packet]
    rfl

@[simp] theorem length_bundled (count : Nat) :
    (bundled count).length = min UDPPacketGenerator.maxRecentPackets count := by
  rw [bundled, List.length_reverse, length_latest, List.length_range]

/-- A payload which was sent fits. -/
theorem fits_getD (fit : ∀ message ∈ sent, message.2.length ≤ maxPayload) (index : Nat) :
    (sent.getD index (0, [])).2.length ≤ maxPayload := by
  rw [List.getD_eq_getElem?_getD]
  cases found : sent[index]? with
  | none => exact Nat.zero_le _
  | some message => exact fit message (List.mem_of_getElem? found)

/-- A bundle is parsed into its messages. -/
theorem parsePacket_bundle (some_sent : sent ≠ [])
    (fit : ∀ message ∈ sent, message.2.length ≤ maxPayload) :
    parsePacket (bundle sent) = .ok ((bundled sent.length).map (messageAt sent)) := by
  have positive := List.length_pos_iff.mpr some_sent
  have small : min UDPPacketGenerator.maxRecentPackets sent.length ≤ 3 := Nat.min_le_left _ _
  have most : 1 ≤ min UDPPacketGenerator.maxRecentPackets sent.length :=
    Nat.le_min.mpr ⟨by decide, positive⟩
  have toNat : (UInt8.ofNat (min UDPPacketGenerator.maxRecentPackets sent.length)).toNat =
      min UDPPacketGenerator.maxRecentPackets sent.length := by
    rw [UInt8.toNat_ofNat']
    omega
  have nonzero : UInt8.ofNat (min UDPPacketGenerator.maxRecentPackets sent.length) ≠ 0 := by
    intro zero
    rw [zero] at toNat
    have none_sent : 0 = min UDPPacketGenerator.maxRecentPackets sent.length := toNat
    omega
  have fits : ∀ entry ∈ (bundled sent.length).map fun index =>
      ((sent.getD index (0, [])).1, UInt16.ofNat index, (sent.getD index (0, [])).2),
      entry.2.2.length ≤ maxPayload := by
    intro entry member
    obtain ⟨index, _, rfl⟩ := List.mem_map.mp member
    exact fits_getD fit index
  have read := parseMessages_flatten (bundle sent)
    (min UDPPacketGenerator.maxRecentPackets sent.length) fits
  rw [List.map_map, List.map_map, List.length_map, length_bundled] at read
  rw [bundle, parsePacket, if_neg nonzero, toNat]
  exact read

/-! ## A bundle which arrives -/

namespace Inbound

variable {session : Inbound} {order : Reorder}

/-- Messages just behind or ahead of the next one are received, whatever their order. -/
theorem Represents.nearby {sent : Nat → ParsedMessage} (numbered : Numbered sent)
    (represents : Represents sent session order) (settled : order.Settled) {indices : List Nat}
    (inside : order.received ⊆ {index | index < count}) (close : count ≤ order.next + 3)
    (room : session.pendingMessages.length + indices.length ≤ maxPendingSessionMessages)
    (recent : ∀ index ∈ indices, index < count ∧ count ≤ index + 3) :
    ∃ after : Reorder, Represents sent ((Inbound.arrivals sent).final session indices) after ∧
      after.Settled ∧ after.received = order.received ∪ {index | index ∈ indices} := by
  induction indices generalizing session order with
  | nil => exact ⟨order, represents, settled, by simp⟩
  | cons index rest ih =>
      obtain ⟨below, latest⟩ := recent index List.mem_cons_self
      rw [List.length_cons] at room
      have next := Reorder.next_le_of_received inside
      have window : InWindow order.next index := by
        constructor
        · omega
        · omega
      obtain ⟨middle, step, calm, outcome⟩ := represents.processMessage numbered settled window
      have grown : middle.received = insert index order.received := by
        rcases outcome with grown | ⟨full, _⟩
        · exact grown
        · omega
      have more : order.received ⊆ middle.received := grown ▸ Set.subset_insert index _
      have inside' : middle.received ⊆ {index | index < count} :=
        grown ▸ Set.insert_subset below inside
      have length := session.length_processMessage_le (sent index)
      obtain ⟨after, final, settles, received⟩ := ih step calm inside'
        (close.trans (Nat.add_le_add_right (calm.next_le more) 3)) (by omega)
        fun other member => recent other (List.mem_cons_of_mem index member)
      refine ⟨after, final, settles, ?_⟩
      rw [received, grown]
      ext other
      simp only [Set.mem_union, Set.mem_insert_iff, Set.mem_ofPred_eq, List.mem_cons]
      tauto

/-- A session which has processed all but the last three messages at most, and keeps nothing,
has processed everything after the next bundle. -/
theorem Represents.bundle {sent : List (UInt8 × Bytes)} (some_sent : sent ≠ [])
    (fit : ∀ message ∈ sent, message.2.length ≤ maxPayload) {next : Nat}
    (represents : Represents (messageAt sent) session ⟨next, ∅⟩) (behind : next ≤ sent.length)
    (close : sent.length ≤ next + 3) :
    Represents (messageAt sent) (session.processPacket (bundle sent)) ⟨sent.length, ∅⟩ := by
  have settled : Reorder.Settled ⟨next, ∅⟩ := Reorder.settled_forget ⟨next, ∅⟩
  have empty := represents.length_eq_zero rfl
  obtain ⟨first, opens, _, same⟩ := represents.opened settled (bundled sent.length)
  obtain rfl := same fun forgets => forgets.2 empty
  have inside : Reorder.received ⟨next, ∅⟩ ⊆ {index | index < sent.length} := by
    rintro index (taken | ⟨⟨⟩⟩)
    exact Nat.lt_of_lt_of_le taken behind
  have room : (session.opened ((bundled sent.length).map (messageAt sent))).pendingMessages.length +
      (bundled sent.length).length ≤ maxPendingSessionMessages := by
    have small : min UDPPacketGenerator.maxRecentPackets sent.length ≤ 3 := Nat.min_le_left _ _
    rw [opens.length_eq_zero rfl, length_bundled, maxPendingSessionMessages]
    omega
  obtain ⟨after, final, settles, received⟩ :=
    opens.nearby (numbered_messageAt sent) settled inside close room fun index => mem_bundled.mp
  have all : after.received = {index | index < sent.length} := by
    rw [received]
    ext index
    simp only [Reorder.received, Set.mem_union, Set.mem_ofPred_eq, Set.mem_empty_iff_false,
      or_false, mem_bundled]
    omega
  have packet : session.processPacket (Session.bundle sent) =
      (Inbound.arrivals (messageAt sent)).final
        (session.opened ((bundled sent.length).map (messageAt sent))) (bundled sent.length) := by
    rw [processPacket, parsePacket_bundle some_sent fit]
    exact step_datagrams (messageAt sent) session (bundled sent.length)
  rw [packet, ← settles.eq_of_received all]
  exact final

end Inbound

/-! ## A generator and its session -/

/-- What may happen next to the datagrams of a generator. -/
inductive Transmission
  | send (messageType : UInt8) (data : Bytes) (arrives : Bool)
  | resend (arrives : Bool)
deriving DecidableEq, Repr

/-- A generator and the session at the other end, with the messages which were sent and how many
datagrams were sent since the last one which arrived. -/
structure Link where
  generator : UDPPacketGenerator
  session : Inbound
  sent : List (UInt8 × Bytes)
  missed : Nat

namespace Link

/-- Nothing has been sent and the session is fresh. -/
def new : Link := ⟨.new, .new, [], 0⟩

/-- A datagram arrives or is lost. -/
def deliver (link : Link) (packet : Bytes) (arrives : Bool) : Link :=
  if arrives then { link with session := link.session.processPacket packet, missed := 0 }
  else link

/-- A new message is sent in its bundle, or the last datagram is sent again. -/
def step (link : Link) : Transmission → Link
  | .send messageType data arrives =>
      let (packet, generator) := link.generator.makeSendPacket messageType data
      { link with
        generator
        sent := link.sent ++ [(messageType, data)]
        missed := link.missed + 1 }.deliver packet arrives
  | .resend arrives =>
      match link.generator.lastSent with
      | some packet => link.deliver packet arrives
      | none => link

/-- The runs of a link. -/
def machine : Transducer Link Transmission Unit where
  step link transmission := ((), link.step transmission)

/-- A message which is sent fits in its length field, and no more than two datagrams in a row
before it are lost. -/
def Allowed (link : Link) : Transmission → Prop
  | .send _ data _ => data.length ≤ maxPayload ∧ link.missed ≤ 2
  | .resend _ => True

/-- The session follows the generator up to the datagrams which were missed. -/
structure Follows (link : Link) : Prop where
  generates : Generates link.generator link.sent
  fit : ∀ message ∈ link.sent, message.2.length ≤ maxPayload
  behind : link.missed ≤ link.sent.length
  close : link.missed ≤ 3
  represents : Inbound.Represents (messageAt link.sent) link.session
    ⟨link.sent.length - link.missed, ∅⟩

theorem follows_new : Follows new where
  generates := generates_new
  fit := by simp [new]
  behind := Nat.zero_le _
  close := Nat.zero_le _
  represents := Inbound.represents_new _

/-- A bundle brings the session up to date, also when it comes again. -/
theorem Follows.deliver {link : Link} (follows : Follows link) (some_sent : link.sent ≠ [])
    (arrives : Bool) : Follows (link.deliver (bundle link.sent) arrives) := by
  unfold Link.deliver
  split
  next =>
    have behind := follows.behind
    have close := follows.close
    have caught_up := follows.represents.bundle some_sent follows.fit (Nat.sub_le _ _) (by omega)
    exact ⟨follows.generates, follows.fit, Nat.zero_le _, Nat.zero_le _, caught_up⟩
  next => exact follows

/-- Another message is sent; its datagram is missed until it arrives. -/
theorem Follows.send {link : Link} (follows : Follows link) (message : UInt8 × Bytes)
    (fits : message.2.length ≤ maxPayload) (few : link.missed ≤ 2) :
    Follows { link with
      generator := (link.generator.makeSendPacket message.1 message.2).2
      sent := link.sent ++ [message]
      missed := link.missed + 1 } where
  generates := (follows.generates.makeSendPacket message).2
  fit := by
    intro other member
    rcases List.mem_append.mp member with earlier | last
    · exact follows.fit other earlier
    · exact List.mem_singleton.mp last ▸ fits
  behind := by
    have behind := follows.behind
    simp only [List.length_append, List.length_singleton]
    omega
  close := Nat.succ_le_succ few
  represents := by
    have same : (link.sent ++ [message]).length - (link.missed + 1) =
        link.sent.length - link.missed := by
      rw [List.length_append, List.length_singleton, Nat.add_sub_add_right]
    dsimp only
    rw [same]
    apply follows.represents.congr
    rintro index (taken | ⟨⟨⟩⟩)
    exact messageAt_concat (Nat.lt_of_lt_of_le taken (Nat.sub_le _ _))

theorem Follows.step {link : Link} (follows : Follows link) {transmission : Transmission}
    (allowed : link.Allowed transmission) : Follows (link.step transmission) := by
  cases transmission with
  | send messageType data arrives =>
      have packet := (follows.generates.makeSendPacket (messageType, data)).1
      have after := follows.send (messageType, data) allowed.1 allowed.2
      have some_sent : link.sent ++ [(messageType, data)] ≠ [] := by simp
      have delivered := after.deliver some_sent arrives
      rw [← packet] at delivered
      exact delivered
  | resend arrives =>
      rw [Link.step, follows.generates.last]
      by_cases none_sent : link.sent = []
      · rw [if_pos none_sent]
        exact follows
      · rw [if_neg none_sent]
        exact follows.deliver none_sent arrives

theorem follows_final {transmissions : List Transmission}
    (allowed : machine.Along Allowed new transmissions) :
    Follows (machine.final new transmissions) :=
  machine.invariant_along Follows (fun _ _ follows here => follows.step here) follows_new allowed

/-- The first messages of a history, with their types and payloads. -/
theorem map_messageAt (sent : List (UInt8 × Bytes)) {count : Nat} (few : count ≤ sent.length) :
    ((List.range count).map (messageAt sent)).map
      (fun message => (message.messageType, message.data)) = sent.take count := by
  apply List.ext_getElem
  · simp only [List.length_map, List.length_range, List.length_take]
    omega
  · intro index first second
    simp only [List.length_map, List.length_range] at first
    simp [messageAt, parsedMessage, List.getD_eq_getElem?_getD, show index < sent.length by omega]

/-- Whenever the last datagram has arrived, once or more often, the session has processed what
the generator was given, in order and once, and each datagram which is still missed holds back
one message. -/
theorem bundles_mask_loss {transmissions : List Transmission}
    (allowed : machine.Along Allowed new transmissions) :
    let link := machine.final new transmissions
    link.session.handled.map (fun message => (message.messageType, message.data)) =
        link.sent.take (link.sent.length - link.missed) ∧
      (link.missed = 0 → link.session.handled.map
        (fun message => (message.messageType, message.data)) = link.sent) ∧
      link.session.handled.map ParsedMessage.messageNumber =
        (List.range (link.sent.length - link.missed)).map UInt16.ofNat := by
  intro link
  have follows : Follows link := follows_final allowed
  have handled := follows.represents.handled
  have contents := map_messageAt link.sent (Nat.sub_le link.sent.length link.missed)
  dsimp only at handled
  rw [handled, contents]
  refine ⟨rfl, ?_, ?_⟩
  · intro arrived
    rw [arrived, Nat.sub_zero, List.take_length]
  · rw [List.map_map]
    rfl

/-- Two datagrams in a row are lost, the next one arrives twice, and the last one only when it is
sent again. -/
def lossy : List Transmission :=
  [.send 0x03 [1] true, .send 0x08 [2] false, .send 0x08 [3, 3] false, .send 0x08 [] true,
    .resend true, .send 0x0A [5] false, .resend true]

theorem bundles_mask_loss_lossy :
    machine.Along Allowed new lossy ∧ (machine.final new lossy).session.handled.length = 5 ∧
      (machine.final new lossy).session.handled.map
        (fun message => (message.messageType, message.data)) =
          (machine.final new lossy).sent := by
  have allowed : machine.Along Allowed new lossy := by
    simp only [lossy, Transducer.Along, Allowed]
    decide
  exact ⟨allowed, by decide, (bundles_mask_loss allowed).2.1 (by decide)⟩

end Link

end Direlera.Session
