import Direlera.Wire.Parsing

/-!
# Framing payloads

A packet tells the length of its payload in two bytes. A payload which fits is read back as
the newest message of its bundle; one which does not has a false length field.
-/

namespace Direlera.Wire

open Direlera.Sync

/-- The length field of a packet. -/
def lengthField (packet : Bytes) : UInt16 := (getU16Le (packet.drop 2)).1

theorem lengthField_makePacket (messageType : UInt8) (seq : UInt16) (data : Bytes) :
    lengthField (makePacket messageType seq data) = .ofNat data.length + 1 := by
  have number : (putU16Le seq).length = 2 := rfl
  rw [lengthField, makePacket, List.append_assoc, List.append_assoc, List.drop_left' number,
    getU16Le_putU16Le]

/-- The field counts the payload and the type exactly when the payload fits. -/
theorem lengthField_exact {messageType : UInt8} {seq : UInt16} {data : Bytes} :
    (lengthField (makePacket messageType seq data)).toNat = data.length + 1 ↔
      data.length ≤ maxPayload := by
  rw [lengthField_makePacket]
  constructor
  · intro exact
    have bound := (UInt16.ofNat data.length + 1).toNat_lt
    rw [exact] at bound
    unfold maxPayload
    omega
  · exact messageLength_toNat

namespace UDPPacketGenerator

variable {generator : UDPPacketGenerator} {messageType : UInt8} {data : Bytes}

/-- The older packets which the next datagram repeats. -/
def kept (generator : UDPPacketGenerator) : List Bytes :=
  if maxRecentPackets ≤ generator.recentPackets.length then generator.recentPackets.tail
  else generator.recentPackets

/-- A datagram counts its packets, and the newest one comes first. -/
theorem datagram_makeSendPacket (generator : UDPPacketGenerator) (messageType : UInt8)
    (data : Bytes) :
    (generator.makeSendPacket messageType data).1 =
      .ofNat (min maxRecentPackets (generator.kept.length + 1)) ::
        (makePacket messageType generator.sendCount data ++ generator.kept.reverse.flatten) := by
  simp [makeSendPacket, kept]

/-- The first byte counts the newest packet and at most two older ones. -/
theorem count_spec (older : Nat) : ∃ count ≤ older,
    min maxRecentPackets (older + 1) = count + 1 ∧ (UInt8.ofNat (count + 1)).toNat = count + 1 ∧
      UInt8.ofNat (count + 1) ≠ 0 := by
  have counted : min maxRecentPackets (older + 1) = min 2 older + 1 := by
    simp only [maxRecentPackets]
    omega
  have toNat : (UInt8.ofNat (min 2 older + 1)).toNat = min 2 older + 1 := by
    rw [UInt8.toNat_ofNat']
    omega
  refine ⟨min 2 older, Nat.min_le_right 2 older, counted, toNat, fun zero => ?_⟩
  rw [zero] at toNat
  exact absurd toNat (by simp)

/-- The packets which a generator repeats have payloads which fit. -/
def Fitting (generator : UDPPacketGenerator) : Prop :=
  ∃ messages : List (UInt8 × UInt16 × Bytes),
    generator.recentPackets =
        messages.map (fun message => makePacket message.1 message.2.1 message.2.2) ∧
      ∀ message ∈ messages, message.2.2.length ≤ maxPayload

theorem fitting_new : Fitting new := ⟨[], rfl, List.forall_mem_nil _⟩

theorem Fitting.kept (fitting : generator.Fitting) :
    ∃ messages : List (UInt8 × UInt16 × Bytes),
      generator.kept =
          messages.map (fun message => makePacket message.1 message.2.1 message.2.2) ∧
        ∀ message ∈ messages, message.2.2.length ≤ maxPayload := by
  obtain ⟨messages, recent, fit⟩ := fitting
  unfold UDPPacketGenerator.kept
  split
  next =>
    refine ⟨messages.tail, ?_, fun message member => fit message (List.mem_of_mem_tail member)⟩
    rw [recent, List.map_tail]
  next => exact ⟨messages, recent, fit⟩

/-- The parser reads the payload as the newest message of its bundle. -/
theorem Fitting.parsePacket_makeSendPacket (fitting : generator.Fitting) (messageType : UInt8)
    (fits : data.length ≤ maxPayload) :
    ∃ older, parsePacket (generator.makeSendPacket messageType data).1 =
      .ok (parsedMessage messageType generator.sendCount data :: older) := by
  obtain ⟨messages, older, fit⟩ := fitting.kept
  obtain ⟨count, few, counted, toNat, nonzero⟩ := count_spec generator.kept.length
  have reversed : ∀ message ∈ messages.reverse, message.2.2.length ≤ maxPayload :=
    fun message member => fit message (List.mem_reverse.mp member)
  have enough : count ≤ messages.reverse.length := by
    rwa [older, List.length_map, ← List.length_reverse] at few
  rw [datagram_makeSendPacket, counted, parsePacket, if_neg nonzero, toNat,
    parseMessages_makePacket _ _ _ _ _ fits, older, ← List.map_reverse,
    parseMessages_take _ _ reversed enough]
  exact ⟨_, rfl⟩

/-- The length field of the new packet does not lie, and the payload is read back from the
datagram, unless an older packet of it is at fault. -/
def Frames (generator : UDPPacketGenerator) (messageType : UInt8) (data : Bytes) : Prop :=
  (lengthField (makePacket messageType generator.sendCount data)).toNat = data.length + 1 ∧
    (generator.Fitting → ∃ newest older,
      parsePacket (generator.makeSendPacket messageType data).1 = .ok (newest :: older) ∧
        newest.messageType = messageType ∧ newest.data = data)

theorem frames_iff : generator.Frames messageType data ↔ data.length ≤ maxPayload := by
  constructor
  · exact fun frames => lengthField_exact.mp frames.1
  · intro fits
    refine ⟨lengthField_exact.mpr fits, fun fitting => ?_⟩
    obtain ⟨older, parsed⟩ := fitting.parsePacket_makeSendPacket messageType fits
    exact ⟨_, older, parsed, rfl, rfl⟩

/-- A payload whose length field wraps around to zero makes its datagram unreadable. -/
theorem parsePacket_wrapped (generator : UDPPacketGenerator) (messageType : UInt8)
    (wrapped : UInt16.ofNat data.length + 1 = 0) :
    ∃ report, parsePacket (generator.makeSendPacket messageType data).1 = .error report := by
  obtain ⟨count, _, counted, toNat, nonzero⟩ := count_spec generator.kept.length
  have enough : ¬(makePacket messageType generator.sendCount data ++
      generator.kept.reverse.flatten).length < 5 := by
    rw [List.length_append, length_makePacket]
    omega
  rw [datagram_makeSendPacket, counted, parsePacket, if_neg nonzero, toNat, parseMessages]
  simp only [enough, if_false]
  simp [makePacket, wrapped]

end UDPPacketGenerator

end Direlera.Wire
