import Direlera.Wire.Packets

/-!
# Parsing datagrams

A datagram counts its messages in the first byte; each message has a number, a length, a
type and its payload. The parser reads back what the generator's bundles are made of.
-/

namespace Direlera.Wire

open Direlera.Sync

/-- `ParsedMessage`. -/
structure ParsedMessage where
  messageNumber : UInt16
  messageLength : UInt16
  messageType : UInt8
  data : Bytes
deriving DecidableEq, Repr

/-- A byte as `{:02x}`. -/
def hexByte (byte : UInt8) : String :=
  String.ofList [Nat.digitChar (byte.toNat / 16), Nat.digitChar (byte.toNat % 16)]

/-- Bytes as `{:02x?}`. -/
def debugHex (bytes : Bytes) : String := "[" ++ ", ".intercalate (bytes.map hexByte) ++ "]"

/-- The loop of `parse_packet` with `remaining` messages left to read. -/
def parseMessages (packet : Bytes) (numMessages : Nat) :
    Nat → Bytes → Except String (List ParsedMessage)
  | 0, _ => .ok []
  | remaining + 1, buf =>
      let position := numMessages - remaining
      if buf.length < 5 then
        .error ("Incomplete message header at message " ++ toString position ++ "/" ++
          toString numMessages ++ ". Buffer size: " ++ toString buf.length ++
          ", total_packet_size: " ++ toString packet.length ++ ", first_bytes: " ++
          debugHex (packet.take 10))
      else
        let (messageNumber, buf) := getU16Le buf
        let (messageLength, buf) := getU16Le buf
        let (messageType, buf) := getU8 buf
        if messageLength < 1 then
          .error ("Invalid message length " ++ toString messageLength.toNat ++ " at message " ++
            toString position ++ "/" ++ toString numMessages)
        else if buf.length < messageLength.toNat - 1 then .error "Incomplete message data."
        else
          (parseMessages packet numMessages remaining (buf.drop (messageLength.toNat - 1))).map
            fun rest => ⟨messageNumber, messageLength, messageType,
              buf.take (messageLength.toNat - 1)⟩ :: rest

/-- `parse_packet`; bytes after the counted messages are ignored. -/
def parsePacket (data : Bytes) : Except String (List ParsedMessage) :=
  match data with
  | [] => .error "Packet is empty."
  | numMessages :: buf =>
      if numMessages = 0 then
        .error ("Invalid packet: num_messages is 0, total_size=" ++ toString data.length ++
          ", remaining=" ++ toString buf.length)
      else parseMessages data numMessages.toNat numMessages.toNat buf

/-! ## Reading back what was built -/

/-- The longest payload whose length fits its field. -/
def maxPayload : Nat := 65534

/-- The message which the parser reads from `make_packet`. -/
def parsedMessage (messageType : UInt8) (seq : UInt16) (data : Bytes) : ParsedMessage :=
  ⟨seq, .ofNat data.length + 1, messageType, data⟩

@[simp] theorem getU16Le_putU16Le (value : UInt16) (rest : Bytes) :
    getU16Le (putU16Le value ++ rest) = (value, rest) := by
  have high : (UInt8.ofNat (value.toNat / 256)).toNat = value.toNat / 256 := by
    have bound := value.toNat_lt
    rw [UInt8.toNat_ofNat']
    omega
  have split : value.toNat % 256 + 256 * (value.toNat / 256) = value.toNat := by omega
  simp [getU16Le, putU16Le, littleEndianBytes, littleEndian, high, split]

theorem messageLength_toNat {data : Bytes} (fits : data.length ≤ maxPayload) :
    (UInt16.ofNat data.length + 1).toNat = data.length + 1 := by
  unfold maxPayload at fits
  rw [UInt16.toNat_add, UInt16.toNat_ofNat', UInt16.toNat_one]
  omega

theorem length_makePacket (messageType : UInt8) (seq : UInt16) (data : Bytes) :
    (makePacket messageType seq data).length = data.length + 5 := by
  simp [makePacket, putU16Le, littleEndianBytes]

/-- One message is read and the rest is left. -/
theorem parseMessages_makePacket (packet : Bytes) (numMessages remaining : Nat)
    (messageType : UInt8) (seq : UInt16) {data : Bytes} (fits : data.length ≤ maxPayload)
    (rest : Bytes) :
    parseMessages packet numMessages (remaining + 1) (makePacket messageType seq data ++ rest) =
      (parseMessages packet numMessages remaining rest).map
        fun later => parsedMessage messageType seq data :: later := by
  have enough : ¬(makePacket messageType seq data ++ rest).length < 5 := by
    rw [List.length_append, length_makePacket]
    omega
  have length := messageLength_toNat fits
  have positive : ¬(UInt16.ofNat data.length + 1 < 1) := by
    rw [UInt16.lt_iff_toNat_lt, length, UInt16.toNat_one]
    omega
  have whole : ¬(data ++ rest).length < data.length := by
    rw [List.length_append]
    omega
  rw [parseMessages]
  simp only [enough, if_false]
  simp only [makePacket, List.append_assoc, getU16Le_putU16Le, List.cons_append, List.nil_append,
    getU8, positive, if_false, length, Nat.add_sub_cancel, whole, List.take_left, List.drop_left]
  rfl

/-- As many messages are read as are counted, whatever follows them. -/
theorem parseMessages_take (packet : Bytes) (numMessages : Nat)
    {messages : List (UInt8 × UInt16 × Bytes)}
    (fit : ∀ message ∈ messages, message.2.2.length ≤ maxPayload) {count : Nat}
    (enough : count ≤ messages.length) :
    parseMessages packet numMessages count
        (messages.map fun message => makePacket message.1 message.2.1 message.2.2).flatten =
      .ok ((messages.take count).map fun message =>
        parsedMessage message.1 message.2.1 message.2.2) := by
  induction messages generalizing count with
  | nil =>
      obtain rfl := Nat.le_zero.mp enough
      rfl
  | cons message rest ih =>
      cases count with
      | zero => rfl
      | succ count =>
          rw [List.map_cons, List.flatten_cons,
            parseMessages_makePacket _ _ _ _ _ (fit message List.mem_cons_self),
            ih (fun other member => fit other (List.mem_cons_of_mem message member))
              (Nat.le_of_succ_le_succ enough)]
          rfl

/-- A bundle of packets is read message by message. -/
theorem parseMessages_flatten (packet : Bytes) (numMessages : Nat)
    {messages : List (UInt8 × UInt16 × Bytes)}
    (fit : ∀ message ∈ messages, message.2.2.length ≤ maxPayload) :
    parseMessages packet numMessages messages.length
        (messages.map fun message => makePacket message.1 message.2.1 message.2.2).flatten =
      .ok (messages.map fun message => parsedMessage message.1 message.2.1 message.2.2) := by
  rw [parseMessages_take packet numMessages fit (Nat.le_refl _), List.take_length]

end Direlera.Wire
