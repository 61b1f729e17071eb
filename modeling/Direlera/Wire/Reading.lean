import Direlera.Wire.Parsing

/-!
# Reads which may run out of bytes

The reads of the source panic when too few bytes remain. Here a read is an `Option`, with
`none` for the panic, and the parser is written over such reads: `parsePacketReading_eq`
says that it never panics.
-/

namespace Direlera.Wire

open Direlera.Sync

/-- Reads of `count` bytes need as many. -/
def needing {α : Type} (count : Nat) (buf : Bytes) (value : α) : Option α :=
  if count ≤ buf.length then some value else none

@[simp] theorem needing_of_le {α : Type} {count : Nat} {buf : Bytes} {value : α}
    (enough : count ≤ buf.length) : needing count buf value = some value := if_pos enough

/-- `get_u8`, which panics on an empty buffer. -/
def readU8 (buf : Bytes) : Option (UInt8 × Bytes) := needing 1 buf (getU8 buf)

/-- `get_u16_le`, which panics when fewer than 2 bytes remain. -/
def readU16Le (buf : Bytes) : Option (UInt16 × Bytes) := needing 2 buf (getU16Le buf)

/-- `split_to`, which panics when fewer than `count` bytes remain. -/
def splitTo (count : Nat) (buf : Bytes) : Option (Bytes × Bytes) :=
  needing count buf (buf.take count, buf.drop count)

/-- The text of a message header which is cut off. -/
def incompleteHeader (packet : Bytes) (numMessages position : Nat) (buf : Bytes) : String :=
  "Incomplete message header at message " ++ toString position ++ "/" ++
    toString numMessages ++ ". Buffer size: " ++ toString buf.length ++
    ", total_packet_size: " ++ toString packet.length ++ ", first_bytes: " ++
    debugHex (packet.take 10)

/-- The text of a message length of 0. -/
def invalidLength (messageLength : UInt16) (numMessages position : Nat) : String :=
  "Invalid message length " ++ toString messageLength.toNat ++ " at message " ++
    toString position ++ "/" ++ toString numMessages

/-- The loop of `parse_packet`, read by read. -/
def parseMessagesReading (packet : Bytes) (numMessages : Nat) :
    Nat → Bytes → Option (Except String (List ParsedMessage))
  | 0, _ => some (.ok [])
  | remaining + 1, buf =>
      if buf.length < 5 then
        some (.error (incompleteHeader packet numMessages (numMessages - remaining) buf))
      else do
        let (messageNumber, buf) ← readU16Le buf
        let (messageLength, buf) ← readU16Le buf
        let (messageType, buf) ← readU8 buf
        if messageLength < 1 then
          some (.error (invalidLength messageLength numMessages (numMessages - remaining)))
        else if buf.length < messageLength.toNat - 1 then
          some (.error "Incomplete message data.")
        else do
          let (data, buf) ← splitTo (messageLength.toNat - 1) buf
          let later ← parseMessagesReading packet numMessages remaining buf
          some (later.map fun rest => ⟨messageNumber, messageLength, messageType, data⟩ :: rest)

/-- `parse_packet`, read by read. -/
def parsePacketReading (data : Bytes) : Option (Except String (List ParsedMessage)) :=
  if data = [] then some (.error "Packet is empty.")
  else do
    let (numMessages, buf) ← readU8 data
    if numMessages = 0 then
      some (.error ("Invalid packet: num_messages is 0, total_size=" ++ toString data.length ++
        ", remaining=" ++ toString buf.length))
    else parseMessagesReading data numMessages.toNat numMessages.toNat buf

@[simp] theorem length_getU16Le (buf : Bytes) : (getU16Le buf).2.length = buf.length - 2 :=
  List.length_drop ..

/-- Every read of a message has its bytes: the header check covers the first three, and the
data check the last. -/
theorem parseMessagesReading_eq (packet : Bytes) (numMessages remaining : Nat) (buf : Bytes) :
    parseMessagesReading packet numMessages remaining buf =
      some (parseMessages packet numMessages remaining buf) := by
  induction remaining generalizing buf with
  | zero => rfl
  | succ remaining ih =>
      unfold parseMessagesReading parseMessages
      by_cases short : buf.length < 5
      · simp only [short, if_true]
        rfl
      · have number : readU16Le buf = some (getU16Le buf) := needing_of_le (by omega)
        have length : readU16Le (getU16Le buf).2 = some (getU16Le (getU16Le buf).2) :=
          needing_of_le (by rw [length_getU16Le]; omega)
        have type : readU8 (getU16Le (getU16Le buf).2).2 =
            some (getU8 (getU16Le (getU16Le buf).2).2) :=
          needing_of_le (by rw [length_getU16Le, length_getU16Le]; omega)
        simp only [short, if_false, number, length, type, Option.bind_eq_bind, Option.bind_some]
        generalize (getU16Le (getU16Le buf).2).1 = messageLength
        generalize (getU8 (getU16Le (getU16Le buf).2).2).2 = left
        by_cases invalid : messageLength < 1
        · simp only [invalid, if_true]
          rfl
        · by_cases truncated : left.length < messageLength.toNat - 1
          · simp only [invalid, truncated, if_true, if_false]
          · have payload : splitTo (messageLength.toNat - 1) left =
                some (left.take (messageLength.toNat - 1), left.drop (messageLength.toNat - 1)) :=
              needing_of_le (Nat.not_lt.mp truncated)
            simp only [invalid, truncated, if_false, payload, ih, Option.bind_some]

/-- Parsing never reads past the end. -/
theorem parsePacketReading_eq (data : Bytes) :
    parsePacketReading data = some (parsePacket data) := by
  unfold parsePacketReading parsePacket
  cases data with
  | nil => rfl
  | cons numMessages buf =>
      have count : readU8 (numMessages :: buf) = some (numMessages, buf) :=
        needing_of_le (by simp)
      simp only [List.cons_ne_nil, if_false, count, Option.bind_eq_bind, Option.bind_some,
        parseMessagesReading_eq]
      split <;> rfl

end Direlera.Wire
