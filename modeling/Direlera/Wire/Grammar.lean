import Direlera.Wire.Reading

/-!
# The grammar of datagrams

A datagram is a count, that many packets and a tail which nobody reads. The parser accepts
exactly these byte strings, and reads the packets' messages from them.
-/

namespace Direlera.Wire

open Direlera.Sync

/-- What is read is what was written. -/
theorem putU16Le_getU16Le {buf : Bytes} (enough : 2 ≤ buf.length) :
    putU16Le (getU16Le buf).1 ++ (getU16Le buf).2 = buf := by
  match buf, enough with
  | low :: high :: rest, _ =>
      have bound : low.toNat + 256 * high.toNat < 65536 := by
        have := low.toNat_lt
        have := high.toNat_lt
        omega
      have number : (getU16Le (low :: high :: rest)).1.toNat = low.toNat + 256 * high.toNat := by
        simp only [getU16Le, List.take_succ_cons, List.take_zero, littleEndian, Nat.mul_zero,
          Nat.add_zero, UInt16.toNat_ofNat']
        omega
      have first : UInt8.ofNat (low.toNat + 256 * high.toNat) = low := by
        rw [← UInt8.toNat_inj, UInt8.toNat_ofNat']
        have := low.toNat_lt
        omega
      have second : UInt8.ofNat ((low.toNat + 256 * high.toNat) / 256) = high := by
        rw [← UInt8.toNat_inj, UInt8.toNat_ofNat']
        have := low.toNat_lt
        have := high.toNat_lt
        omega
      simp only [putU16Le, littleEndianBytes, number, first, second]
      rfl

namespace ParsedMessage

/-- The length field counts the type and the payload, and did not overflow. -/
structure WellFormed (message : ParsedMessage) : Prop where
  fits : message.data.length ≤ maxPayload
  counted : message.messageLength.toNat = message.data.length + 1

/-- The packet which the message is read from. -/
def packet (message : ParsedMessage) : Bytes :=
  makePacket message.messageType message.messageNumber message.data

theorem WellFormed.length_eq {message : ParsedMessage} (wellFormed : message.WellFormed) :
    .ofNat message.data.length + 1 = message.messageLength := by
  rw [← UInt16.toNat_inj, messageLength_toNat wellFormed.fits, wellFormed.counted]

theorem WellFormed.eq_parsedMessage {message : ParsedMessage} (wellFormed : message.WellFormed) :
    parsedMessage message.messageType message.messageNumber message.data = message := by
  rw [parsedMessage, wellFormed.length_eq]

end ParsedMessage

variable {packet : Bytes} {numMessages : Nat}

/-- The loop reads a message exactly when its packet comes next. -/
theorem parseMessages_succ_iff {remaining : Nat} {buf : Bytes} {messages : List ParsedMessage} :
    parseMessages packet numMessages (remaining + 1) buf = .ok messages ↔
      ∃ message later tail, messages = message :: later ∧ message.WellFormed ∧
        buf = message.packet ++ tail ∧
        parseMessages packet numMessages remaining tail = .ok later := by
  constructor
  · intro parsed
    unfold parseMessages at parsed
    by_cases short : buf.length < 5
    · simp [short] at parsed
    simp only [short, if_false] at parsed
    have readsNumber := @putU16Le_getU16Le buf (by omega)
    have readsLength := @putU16Le_getU16Le (getU16Le buf).2 (by rw [length_getU16Le]; omega)
    obtain ⟨messageType, left, body⟩ : ∃ messageType left,
        (getU16Le (getU16Le buf).2).2 = messageType :: left := by
      refine List.exists_cons_of_length_pos ?_
      rw [length_getU16Le, length_getU16Le]
      omega
    rw [body] at parsed readsLength
    generalize (getU16Le buf).1 = messageNumber at parsed readsNumber
    generalize (getU16Le (getU16Le buf).2).1 = messageLength at parsed readsLength
    simp only [getU8] at parsed
    by_cases invalid : messageLength < 1
    · simp [invalid] at parsed
    by_cases truncated : left.length < messageLength.toNat - 1
    · simp [invalid, truncated] at parsed
    simp only [invalid, truncated, if_false] at parsed
    cases later : parseMessages packet numMessages remaining
        (left.drop (messageLength.toNat - 1)) with
    | error error =>
        rw [later] at parsed
        cases parsed
    | ok others =>
        rw [later] at parsed
        have positive : 1 ≤ messageLength.toNat := Nat.le_of_not_lt fun zero => invalid zero
        have bound := messageLength.toNat_lt
        have taken : (left.take (messageLength.toNat - 1)).length = messageLength.toNat - 1 :=
          List.length_take_of_le (Nat.not_lt.mp truncated)
        have wellFormed : ParsedMessage.WellFormed ⟨messageNumber, messageLength, messageType,
            left.take (messageLength.toNat - 1)⟩ :=
          ⟨by rw [taken, maxPayload]; omega, by rw [taken]; exact (Nat.sub_add_cancel positive).symm⟩
        refine ⟨_, others, left.drop (messageLength.toNat - 1), (Except.ok.inj parsed).symm,
          wellFormed, ?_, later⟩
        have length := wellFormed.length_eq
        dsimp only at length
        rw [ParsedMessage.packet, makePacket, length]
        calc buf = putU16Le messageNumber ++ (getU16Le buf).2 := readsNumber.symm
          _ = putU16Le messageNumber ++ (putU16Le messageLength ++ messageType :: left) := by
              rw [readsLength]
          _ = _ := by simp
  · rintro ⟨message, later, tail, rfl, wellFormed, rfl, parsed⟩
    rw [ParsedMessage.packet, parseMessages_makePacket _ _ _ _ _ wellFormed.fits, parsed,
      wellFormed.eq_parsedMessage]
    rfl

/-- The loop reads as many packets as it counts, and leaves what follows. -/
theorem parseMessages_eq_ok_iff {remaining : Nat} {buf : Bytes} {messages : List ParsedMessage} :
    parseMessages packet numMessages remaining buf = .ok messages ↔
      messages.length = remaining ∧ (∀ message ∈ messages, message.WellFormed) ∧
        ∃ tail, buf = (messages.map ParsedMessage.packet).flatten ++ tail := by
  induction remaining generalizing buf messages with
  | zero =>
      constructor
      · intro parsed
        obtain rfl : [] = messages := Except.ok.inj parsed
        exact ⟨rfl, by simp, buf, rfl⟩
      · rintro ⟨none, -, -⟩
        rw [List.length_eq_zero_iff.mp none]
        rfl
  | succ remaining ih =>
      rw [parseMessages_succ_iff]
      constructor
      · rintro ⟨message, later, tail, rfl, wellFormed, rfl, parsed⟩
        obtain ⟨count, allWellFormed, rest, rfl⟩ := ih.mp parsed
        refine ⟨by rw [List.length_cons, count], ?_, rest, by simp⟩
        simpa using ⟨wellFormed, allWellFormed⟩
      · rintro ⟨count, wellFormed, rest, rfl⟩
        cases messages with
        | nil => cases count
        | cons message later =>
            obtain ⟨first, others⟩ := List.forall_mem_cons.mp wellFormed
            exact ⟨message, later, (later.map ParsedMessage.packet).flatten ++ rest, rfl, first,
              by simp, ih.mpr ⟨Nat.succ.inj count, others, rest, rfl⟩⟩

/-- A datagram for some messages. -/
def Datagram (data : Bytes) (messages : List ParsedMessage) : Prop :=
  1 ≤ messages.length ∧ messages.length ≤ 255 ∧ (∀ message ∈ messages, message.WellFormed) ∧
    ∃ tail, data = .ofNat messages.length :: (messages.map ParsedMessage.packet).flatten ++ tail

theorem parsePacket_eq_ok_iff {data : Bytes} {messages : List ParsedMessage} :
    parsePacket data = .ok messages ↔ Datagram data messages := by
  cases data with
  | nil =>
      refine iff_of_false (by simp [parsePacket]) ?_
      rintro ⟨-, -, -, tail, empty⟩
      cases empty
  | cons count buf =>
      have exact_ : ∀ total : Nat, total ≤ 255 → (count = .ofNat total ↔ count.toNat = total) := by
        intro total bound
        rw [← UInt8.toNat_inj, UInt8.toNat_ofNat', Nat.mod_eq_of_lt (by omega)]
      have bound := count.toNat_lt
      by_cases none : count = 0
      · subst none
        refine iff_of_false (by simp [parsePacket]) ?_
        rintro ⟨positive, bounded, -, tail, same⟩
        have zero := (exact_ _ bounded).mp (List.cons.inj same).1
        rw [UInt8.toNat_zero] at zero
        omega
      · have positive : count.toNat ≠ 0 := fun zero => none (UInt8.toNat_inj.mp zero)
        simp only [parsePacket, none, if_false, parseMessages_eq_ok_iff]
        constructor
        · rintro ⟨total, wellFormed, tail, rfl⟩
          refine ⟨by omega, by omega, wellFormed, tail, ?_⟩
          rw [(exact_ _ (by omega)).mpr total.symm]
          rfl
        · rintro ⟨-, bounded, wellFormed, tail, same⟩
          obtain ⟨total, rfl⟩ := List.cons.inj same
          exact ⟨((exact_ _ bounded).mp total).symm, wellFormed, tail, rfl⟩

/-- The parser reads some messages exactly from the datagrams of them, fails on everything
else, and reads nothing past the end. -/
theorem parsePacket_grammar (data : Bytes) :
    (∀ messages, parsePacket data = .ok messages ↔ Datagram data messages) ∧
      ((∀ messages, ¬ Datagram data messages) → ∃ error, parsePacket data = .error error) ∧
      parsePacketReading data = some (parsePacket data) := by
  refine ⟨fun messages => parsePacket_eq_ok_iff, fun none => ?_, parsePacketReading_eq data⟩
  cases parsed : parsePacket data with
  | error error => exact ⟨error, rfl⟩
  | ok messages => exact absurd (parsePacket_eq_ok_iff.mp parsed) (none messages)

end Direlera.Wire
