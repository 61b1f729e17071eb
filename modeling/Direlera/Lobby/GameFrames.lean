import Direlera.Lobby.Legible
import Direlera.Sync.FrameWidth
import Direlera.Wire.Framing
import Direlera.Wire.Grammar

/-!
# Frames on the wire

An input is no longer than the datagram it came in, so that a frame for four players is far
below what two bytes count. What is sent for it is read back as the frame.
-/

namespace Direlera.Wire

open Direlera.Sync

theorem length_packet (message : ParsedMessage) : message.packet.length = message.data.length + 5 :=
  length_makePacket ..

/-- A payload leaves room for the count and the header of its packet. -/
theorem Datagram.length_data_le {data : Bytes} {messages : List ParsedMessage}
    (datagram : Datagram data messages) {message : ParsedMessage} (member : message ∈ messages) :
    message.data.length + 6 ≤ data.length := by
  obtain ⟨-, -, -, tail, rfl⟩ := datagram
  have within : message.packet.length ≤ (messages.map ParsedMessage.packet).flatten.length :=
    (List.sublist_flatten_of_mem (List.mem_map_of_mem member)).length_le
  rw [length_packet] at within
  simp only [List.cons_append, List.length_cons, List.length_append]
  omega

end Direlera.Wire

namespace Direlera.Lobby

open Direlera.Library Direlera.Sync Direlera.Wire

/-! ## Bodies -/

/-- An input is 3 bytes shorter than the body at least. -/
theorem length_parseGameData {body input : Bytes} (parsed : parseGameData body = some input) :
    input.length + 3 ≤ body.length := by
  unfold parseGameData at parsed
  split at parsed
  · cases parsed
  next enough =>
    dsimp only at parsed
    split at parsed
    · cases parsed
    · obtain rfl := Option.some.inj parsed
      have taken := List.length_take_le' (getU16Le (getU8 body).2).1.toNat
        (getU16Le (getU8 body).2).2
      have left : (getU16Le (getU8 body).2).2.length + 3 = body.length := by
        cases body with
        | nil => simp at enough
        | cons first rest =>
            simp only [getU8, getU16Le, List.length_drop, List.length_cons] at enough ⊢
            omega
      omega

/-- A frame whose length two bytes hold is read from its body. -/
theorem parseGameData_buildGameDataPacket {frame : Bytes}
    (counted : (UInt16.ofNat frame.length).toNat = frame.length) :
    parseGameData (buildGameDataPacket frame) = some frame := by
  have long : ¬(buildGameDataPacket frame).length < 3 := by
    simp [buildGameDataPacket, putEmptyString, putU16Le, littleEndianBytes]
  have body : buildGameDataPacket frame = 0 :: (putU16Le (.ofNat frame.length) ++ frame) := rfl
  rw [parseGameData, if_neg long, body]
  simp only [getU8, getU16Le_putU16Le, counted, Nat.lt_irrefl, if_false, List.take_length]

theorem length_buildGameDataPacket (frame : Bytes) :
    (buildGameDataPacket frame).length = frame.length + 3 := by
  simp [buildGameDataPacket, putEmptyString, putU16Le, littleEndianBytes]

/-! ## Inputs -/

/-- A literal input was read from a message of a datagram which the buffer holds. -/
def Arrived : Call → Prop
  | .input _ (.gameData input) => ∃ datagram messages message,
      datagram.length ≤ receiveBuffer ∧ parsePacket datagram = .ok messages ∧
        message ∈ messages ∧ message.messageType = Msg.gameData ∧
          parseGameData message.data = some input
  | _ => True

/-- The longest input: the buffer without the count, the header of the packet and the fields
before the input. -/
def maxInput : Nat := receiveBuffer - 9

/-- An input arrives in some datagram exactly if it is no longer. -/
theorem arrived_iff {playerId : Nat} {input : Bytes} :
    Arrived (.input playerId (.gameData input)) ↔ input.length ≤ maxInput := by
  constructor
  · rintro ⟨datagram, messages, message, small, parsed, member, -, read⟩
    have body := (parsePacket_eq_ok_iff.mp parsed).length_data_le member
    have bound := length_parseGameData read
    unfold maxInput
    omega
  · intro short
    unfold maxInput receiveBuffer at short
    have counted : (UInt16.ofNat input.length).toNat = input.length := by
      rw [UInt16.toNat_ofNat']
      omega
    obtain ⟨older, parsed⟩ := UDPPacketGenerator.fitting_new.parsePacket_makeSendPacket Msg.gameData
      (by rw [length_buildGameDataPacket, maxPayload]; omega :
        (buildGameDataPacket input).length ≤ maxPayload)
    refine ⟨_, _, _, ?_, parsed, List.mem_cons_self, rfl, parseGameData_buildGameDataPacket counted⟩
    have alone : UDPPacketGenerator.new.kept = [] := rfl
    rw [UDPPacketGenerator.datagram_makeSendPacket, alone, List.length_cons, List.length_append,
      length_makePacket, length_buildGameDataPacket]
    simp only [List.reverse_nil, List.flatten_nil, List.length_nil, receiveBuffer]
    omega

theorem Arrived.fits {call : Call} (arrived : Arrived call) :
    call.Fits fun length => length ≤ maxInput := by
  cases call with
  | drop playerId => trivial
  | input playerId message =>
      cases message with
      | gameCache position => trivial
      | gameData input => exact arrived_iff.mp arrived

/-! ## Frames -/

/-- Literal data is decoded to itself. -/
theorem mem_client_outputs {window : List Bytes} {responses : List ServerResponse} {frame : Bytes}
    (sent : .gameData frame ∈ responses) : some frame ∈ client.outputs window responses := by
  induction responses generalizing window with
  | nil => cases sent
  | cons response rest ih =>
      rw [Transducer.outputs_cons]
      rcases List.mem_cons.mp sent with rfl | later
      · exact List.mem_cons_self
      · exact List.mem_cons_of_mem _ (ih later)

/-- A frame fits both of its length fields, and what a generator sends for it is read as the
frame, unless an older packet of the datagram is at fault. -/
structure Survives (generator : UDPPacketGenerator) (frame : Bytes) : Prop where
  counted : (UInt16.ofNat frame.length).toNat = frame.length
  framed : (lengthField (makePacket Msg.gameData generator.sendCount
    (buildGameDataPacket frame))).toNat = (buildGameDataPacket frame).length + 1
  read : generator.Fitting → ∃ newest older,
    parsePacket (generator.makeSendPacket Msg.gameData (buildGameDataPacket frame)).1 =
        .ok (newest :: older) ∧
      newest.messageType = Msg.gameData ∧ parseGameData newest.data = some frame

theorem survives_of_length {frame : Bytes} (generator : UDPPacketGenerator)
    (short : frame.length + 3 ≤ maxPayload) : Survives generator frame := by
  have counted : (UInt16.ofNat frame.length).toNat = frame.length := by
    unfold maxPayload at short
    rw [UInt16.toNat_ofNat']
    omega
  have frames : generator.Frames Msg.gameData (buildGameDataPacket frame) := by
    rw [UDPPacketGenerator.frames_iff, length_buildGameDataPacket]
    exact short
  refine ⟨counted, frames.1, fun fitting => ?_⟩
  obtain ⟨newest, older, parsed, type, data⟩ := frames.2 fitting
  refine ⟨newest, older, parsed, type, ?_⟩
  rw [data]
  exact parseGameData_buildGameDataPacket counted

/-- With delays of 1 every literal frame of a game for up to four players survives the wire,
whatever the warmups, if every literal input came in a datagram which the buffer holds. -/
theorem frames_survive {n : Nat} (players : n ≤ 4) (warmups : Fin n → Nat)
    (disableOutputCache : Bool) {calls : List Call} (arrived : ∀ call ∈ calls, Arrived call)
    (generator : UDPPacketGenerator) :
    ∀ output ∈ ((DelayedGameSync.machine n).outputs
        (DelayedGameSync.start (fun _ => 1) warmups disableOutputCache) calls).flatMap
          SimplestGameSync.returned,
      ∀ frame, output.response = .gameData frame → Survives generator frame := by
  intro output emitted frame literal
  have sent : .gameData frame ∈ DelayedGameSync.received output.playerId
      ((DelayedGameSync.machine n).outputs
        (DelayedGameSync.start (fun _ => 1) warmups disableOutputCache) calls) :=
    List.mem_map.mpr ⟨output, List.mem_filter.mpr ⟨emitted, decide_eq_true rfl⟩, literal⟩
  obtain ⟨decoded, same, framed⟩ := DelayedGameSync.decoded_framed warmups disableOutputCache
    (fun call member => (arrived call member).fits) output.playerId (some frame)
    (mem_client_outputs sent)
  obtain rfl := Option.some.inj same
  refine survives_of_length generator ?_
  calc frame.length + 3 ≤ n * maxInput + 3 := Nat.add_le_add_right framed.length_le 3
    _ ≤ 4 * maxInput + 3 := Nat.add_le_add_right (Nat.mul_le_mul_right maxInput players) 3
    _ ≤ maxPayload := by decide

/-- Two warming players send one byte each, and later the first one repeats itself. -/
theorem frames_survive_two_players :
    let calls : List Call := [.input 0 (.gameData [7]), .input 1 (.gameData [8]),
      .input 0 (.gameCache 0), .input 1 (.gameData [9])]
    let generator := (UDPPacketGenerator.new.makeSendPacket Msg.gameCache (buildGameCachePacket 0)).2
    let outputs := ((DelayedGameSync.machine 2).outputs
      (DelayedGameSync.start (fun _ => 1) (fun _ => 1) false) calls).flatMap
        SimplestGameSync.returned
    (∀ call ∈ calls, Arrived call) ∧ ⟨0, .gameData [7, 8]⟩ ∈ outputs ∧
      Survives generator [7, 8] := by
  intro calls generator outputs
  have arrived : ∀ call ∈ calls, Arrived call := by
    refine List.forall_mem_cons.mpr ⟨arrived_iff.mpr (by decide), List.forall_mem_cons.mpr
      ⟨arrived_iff.mpr (by decide), List.forall_mem_cons.mpr ⟨trivial,
        List.forall_mem_singleton.mpr (arrived_iff.mpr (by decide))⟩⟩⟩
  have emitted : ⟨0, .gameData [7, 8]⟩ ∈ outputs := by decide +kernel
  exact ⟨arrived, emitted, frames_survive (by decide) (fun _ => 1) false arrived generator _ emitted
    [7, 8] rfl⟩

end Direlera.Lobby
