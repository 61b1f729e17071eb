import Direlera.Sync.InputCache

/-!
# Packets

Readers and builders of the message bodies which the lobby handles, and the
generator which bundles a new message with the most recent ones.
-/

namespace Direlera.Wire

open Direlera.Sync

/-! ## Message types -/

namespace Msg

def userQuit : UInt8 := 0x01
def serverToClientAck : UInt8 := 0x05
def globalChat : UInt8 := 0x07
def gameChat : UInt8 := 0x08
def createGame : UInt8 := 0x0A
def quitGame : UInt8 := 0x0B
def joinGame : UInt8 := 0x0C
def playerInformation : UInt8 := 0x0D
def updateGameStatus : UInt8 := 0x0E
def closeGame : UInt8 := 0x10
def startGame : UInt8 := 0x11
def gameData : UInt8 := 0x12
def gameCache : UInt8 := 0x13
def dropGame : UInt8 := 0x14
def readyToPlay : UInt8 := 0x15
def connectionRejected : UInt8 := 0x16

end Msg

/-! ## Reading -/

/-- `read_string_bytes`: the bytes before the first zero, and what follows it. -/
def readStringBytes : Bytes → Bytes × Bytes
  | [] => ([], [])
  | byte :: rest =>
      if byte = 0 then ([], rest)
      else
        let (text, left) := readStringBytes rest
        (byte :: text, left)

/-- `get_u8`; its callers check the length. -/
def getU8 : Bytes → UInt8 × Bytes
  | [] => (0, [])
  | byte :: rest => (byte, rest)

/-- The number whose little-endian bytes are given. -/
def littleEndian : Bytes → Nat
  | [] => 0
  | byte :: rest => byte.toNat + 256 * littleEndian rest

/-- `get_u16_le`. -/
def getU16Le (buf : Bytes) : UInt16 × Bytes :=
  (.ofNat (littleEndian (buf.take 2)), buf.drop 2)

/-- `get_u32_le`. -/
def getU32Le (buf : Bytes) : UInt32 × Bytes :=
  (.ofNat (littleEndian (buf.take 4)), buf.drop 4)

/-! ## Building -/

/-- The `count` low bytes of a number, least significant first. -/
def littleEndianBytes : Nat → Nat → Bytes
  | 0, _ => []
  | count + 1, value => .ofNat value :: littleEndianBytes count (value / 256)

/-- `put_u16_le`. -/
def putU16Le (value : UInt16) : Bytes := littleEndianBytes 2 value.toNat

/-- `put_u32_le`. -/
def putU32Le (value : UInt32) : Bytes := littleEndianBytes 4 value.toNat

/-- The bytes of an ASCII text. -/
def ascii (text : String) : Bytes := text.toList.map fun char => .ofNat char.toNat

/-- `put_bytes_with_null`. -/
def putBytesWithNull (bytes : Bytes) : Bytes := bytes ++ [0]

/-- `put_empty_string`. -/
def putEmptyString : Bytes := [0]

/-- `build_start_game_packet`. -/
def buildStartGamePacket (frameDelay : UInt16) (playerNumber totalPlayers : UInt8) : Bytes :=
  putEmptyString ++ putU16Le frameDelay ++ [playerNumber, totalPlayers]

/-- `build_game_chat_packet`. -/
def buildGameChatPacket (username message : Bytes) : Bytes :=
  putBytesWithNull username ++ putBytesWithNull message

/-- `build_user_quit_packet`. -/
def buildUserQuitPacket (username : Bytes) (userId : UInt16) (message : Bytes) : Bytes :=
  putBytesWithNull username ++ putU16Le userId ++ putBytesWithNull message

/-- `build_connection_rejected_packet`. -/
def buildConnectionRejectedPacket (username : Bytes) (userId : UInt16) (message : Bytes) : Bytes :=
  putBytesWithNull username ++ putU16Le userId ++ putBytesWithNull message

/-- `build_server_to_client_ack_packet`. -/
def buildServerToClientAckPacket : Bytes :=
  putEmptyString ++ putU32Le 0 ++ putU32Le 1 ++ putU32Le 2 ++ putU32Le 3

/-- `build_global_chat_packet`. -/
def buildGlobalChatPacket (username message : Bytes) : Bytes :=
  putBytesWithNull username ++ putBytesWithNull message

/-- `build_quit_game_packet`. -/
def buildQuitGamePacket (username : Bytes) (userId : UInt16) : Bytes :=
  putBytesWithNull username ++ putU16Le userId

/-- `build_close_game_packet`. -/
def buildCloseGamePacket (gameId : UInt32) : Bytes := putEmptyString ++ putU32Le gameId

/-- `build_ready_to_play_packet`. -/
def buildReadyToPlayPacket : Bytes := putEmptyString

/-- `build_drop_game_packet`. -/
def buildDropGamePacket (username : Bytes) (playerNumber : UInt8) : Bytes :=
  putBytesWithNull username ++ [playerNumber]

/-- `build_game_data_packet`. -/
def buildGameDataPacket (gameData : Bytes) : Bytes :=
  putEmptyString ++ putU16Le (.ofNat gameData.length) ++ gameData

/-- `build_game_cache_packet`. -/
def buildGameCachePacket (position : UInt8) : Bytes := [0x00, position]

/-! ## Sending -/

/-- `make_packet`. -/
def makePacket (messageType : UInt8) (seq : UInt16) (data : Bytes) : Bytes :=
  putU16Le seq ++ putU16Le (.ofNat data.length + 1) ++ [messageType] ++ data

/-- `UDPPacketGenerator`: each transmission repeats up to two previous packets. -/
structure UDPPacketGenerator where
  recentPackets : List Bytes
  sendCount : UInt16
  lastSent : Option Bytes
deriving DecidableEq, Repr

namespace UDPPacketGenerator

/-- `MAX_RECENT_PACKETS`. -/
def maxRecentPackets : Nat := 3

/-- `UDPPacketGenerator::new`. -/
def new : UDPPacketGenerator := ⟨[], 0, none⟩

/-- `make_send_packet`. -/
def makeSendPacket (generator : UDPPacketGenerator) (messageType : UInt8) (data : Bytes) :
    Bytes × UDPPacketGenerator :=
  let newPacket := makePacket messageType generator.sendCount data
  let kept :=
    if maxRecentPackets ≤ generator.recentPackets.length then generator.recentPackets.tail
    else generator.recentPackets
  let recentPackets := kept ++ [newPacket]
  let packetCount := min maxRecentPackets recentPackets.length
  let result := .ofNat packetCount :: recentPackets.reverse.flatten
  (result, ⟨recentPackets, generator.sendCount + 1, some result⟩)

/-- The bundles of the source's own test. -/
example :
    let first := new.makeSendPacket 0x10 [1, 2, 3, 4]
    first.1 = [1, 0, 0, 5, 0, 0x10, 1, 2, 3, 4] ∧
      (first.2.makeSendPacket 0x11 [1, 2, 3, 4]).1 =
        [2, 1, 0, 5, 0, 0x11, 1, 2, 3, 4, 0, 0, 5, 0, 0x10, 1, 2, 3, 4] := by
  decide

end UDPPacketGenerator

end Direlera.Wire
