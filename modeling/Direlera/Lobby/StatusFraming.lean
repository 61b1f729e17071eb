import Direlera.Lobby.GameLists
import Direlera.Wire.Framing

/-!
# Framing a status

The length of `SERVER_STATUS` grows with the users and the games, and nothing bounds it: its
length field says how long it is as long as the sizes of the records add up to what fits.
-/

namespace Direlera.Lobby

open Direlera.Library Direlera.Sync Direlera.Wire

/-- In whatever state the body is made, a generator frames it if and only if it fits. -/
theorem status_framed_iff (users games : Iteration) (src : SocketAddr) (state : AppState)
    (generator : UDPPacketGenerator) :
    ∃ data, (makeServerStatus users games src).run state = (.ok data, state) ∧
      (generator.Frames Msg.serverStatus data ↔ state.statusSize src ≤ maxPayload) := by
  refine ⟨_, run_makeServerStatus users games src state, ?_⟩
  rw [UDPPacketGenerator.frames_iff, length_serverStatus]

/-- The status of a reachable lobby of eighteen clients is 65535 bytes long: its length field is
zero, and the datagram of its client is not read. -/
theorem status_of_crowd_unframed :
    crowd.Opening ∧ crowd.ReadNames ∧ ∃ client data,
      ((lobby oneFrame).final crowd crowding).clients.find 18 = some client ∧
        (makeServerStatus plainSurroundings.users plainSurroundings.games 18).run
            ((lobby oneFrame).final crowd crowding) =
          (.ok data, (lobby oneFrame).final crowd crowding) ∧
        data.length = 65535 ∧
        lengthField (makePacket Msg.serverStatus client.packetGenerator.sendCount data) = 0 ∧
        ∃ report, parsePacket (client.packetGenerator.makeSendPacket Msg.serverStatus data).1 =
          .error report := by
  have known : (crowded.clients.find 18).isSome := by decide +kernel
  obtain ⟨client, found⟩ := Option.isSome_iff_exists.mp known
  have length : (crowded.serverStatus plainSurroundings.users plainSurroundings.games 18).length =
      65535 := by
    rw [length_serverStatus, statusSize_crowded]
  have wrapped : UInt16.ofNat
      (crowded.serverStatus plainSurroundings.users plainSurroundings.games 18).length + 1 = 0 := by
    rw [length]
    decide
  exact ⟨crowd_opening, crowd_readNames, client, _, found, run_makeServerStatus .., length,
    (lengthField_makePacket ..).trans wrapped,
    client.packetGenerator.parsePacket_wrapped Msg.serverStatus wrapped⟩

end Direlera.Lobby
