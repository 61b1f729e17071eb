import Direlera.Library.EntryMap
import Direlera.Library.Labelled
import Direlera.Lobby.Access

/-!
# The two client maps

`Directory` keeps `clients_by_addr` and `clients_by_id` as two maps which nothing ties to each
other, with the gauge of the sessions. The methods of `AppState` on them are functions on a
directory; each is what one section does.
-/

namespace Direlera.Clients

open Direlera.Library Direlera.Lobby Direlera.Sync Direlera.Wire

/-- A message to one client, or to every client which has finished its login. -/
structure Notice where
  addr : Option SocketAddr
  packetType : UInt8
  data : Bytes
deriving DecidableEq, Repr

/-- The client maps of `AppState`. `activity` holds the cells of `last_activity_secs`, which
the clones of a client share, and `nextSessionId` is an id which was never drawn. -/
structure Directory where
  byAddr : EntryMap SocketAddr SessionId
  byId : EntryMap SessionId ClientInfo
  activity : SessionId → Nat
  activeSessions : Int
  nextUserId : UInt16
  nextSessionId : SessionId
  sessionCloseTx : List SocketAddr
  notices : List Notice

/-- A change of a client which keeps its name and its session, as every `update_client` makes. -/
structure Touch where
  change : ClientInfo → ClientInfo
  username : ∀ client, (change client).username = client.username
  sessionId : ∀ client, (change client).sessionId = client.sessionId

/-- No change. -/
def Touch.none : Touch := ⟨id, fun _ => rfl, fun _ => rfl⟩

/-- The next datagram of a client is made. -/
def Touch.packet (packetType : UInt8) (data : Bytes) : Touch where
  change client := (client.makeSendPacket packetType data).2
  username _ := rfl
  sessionId _ := rfl

namespace Directory

/-- An empty server. -/
def empty : Directory where
  byAddr := ∅
  byId := ∅
  activity := fun _ => 0
  activeSessions := 0
  nextUserId := 1
  nextSessionId := 0
  sessionCloseTx := []
  notices := []

variable (directory : Directory)

/-- `get_client`. -/
def find (addr : SocketAddr) : Option ClientInfo :=
  (directory.byAddr.lookup addr).bind fun session => directory.byId.lookup session

/-- The first entry of `clients_by_id` with a name. -/
def named (username : Bytes) : Option (SessionId × ClientInfo) :=
  directory.byId.first fun _ client => client.username = username

/-- The first entry of `clients_by_addr` with a session. -/
def holder (session : SessionId) : Option SocketAddr :=
  (directory.byAddr.first fun _ held => held = session).map Prod.fst

/-- Change clients in place. -/
def touch (touches : SessionId → Touch) : Directory :=
  { directory with byId := directory.byId.amend fun session => (touches session).change }

/-- `add_client`. -/
def addClient (addr : SocketAddr) (client : ClientInfo) : Directory :=
  { directory with
    byId := directory.byId.insert client.sessionId client
    byAddr := directory.byAddr.insert addr client.sessionId
    activeSessions := directory.activeSessions + 1 }

/-- `remove_client`. -/
def removeClient (addr : SocketAddr) : Directory :=
  match directory.byAddr.lookup addr with
  | none => directory
  | some session =>
      { directory with
        byAddr := directory.byAddr.erase addr
        byId := directory.byId.erase session
        activeSessions :=
          if (directory.byId.lookup session).isSome then directory.activeSessions - 1
          else directory.activeSessions }

/-- `update_client_activity`. -/
def hear (addr : SocketAddr) (now : Nat) : Directory :=
  match directory.byAddr.lookup addr with
  | none => directory
  | some session =>
      if (directory.byId.lookup session).isSome then
        { directory with activity := Function.update directory.activity session now }
      else directory

/-- The maps iterate in another order. -/
def rehash (addrs : EntryMap.Order SocketAddr SessionId)
    (ids : EntryMap.Order SessionId ClientInfo) : Directory :=
  { directory with byAddr := directory.byAddr.reorder addrs, byId := directory.byId.reorder ids }

/-- A datagram to one client. -/
def notify (addr : SocketAddr) (packetType : UInt8) (data : Bytes) : Directory :=
  { directory with notices := directory.notices ++ [⟨some addr, packetType, data⟩] }

/-- The datagram of `broadcast_packet` for a client, if it has one of the addresses and has
finished its login. -/
def addressed (addrs : List SocketAddr) (packetType : UInt8) (data : Bytes) (session : SessionId) :
    Touch :=
  if (directory.holder session).any (fun addr => decide (addr ∈ addrs)) &&
      (directory.byId.lookup session).any fun client =>
        decide (numAcksForSpeedTest < client.ackCount) then
    .packet packetType data
  else .none

/-- The datagrams of `broadcast_packet` are made and queued. -/
def announce (addrs : List SocketAddr) (packetType : UInt8) (data : Bytes) : Directory :=
  { directory.touch (directory.addressed addrs packetType data) with
    notices := directory.notices ++ [⟨none, packetType, data⟩] }

variable {directory} {username : Bytes} {session : SessionId} {client : ClientInfo}
  {addr : SocketAddr}

/-- Who is found by a name has it. -/
theorem named_spec (found : directory.named username = some (session, client)) :
    directory.byId.lookup session = some client ∧ client.username = username := by
  obtain ⟨known, wanted⟩ := EntryMap.lookup_of_first found
  exact ⟨known, of_decide_eq_true wanted⟩

theorem holder_spec (held : directory.holder session = some addr) :
    directory.byAddr.lookup addr = some session := by
  obtain ⟨entry, first, rfl⟩ := Option.map_eq_some_iff.mp held
  obtain ⟨bound, wanted⟩ := EntryMap.lookup_of_first first
  exact bound.trans (congrArg some (of_decide_eq_true wanted))

theorem holder_eq_none (unheld : directory.holder session = none) (addr : SocketAddr) :
    directory.byAddr.lookup addr ≠ some session := by
  intro bound
  have unwanted := EntryMap.first_eq_none_iff.mp (Option.map_eq_none_iff.mp unheld) addr session
    bound
  exact of_decide_eq_false unwanted rfl

end Directory

end Direlera.Clients
