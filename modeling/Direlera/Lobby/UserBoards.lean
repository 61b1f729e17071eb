import Direlera.Lobby.Snapshot
import Direlera.Lobby.Speech
import Direlera.Wire.StatusRecords

/-!
# User lists

A client lists the users by their ids: it takes them from a snapshot, adds whoever joins and
removes whoever quits. The directory lists the clients of the server whose handshake is complete.
-/

namespace Direlera.Wire

open Direlera.Library Direlera.Library.Reader Direlera.Sync

/-- What a list of users shows of a user. -/
structure UserListing where
  username : Bytes
  ping : UInt32
  connType : UInt8
deriving DecidableEq, Repr

/-- What the list shows of a user in a snapshot. -/
def StatusUser.entry (user : StatusUser) : UInt16 × UserListing :=
  (user.userId, ⟨user.username, user.ping, user.connType⟩)

/-- The users of `SERVER_STATUS`; the games follow. -/
def readUserList : Reader UInt8 (List (UInt16 × UserListing)) := do
  let _ ← readText
  let numUsers ← readU32Le
  let _ ← readU32Le
  let users ← readUserRecord.many numUsers.toNat
  return users.map StatusUser.entry

/-- The user of `USER_JOINED`. -/
def readJoinedUser : Reader UInt8 (UInt16 × UserListing) := do
  let username ← readText
  let userId ← readU16Le
  let ping ← readU32Le
  let connType ← readU8
  return (userId, ⟨username, ping, connType⟩)

/-- The user of `USER_QUIT`; a message follows. -/
def readLeftUser : Reader UInt8 UInt16 := do
  let _ ← readText
  readU16Le

theorem reads_userList {users : List StatusUser} (plain : ∀ user ∈ users, 0 ∉ user.username)
    (few : users.length < 4294967296) (numGames : UInt32) :
    Reads readUserList (putEmptyString ++ (putU32Le (.ofNat users.length) ++ (putU32Le numGames ++
      (users.map StatusUser.bytes).flatten))) (users.map StatusUser.entry) := by
  have count : (UInt32.ofNat users.length).toNat = users.length :=
    UInt32.toNat_ofNat_of_lt' few
  have records : Reads (readUserRecord.many users.length) (users.map StatusUser.bytes).flatten
      (users.map id) := Reads.many fun user member => reads_userRecord (plain user member)
  rw [← count, List.map_id] at records
  exact reads_emptyString.bind <| (reads_u32Le _).bind <| (reads_u32Le _).bind <|
    records.map fun users => users.map StatusUser.entry

/-- The users of a status which fits into a message are read back. -/
theorem run_readUserList {users : List StatusUser} {games : List StatusGame}
    (plain : ∀ user ∈ users, 0 ∉ user.username)
    (fits : (buildServerStatus users games).length ≤ maxPayload) :
    ∃ rest, readUserList.run (buildServerStatus users games) =
      some (users.map StatusUser.entry, rest) := by
  have few : users.length ≤ (users.map StatusUser.size).sum := by
    rw [← List.length_map (f := StatusUser.size)]
    refine List.length_le_sum_of_one_le _ fun size member => ?_
    obtain ⟨user, _, rfl⟩ := List.mem_map.mp member
    exact Nat.le_add_left 1 _
  rw [length_buildServerStatus, maxPayload] at fits
  have listed := reads_userList plain (by omega) (.ofNat games.length)
    (games.map StatusGame.bytes).flatten
  simp only [List.append_assoc] at listed
  exact ⟨_, listed⟩

theorem reads_joinedUser {username : Bytes} (plain : 0 ∉ username) (userId : UInt16)
    (ping : UInt32) (connType : UInt8) :
    Reads readJoinedUser (putBytesWithNull username ++ putU16Le userId ++ putU32Le ping ++
      [connType]) (userId, ⟨username, ping, connType⟩) := by
  rw [List.append_assoc, List.append_assoc]
  exact (reads_text plain).bind <| (reads_u16Le userId).bind <| (reads_u32Le ping).bind <|
    (reads_u8 connType).map fun connType => (userId, UserListing.mk username ping connType)

theorem run_readLeftUser {username : Bytes} (plain : 0 ∉ username) (userId : UInt16)
    (message : Bytes) :
    readLeftUser.run (buildUserQuitPacket username userId message) =
      some (userId, putBytesWithNull message) := by
  rw [buildUserQuitPacket]
  exact ((reads_text plain).bind (reads_u16Le userId)) _

end Direlera.Wire

namespace Direlera.Lobby

open Direlera.Library Direlera.Sync Direlera.Wire

/-! ## The list of a client -/

/-- What a client shows of the users. -/
abbrev UserList := UInt16 → Option UserListing

/-- A message changes the list. -/
def UserList.hear (packetType : UInt8) (data : Bytes) (users : UserList) : UserList :=
  if packetType = Msg.serverStatus then
    match readUserList.run data with
    | some (listed, _) => fun userId => listed.lookup userId
    | none => users
  else if packetType = Msg.userJoined then
    match readJoinedUser.run data with
    | some ((userId, listing), _) => Function.update users userId (some listing)
    | none => users
  else if packetType = Msg.userQuit then
    match readLeftUser.run data with
    | some (userId, _) => Function.update users userId none
    | none => users
  else users

/-- Lists of users hear snapshots, who joins, and who quits. -/
def userDisplay : Display UserList where
  types := [Msg.serverStatus, Msg.userJoined, Msg.userQuit]
  blank := fun _ => none
  hear := UserList.hear
  deaf := by
    intro packetType other data users
    simp only [List.mem_cons, List.not_mem_nil, or_false, not_or] at other
    obtain ⟨status, joined, quit⟩ := other
    rw [UserList.hear, if_neg status, if_neg joined, if_neg quit]
  again := by
    intro packetType data users
    unfold UserList.hear
    split
    · cases readUserList.run data <;> rfl
    · split
      · cases readJoinedUser.run data with
        | none => rfl
        | some read => exact Function.update_idem ..
      · split
        · cases readLeftUser.run data with
          | none => rfl
          | some read => exact Function.update_idem ..
        · rfl

@[simp] theorem userDisplay_hear : userDisplay.hear = UserList.hear := rfl

theorem hear_userQuit {username : Bytes} (plain : 0 ∉ username) (userId : UInt16)
    (message : Bytes) :
    userDisplay.hear Msg.userQuit (buildUserQuitPacket username userId message) =
      fun users => Function.update users userId none := by
  ext1 users
  rw [userDisplay_hear, UserList.hear, if_neg (by decide), if_neg (by decide), if_pos rfl,
    run_readLeftUser plain userId message]

/-! ## The directory -/

/-- A client whose handshake is complete. -/
def Profile.complete (profile : Profile) : Bool := decide (numAcksForSpeedTest < profile.ackCount)

/-- How a client is listed. -/
def Profile.entry (profile : Profile) : UInt16 × UserListing :=
  (profile.userId, ⟨profile.username, profile.ping, profile.connType⟩)

/-- The entries of the clients whose handshake is complete. -/
def AppState.present (state : AppState) : List (UInt16 × UserListing) :=
  (state.clients.byAddr.map Prod.fst).filterMap fun addr =>
    ((state.profiles addr).filter Profile.complete).map Profile.entry

/-- The users of the server, by their ids. -/
def AppState.directory (state : AppState) : UserList := fun userId => state.present.lookup userId

/-- No two clients have one user id. -/
def AppState.IdsDistinct (state : AppState) : Prop :=
  ∀ addr other profile twin, state.profiles addr = some profile →
    state.profiles other = some twin → profile.userId = twin.userId → addr = other

/-- Nothing else is listed under a key. -/
theorem lookup_iff {Key Value : Type} [DecidableEq Key] {entries : List (Key × Value)} {key : Key}
    {value : Value} (only : ∀ entry ∈ entries, entry.1 = key →
      ∀ other ∈ entries, other.1 = key → entry.2 = other.2) :
    entries.lookup key = some value ↔ (key, value) ∈ entries := by
  constructor
  · intro found
    obtain ⟨before, after, split, _⟩ := List.lookup_eq_some_iff.mp found
    simp [split]
  · exact fun member => lookup_of_only member fun entry listed same =>
      only entry listed same _ member rfl

section Directory

variable {state next : AppState} {addr src : SocketAddr} {profile : Profile}

theorem registered_of_profile (known : state.profiles addr = some profile) :
    addr ∈ state.clients.byAddr.map Prod.fst := by
  obtain ⟨client, found, _⟩ := Option.map_eq_some_iff.mp known
  obtain ⟨session, here, _⟩ := state.clients.session_of_find found
  exact List.mem_map_of_mem (state.clients.mem_of_session here)

/-- The entries of some clients are those of some profiles. -/
theorem mem_filterMap_entry {addrs : List SocketAddr} {select : SocketAddr → Option Profile}
    {entry : UInt16 × UserListing} :
    entry ∈ addrs.filterMap (fun addr => (select addr).map Profile.entry) ↔
      ∃ addr ∈ addrs, ∃ profile, select addr = some profile ∧ profile.entry = entry := by
  simp only [List.mem_filterMap, Option.map_eq_some_iff]

theorem mem_present {entry : UInt16 × UserListing} :
    entry ∈ state.present ↔
      ∃ addr profile, state.profiles addr = some profile ∧ profile.complete = true ∧
        profile.entry = entry := by
  rw [AppState.present, mem_filterMap_entry]
  constructor
  · rintro ⟨addr, _, profile, chosen, rfl⟩
    obtain ⟨known, complete⟩ := Option.filter_eq_some_iff.mp chosen
    exact ⟨addr, profile, known, complete, rfl⟩
  · rintro ⟨addr, profile, known, complete, rfl⟩
    exact ⟨addr, registered_of_profile known, profile,
      Option.filter_eq_some_iff.mpr ⟨known, complete⟩, rfl⟩

/-- Who is listed under an id has it. -/
theorem directory_iff (distinct : state.IdsDistinct) {userId : UInt16} {listing : UserListing} :
    state.directory userId = some listing ↔
      ∃ addr profile, state.profiles addr = some profile ∧ profile.complete = true ∧
        profile.entry = (userId, listing) := by
  refine (lookup_iff ?_).trans mem_present
  rintro entry first rfl other second same
  obtain ⟨addr, profile, known, _, rfl⟩ := mem_present.mp first
  obtain ⟨addr', twin, known', _, rfl⟩ := mem_present.mp second
  obtain rfl := distinct addr addr' profile twin known known' same.symm
  obtain rfl := Option.some.inj (known.symm.trans known')
  rfl

/-- The directory after a change of the clients at one address, apart from the ids there. -/
theorem directory_congr (distinct : state.IdsDistinct) (distinctNext : next.IdsDistinct)
    {userId : UInt16}
    (same : ∀ addr profile, profile.userId = userId → profile.complete = true →
      (next.profiles addr = some profile ↔ state.profiles addr = some profile)) :
    next.directory userId = state.directory userId := by
  ext listing
  rw [directory_iff distinctNext, directory_iff distinct]
  constructor
  · rintro ⟨addr, profile, known, complete, entry⟩
    exact ⟨addr, profile, (same addr profile (congrArg Prod.fst entry) complete).mp known, complete,
      entry⟩
  · rintro ⟨addr, profile, known, complete, entry⟩
    exact ⟨addr, profile, (same addr profile (congrArg Prod.fst entry) complete).mpr known, complete,
      entry⟩

end Directory

end Direlera.Lobby
