import Direlera.Lobby.Legible
import Direlera.Lobby.LiveRooms

/-!
# Snapshots

`SERVER_STATUS` shows a client all games at once. A snapshot which fits into a message is read
back as the games of the server, in whatever order the maps are iterated.
-/

namespace Direlera.Lobby

open Direlera.Library Direlera.Sync Direlera.Wire

/-! ## The games of a snapshot -/

section Refs

variable {table : GameTable} {gameId : UInt32} {ref : GameRef}

/-- Every game is stored under its own id. -/
def GameTable.Named (table : GameTable) : Prop :=
  ∀ gameId ref, table.byId gameId = some ref → (table.arena ref).gameId = gameId

/-- The references are those of the map. -/
theorem GameTable.Named.mem_refs (named : table.Named) :
    ref ∈ table.refs ↔ ∃ gameId, table.byId gameId = some ref := by
  simp only [GameTable.refs, List.mem_filter, List.mem_range, decide_eq_true_eq]
  constructor
  · rintro ⟨_, here⟩
    exact ⟨_, here⟩
  · rintro ⟨gameId, here⟩
    refine ⟨table.valid gameId ref here, ?_⟩
    rw [named gameId ref here]
    exact here

/-- A key which one entry has alone is looked up there. -/
theorem lookup_of_only {Key Value : Type} [DecidableEq Key] {entries : List (Key × Value)} {key : Key}
    {value : Value} (member : (key, value) ∈ entries)
    (only : ∀ entry ∈ entries, entry.1 = key → entry.2 = value) :
    entries.lookup key = some value := by
  induction entries with
  | nil => cases member
  | cons entry rest ih =>
      obtain ⟨first, others⟩ := List.forall_mem_cons.mp only
      rw [List.lookup_cons]
      by_cases same : entry.1 = key
      · rw [beq_iff_eq.mpr same.symm, first same]
      · have different : (key == entry.1) = false := by simpa using Ne.symm same
        rw [different]
        refine ih ((List.mem_cons.mp member).resolve_left fun equal => ?_) others
        exact same (congrArg Prod.fst equal).symm

/-- Looking a game up in a list of all games is looking it up in the map. -/
theorem GameTable.Named.lookup (named : table.Named) {refs : List GameRef}
    (all : refs.Perm table.refs) (gameId : UInt32) :
    (refs.map fun ref => (table.arena ref).statusGame.entry).lookup gameId =
      (table.find gameId).map GameInfo.listing := by
  have listed : ∀ ref ∈ refs, table.byId (table.arena ref).gameId = some ref := by
    intro ref member
    obtain ⟨gameId, here⟩ := named.mem_refs.mp (all.mem_iff.mp member)
    rw [named gameId ref here]
    exact here
  rw [GameTable.find, Option.map_map]
  cases here : table.byId gameId with
  | none =>
      refine List.lookup_eq_none_iff.mpr fun entry member => ?_
      obtain ⟨ref, there, rfl⟩ := List.mem_map.mp member
      rw [bne_iff_ne]
      rintro rfl
      have known := listed ref there
      rw [GameInfo.statusGame, StatusGame.entry] at here
      rw [here] at known
      cases known
  | some ref =>
      refine lookup_of_only ?_ ?_
      · refine List.mem_map.mpr ⟨ref, all.mem_iff.mpr (named.mem_refs.mpr ⟨gameId, here⟩), ?_⟩
        rw [← named gameId ref here]
        rfl
      · intro entry member same
        obtain ⟨other, there, rfl⟩ := List.mem_map.mp member
        have known := listed other there
        rw [show (table.arena other).gameId = gameId from same, here] at known
        obtain rfl := Option.some.inj known
        rfl

end Refs

/-! ## Taking a snapshot -/

/-- The body which is made for an address. -/
def AppState.serverStatus (state : AppState) (users games : Iteration) (src : SocketAddr) : Bytes :=
  buildServerStatus (state.visibleUsers users src)
    ((games.order state.games.refs).map fun ref => (state.games.arena ref).statusGame)

/-- How long the body for an address is, whatever the maps' orders are. -/
def AppState.statusSize (state : AppState) (src : SocketAddr) : Nat :=
  9 + (((state.clients.byAddr.map Prod.fst).filterMap (state.visibleUser src)).map
      StatusUser.size).sum +
    (state.games.refs.map fun ref => (state.games.arena ref).statusGame.size).sum

section Snapshot

variable {opened : Listing} {state : AppState}

/-- Making the body only reads. -/
theorem run_makeServerStatus (users games : Iteration) (src : SocketAddr) (state : AppState) :
    (makeServerStatus users games src).run state =
      (.ok (state.serverStatus users games src), state) := by
  have collected := @Task.run_collect AppState Report StatusGame GameRef (fun ref =>
    Task.inspect fun state : AppState => (state.games.arena ref).statusGame) state
    (fun ref => (state.games.arena ref).statusGame) (fun _ => rfl) (games.order state.games.refs)
  rw [makeServerStatus, Task.run_bind, Task.run_inspect]
  simp only [Task.run_bind, Task.run_inspect, collected]
  rfl

theorem length_serverStatus (users games : Iteration) (src : SocketAddr) (state : AppState) :
    (state.serverStatus users games src).length = state.statusSize src := by
  have visible : (state.visibleUsers users src).Perm
      ((state.clients.byAddr.map Prod.fst).filterMap (state.visibleUser src)) :=
    (users.rearranges _).filterMap _
  rw [AppState.serverStatus, length_buildServerStatus, AppState.statusSize, List.map_map,
    (visible.map StatusUser.size).sum_eq,
    ((games.rearranges state.games.refs).map _).sum_eq]
  rfl

/-- The games of the map are listed with legible names and a known status. -/
theorem plain_statusGame (sound : state.hall.Sound Hall.nobody) (legible : state.hall.Legible)
    {gameId : UInt32} {ref : GameRef} (here : state.games.byId gameId = some ref) :
    (state.games.arena ref).statusGame.Plain := by
  have there : state.hall.room gameId = some (state.games.arena ref) := by
    rw [hall_room, GameTable.find, here, Option.map_some]
  have names := legible.rooms gameId _ there
  have ok := sound.rooms gameId _ there
  refine ⟨names.gameName, names.emulatorName, names.owner, ?_⟩
  cases running : (state.games.arena ref).syncManager with
  | none => exact .inl (ok.waiting running).1
  | some sync => exact .inr (ok.playing sync running).1

theorem plain_visibleUser (legible : state.hall.Legible) {src addr : SocketAddr} {user : StatusUser}
    (visible : state.visibleUser src addr = some user) : 0 ∉ user.username := by
  unfold AppState.visibleUser at visible
  split at visible
  · cases visible
  · obtain ⟨client, found, shown⟩ := Option.bind_eq_some_iff.mp visible
    split at shown
    · obtain rfl := Option.some.inj shown
      exact (legible.members addr client.toMember (by rw [hall_member, found]; rfl)).username
    · cases shown

/-- A snapshot which fits shows the games of the server, whatever was shown before. -/
theorem hear_snapshot (sound : state.hall.Sound Hall.nobody) (named : state.hall.Named)
    (legible : state.hall.Legible) (users games : Iteration) {src : SocketAddr}
    (fits : state.statusSize src ≤ maxPayload) (board : Board) :
    board.hear opened Msg.serverStatus (state.serverStatus users games src) = state.listings := by
  have namedTable : state.games.Named := by
    intro gameId ref here
    exact named gameId _ (by rw [hall_room, GameTable.find, here, Option.map_some])
  have all := games.rearranges state.games.refs
  have usersPlain : ∀ user ∈ state.visibleUsers users src, 0 ∉ user.username := by
    intro user member
    obtain ⟨addr, _, visible⟩ := List.mem_filterMap.mp member
    exact plain_visibleUser legible visible
  have gamesPlain : ∀ game ∈ (games.order state.games.refs).map
      (fun ref => (state.games.arena ref).statusGame), game.Plain := by
    intro game member
    obtain ⟨ref, there, rfl⟩ := List.mem_map.mp member
    obtain ⟨gameId, here⟩ := namedTable.mem_refs.mp (all.mem_iff.mp there)
    exact plain_statusGame sound legible here
  rw [← length_serverStatus users games] at fits
  rw [AppState.serverStatus, Board.hear_serverStatus usersPlain gamesPlain fits]
  ext1 gameId
  rw [List.map_map]
  exact namedTable.lookup all gameId

end Snapshot

end Direlera.Lobby
