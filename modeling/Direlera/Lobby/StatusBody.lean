import Direlera.Lobby.Snapshot
import Direlera.Wire.StatusRecords

/-!
# The body of a status

Whatever is in the lobby, the body made for a client is read back, field by field and to its
end, as the other logged-in clients and all games, in some order.
-/

namespace Direlera.Lobby

open Direlera.Library Direlera.Sync Direlera.Wire

/-- The other clients whose handshake is complete. -/
def AppState.loggedIn (state : AppState) (src : SocketAddr) : List ClientInfo :=
  ((state.clients.byAddr.filter fun entry => entry.1 ≠ src).filterMap fun entry =>
    state.clients.byId entry.2).filter ClientInfo.complete

/-- The names in the lobby were read from datagrams: a login cuts the name of the user, and
creating a game cuts that of the game. -/
structure AppState.NamesRead (state : AppState) : Prop where
  username : ∀ addr client, state.clients.find addr = some client →
    ∃ data, client.username = (readStringBytes data).1.take 31
  gameName : ∀ gameId game, state.games.find gameId = some game →
    ∃ data, game.gameName = (readStringBytes data).1.take 127
  emulatorName : ∀ gameId game, state.games.find gameId = some game →
    ∃ data, game.emulatorName = (readStringBytes data).1
  owner : ∀ gameId game, state.games.find gameId = some game →
    ∃ data, game.owner = (readStringBytes data).1.take 31

/-- A text has no terminator inside, nor has what is left of it by a cut. -/
theorem plain_take {text data : Bytes} {limit : Nat}
    (cut : text = (readStringBytes data).1.take limit) : 0 ∉ text := by
  rw [cut]
  intro member
  exact (readStringBytes_spec data).1 (List.mem_of_mem_take member)

/-! ## The users -/

/-- The client of an entry is found under its address. -/
theorem ClientRegistry.find_of_mem (registry : ClientRegistry) {addr : SocketAddr}
    {session : SessionId} (member : (addr, session) ∈ registry.byAddr) :
    registry.find addr = registry.byId session := by
  have here : registry.byAddr.lookup addr = some session := by
    refine lookup_of_only member fun entry other same => ?_
    have equal := List.inj_on_of_nodup_map registry.addrsDistinct other member same
    exact congrArg Prod.snd equal
  rw [find, ClientRegistry.session, here, Option.bind_some]

/-- The users of the body are the other logged-in clients. -/
theorem visible_loggedIn (state : AppState) (src : SocketAddr) :
    (state.clients.byAddr.map Prod.fst).filterMap (state.visibleUser src) =
      (state.loggedIn src).map ClientInfo.statusUser := by
  rw [AppState.loggedIn, List.filterMap_map, List.filter_filterMap, List.map_filterMap,
    List.filterMap_filter]
  refine List.filterMap_congr fun entry member => ?_
  rw [Function.comp_apply, AppState.visibleUser, state.clients.find_of_mem member]
  by_cases own : entry.1 = src
  · simp [own]
  · cases state.clients.byId entry.2 with
    | none => simp [own]
    | some client =>
        by_cases complete : client.complete = true <;> simp [own, complete]

/-! ## The games -/

theorem GameTable.nodup_refs (table : GameTable) : table.refs.Nodup :=
  List.nodup_range.filter _

/-- Among all games, the one under an id stands once. -/
theorem GameTable.Named.filter_gameId {table : GameTable} (named : table.Named)
    {refs : List GameRef} (all : refs.Perm table.refs) (gameId : UInt32) :
    (refs.filter fun ref => (table.arena ref).gameId = gameId) = (table.byId gameId).toList := by
  have distinct : refs.Nodup := all.symm.nodup table.nodup_refs
  have known : ∀ ref ∈ refs, table.byId (table.arena ref).gameId = some ref := by
    intro ref member
    obtain ⟨other, here⟩ := named.mem_refs.mp (all.mem_iff.mp member)
    rwa [named other ref here]
  cases here : table.byId gameId with
  | none =>
      refine List.filter_eq_nil_iff.mpr fun ref member same => ?_
      have there := known ref member
      rw [of_decide_eq_true same, here] at there
      cases there
  | some found =>
      have member : found ∈ refs := all.mem_iff.mpr (named.mem_refs.mpr ⟨gameId, here⟩)
      have only : (refs.filter fun ref => (table.arena ref).gameId = gameId) =
          refs.filter fun ref => ref = found := by
        refine List.filter_congr fun ref there => decide_eq_decide.mpr ⟨fun same => ?_, ?_⟩
        · have other := known ref there
          rw [same, here] at other
          exact (Option.some.inj other).symm
        · rintro rfl
          exact named gameId ref here
      rw [only, List.filter_eq, List.count_eq_one_of_mem distinct member]
      rfl

/-! ## The whole body -/

/-- Any order of the maps yields a body which is read to its end as the other logged-in
clients and, under each id, the game of that id. -/
theorem server_status_read {state : AppState} (named : state.games.Named) (names : state.NamesRead)
    (fewUsers : state.clients.byAddr.length < 4294967296)
    (fewGames : state.games.refs.length < 4294967296) (users games : Iteration)
    (src : SocketAddr) :
    ∃ data readUsers readGames,
      (makeServerStatus users games src).run state = (.ok data, state) ∧
        readStatusRecords.run data = some ((readUsers, readGames), []) ∧
        readUsers.Perm ((state.loggedIn src).map ClientInfo.statusUser) ∧
        ∀ gameId, (readGames.filter fun game => game.gameId = gameId) =
          ((state.games.find gameId).map fun game => game.statusGame.record).toList := by
  have visible := (users.rearranges (state.clients.byAddr.map Prod.fst)).filterMap
    (state.visibleUser src)
  have all := games.rearranges state.games.refs
  refine ⟨_, state.visibleUsers users src, _, run_makeServerStatus users games src state,
    (reads_statusRecords ?_ ?_ ?_ ?_).run, ?_, ?_⟩
  · intro user member
    obtain ⟨client, there, rfl⟩ :=
      List.mem_map.mp (visible_loggedIn state src ▸ visible.mem_iff.mp member)
    obtain ⟨entry, listed, found⟩ := List.mem_filterMap.mp (List.mem_of_mem_filter there)
    rw [← state.clients.find_of_mem (List.mem_of_mem_filter listed)] at found
    obtain ⟨data, cut⟩ := names.username entry.1 client found
    exact plain_take cut
  · intro game member
    obtain ⟨ref, there, rfl⟩ := List.mem_map.mp member
    obtain ⟨gameId, here⟩ := named.mem_refs.mp (all.mem_iff.mp there)
    have found : state.games.find gameId = some (state.games.arena ref) := by
      rw [GameTable.find, here, Option.map_some]
    obtain ⟨_, gameName⟩ := names.gameName gameId _ found
    obtain ⟨data, emulatorName⟩ := names.emulatorName gameId _ found
    obtain ⟨_, owner⟩ := names.owner gameId _ found
    have plainEmulator : 0 ∉ (state.games.arena ref).emulatorName := by
      rw [emulatorName]
      exact (readStringBytes_spec data).1
    exact ⟨plain_take gameName, plainEmulator, plain_take owner⟩
  · have shorter := List.length_filterMap_le (state.visibleUser src)
      (users.order (state.clients.byAddr.map Prod.fst))
    rw [(users.rearranges _).length_eq, List.length_map] at shorter
    exact Nat.lt_of_le_of_lt shorter fewUsers
  · rwa [List.length_map, all.length_eq]
  · rw [← visible_loggedIn]
    exact visible
  · intro gameId
    have here := named.filter_gameId all gameId
    rw [List.map_map, List.filter_map, GameTable.find, Option.map_map, Option.toList_map, ← here]
    rfl

/-- The game of the first client. -/
def firstGame : GameInfo := createdGame 7 [71] 1 (ClientInfo.login [97] [69] 1 11 101).toMember

/-- Two logged-in clients, one which is not yet logged in, and a game. -/
def furnished : AppState :=
  { AppState.opened (.ofLogins
      [(1, { ClientInfo.login [97] [69] 1 11 101 with ackCount := 4, ping := 20 }),
        (2, { ClientInfo.login [98] [69] 1 12 102 with ackCount := 4, ping := 30 }),
        (3, ClientInfo.login [99] [69] 1 13 103)] (by decide) (by decide)) with
    games := GameTable.empty.insert 7 firstGame }

theorem furnished_named : furnished.games.Named := by
  intro gameId ref here
  by_cases same : gameId = 7
  · subst same
    obtain rfl := Option.some.inj here
    rfl
  · have absent : furnished.games.byId gameId = none := Function.update_of_ne same ..
    rw [absent] at here
    cases here

theorem furnished_namesRead : furnished.NamesRead := by
  have onlyGame : ∀ gameId game, furnished.games.find gameId = some game → game = firstGame := by
    intro gameId game here
    have known := congrFun (GameTable.find_insert .empty 7 firstGame) gameId
    by_cases same : gameId = 7
    · subst same
      rw [Function.update_self] at known
      exact Option.some.inj (here.symm.trans known)
    · rw [Function.update_of_ne same] at known
      exact absurd (here.symm.trans known) (by simp [GameTable.find, GameTable.empty])
  constructor
  · intro addr client found
    obtain ⟨login, member, rfl⟩ := ClientRegistry.mem_of_find_ofLogins (by decide) (by decide) found
    simp only [List.mem_cons, List.not_mem_nil, or_false] at member
    rcases member with rfl | rfl | rfl
    · exact ⟨[97], rfl⟩
    · exact ⟨[98], rfl⟩
    · exact ⟨[99], rfl⟩
  · intro gameId game here
    exact ⟨[71], by rw [onlyGame gameId game here]; rfl⟩
  · intro gameId game here
    exact ⟨[69], by rw [onlyGame gameId game here]; rfl⟩
  · intro gameId game here
    exact ⟨[97], by rw [onlyGame gameId game here]; rfl⟩

/-- The body for the first client lists the second one, and the game. -/
theorem server_status_read_furnished :
    ∃ data readUsers readGames,
      (makeServerStatus ⟨List.reverse, List.reverse_perm⟩ ⟨id, fun _ => .refl _⟩ 1).run furnished =
          (.ok data, furnished) ∧
        readStatusRecords.run data = some ((readUsers, readGames), []) ∧
        readUsers.Perm [⟨[98], 30, 1, 12, 1⟩] ∧
        ∀ gameId, (readGames.filter fun game => game.gameId = gameId) =
          ((furnished.games.find gameId).map fun game => game.statusGame.record).toList :=
  server_status_read furnished_named furnished_namesRead (by decide) (by decide) _ _ 1

end Direlera.Lobby
