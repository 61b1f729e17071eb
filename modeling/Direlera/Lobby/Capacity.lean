import Direlera.Lobby.Checks
import Direlera.Lobby.LobbyInvariant

/-!
# The capacity of a room under concurrency

A join checks the capacity of a copy of the game and adds its player in a later section. As
long as between the two no more players come into the room than leave it, apart from those for
whom the copy had a seat to spare, a waiting room never holds more players than it has seats.
-/

namespace Direlera.Lobby

open Direlera.Library Direlera.Sync Direlera.Wire

namespace GameInfo

variable {game : GameInfo} {addr : SocketAddr}

/-! ## Leaving, slot by slot -/

/-- Marking one entry as left marks no entry as present. -/
theorem countP_modify_le (players : List GamePlayerInfo) (slot : Nat) :
    ((players.modify slot fun player => { player with leftRoom := true }).countP
      fun player => !player.leftRoom) ≤ players.countP fun player => !player.leftRoom := by
  induction players generalizing slot with
  | nil => simp
  | cons player rest ih =>
      cases slot with
      | zero =>
          rw [List.modify_zero_cons, List.countP_cons, List.countP_cons]
          simp
      | succ slot =>
          rw [List.modify_succ_cons, List.countP_cons, List.countP_cons]
          exact Nat.add_le_add_right (ih slot) _

theorem addrs_modify (players : List GamePlayerInfo) (slot : Nat) :
    (players.modify slot fun player => { player with leftRoom := true }).map GamePlayerInfo.addr =
      players.map GamePlayerInfo.addr := by
  induction players generalizing slot with
  | nil => simp
  | cons player rest ih =>
      cases slot with
      | zero => simp
      | succ slot => simp [ih slot]

/-- Who leaves a live game keeps its slot. -/
theorem leave_live {sync : SyncManager} (running : game.syncManager = some sync)
    (addr : SocketAddr) :
    ∃ players : List GamePlayerInfo,
      (game.leave addr).2 = (game.recount players
        (players.countP fun player => !player.leftRoom)).migrateOwnerIfNeeded.2 ∧
      players.map GamePlayerInfo.addr = game.players.map GamePlayerInfo.addr ∧
      (players.countP fun player => !player.leftRoom) ≤
        game.players.countP fun player => !player.leftRoom := by
  simp only [leave, running]
  cases game.position addr with
  | none => exact ⟨game.players, rfl, rfl, Nat.le_refl _⟩
  | some slot => exact ⟨_, rfl, addrs_modify _ slot, countP_modify_le _ slot⟩

/-- Who leaves a waiting game is erased. -/
theorem leave_waiting (waiting : game.syncManager = none) (addr : SocketAddr) :
    ∃ players : List GamePlayerInfo,
      (game.leave addr).2 = (game.recount players players.length).migrateOwnerIfNeeded.2 ∧
      players.Sublist game.players := by
  simp only [leave, waiting]
  cases game.position addr with
  | none => exact ⟨game.players, rfl, .refl _⟩
  | some slot => exact ⟨_, rfl, List.eraseIdx_sublist _ slot⟩

/-! ## Counting -/

/-- The counter of a game counts who is in the room, each once, and does not exceed the four
seats. -/
structure Counted (game : GameInfo) : Prop where
  count : game.numPlayers.toNat = game.inRoom.length
  room : game.numPlayers ≤ game.maxPlayers
  seats : game.maxPlayers = 4
  distinct : (game.players.map GamePlayerInfo.addr).Nodup
  waits : game.syncManager = none → ∀ player ∈ game.players, player.leftRoom = false
  status : game.gameStatus = gameStatusWaiting → game.syncManager = none

theorem counted_createdGame (gameId : UInt32) (gameName : Bytes) (src : SocketAddr)
    (client : Member) : (createdGame gameId gameName src client).Counted where
  count := rfl
  room := show (1 : UInt8) ≤ 4 by decide
  seats := rfl
  distinct := List.nodup_singleton src
  waits := by simp [createdGame]
  status := fun _ => rfl

/-- A waiting room counts all of its players. -/
theorem Counted.waiting (counted : game.Counted) (waiting : game.gameStatus = gameStatusWaiting) :
    game.players.length = game.numPlayers.toNat := by
  have everyone : game.inRoom = game.players :=
    List.filter_eq_self.mpr fun player member => by
      simp [counted.waits (counted.status waiting) player member]
  rw [counted.count, everyone]

theorem Counted.migrate (counted : game.Counted) : game.migrateOwnerIfNeeded.2.Counted := by
  obtain ⟨owner, ownerUserId, same, _⟩ := game.migrateOwnerIfNeeded_spec
  rw [same]
  exact ⟨counted.count, counted.room, counted.seats, counted.distinct, counted.waits,
    counted.status⟩

/-- A room which counts no more players than before stays within its seats. -/
theorem Counted.recount (counted : game.Counted) {players : List GamePlayerInfo} {count : Nat}
    (counts : count = (players.filter fun player => !player.leftRoom).length)
    (fewer : count ≤ game.inRoom.length)
    (distinct : (players.map GamePlayerInfo.addr).Nodup)
    (waits : game.syncManager = none → ∀ player ∈ players, player.leftRoom = false) :
    (game.recount players count).Counted := by
  have small : game.inRoom.length ≤ game.maxPlayers.toNat := by
    rw [← counted.count]
    exact UInt8.le_iff_toNat_le.mp counted.room
  have exact_count : (UInt8.ofNat count).toNat = count := by
    have bound := game.maxPlayers.toNat_lt
    rw [UInt8.toNat_ofNat']
    omega
  refine ⟨exact_count.trans counts, ?_, counted.seats, distinct, waits, counted.status⟩
  apply UInt8.le_iff_toNat_le.mpr
  rw [GameInfo.recount, exact_count]
  exact fewer.trans small

theorem Counted.leave (counted : game.Counted) (addr : SocketAddr) :
    (game.leave addr).2.Counted := by
  cases running : game.syncManager with
  | some sync =>
      obtain ⟨players, same, addresses, fewer⟩ := leave_live running addr
      rw [same]
      apply (counted.recount List.countP_eq_length_filter ?_ (addresses ▸ counted.distinct)
        ?_).migrate
      · rwa [List.countP_eq_length_filter (l := game.players)] at fewer
      · intro idle
        rw [running] at idle
        cases idle
  | none =>
      obtain ⟨players, same, sublist⟩ := leave_waiting running addr
      have present : ∀ player ∈ players, player.leftRoom = false := fun player member =>
        counted.waits running player (sublist.subset member)
      have everyone : (players.filter fun player => !player.leftRoom) = players :=
        List.filter_eq_self.mpr fun player member => by simp [present player member]
      rw [same]
      apply (counted.recount ?_ ?_ (counted.distinct.sublist (sublist.map _))
        fun _ => present).migrate
      · rw [everyone]
      · have fewer := (sublist.filter fun player : GamePlayerInfo => !player.leftRoom).length_le
        rwa [everyone] at fewer

/-- A player who finds a free seat is counted. -/
theorem Counted.seat (counted : game.Counted) {player : GamePlayerInfo}
    (here : player.leftRoom = false)
    (free : game.lists player.addr = true ∨ game.numPlayers < game.maxPlayers) :
    (game.seat player).Counted := by
  by_cases listed : game.lists player.addr = true
  · rw [GameInfo.seat, if_pos listed]
    exact counted
  · have below := UInt8.lt_iff_toNat_lt.mp (free.resolve_left listed)
    have bound := game.maxPlayers.toNat_lt
    have next : (game.numPlayers + 1).toNat = game.numPlayers.toNat + 1 := by
      rw [UInt8.toNat_add, UInt8.toNat_one]
      omega
    have seated := inRoom_seat here (by simpa using listed)
    rw [GameInfo.seat, if_neg listed] at seated ⊢
    have fresh : ∀ other ∈ game.players, other.addr ≠ player.addr := by
      simpa [lists] using listed
    refine ⟨?_, ?_, counted.seats, ?_, ?_, counted.status⟩
    · rw [seated, List.length_append, ← counted.count, next]
      rfl
    · rw [UInt8.le_iff_toNat_le, next]
      exact below
    · rw [List.map_append, List.nodup_append]
      refine ⟨counted.distinct, List.nodup_singleton _, ?_⟩
      simpa using fresh
    · intro idle other member
      rcases List.mem_append.mp member with earlier | new
      · exact counted.waits idle other earlier
      · exact List.mem_singleton.mp new ▸ here

theorem Counted.purge (counted : game.Counted) : game.purge.Counted := by
  apply counted.recount
  · rw [inRoom, List.filter_filter]
    simp
  · exact Nat.le_refl _
  · exact counted.distinct.sublist (List.filter_sublist.map _)
  · exact fun _ player member => (mem_inRoom.mp member).2

theorem Counted.finish (counted : game.Counted) : game.finish.Counted := by
  have idle : ({ game with gameStatus := gameStatusWaiting, syncManager := none } :
      GameInfo).purge.Counted := by
    have purged := counted.purge
    refine ⟨purged.count, purged.room, purged.seats, purged.distinct, ?_, fun _ => rfl⟩
    exact fun _ player member => (mem_inRoom.mp member).2
  exact idle.migrate

/-- Whatever a section does to a game, its players are counted, if those who are pushed find a
free seat. -/
theorem Counted.rework (counted : game.Counted) {ref : GameRef} {intent : Option Intent}
    {after : GameInfo} (rework : Rework game ref intent after)
    (free : ∀ player checked, intent = some (.push ref player checked) →
      game.lists player.addr = true ∨ game.numPlayers < game.maxPlayers) : after.Counted := by
  cases rework with
  | push player checked here => exact counted.seat here (free player checked rfl)
  | leave addr => exact counted.leave addr
  | purge checked => exact counted.purge
  | install players delays startupWarmups disableOutputCache sized =>
      refine ⟨counted.count, counted.room, counted.seats, counted.distinct, ?_, ?_⟩
      · rintro ⟨⟩
      · intro waiting
        cases (show gameStatusPlaying = gameStatusWaiting from waiting)
  | engine calm sync next running same =>
      refine ⟨counted.count, counted.room, counted.seats, counted.distinct, ?_, ?_⟩
      · rintro ⟨⟩
      · intro waiting
        have idle := counted.status waiting
        rw [running] at idle
        cases idle
  | finish sync next running =>
      have live : ({ game with syncManager := some next } : GameInfo).finish = game.finish := rfl
      rw [live]
      exact counted.finish

end GameInfo

/-! ## From the check to the push -/

/-- The addresses in a room. -/
def inside (players : List GamePlayerInfo) : Finset SocketAddr :=
  ((players.filter fun player => !player.leftRoom).map GamePlayerInfo.addr).toFinset

/-- The seats which are left of a copy once the player who checked it has taken one. -/
def GameCopy.spare (checked : GameCopy) : Nat :=
  checked.maxPlayers.toNat - (checked.numPlayers.toNat + 1)

namespace GameInfo

variable {game earlier : GameInfo}

theorem Counted.card_inside (counted : game.Counted) :
    (inside game.players).card = game.numPlayers.toNat := by
  have distinct : (game.inRoom.map GamePlayerInfo.addr).Nodup :=
    counted.distinct.sublist (List.filter_sublist.map _)
  rw [counted.count]
  exact (List.toFinset_card_of_nodup distinct).trans (List.length_map _)

/-- A room of which a copy passed the check has a free seat, if since then no more players came
than left and than the copy had seats to spare. -/
theorem Counted.free (counted : game.Counted) (before : earlier.Counted)
    (joinable : earlier.joinable = true)
    (kept : (inside game.players \ inside earlier.players).card ≤
      (inside earlier.players \ inside game.players).card + earlier.copy.spare) :
    game.numPlayers < game.maxPlayers := by
  have room := UInt8.lt_iff_toNat_lt.mp (joinable_iff.mp joinable).2.2
  have came := Finset.card_sdiff_add_card (inside game.players) (inside earlier.players)
  have left := Finset.card_sdiff_add_card (inside earlier.players) (inside game.players)
  have spare : earlier.copy.spare = earlier.maxPlayers.toNat - (earlier.numPlayers.toNat + 1) := rfl
  rw [Finset.union_comm, before.card_inside] at came
  rw [counted.card_inside] at left
  rw [UInt8.lt_iff_toNat_lt, counted.seats]
  rw [before.seats] at room spare
  omega

end GameInfo

/-- Since the check of a joining player no more players came into the room than left it and than
the copy had seats to spare, or the player is listed already. -/
def Intent.SeatKept (state : AppState) : Intent → Prop
  | .push ref player checked => (state.games.arena ref).lists player.addr = true ∨
      (inside (state.games.arena ref).players \ inside checked.players).card ≤
        (inside checked.players \ inside (state.games.arena ref).players).card + checked.spare
  | _ => True

instance decidableSeatKept (state : AppState) :
    ∀ intent : Intent, Decidable (intent.SeatKept state)
  | .push _ _ _ => inferInstanceAs (Decidable (_ ∨ _))
  | .purge _ _ | .install _ _ | .locate _ _ | .lookUp _ _ | .feed _ _ => .isTrue trivial

/-- The next section of a session meets a condition on its intent. -/
def Intended (condition : AppState → Intent → Prop) (pool : RoomPool) :
    Turn SocketAddr Errand → Prop
  | .receive _ _ => True
  | .advance src => ∀ intent ∈ pool.label src, condition pool.state intent

instance decidableIntended (condition : AppState → Intent → Prop)
    [∀ state intent, Decidable (condition state intent)] (pool : RoomPool) :
    ∀ turn : Turn SocketAddr Errand, Decidable (Intended condition pool turn)
  | .receive _ _ => .isTrue trivial
  | .advance src => inferInstanceAs (Decidable (∀ intent ∈ pool.label src, _))

/-! ## Every interleaving -/

/-- No fewer games came up. -/
def Later (before after : AppState) : Prop := before.games.next ≤ after.games.next

theorem later_refl (state : AppState) : Later state state := Nat.le_refl _

theorem later_trans (first second third : AppState) (before : Later first second)
    (after : Later second third) : Later first third :=
  Nat.le_trans before after

/-- Whatever is found among counted games is counted. -/
theorem finds_counted (born : GameRef) :
    Finds Later (fun state => Since born (fun _ => GameInfo.Counted) state.games)
      GameInfo.Counted := by
  intro gameId since
  apply Labelled.promises_inspect_bind
  intro state _ here
  cases found : state.games.byId gameId with
  | none => exact fun game missing => nomatch missing
  | some ref =>
      apply Labelled.promises_inspect_bind
      rintro after later there _ ⟨⟩
      have old := state.games.valid gameId ref found
      exact there.games ref (here.listed gameId ref found) (Nat.lt_of_lt_of_le old later)

/-- However the handlers interleave, a waiting game counts its players and has a seat for each
of them, if between the check of every join and its push no more players come into the room
than leave it and than the copy had seats to spare. -/
theorem room_capacity (config : Config) {start : AppState} (opening : start.Opening)
    {turns : List (Turn SocketAddr Errand)}
    (seated : (rooms config).machine.Along (Intended fun state intent => intent.SeatKept state)
      (.idle start) turns) :
    ∀ gameId game, ((rooms config).machine.final (.idle start) turns).state.games.find gameId =
        some game → game.gameStatus = gameStatusWaiting →
      game.players.length = game.numPlayers.toNat ∧ game.numPlayers ≤ game.maxPlayers := by
  have counted := (promising_along (fun src errand => intended_intentions config src errand)
    later_refl later_trans (checks_intentions (finds_counted start.games.next) config) ?_ ?_
    seated).1
  · intro gameId game found waiting
    obtain ⟨ref, holds⟩ := counted.find found
    exact ⟨holds.waiting waiting, holds.room⟩
  · intro pool src next allowed since promised edit
    refine ⟨?_, edit.next_le⟩
    apply since.edit edit
    · exact fun _ _ _ holds => holds
    · exact GameInfo.counted_createdGame
    · intro ref game born old rework
      have holds := since.games ref born old
      apply holds.rework rework
      intro player checked label
      obtain ⟨_, _, earlier, before, joinable, rfl⟩ := promised _ label
      exact (allowed _ label).imp_right (holds.free before joinable)
  · exact Since.start opening.noGames

/-- Clients at the addresses 1 to 5. -/
def fiveClients : AppState := lanLobby [1, 2, 3, 4, 5] (by decide)

/-- A session handles a message alone, in at most `sections` sections. -/
def alone (src : SocketAddr) (request : Request) (sections : Nat) :
    List (Turn SocketAddr Errand) :=
  .receive src (.handle request) :: List.replicate sections (.advance src)

/-- Client 1 creates a game. -/
def hosts : List (Turn SocketAddr Errand) := alone 1 (.createGame [0, 71, 0]) 60

/-- A request to join game 1. -/
def joinsHosted : Request := .joinGame [0, 1, 0, 0, 0, 0, 0, 0, 0, 0, 0, 0, 1]

/-- The sessions of clients 2 to 5 join game 1 in step. -/
def joinTogether : List (Turn SocketAddr Errand) :=
  [2, 3, 4, 5].map (fun src => .receive src (.handle joinsHosted)) ++
    (List.replicate 8 ([2, 3, 4, 5].map Turn.advance)).flatten

/-- Clients 2 and 3 join in step; then client 4 joins while client 1 kicks client 2. -/
def joinInterleaved : List (Turn SocketAddr Errand) :=
  [2, 3].map (fun src => .receive src (.handle joinsHosted)) ++
    (List.replicate 8 ([2, 3].map Turn.advance)).flatten ++
    [.receive 1 (.handle (.kickUser [0, 2, 0])), .receive 4 (.handle joinsHosted)] ++
    (List.replicate 12 ([1, 2, 3, 4].map Turn.advance)).flatten

theorem room_capacity_interleaved :
    (∀ gameId game, ((rooms oneFrame).machine.final (.idle fiveClients)
        (hosts ++ joinInterleaved)).state.games.find gameId = some game →
      game.gameStatus = gameStatusWaiting →
        game.players.length = game.numPlayers.toNat ∧ game.numPlayers ≤ game.maxPlayers) ∧
    (((rooms oneFrame).machine.final (.idle fiveClients)
        (hosts ++ joinInterleaved)).state.games.find 1).map GameInfo.numPlayers = some 3 := by
  refine ⟨?_, by decide +kernel⟩
  apply room_capacity oneFrame (lanLobby_opening [1, 2, 3, 4, 5] (by decide))
  decide +kernel

/-- Four joins check the same copy of the room before any of them adds its player. -/
theorem room_overfull :
    (((rooms oneFrame).machine.final (.idle fiveClients)
        (hosts ++ joinTogether)).state.games.find 1).map (fun game =>
      (game.gameStatus, game.players.length, game.numPlayers, game.maxPlayers)) =
        some (gameStatusWaiting, 5, 5, 4) := by
  decide +kernel

end Direlera.Lobby
