import Direlera.Server.Program

/-!
# Handlers among LAN players

While every client has a LAN connection, so has every player whom a handler lists, and every
engine which a handler installs has all delays 1. No handler lets anybody in.
-/

namespace Direlera.Lobby

open Direlera.Library Direlera.Sync Direlera.Wire

/-- The engine came from a start with all delays 1 by calls. -/
def SyncManager.Reached : SyncManager → Prop
  | ⟨playerCount, engine⟩ => ∃ warmups disableOutputCache calls, engine =
      (DelayedGameSync.machine playerCount).final
        (.start (fun _ => 1) warmups disableOutputCache) calls

/-- One more call. -/
theorem SyncManager.Reached.call {sync : SyncManager} (reached : sync.Reached) (gameId : UInt32)
    (request : Call) : (sync.call gameId request).2.Reached := by
  obtain ⟨playerCount, engine⟩ := sync
  obtain ⟨warmups, disableOutputCache, calls, rfl⟩ := reached
  refine ⟨warmups, disableOutputCache, calls ++ [request], ?_⟩
  exact ((DelayedGameSync.machine playerCount).final_append _ calls [request]).symm

/-- Every listed player has a LAN connection, and a running engine came from its start. -/
structure GameInfo.Lan (game : GameInfo) : Prop where
  players : ∀ player ∈ game.players, player.connType = 1
  engine : ∀ sync, game.syncManager = some sync → sync.Reached

namespace GameInfo.Lan

variable {game : GameInfo}

theorem created (gameId : UInt32) (gameName : Bytes) (src : SocketAddr) {client : Member}
    (lan : client.connType = 1) : (createdGame gameId gameName src client).Lan where
  players := by
    intro player member
    obtain rfl := List.mem_singleton.mp member
    exact lan
  engine := by
    rintro sync ⟨⟩

theorem recount (lan : game.Lan) {players : List GamePlayerInfo}
    (from_ : ∀ player ∈ players, player.connType = 1) (count : Nat) :
    (game.recount players count).Lan :=
  ⟨from_, lan.engine⟩

theorem migrateOwner (lan : game.Lan) : game.migrateOwnerIfNeeded.2.Lan := by
  unfold migrateOwnerIfNeeded
  split
  · exact lan
  · split
    · exact lan
    · exact ⟨lan.players, lan.engine⟩

theorem leave (lan : game.Lan) (addr : SocketAddr) : (game.leave addr).2.Lan := by
  unfold GameInfo.leave
  split
  · refine (lan.recount ?_ _).migrateOwner
    split
    · intro player member
      obtain ⟨position, here⟩ := List.mem_iff_getElem?.mp member
      rw [List.getElem?_modify] at here
      obtain ⟨old, known, rfl⟩ := Option.map_eq_some_iff.mp here
      have before := lan.players old (List.mem_of_getElem? known)
      split
      · exact before
      · exact before
    · exact lan.players
  · refine (lan.recount ?_ _).migrateOwner
    split
    · exact fun player member => lan.players player (List.mem_of_mem_eraseIdx member)
    · exact lan.players

theorem seat (lan : game.Lan) {player : GamePlayerInfo} (here : player.connType = 1) :
    (game.seat player).Lan := by
  unfold GameInfo.seat
  split
  · exact lan
  · refine ⟨fun other member => ?_, lan.engine⟩
    rcases List.mem_append.mp member with older | newest
    · exact lan.players other older
    · obtain rfl := List.mem_singleton.mp newest
      exact here

theorem purge (lan : game.Lan) : game.purge.Lan :=
  lan.recount (fun player member => lan.players player (List.mem_filter.mp member).1) _

theorem finish (lan : game.Lan) : game.finish.Lan := by
  refine GameInfo.Lan.migrateOwner (GameInfo.Lan.purge ⟨lan.players, ?_⟩)
  rintro sync ⟨⟩

/-- An engine sized for LAN players has all delays 1. -/
theorem begin (lan : game.Lan) {delays : List Nat} (ones : ∀ delay ∈ delays, delay = 1)
    (startupWarmups : List Nat) (disableOutputCache : Bool) :
    (game.begin delays startupWarmups disableOutputCache).Lan := by
  refine ⟨lan.players, ?_⟩
  rintro sync ⟨⟩
  have same : (fun slot : Fin delays.length => delays[slot]) = fun _ => 1 :=
    funext fun slot => ones _ (List.getElem_mem slot.isLt)
  exact ⟨fun slot => startupWarmups.getD slot 0, disableOutputCache, [], by rw [same]; rfl⟩

/-- A call on the engine. -/
theorem call (lan : game.Lan) {sync : SyncManager} (running : game.syncManager = some sync)
    (gameId : UInt32) (request : Call) :
    ({ game with syncManager := some (sync.call gameId request).2 } : GameInfo).Lan := by
  refine ⟨lan.players, ?_⟩
  rintro next ⟨⟩
  exact (lan.engine sync running).call gameId request

end GameInfo.Lan

/-- Every client and every listed player has a LAN connection, and every running engine came
from its start. -/
structure AppState.Lan (state : AppState) : Prop where
  clients : ∀ session member, state.clients.member session = some member → member.connType = 1
  games : ∀ ref, (state.games.arena ref).Lan

/-- Whoever is no member does not become one. -/
def NoNewcomer (before after : AppState) : Prop :=
  ∀ session, before.clients.member session = none → after.clients.member session = none

theorem NoNewcomer.refl (state : AppState) : NoNewcomer state state := fun _ => id

/-- A task among LAN players, which lets nobody in. -/
abbrev LanTask {Result : Type} (task : Handler Result) (ends : Except Report Result → Prop) : Prop :=
  Task.Guarded AppState.Lan NoNewcomer task ends

/-- Nothing is said about the end of the task. -/
abbrev LanTasks {Result : Type} (task : Handler Result) : Prop := LanTask task fun _ => True

section LanTasks

variable {Result Next : Type} {task : Handler Result} {continuation : Result → Handler Next}

theorem LanTasks.bind (first : LanTasks task) (later : ∀ result, LanTasks (continuation result)) :
    LanTasks (task >>= continuation) :=
  Task.Guards.bind first later

theorem LanTasks.attempt (tasks : LanTasks task) : LanTasks task.attempt :=
  Task.Guards.attempt tasks

/-- A task goes on with what was read among LAN players. -/
theorem LanTask.andThen {good : Result → Prop} (first : LanTask task (Task.Yields good))
    (later : ∀ result, good result → LanTasks (continuation result)) :
    LanTasks (task >>= continuation) :=
  Task.Guarded.andThen first later

theorem lan_of_view {before after : AppState} (lan : before.Lan) (same : after.view = before.view) :
    NoNewcomer before after ∧ after.Lan := by
  have members : after.clients.member = before.clients.member := congrArg View.member same
  have games : after.games = before.games := congrArg View.games same
  refine ⟨fun session => by rw [members]; exact id, ?_, ?_⟩
  · rw [members]
    exact lan.clients
  · rw [games]
    exact lan.games

theorem lan_quiet {task : Handler Result} (quiet : Quiet task) : LanTasks task :=
  quiet.guards fun _ _ lan same => lan_of_view lan same

theorem lan_inspect (read : AppState → Result) : LanTasks (.inspect read : Handler Result) :=
  lan_quiet (quiet_inspect read)

/-- The client of an address has a LAN connection. -/
theorem lan_getClient (src : SocketAddr) : LanTask (getClient src)
    (Task.Yields fun found => ∀ client, found = some client → client.connType = 1) := by
  refine Task.guarded_inspect NoNewcomer.refl fun state lan client found => ?_
  obtain ⟨session, _, known⟩ := state.clients.session_of_find found
  exact lan.clients session client.toMember (by simp [ClientRegistry.member, known])

/-- The game of an id is one of LAN players. -/
theorem lan_getGame (gameId : UInt32) : LanTask (getGame gameId)
    (Task.Yields fun found => ∀ game, found = some game → game.Lan) := by
  refine Task.Guards.andThen (lan_inspect _) (fun ref => ?_) fun _ => trivial
  cases ref with
  | none =>
      refine Task.guarded_pure ?_
      rintro game ⟨⟩
  | some ref =>
      have read : LanTask (.inspect fun state => state.games.arena ref : Handler GameInfo)
          (Task.Yields GameInfo.Lan) :=
        Task.guarded_inspect NoNewcomer.refl fun state lan => lan.games ref
      refine Task.Guarded.bind read (fun game lan => ?_) fun _ => trivial
      refine Task.guarded_pure ?_
      rintro _ ⟨⟩
      exact lan

/-- A change which leaves the connection type of a client alone. -/
theorem lan_updateClientLogging (handed : List TargetOutput) (addr : SocketAddr)
    {change : ClientInfo → Result × ClientInfo}
    (same : ∀ client, (change client).2.connType = client.connType) :
    LanTasks (updateClientLogging handed addr change) := by
  refine (lan_inspect _).bind fun session => ?_
  cases session with
  | none => exact Task.guards_fail _
  | some session =>
      refine Task.guarded_critical fun state lan => ?_
      cases known : state.clients.byId session with
      | none => exact ⟨NoNewcomer.refl state, lan, trivial⟩
      | some client =>
          have members : ∀ other, (state.clients.update session fun client =>
              (change client).2).member other =
                if other = session then some (change client).2.toMember
                else state.clients.member other := by
            intro other
            by_cases here : other = session
            · simp [ClientRegistry.member, ClientRegistry.update, here, known]
            · simp [ClientRegistry.member, ClientRegistry.update, here]
          refine ⟨fun other absent => ?_, ⟨fun other member found => ?_, lan.games⟩, trivial⟩
          · rw [members, if_neg]
            · exact absent
            · rintro rfl
              simp [ClientRegistry.member, known] at absent
          · rw [members] at found
            split at found
            · obtain rfl := Option.some.inj found
              rw [← lan.clients session client.toMember (by simp [ClientRegistry.member, known])]
              exact same client
            · exact lan.clients other member found

theorem lan_withClientMut (addr : SocketAddr) {change : ClientInfo → ClientInfo}
    (same : ∀ client, (change client).connType = client.connType) :
    LanTasks (withClientMut addr change) :=
  lan_updateClientLogging [] addr same

/-- A client enters or leaves a game. -/
theorem lan_setGame (addr : SocketAddr) (gameId : Option UInt32) :
    LanTasks (withClientMut addr fun client => { client with gameId }) :=
  lan_withClientMut addr fun _ => rfl

theorem lan_toLobby (addr : SocketAddr) : LanTasks (withClientMut addr ClientInfo.toLobby) :=
  lan_withClientMut addr fun _ => rfl

theorem lan_sendOutput (output : TargetOutput) : LanTasks (sendOutput output) :=
  (lan_updateClientLogging [output] output.addr fun _ => rfl).bind fun _ =>
    Task.guarded_critical fun state lan => ⟨NoNewcomer.refl state, ⟨lan.clients, lan.games⟩, trivial⟩

/-- Games change to games of LAN players. -/
theorem AppState.Lan.write {state : AppState} (lan : state.Lan) {game : GameInfo} (here : game.Lan)
    (ref other : GameRef) : ((state.games.write ref game).arena other).Lan := by
  by_cases same : other = ref
  · subst same
    simpa [GameTable.write] using here
  · simpa [GameTable.write, same] using lan.games other

/-- Work under the lock of a game. -/
theorem lan_lockGame (ref : GameRef) {act : GameInfo → Except Report Result × GameInfo}
    (keeps : ∀ game : GameInfo, game.Lan → (act game).2.Lan) : LanTasks (lockGame ref act) :=
  Task.guarded_critical fun state lan =>
    ⟨NoNewcomer.refl state, ⟨lan.clients, lan.write (keeps _ (lan.games ref)) ref⟩, trivial⟩

theorem lan_withGameMut (src : SocketAddr) {change : GameInfo → GameInfo}
    (keeps : ∀ game : GameInfo, game.Lan → (change game).Lan) : LanTasks (withGameMut src change) := by
  refine (lan_inspect _).bind fun client => ?_
  cases client with
  | none => exact Task.guards_fail _
  | some client =>
      dsimp only
      cases client.gameId with
      | none => exact Task.guards_fail _
      | some gameId =>
          refine (lan_inspect _).bind fun ref => ?_
          cases ref with
          | none => exact Task.guards_fail _
          | some ref => exact lan_lockGame ref keeps

/-! ## Creating and joining -/

theorem lan_checkAlreadyInGame (src : SocketAddr) : LanTasks (checkAlreadyInGame src) := by
  refine (lan_inspect _).bind fun client => ?_
  cases client with
  | none => exact Task.guards_pure false
  | some client =>
      dsimp only
      cases client.gameId with
      | none => exact Task.guards_pure false
      | some gameId =>
          refine (lan_quiet (quiet_getGame gameId)).bind fun game => ?_
          split
          · exact Task.guards_pure true
          · exact (lan_setGame src none).bind fun _ => Task.guards_pure false

/-- The client of a handler has a LAN connection. -/
theorem lan_fetchClientInfo (src : SocketAddr) : LanTask (fetchClientInfo src)
    (Task.Yields fun client => client.connType = 1) := by
  refine Task.Guarded.bind (lan_getClient src) (fun client lan => ?_) fun _ => trivial
  cases client with
  | none => exact Task.guarded_fail _
  | some client => exact Task.guarded_pure (lan client rfl)

/-- A new game is one of LAN players. -/
theorem lan_addGame (gameId : UInt32) {game : GameInfo} (here : game.Lan) :
    LanTasks (addGame gameId game) :=
  Task.guarded_critical fun state lan =>
    ⟨NoNewcomer.refl state, ⟨lan.clients, fun ref => by
      by_cases same : ref = state.games.next
      · simpa [GameTable.insert, same] using here
      · simpa [GameTable.insert, same] using lan.games ref⟩, trivial⟩

theorem lan_takeNextGameId : LanTasks takeNextGameId :=
  Task.guarded_critical fun state lan => ⟨NoNewcomer.refl state, ⟨lan.clients, lan.games⟩, trivial⟩

theorem lan_handleCreateGame (data : Bytes) (src : SocketAddr) :
    LanTasks (handleCreateGame data src) := by
  refine (lan_checkAlreadyInGame src).bind fun already => ?_
  cases already with
  | true => exact Task.guards_pure ()
  | false =>
      refine lan_takeNextGameId.bind fun gameId => ?_
      refine (lan_fetchClientInfo src).andThen fun client lan => ?_
      refine (lan_addGame gameId (.created gameId _ src lan)).bind fun _ => ?_
      refine (lan_setGame src (some gameId)).bind fun _ => ?_
      exact lan_quiet (quiet_announceCreatedGame src gameId _ client)

theorem lan_handleJoinGame (data : Bytes) (src : SocketAddr) :
    LanTasks (handleJoinGame data src) := by
  unfold handleJoinGame
  cases parseJoinGame data with
  | none => exact Task.guards_pure ()
  | some gameId =>
      refine (lan_getClient src).andThen fun client lan => ?_
      cases client with
      | none => exact Task.guards_fail _
      | some client =>
          dsimp only
          split
          · exact Task.guards_pure ()
          · refine (lan_quiet (quiet_getGame gameId)).bind fun game => ?_
            cases game with
            | none => exact Task.guards_pure ()
            | some game =>
                dsimp only
                split
                · refine (lan_setGame src (some gameId)).bind fun _ => ?_
                  refine (lan_withGameMut src fun game games => games.seat (lan client rfl)).bind
                    fun _ => ?_
                  exact lan_quiet (quiet_announceJoinedGame src gameId)
                · exact Task.guards_pure ()

/-! ## Dropping and leaving -/

theorem lan_removeGame (gameId : UInt32) : LanTasks (removeGame gameId) :=
  Task.guarded_critical fun state lan => ⟨NoNewcomer.refl state, ⟨lan.clients, lan.games⟩, trivial⟩

/-- A broadcast does nothing to clients and games. -/
theorem lan_run_broadcastPacket {state after : AppState} {outcome : Except Report Unit}
    (lan : state.Lan) {packetType : UInt8} {data : Bytes}
    (ran : (broadcastPacket packetType data).run state = (outcome, after)) :
    NoNewcomer state after ∧ after.Lan := by
  have same := (quiet_broadcastPacket packetType data).run state
  rw [ran] at same
  exact lan_of_view lan same

theorem lan_markDropped (gameId : UInt32) (ref : GameRef) (playerId : Nat) :
    LanTasks (Task.critical (markDropped gameId ref playerId)) := by
  refine Task.guarded_critical fun state lan => ?_
  have here := lan.games ref
  have still := NoNewcomer.refl state
  cases running : (state.games.arena ref).syncManager with
  | none =>
      simp only [markDropped, running]
      exact ⟨still, lan, trivial⟩
  | some sync =>
      have called := here.call running gameId (.drop playerId)
      rcases answer : sync.call gameId (.drop playerId) with ⟨result, next⟩
      rw [answer] at called
      simp only [markDropped, running, answer]
      cases result with
      | error error => exact ⟨still, ⟨lan.clients, lan.write called ref⟩, trivial⟩
      | ok frames =>
          dsimp only
          split
          · let marked : AppState := { state with
              games := state.games.write ref ({ state.games.arena ref with
                syncManager := some next } : GameInfo).finish
              calls := state.calls ++ [(gameId, Call.drop playerId)]
              produced := state.produced ++ (state.games.arena ref).targets frames }
            have finished : marked.Lan := ⟨lan.clients, lan.write called.finish ref⟩
            split
            next ran =>
              have after := lan_run_broadcastPacket finished ran
              exact ⟨after.1, after.2, trivial⟩
            next ran =>
              have after := lan_run_broadcastPacket finished ran
              exact ⟨after.1, after.2, trivial⟩
          · exact ⟨still, ⟨lan.clients, lan.write called ref⟩, trivial⟩

theorem lan_announceDrop (gameId : UInt32) (username : Bytes) (playerId : Nat)
    (frames : List Frame) (players : List GamePlayerInfo) :
    LanTasks (announceDrop gameId username playerId frames players) := by
  refine (lan_quiet (quiet_setStatus players playerStatusIdle)).bind fun _ => ?_
  refine (lan_quiet (quiet_broadcastPacketToGame gameId _ _)).bind fun _ => ?_
  refine LanTasks.bind (Task.Guards.forEach fun frame _ => ?_) fun _ => Task.guards_pure true
  unfold sendFrame
  split
  · exact Task.guards_fail _
  · exact lan_sendOutput _

theorem lan_executeDropGame (gameId : UInt32) (src : SocketAddr) :
    LanTasks (executeDropGame gameId src) := by
  refine (lan_inspect _).bind fun client => ?_
  cases client with
  | none => exact Task.guards_fail _
  | some client =>
  refine (lan_inspect _).bind fun ref => ?_
  cases ref with
  | none => exact Task.guards_pure false
  | some ref =>
  refine (lan_inspect _).bind fun playerId => ?_
  cases playerId with
  | none => exact Task.guards_pure false
  | some playerId =>
  refine (lan_inspect _).bind fun ref => ?_
  cases ref with
  | none => exact Task.guards_fail _
  | some ref =>
  refine (lan_markDropped gameId ref playerId).bind fun marked => ?_
  obtain ⟨frames, players, allDropped⟩ := marked
  have announced := lan_announceDrop gameId client.username playerId frames players
  cases allDropped with
  | false => exact announced
  | true =>
      refine (lan_quiet (quiet_getGame gameId)).bind fun game => ?_
      split
      · refine (lan_removeGame gameId).bind fun _ => ?_
        exact (lan_quiet (quiet_broadcastPacket _ _)).bind fun _ => Task.guards_pure true
      · exact announced

theorem lan_handleDropGame (src : SocketAddr) : LanTasks (handleDropGame src) := by
  refine (lan_quiet (quiet_resolveInGame src)).bind fun found => ?_
  cases found with
  | none => exact Task.guards_pure ()
  | some found => exact (lan_executeDropGame found.1 src).bind fun _ => Task.guards_pure ()

theorem lan_settleQuit (gameId : UInt32) (src : SocketAddr) (quitData : Bytes)
    (outcome : GameInfo.QuitOutcome) : LanTasks (settleQuit gameId src quitData outcome) := by
  cases outcome with
  | playing =>
      refine (lan_executeDropGame gameId src).attempt.bind fun _ => ?_
      refine (lan_quiet (quiet_getGame gameId)).bind fun game => ?_
      cases game with
      | none => exact lan_quiet (quiet_broadcastPacket _ _)
      | some game =>
          exact lan_quiet ((quiet_broadcastPacketToGame _ _ _).bind fun _ =>
            quiet_broadcastPacket _ _)
  | waitingClosed =>
      refine (lan_removeGame gameId).bind fun _ => ?_
      exact lan_quiet ((quiet_broadcastPacket _ _).bind fun _ => quiet_broadcastPacket _ _)
  | waitingOpen =>
      exact lan_quiet ((quiet_broadcastPacketToGame _ _ _).bind fun _ => quiet_announceStatus _)

theorem lan_handleQuitGame (src : SocketAddr) : LanTasks (handleQuitGame src) := by
  refine (lan_inspect _).bind fun client => ?_
  cases client with
  | none => exact Task.guards_pure ()
  | some client =>
      dsimp only
      cases client.gameId with
      | none => exact Task.guards_pure ()
      | some gameId =>
          refine (lan_inspect _).bind fun ref => ?_
          cases ref with
          | none => exact Task.guards_pure ()
          | some ref =>
              refine (lan_toLobby src).bind fun _ => ?_
              refine (lan_lockGame ref fun game lan => lan.leave src).bind fun left => ?_
              refine (lan_settleQuit gameId src _ left.1).bind fun _ => ?_
              exact lan_quiet (quiet_announceOwner gameId left.2)

/-- A section which only forgets clients. -/
theorem lan_forget (read : AppState → Except Report Result) {left : AppState → ClientRegistry}
    (known : ∀ state session member,
      (left state).member session = some member → state.clients.member session = some member) :
    LanTasks (Task.critical fun state => (read state, { state with clients := left state })) := by
  refine Task.guarded_critical fun state lan => ⟨fun session absent => ?_, ⟨?_, lan.games⟩, trivial⟩
  · by_contra present
    obtain ⟨member, here⟩ := Option.ne_none_iff_exists'.mp present
    exact absurd (known state session member here) (by simp [absent])
  · exact fun session member here => lan.clients session member (known state session member here)

theorem lan_removeClient (addr : SocketAddr) : LanTasks (removeClient addr) :=
  lan_forget (fun state => .ok (state.clients.find addr)) fun _ _ _ => ClientRegistry.member_remove

theorem lan_closeSession (addr : SocketAddr) : LanTasks (closeSession addr) :=
  Task.guarded_critical fun state lan => ⟨NoNewcomer.refl state, ⟨lan.clients, lan.games⟩, trivial⟩

theorem lan_handleUserQuit (data : Bytes) (src : SocketAddr) :
    LanTasks (handleUserQuit data src) := by
  refine (lan_handleQuitGame src).bind fun _ => (lan_removeClient src).bind fun client => ?_
  cases client with
  | none => exact lan_closeSession src
  | some client =>
      exact (lan_quiet (quiet_broadcastPacket _ _)).bind fun _ => lan_closeSession src

theorem lan_kickFrom (gameId : UInt32) (addr : SocketAddr) (quitData : Bytes) :
    LanTasks (kickFrom gameId addr quitData) := by
  refine (lan_inspect _).bind fun ref => ?_
  cases ref with
  | none => exact Task.guards_pure ()
  | some ref =>
      refine (lan_toLobby addr).attempt.bind fun _ => ?_
      refine (lan_lockGame ref fun game lan => lan.leave addr).bind fun outcome => ?_
      have announced := lan_quiet (quiet_announceKick gameId addr quitData)
      split
      · exact (lan_executeDropGame gameId addr).attempt.bind fun _ => announced
      · exact announced

theorem lan_handleKickUser (data : Bytes) (src : SocketAddr) :
    LanTasks (handleKickUser data src) := by
  unfold handleKickUser
  cases parseKickUser data with
  | none => exact Task.guards_pure ()
  | some userId =>
  refine (lan_inspect _).bind fun requester => ?_
  cases requester with
  | none => exact Task.guards_fail _
  | some requester =>
  dsimp only
  cases requester.gameId with
  | none => exact Task.guards_fail _
  | some gameId =>
  refine (lan_quiet (quiet_getGame gameId)).bind fun game => ?_
  cases game with
  | none => exact Task.guards_fail _
  | some game =>
  dsimp only
  split
  · refine (lan_inspect _).bind fun kicked => ?_
    cases kicked with
    | none => exact Task.guards_pure ()
    | some kicked =>
        refine (lan_inspect _).bind fun target => ?_
        cases target with
        | none => exact Task.guards_pure ()
        | some target =>
            dsimp only
            split
            · exact lan_kickFrom gameId kicked.1 _
            · exact Task.guards_pure ()
  · exact Task.guards_pure ()

/-! ## Starting and playing -/

theorem lan_fetchGameInfo (src : SocketAddr) :
    LanTask (fetchGameInfo src) (Task.Yields GameInfo.Lan) := by
  refine Task.Guards.andThen (lan_inspect _) (fun client => ?_) fun _ => trivial
  cases client with
  | none => exact Task.guarded_fail _
  | some client =>
      dsimp only
      cases client.gameId with
      | none => exact Task.guarded_fail _
      | some gameId =>
          refine Task.Guarded.bind (lan_getGame gameId) (fun game lan => ?_) fun _ => trivial
          cases game with
          | none => exact Task.guarded_fail _
          | some game => exact Task.guarded_pure (lan game rfl)

/-- The delays with which an engine is installed are those of LAN connections. -/
theorem GameInfo.Lan.delays {game : GameInfo} (lan : game.Lan) :
    ∀ delay ∈ game.players.map fun player => player.connType.toNat, delay = 1 := by
  intro delay member
  obtain ⟨player, listed, rfl⟩ := List.mem_map.mp member
  rw [lan.players player listed]
  rfl

theorem lan_startFrom (config : Config) (gameId : UInt32) (src : SocketAddr) :
    LanTasks (startFrom config gameId src) := by
  refine (lan_withGameMut src fun game lan => lan.purge).bind fun _ => ?_
  refine (lan_fetchGameInfo src).andThen fun before lan => ?_
  refine (lan_quiet (quiet_fetchPings config before.players)).bind fun pings => ?_
  refine (lan_withGameMut src fun game games => games.begin lan.delays _ _).bind fun _ => ?_
  exact lan_quiet (quiet_announceStart gameId src before.players _)

theorem lan_handleStartGame (config : Config) (data : Bytes) (src : SocketAddr) :
    LanTasks (handleStartGame config data src) := by
  unfold handleStartGame
  split
  · exact Task.guards_pure ()
  refine (lan_inspect _).bind fun client => ?_
  cases client with
  | none => exact Task.guards_fail _
  | some client =>
  dsimp only
  cases client.gameId with
  | none => exact Task.guards_fail _
  | some gameId =>
  refine (lan_quiet (quiet_getGame gameId)).bind fun game => ?_
  cases game with
  | none => exact Task.guards_fail _
  | some game =>
  dsimp only
  split
  · split
    · exact lan_quiet (quiet_broadcastPacketToGame gameId _ _)
    · split
      · exact lan_startFrom config gameId src
      · exact Task.guards_pure ()
  · exact Task.guards_pure ()

/-- Feeding an engine. -/
theorem lan_processInput {Failure : Type} (notInitialized : Failure)
    (engineError : GameSyncError → Failure) (invalidPlayer : Nat → Nat → Failure)
    (gameId : UInt32) (ref : GameRef) (playerId : Nat) (input : ClientInput) {state : AppState}
    (lan : state.Lan) :
    NoNewcomer state (processInput notInitialized engineError invalidPlayer gameId ref playerId
        input state).2 ∧
      (processInput notInitialized engineError invalidPlayer gameId ref playerId input state).2.Lan := by
  have here := lan.games ref
  cases running : (state.games.arena ref).syncManager with
  | none =>
      simp only [processInput, running]
      exact ⟨NoNewcomer.refl state, lan⟩
  | some sync =>
      have called := here.call running gameId (.input playerId input)
      rcases answer : sync.call gameId (.input playerId input) with ⟨result, next⟩
      rw [answer] at called
      simp only [processInput, running, answer]
      cases result with
      | error error => exact ⟨NoNewcomer.refl state, lan.clients, lan.write called ref⟩
      | ok frames =>
          dsimp only
          split
          · exact ⟨NoNewcomer.refl state, lan.clients, lan.write called ref⟩
          · exact ⟨NoNewcomer.refl state, lan.clients, lan.write called ref⟩

theorem lan_sendOutputs (outputs : List TargetOutput) :
    LanTasks (Task.forEach outputs sendOutput) :=
  Task.Guards.forEach fun output _ => lan_sendOutput output

theorem lan_handleGameData (data : Bytes) (src : SocketAddr) :
    LanTasks (handleGameData data src) := by
  unfold handleGameData
  cases parseGameData data with
  | none => exact Task.guards_pure ()
  | some gameData =>
      refine (lan_quiet (quiet_resolveInGame src)).bind fun found => ?_
      cases found with
      | none => exact Task.guards_pure ()
      | some found =>
          refine (lan_inspect _).bind fun ref => ?_
          cases ref with
          | none => exact Task.guards_fail _
          | some ref =>
              refine LanTasks.bind (Task.guarded_critical fun state lan => ?_) lan_sendOutputs
              have fed := lan_processInput (Report.message "SimpleGameSync not initialized")
                (Report.sync "Game sync error") (fun _ _ => .message "Invalid player_id") found.1 ref
                found.2 (.gameData gameData) lan
              exact ⟨fed.1, fed.2, trivial⟩

theorem lan_handleGameCache (data : Bytes) (src : SocketAddr) :
    LanTasks (handleGameCache data src) := by
  unfold handleGameCache
  cases parseGameCache data with
  | none => exact Task.guards_pure ()
  | some position =>
      refine (lan_quiet (quiet_resolveInGame src)).bind fun found => ?_
      cases found with
      | none => exact Task.guards_pure ()
      | some found =>
          refine (lan_inspect _).bind fun ref => ?_
          cases ref with
          | none => exact Task.guards_fail _
          | some ref =>
              refine LanTasks.bind (Task.guarded_critical fun state lan => ?_) fun result => ?_
              · have fed := lan_processInput
                  (GameSyncError.bufferInconsistency "sync_manager not initialized") id
                  .invalidPlayerId found.1 ref found.2 (.gameCache position) lan
                exact ⟨fed.1, fed.2, trivial⟩
              · cases result with
                | ok outputs => exact lan_sendOutputs outputs
                | error error =>
                    cases error with
                    | cachePositionNotFound playerId position =>
                        exact (lan_quiet (quiet_sendPacket src _ _)).bind fun _ => Task.guards_fail _
                    | _ => exact Task.guards_fail _

/-! ## Acknowledging -/

theorem quiet_makeServerStatus (users games : Iteration) (src : SocketAddr) :
    Quiet (makeServerStatus users games src) := by
  refine (quiet_inspect _).bind fun refs => (quiet_inspect _).bind fun visible => ?_
  refine Task.Each.bind (Task.Each.collect (fun ref => quiet_inspect _) refs) fun listed => ?_
  exact quiet_pure _

/-- A client is welcomed by announcements alone. -/
theorem quiet_welcomeClient (surroundings : Surroundings) (src : SocketAddr) :
    Quiet (welcomeClient surroundings src) := by
  refine (quiet_makeServerStatus _ _ src).bind fun status => ?_
  refine Task.Each.bind (quiet_sendPacket src _ _) fun _ => ?_
  refine Task.Each.bind ?_ fun joined => Task.Each.bind (quiet_broadcastPacket _ _) fun _ => ?_
  · refine (quiet_inspect _).bind fun client => ?_
    cases client with
    | none => exact quiet_fail _
    | some client => exact quiet_pure _
  · exact Task.Each.forEach (fun information => quiet_sendPacket src _ _) _

theorem lan_handleClientToServerAck (surroundings : Surroundings) (src : SocketAddr) :
    LanTasks (handleClientToServerAck surroundings src) := by
  refine LanTasks.bind (lan_updateClientLogging [] src fun client => ?_) fun ackCount => ?_
  · change (client.acknowledge surroundings.ping).connType = client.connType
    unfold ClientInfo.acknowledge
    split
    · rfl
    · rfl
  · split
    · exact Task.guards_fail _
    · split
      · exact lan_quiet (quiet_welcomeClient surroundings src)
      · exact lan_quiet (quiet_sendPacket src _ _)

end LanTasks

end Direlera.Lobby
