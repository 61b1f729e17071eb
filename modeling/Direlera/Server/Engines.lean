import Direlera.Server.LanPlayers
import Direlera.Sync.Bounds
import Direlera.Sync.DropFinality

/-!
# Every engine of a server runs in lockstep

Logins admit LAN connections alone, so that every engine which a server ever installs has all
delays 1. Whatever the tasks of a server interleave, its engines come from such a start by
calls: they drain whatever is complete, and no call on them faults.
-/

namespace Direlera.Sync

open Direlera.Library

variable {n : Nat}

/-- A combiner of LAN players which has drained whatever is complete. -/
structure SimplestGameSync.Lockstep (sync : SimplestGameSync n) : Prop where
  delays : ∀ player, sync.playerDelays player = 1
  drained : sync.readyToDrain = false

namespace SimplestGameSync

variable {sync : SimplestGameSync n}

theorem Lockstep.processClientInput (lockstep : sync.Lockstep) (playerId : Nat) (input : Bytes) :
    (sync.processClientInput playerId input).2.Lockstep := by
  refine ⟨fun player => ?_, idle_processClientInput lockstep.drained playerId input⟩
  unfold SimplestGameSync.processClientInput
  split
  · split
    · exact lockstep.delays player
    · dsimp only
      rw [playerDelays_drainReadyInputs, playerDelays_queueInput]
      exact lockstep.delays player
  · exact lockstep.delays player

theorem Lockstep.markPlayerDropped (lockstep : sync.Lockstep) (playerId : Nat) :
    (sync.markPlayerDropped playerId).2.Lockstep := by
  refine ⟨fun player => ?_, idle_markPlayerDropped lockstep.drained playerId⟩
  unfold SimplestGameSync.markPlayerDropped
  split
  · dsimp only
    rw [playerDelays_drainReadyInputs]
    exact lockstep.delays player
  · exact lockstep.delays player

end SimplestGameSync

namespace DelayedGameSync

/-- What the operations of the combiner keep, the calls of an engine keep. -/
theorem combiner_step {Inv : SimplestGameSync n → Prop}
    (fed : ∀ sync player input, Inv sync → Inv (sync.processClientInput player input).2)
    (dropped : ∀ sync player, Inv sync → Inv (sync.markPlayerDropped player).2)
    (delayed : DelayedGameSync n) (call : Call) (holds : Inv delayed.inner.sync) :
    Inv ((machine n).step delayed call).2.inner.sync := by
  cases call with
  | input playerId message =>
      change Inv (delayed.processClientInput playerId message).2.inner.sync
      by_cases inRange : playerId < n
      · rw [delayed.processClientInput_resolved ⟨playerId, inRange⟩]
        rcases resolveInput delayed.inputCaches ⟨playerId, inRange⟩ message with ⟨_ | bytes, caches⟩
        · exact holds
        · rcases sync_processResolved { delayed with inputCaches := caches } ⟨playerId, inRange⟩ bytes
            with kept | ⟨data, moved⟩
          · exact kept ▸ holds
          · exact moved ▸ fed _ _ data holds
      · rw [processClientInput, dif_neg inRange]
        exact holds
  | drop playerId =>
      change Inv (delayed.markPlayerDropped playerId).2.inner.sync
      simp only [markPlayerDropped, CachedGameSync.markPlayerDropped_eq_convert,
        CachedGameSync.sync_convert]
      exact dropped _ playerId holds

/-- The combiner of an engine which started with delays 1. -/
theorem lockstep_final (warmups : Fin n → Nat) (disableOutputCache : Bool) (calls : List Call) :
    ((machine n).final (start (fun _ => 1) warmups disableOutputCache) calls).inner.sync.Lockstep := by
  refine (machine n).invariant (fun delayed => delayed.inner.sync.Lockstep) ?_ ?_ calls
  · exact ⟨fun _ => rfl, (Calm.start (fun _ => 1) warmups disableOutputCache).idle⟩
  · exact fun delayed call => combiner_step (fun _ player input held =>
      held.processClientInput player input) (fun _ player held => held.markPlayerDropped player)
      delayed call

end DelayedGameSync

end Direlera.Sync

namespace Direlera.Lobby

open Direlera.Library Direlera.Sync

/-- Its combiner is in lockstep, and whatever is called next neither faults nor fails but for
an absent player or cache position; a failed call changes nothing. -/
structure SyncManager.InLockstep (sync : SyncManager) : Prop where
  combiner : sync.engine.inner.sync.Lockstep
  faultless : ∀ call, ∃ result next,
    Vectors.DelayedGameSync.machine.step sync.engine.vectors call = some (result, next) ∧
      (∀ error, result = .error error ↔ sync.engine.vectors.Fails call error) ∧
      ∀ error, result = .error error → next = sync.engine.vectors

theorem SyncManager.Reached.inLockstep {sync : SyncManager} (reached : sync.Reached) :
    sync.InLockstep := by
  obtain ⟨playerCount, engine⟩ := sync
  obtain ⟨warmups, disableOutputCache, calls, same⟩ := reached
  have lockstep : engine.inner.sync.Lockstep :=
    same ▸ DelayedGameSync.lockstep_final warmups disableOutputCache calls
  refine ⟨lockstep, fun call => ⟨_, _, DelayedGameSync.step_vectors (fun player => ?_) call, ?_, ?_⟩⟩
  · exact (lockstep.delays player).ge
  · intro error
    rw [← (DelayedGameSync.step_error_iff engine call error).1]
    exact DelayedGameSync.map_eq_error_iff
  · intro error failed
    have unmoved := (DelayedGameSync.step_error_iff engine call error).2
      (DelayedGameSync.map_eq_error_iff.mp failed)
    rw [unmoved]

end Direlera.Lobby

namespace Direlera.Server

open Direlera.Clients (parseLogin lanConnectionType sessionAliveThresholdSecs)
open Direlera.Library Direlera.Lobby Direlera.Sync Direlera.Wire

/-- A lobby of LAN players, in which no session is in use which is still to be drawn. -/
structure ServerState.Lan (state : ServerState) : Prop where
  lobby : state.lobby.Lan
  drawn : ∀ session, state.nextSessionId ≤ session → state.lobby.clients.member session = none

/-- A task of the server among LAN players. -/
abbrev LanService {Result : Type} (task : Service Result) : Prop :=
  Task.Guards ServerState.Lan (fun _ _ => True) task

section LanService

variable {Result Next : Type} {task : Service Result} {continuation : Result → Service Next}

theorem LanService.bind (first : LanService task)
    (later : ∀ result, LanService (continuation result)) : LanService (task >>= continuation) :=
  Task.Guards.bind first later

theorem LanService.attempt (service : LanService task) : LanService task.attempt :=
  Task.Guards.attempt service

/-- What handlers do in the lobby. -/
theorem lan_inLobby {handler : Handler Result} (tasks : LanTasks handler) :
    LanService (inLobby handler) := by
  refine Task.Guarded.within (fun _ lan => lan.lobby) (fun state lobby lan kept holds => ?_) tasks
  exact ⟨trivial, holds, fun session undrawn => kept session (lan.drawn session undrawn)⟩

theorem service_inspect (read : ServerState → Result) :
    LanService (.inspect read : Service Result) :=
  Task.guarded_critical fun _ lan => ⟨trivial, lan, trivial⟩

/-! ## Logging in -/

theorem service_findClientByUsername (ids : Iteration) (username : Bytes) :
    LanService (findClientByUsername ids username) := by
  refine (service_inspect _).bind fun found => ?_
  cases found with
  | none => exact Task.guards_pure none
  | some found =>
      refine (service_inspect _).bind fun addr => ?_
      cases addr with
      | none => exact Task.guards_pure none
      | some addr => exact Task.guards_pure _

/-- The second and third section of an eviction forget a client. -/
theorem service_removeClientByUsername (ids : Iteration) (username : Bytes) :
    LanService (removeClientByUsername ids username) := by
  refine (service_inspect _).bind fun found => ?_
  cases found with
  | none => exact Task.guards_pure none
  | some found =>
      refine LanService.bind (lan_inLobby (Task.guarded_critical fun state lan => ?_)) fun addr => ?_
      · split
        · exact ⟨NoNewcomer.refl state, lan, trivial⟩
        · exact ⟨fun _ => id, ⟨lan.clients, lan.games⟩, trivial⟩
      · cases addr with
        | none => exact Task.guards_pure none
        | some addr =>
            exact lan_inLobby (lan_forget _ fun _ _ _ => ClientRegistry.member_forgetSession)

theorem service_takeNextUserId : LanService takeNextUserId :=
  Task.guarded_critical fun _ lan => ⟨trivial, ⟨lan.lobby, lan.drawn⟩, trivial⟩

theorem service_sendMessage (addr : SocketAddr) (data : Bytes) :
    LanService (inLobby (sendMessage none addr data)) :=
  lan_inLobby (lan_quiet (deaf_view.sendMessage addr data))

theorem service_broadcastPacket (packetType : UInt8) (data : Bytes) :
    LanService (inLobby (broadcastPacket packetType data)) :=
  lan_inLobby (lan_quiet (quiet_broadcastPacket packetType data))

theorem service_evict (ids : Iteration) (username : Bytes) : LanService (evict ids username) := by
  refine (service_removeClientByUsername ids username).bind fun removed => ?_
  cases removed with
  | none => exact Task.guards_pure ()
  | some removed =>
      exact (service_broadcastPacket _ _).bind fun _ => lan_inLobby (lan_closeSession removed.1)

/-- The section of a login which adds its client. -/
theorem ServerState.Lan.enrol {state : ServerState} (lan : state.Lan) (src : SocketAddr)
    (username emulatorName : Bytes) {connType : UInt8} (lanType : connType = 1) (userId : UInt16)
    (now : Nat) : (state.enrol src username emulatorName connType userId now).Lan where
  lobby := by
    refine ⟨fun session member known => ?_, lan.lobby.games⟩
    rcases ClientRegistry.member_add known with older | ⟨_, rfl⟩
    · exact lan.lobby.clients session member older
    · exact lanType
  drawn := by
    intro session undrawn
    change state.nextSessionId + 1 ≤ session at undrawn
    by_contra present
    obtain ⟨member, known⟩ := Option.ne_none_iff_exists'.mp present
    rcases ClientRegistry.member_add known with older | ⟨same, _⟩
    · exact absurd older (by simp [lan.drawn session (Nat.le_of_succ_le undrawn)])
    · change session = state.nextSessionId at same
      exact absurd undrawn (same ▸ Nat.not_succ_le_self session)

theorem service_enrol (src : SocketAddr) (username emulatorName : Bytes) {connType : UInt8}
    (lanType : connType = 1) (now : Nat) :
    LanService (enrol src username emulatorName connType now) := by
  refine service_takeNextUserId.bind fun userId => ?_
  refine LanService.bind (Task.guarded_critical fun state lan => ?_) fun _ => ?_
  · exact ⟨trivial, lan.enrol src username emulatorName lanType userId now, trivial⟩
  · exact lan_inLobby (lan_quiet (quiet_sendPacket src _ _))

theorem service_handleUserLogin (reading : LoginReading) (data : Bytes) (src : SocketAddr) :
    LanService (handleUserLogin reading data src) := by
  unfold handleUserLogin
  rcases parseLogin data with ⟨name, emulatorName, connType⟩
  dsimp only
  split
  · exact service_sendMessage src _
  next admitted =>
    have lanType : connType = 1 := not_not.mp admitted
    have enrols := service_enrol src (name.take 31) emulatorName lanType reading.later
    have evicts := (service_evict reading.removed (name.take 31)).bind fun _ => enrols
    refine (service_findClientByUsername reading.found (name.take 31)).bind fun found => ?_
    cases found with
    | none => exact enrols
    | some found =>
        refine (service_inspect _).bind fun lastActive => ?_
        split
        · exact service_sendMessage src _
        · split
          · exact (lan_inLobby (lan_handleQuitGame found.1)).attempt.bind fun _ => evicts
          · exact evicts

/-! ## Messages -/

/-- A message is of a type or goes on to the next one. -/
theorem service_dispatch {condition : Prop} [Decidable condition] {handled next : Service Unit}
    (here : LanService handled) (later : LanService next) :
    LanService (if condition then handled else next) := by
  split
  · exact here
  · exact later

theorem service_handleMessage (config : Config) (reading : Reading) (src : SocketAddr)
    (message : ParsedMessage) : LanService (handleMessage config reading src message) := by
  refine service_dispatch (lan_inLobby (lan_handleUserQuit message.data src)) ?_
  refine service_dispatch (service_handleUserLogin reading.login message.data src) ?_
  refine service_dispatch (lan_inLobby (lan_handleClientToServerAck reading.ack src)) ?_
  refine service_dispatch (lan_inLobby (lan_quiet (quiet_handleGlobalChat message.data src))) ?_
  refine service_dispatch (lan_inLobby (lan_quiet (quiet_handleGameChat message.data src))) ?_
  refine service_dispatch (lan_inLobby (Task.guards_pure ())) ?_
  refine service_dispatch (lan_inLobby (lan_handleCreateGame message.data src)) ?_
  refine service_dispatch (lan_inLobby (lan_handleQuitGame src)) ?_
  refine service_dispatch (lan_inLobby (lan_handleJoinGame message.data src)) ?_
  refine service_dispatch (lan_inLobby (lan_handleKickUser message.data src)) ?_
  refine service_dispatch (lan_inLobby (lan_handleStartGame config message.data src)) ?_
  refine service_dispatch (lan_inLobby (lan_handleGameData message.data src)) ?_
  refine service_dispatch (lan_inLobby (lan_handleGameCache message.data src)) ?_
  refine service_dispatch (lan_inLobby (lan_handleDropGame src)) ?_
  refine service_dispatch (lan_inLobby (lan_quiet (quiet_handleReadyToPlaySignal message.data src))) ?_
  exact Task.guards_pure ()

theorem service_handlePacket (config : Config) (addr : SocketAddr) (now : Nat)
    (due : List (Reading × ParsedMessage)) : LanService (handlePacket config addr now due) := by
  refine LanService.bind (Task.guarded_critical fun state lan => ?_) fun _ => ?_
  · split
    · exact ⟨trivial, lan, trivial⟩
    · exact ⟨trivial, ⟨lan.lobby, lan.drawn⟩, trivial⟩
  · exact Task.Guards.forEach fun message _ =>
      (service_handleMessage config message.1 addr message.2).attempt.bind fun _ =>
        Task.guards_pure PUnit.unit

/-! ## Leaving and resending -/

theorem service_removeClient (addr : SocketAddr) : LanService (inLobby (removeClient addr)) :=
  lan_inLobby (lan_removeClient addr)

theorem service_dismiss (addr : SocketAddr) (reason : Bytes) : LanService (dismiss addr reason) := by
  refine (service_removeClient addr).bind fun removed => ?_
  cases removed with
  | none => exact Task.guards_pure ()
  | some removed =>
      exact (service_broadcastPacket _ _).attempt.bind fun _ => Task.guards_pure ()

theorem service_expel (addr : SocketAddr) (client : ClientInfo) (reason : Bytes) :
    LanService (expel addr client reason) := by
  have dismissed := service_dismiss addr reason
  unfold expel
  split
  · exact (lan_inLobby (lan_handleQuitGame addr)).attempt.bind fun _ => dismissed
  · exact dismissed

theorem service_getClient (addr : SocketAddr) : LanService (inLobby (getClient addr)) :=
  lan_inLobby (lan_inspect _)

/-- The entry of a session is forgotten in the end. -/
theorem service_forgotten (addr : SocketAddr) :
    LanService (do let _ ← inLobby (removeClient addr)) :=
  (service_removeClient addr).bind fun _ => Task.guards_pure ()

theorem service_endClosed (addr : SocketAddr) : LanService (endClosed addr) := by
  refine (service_getClient addr).bind fun found => ?_
  have forgotten := service_forgotten addr
  cases found with
  | none => exact forgotten
  | some client => exact (service_expel addr client _).bind fun _ => forgotten

theorem service_endTimedOut (spelling : Spelling) (cachedIdentity : Option (Bytes × UInt16))
    (addr : SocketAddr) : LanService (endTimedOut spelling cachedIdentity addr) := by
  refine (service_getClient addr).bind fun found => ?_
  have forgotten := service_forgotten addr
  cases found with
  | none =>
      cases cachedIdentity with
      | none => exact forgotten
      | some identity => exact (service_broadcastPacket _ _).attempt.bind fun _ => forgotten
  | some client =>
      refine (service_broadcastPacket _ _).attempt.bind fun _ => ?_
      exact (service_expel addr client _).bind fun _ => forgotten

theorem service_reap (addr : SocketAddr) : LanService (reap addr) := by
  refine (service_getClient addr).bind fun found => ?_
  cases found with
  | none => exact service_forgotten addr
  | some client => exact service_expel addr client _

theorem service_resend (addr : SocketAddr) : LanService (resend addr) := by
  refine (lan_inLobby (lan_inspect _)).bind fun last => ?_
  cases last with
  | none => exact Task.guards_pure ()
  | some data => exact (service_sendMessage addr data).attempt.bind fun _ => Task.guards_pure ()

theorem service_watch (stalled dead : List SocketAddr) : LanService (watch stalled dead) :=
  LanService.bind (Task.Guards.forEach fun addr _ => service_resend addr) fun _ =>
    Task.Guards.forEach fun addr _ => lan_inLobby (lan_closeSession addr)

theorem service_resendLogins : LanService resendLogins :=
  LanService.bind (lan_inLobby (lan_inspect _)) fun _ => Task.Guards.forEach fun pending _ =>
    (service_sendMessage pending.1 pending.2).attempt.bind fun _ => Task.guards_pure PUnit.unit

theorem service_perform (config : Config) (spelling : Spelling) (work : Work) :
    LanService (perform config spelling work) := by
  cases work with
  | packet addr now due => exact service_handlePacket config addr now due
  | closed addr => exact service_endClosed addr
  | timedOut addr cachedIdentity => exact service_endTimedOut spelling cachedIdentity addr
  | reap addr => exact service_reap addr
  | watch stalled dead => exact service_watch stalled dead
  | resendLogins => exact service_resendLogins

end LanService

/-- An empty server. -/
theorem lan_new : ServerState.new.Lan where
  lobby := by
    refine ⟨?_, fun ref => ⟨?_, ?_⟩⟩
    · rintro session member ⟨⟩
    · rintro player ⟨⟩
    · rintro sync ⟨⟩
  drawn _ _ := rfl

/-- Whatever the tasks of a server interleave, every client and every listed player has a LAN
connection, and every engine came from a start with delays 1 by calls and is in lockstep. -/
theorem every_engine_in_lockstep (config : Config) (spelling : Spelling) {Worker : Type}
    [DecidableEq Worker] (turns : List (Turn Worker Work)) :
    let state := ((tasks config spelling Worker).machine.final (.idle .new) turns).state
    (∀ addr client, state.lobby.clients.find addr = some client → client.connType = 1) ∧
      ∀ ref, (∀ player ∈ (state.lobby.games.arena ref).players, player.connType = 1) ∧
        ∀ sync, (state.lobby.games.arena ref).syncManager = some sync →
          sync.Reached ∧ sync.InLockstep := by
  intro state
  have lan : state.Lan :=
    Program.guarded_final (fun _ => service_perform config spelling) lan_new turns
  refine ⟨fun addr client found => ?_, fun ref => ⟨(lan.lobby.games ref).players, ?_⟩⟩
  · obtain ⟨session, _, known⟩ := state.lobby.clients.session_of_find found
    exact lan.lobby.clients session client.toMember (by simp [ClientRegistry.member, known])
  · intro sync running
    have reached := (lan.lobby.games ref).engine sync running
    exact ⟨reached, reached.inLockstep⟩

end Direlera.Server
