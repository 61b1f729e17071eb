import Direlera.Lobby.Membership

/-!
# Player statuses

`playerStatus` is the one byte in which the server keeps who is ready. Quitting, kicking
and dropping return statuses to idle, a start returns those of its players, and nothing
else but a ready signal touches them.
-/

namespace Direlera.Lobby

open Direlera.Library Direlera.Sync Direlera.Wire

/-- The player status behind an address. -/
def AppState.status (state : AppState) (addr : SocketAddr) : Option UInt8 :=
  (state.clients.find addr).map ClientInfo.playerStatus

/-- The statuses after those of some addresses were set. -/
def assign (addrs : List SocketAddr) (status : UInt8) (statuses : SocketAddr → Option UInt8)
    (addr : SocketAddr) : Option UInt8 :=
  if addr ∈ addrs then (statuses addr).map fun _ => status else statuses addr

/-- Some statuses of a group fell back to idle, and no other changed. -/
def Lapses (among : SocketAddr → Prop) (before after : SocketAddr → Option UInt8) : Prop :=
  ∀ addr, after addr = before addr ∨ among addr ∧ after addr = some playerStatusIdle

section Lapses

variable {among larger : SocketAddr → Prop} {before middle after : SocketAddr → Option UInt8}

theorem Lapses.refl (same : after = before) : Lapses among before after :=
  fun addr => .inl (congrFun same addr)

theorem Lapses.trans (first : Lapses among before middle) (second : Lapses among middle after) :
    Lapses among before after := by
  intro addr
  rcases second addr with same | idle
  · rw [same]
    exact first addr
  · exact .inr idle

theorem Lapses.mono (lapses : Lapses among before after) (wider : ∀ addr, among addr → larger addr) :
    Lapses larger before after := by
  intro addr
  rcases lapses addr with same | ⟨member, idle⟩
  · exact .inl same
  · exact .inr ⟨wider addr member, idle⟩

/-- Nobody gets ready by a lapse. -/
theorem Lapses.unready (lapses : Lapses among before after) {addr : SocketAddr}
    (unready : before addr ≠ some playerStatusNetSync) : after addr ≠ some playerStatusNetSync := by
  rcases lapses addr with same | ⟨_, idle⟩
  · rwa [same]
  · rw [idle]
    decide

theorem lapses_assign (addrs : List SocketAddr) :
    Lapses (· ∈ addrs) before (assign addrs playerStatusIdle before) := by
  intro addr
  unfold assign
  split
  next listed =>
    cases known : before addr with
    | none => exact .inl rfl
    | some status => exact .inr ⟨listed, rfl⟩
  next => exact .inl rfl

end Lapses

/-! ## Sections -/

section Sections

variable {Result : Type}

/-- A change of a session changes the status of its address alone. -/
theorem status_update {state : AppState} {addr : SocketAddr} {session : SessionId}
    (here : state.clients.session addr = some session) (change : ClientInfo → ClientInfo) :
    ({ state with clients := state.clients.update session change } : AppState).status =
      Function.update state.status addr
        ((state.clients.find addr).map fun client => (change client).playerStatus) := by
  ext1 other
  simp only [AppState.status, state.clients.find_update here]
  by_cases same : other = addr
  · subst same
    simp [Function.comp_def]
  · simp [same, AppState.status]

/-- A change which keeps the status of every client keeps them all. -/
theorem status_update_same {state : AppState} {change : ClientInfo → ClientInfo}
    (same : ∀ client, (change client).playerStatus = client.playerStatus) (session : SessionId) :
    ({ state with clients := state.clients.update session change } : AppState).status =
      state.status := by
  ext1 addr
  exact state.clients.map_find_update same session addr

/-- Statuses hear no announcement. -/
theorem deaf_status : Deaf AppState.status where
  draws := by
    intro state session packetType data
    apply status_update_same
    exact fun _ => rfl
  queues := fun _ _ _ _ => rfl

theorem steady_updateClientLogging {handed : List TargetOutput} {addr : SocketAddr}
    {change : ClientInfo → Result × ClientInfo}
    (same : ∀ client, (change client).2.playerStatus = client.playerStatus) :
    Keeps AppState.status (updateClientLogging handed addr change) := by
  apply Task.Each.bind (keeps_inspect _)
  rintro (_ | session)
  · exact keeps_fail _
  apply Task.each_critical
  intro state
  cases state.clients.byId session with
  | none => rfl
  | some client => exact status_update_same same session

theorem steady_setGame (addr : SocketAddr) (gameId : Option UInt32) :
    Keeps AppState.status (withClientMut addr fun client => { client with gameId }) := by
  apply steady_updateClientLogging
  intro client
  rfl

theorem steady_sendOutput (output : TargetOutput) : Keeps AppState.status (sendOutput output) := by
  apply Task.Each.bind (steady_updateClientLogging fun _ => rfl)
  exact fun packet => Task.each_critical fun _ => rfl

theorem steady_sendOutputs (outputs : List TargetOutput) :
    Keeps AppState.status (Task.forEach outputs sendOutput) :=
  Task.Each.forEach steady_sendOutput outputs

/-- What a section does to the games does not concern statuses. -/
theorem steady_critical {act : AppState → Except Report Result × AppState}
    (same : ∀ state, (act state).2.clients = state.clients) :
    Keeps AppState.status (Task.critical act) :=
  Task.each_critical fun state => by
    ext1 addr
    rw [AppState.status, same state]
    rfl

/-- A section on a game changes the table of the games, and nothing else. -/
theorem keeps_withGameMut {Value : Type} {value : AppState → Value}
    (apart : ∀ (state : AppState) games, value { state with games } = value state)
    (src : SocketAddr) (change : GameInfo → GameInfo) : Keeps value (withGameMut src change) := by
  apply Task.Each.bind (keeps_inspect _)
  rintro (_ | client)
  · exact keeps_fail _
  dsimp only
  cases client.gameId with
  | none => exact keeps_fail _
  | some gameId =>
      apply Task.Each.bind (keeps_inspect _)
      rintro (_ | ref)
      · exact keeps_fail _
      · exact Task.each_critical fun state => apart state _

theorem steady_withGameMut (src : SocketAddr) (change : GameInfo → GameInfo) :
    Keeps AppState.status (withGameMut src change) :=
  keeps_withGameMut (fun _ _ => rfl) src change

/-- The run of a task which keeps a value. -/
theorem value_of_run {Value : Type} {value : AppState → Value} {task : Handler Result}
    (keeps : Keeps value task) {before after : AppState} {outcome : Except Report Result}
    (ran : task.run before = (outcome, after)) : value after = value before := by
  have same := keeps.keeps before
  rwa [ran] at same

/-- A task which keeps the statuses may follow some work. -/
theorem status_bind_steady {Next : Type} {task : Handler Result}
    {continuation : Result → Handler Next}
    (steady : ∀ result, Keeps AppState.status (continuation result)) (state : AppState) :
    ((task >>= continuation).run state).2.status = (task.run state).2.status := by
  rw [Task.run_bind]
  rcases task.run state with ⟨outcome, next⟩
  cases outcome with
  | error report => rfl
  | ok result => exact (steady result).keeps next

end Sections

/-! ## Setting statuses -/

/-- A change which sets the status. -/
theorem status_setTo {change : ClientInfo → ClientInfo} {status : UInt8}
    (sets : ∀ client, (change client).playerStatus = status) (addr : SocketAddr)
    (state : AppState) :
    ((withClientMut addr change).run state).2.status = assign [addr] status state.status := by
  rw [withClientMut, updateClient, updateClientLogging, Task.run_bind, Task.run_inspect]
  cases here : state.clients.session addr with
  | none =>
      have missing : state.status addr = none := by simp [AppState.status, ClientRegistry.find, here]
      ext1 other
      by_cases same : other = addr
      · subst same
        simp [assign, missing]
      · simp [assign, same]
  | some session =>
      obtain ⟨client, found, known⟩ := state.clients.find_of_session here
      simp only [Task.run_critical, known]
      refine (status_update here _).trans ?_
      ext1 other
      by_cases same : other = addr
      · subst same
        simp [assign, AppState.status, found, sets]
      · simp [assign, same]

/-- Setting a status. -/
theorem status_setOne (addr : SocketAddr) (status : UInt8) (state : AppState) :
    ((withClientMut addr fun client => { client with playerStatus := status }).run state).2.status =
      assign [addr] status state.status :=
  status_setTo (by intro client; rfl) addr state

/-- Returning to the lobby makes idle. -/
theorem lapses_toLobby (addr : SocketAddr) (state : AppState) :
    Lapses (· = addr) state.status
      ((withClientMut addr ClientInfo.toLobby).run state).2.status := by
  have set := @status_setTo ClientInfo.toLobby playerStatusIdle (fun _ => rfl) addr state
  rw [set]
  exact (lapses_assign [addr]).mono fun other member => List.mem_singleton.mp member

/-- Nobody returns to the lobby ready. -/
theorem unready_toLobby (addr : SocketAddr) (state : AppState) :
    ((withClientMut addr ClientInfo.toLobby).run state).2.status addr ≠ some playerStatusNetSync := by
  rw [@status_setTo ClientInfo.toLobby playerStatusIdle (fun _ => rfl) addr state, assign,
    if_pos List.mem_cons_self]
  cases state.status addr with
  | none => simp
  | some status => simp [playerStatusIdle, playerStatusNetSync]

theorem assign_cons (addr : SocketAddr) (rest : List SocketAddr) (status : UInt8)
    (statuses : SocketAddr → Option UInt8) :
    assign rest status (assign [addr] status statuses) = assign (addr :: rest) status statuses := by
  ext1 other
  by_cases first : other = addr
  · subst first
    by_cases again : other ∈ rest
    · simp [assign, again, Function.comp_def]
    · simp [assign, again]
  · simp [assign, first]

/-- Setting the statuses of registered players sets them all. -/
theorem status_setAll {players : List GamePlayerInfo} {state : AppState}
    (registered : ∀ player ∈ players, (state.hall.member player.addr).isSome = true)
    (status : UInt8) :
    ∃ next, (Task.forEach players fun player => withClientMut player.addr fun client =>
        { client with playerStatus := status }).run state = (.ok (), next) ∧
      next.hall = state.hall ∧
      next.status = assign (players.map GamePlayerInfo.addr) status state.status := by
  induction players generalizing state with
  | nil => exact ⟨state, rfl, rfl, rfl⟩
  | cons player rest ih =>
      have known := registered player List.mem_cons_self
      rw [hall_member, Option.isSome_map] at known
      obtain ⟨client, found⟩ := Option.isSome_iff_exists.mp known
      obtain ⟨_, next, changed⟩ := run_updateClient found
        fun client => ((), { client with playerStatus := status })
      have changedHere : (withClientMut player.addr fun client =>
          { client with playerStatus := status }).run state = (.ok (), next) := changed
      have same := (quiet_status player.addr status).hall state
      have set := status_setOne player.addr status state
      rw [changedHere] at same set
      have stillRegistered : ∀ other ∈ rest, (next.hall.member other.addr).isSome = true := by
        intro other member
        rw [same]
        exact registered other (List.mem_cons_of_mem _ member)
      obtain ⟨last, ran, sameLast, statuses⟩ := ih stillRegistered
      refine ⟨last, (Task.run_bind_ok changedHere).trans ran, sameLast.trans same, ?_⟩
      rw [statuses, set, assign_cons, List.map_cons]

/-- Setting statuses up to the first unregistered player. -/
theorem lapses_setAll (players : List GamePlayerInfo) (state : AppState) :
    Lapses (· ∈ players.map GamePlayerInfo.addr) state.status
      ((Task.forEach players fun player => withClientMut player.addr fun client =>
        { client with playerStatus := playerStatusIdle }).run state).2.status := by
  let body : GamePlayerInfo → Handler Unit := fun player =>
    withClientMut player.addr fun client => { client with playerStatus := playerStatusIdle }
  induction players generalizing state with
  | nil => exact .refl rfl
  | cons player rest ih =>
      have first : Lapses (· ∈ (player :: rest).map GamePlayerInfo.addr) state.status
          ((body player).run state).2.status := by
        rw [show ((body player).run state).2.status = _ from status_setOne _ _ state]
        refine (lapses_assign [player.addr]).mono fun addr member => ?_
        simp [List.mem_singleton.mp member]
      rcases changed : (body player).run state with ⟨outcome, next⟩
      rw [changed] at first
      cases outcome with
      | error report =>
          have ran : (Task.forEach (player :: rest) body).run state = (.error report, next) :=
            Task.run_forEach_cons_error changed
          exact ran ▸ first
      | ok _ =>
          have ran : (Task.forEach (player :: rest) body).run state =
              (Task.forEach rest body).run next := Task.run_forEach_cons changed
          refine ran ▸ first.trans ((ih next).mono fun addr member => ?_)
          exact List.mem_cons_of_mem _ member

/-! ## Dropping -/

/-- What follows the statuses in an announced drop. -/
theorem steady_afterReset (gameId : UInt32) (username : Bytes) (playerId : Nat)
    (frames : List Frame) (players : List GamePlayerInfo) : Keeps AppState.status (do
      broadcastPacketToGame gameId Msg.dropGame
        (buildDropGamePacket username (.ofNat (playerId + 1)))
      Task.forEach frames (sendFrame players)
      return true : Handler Bool) := by
  refine (deaf_status.broadcastPacketToGame _ _ _).bind fun _ => ?_
  refine Task.Each.bind (Task.Each.forEach (fun frame => ?_) frames) fun _ => keeps_pure true
  unfold sendFrame
  split
  · exact keeps_fail _
  · exact steady_sendOutput _

theorem lapses_announceDrop (gameId : UInt32) (username : Bytes) (playerId : Nat)
    (frames : List Frame) (players : List GamePlayerInfo) (state : AppState) :
    Lapses (· ∈ players.map GamePlayerInfo.addr) state.status
      ((announceDrop gameId username playerId frames players).run state).2.status := by
  have rest : ∀ _ : Unit, Keeps AppState.status (do
      broadcastPacketToGame gameId Msg.dropGame
        (buildDropGamePacket username (.ofNat (playerId + 1)))
      Task.forEach frames (sendFrame players)
      return true : Handler Bool) := fun _ =>
    steady_afterReset gameId username playerId frames players
  have set := lapses_setAll players state
  rwa [← status_bind_steady rest] at set

/-- Marking a slot is no matter of statuses. -/
theorem status_markDropped (gameId : UInt32) (ref : GameRef) (playerId : Nat) (state : AppState) :
    (markDropped gameId ref playerId state).2.status = state.status := by
  cases running : (state.games.arena ref).syncManager with
  | none => simp only [markDropped, running]
  | some sync =>
      rcases called : sync.call gameId (.drop playerId) with ⟨result, next⟩
      simp only [markDropped, running, called]
      cases result with
      | error error => rfl
      | ok frames =>
          dsimp only
          split
          · split
            next ran =>
              rw [value_of_run (deaf_status.broadcastPacket _ _) ran]
              rfl
            next ran =>
              rw [value_of_run (deaf_status.broadcastPacket _ _) ran]
              rfl
          · rfl

/-- A drop marks the slot of players which the game lists. -/
theorem players_markDropped {gameId : UInt32} {ref : GameRef} {playerId : Nat} {state next : AppState}
    {frames : List Frame} {players : List GamePlayerInfo} {ended : Bool}
    (ran : markDropped gameId ref playerId state = (.ok (frames, players, ended), next)) :
    players = (state.games.arena ref).players := by
  cases running : (state.games.arena ref).syncManager with
  | none => simp [markDropped, running] at ran
  | some sync =>
      rcases called : sync.call gameId (.drop playerId) with ⟨result, dropped⟩
      simp only [markDropped, running, called] at ran
      cases result with
      | error error => simp at ran
      | ok released =>
          dsimp only at ran
          split at ran
          · split at ran
            · simp only [Prod.mk.injEq, Except.ok.injEq] at ran
              exact ran.1.2.1.symm
            · simp at ran
          · simp only [Prod.mk.injEq, Except.ok.injEq] at ran
            exact ran.1.2.1.symm

/-- A drop resets the statuses of listed players only. -/
theorem lapses_executeDropGame (gameId : UInt32) (src : SocketAddr) (state : AppState) :
    Lapses (fun addr => (state.games.find gameId).any (fun game => game.lists addr) = true)
      state.status ((executeDropGame gameId src).run state).2.status := by
  rw [executeDropGame, Task.run_bind, run_getClient]
  cases state.clients.find src with
  | none => exact .refl rfl
  | some client =>
      simp only [Task.run_bind, run_getGameArc, GameTable.find]
      cases here : state.games.byId gameId with
      | none => exact .refl rfl
      | some ref =>
          simp only [Option.map_some, Task.run_bind, Task.run_inspect, Option.any_some]
          cases dropperSlot src (state.games.arena ref) with
          | none => exact .refl rfl
          | some playerId =>
              simp only [Task.run_bind, run_getGameArc, here, Task.run_critical]
              have marked := status_markDropped gameId ref playerId state
              rcases ran : markDropped gameId ref playerId state with ⟨outcome, next⟩
              rw [ran] at marked
              cases outcome with
              | error report => exact .refl marked
              | ok result =>
                  obtain ⟨frames, players, ended⟩ := result
                  obtain rfl := players_markDropped ran
                  have announced : Lapses
                      (fun addr => (state.games.arena ref).lists addr = true) state.status
                      ((announceDrop gameId client.username playerId frames
                        (state.games.arena ref).players).run next).2.status := by
                    refine (Lapses.refl marked).trans ?_
                    refine (lapses_announceDrop gameId _ playerId frames _ next).mono fun addr => ?_
                    simp [GameInfo.lists]
                  cases ended with
                  | false => exact announced
                  | true =>
                      simp only [if_true, Task.run_bind, run_getGame]
                      split
                      · have closed : Keeps AppState.status (do
                            removeGame gameId
                            broadcastPacket Msg.closeGame (buildCloseGamePacket gameId)
                            return true : Handler Bool) := by
                          apply Task.Each.bind (steady_critical fun _ => rfl)
                          intro _
                          exact Task.Each.bind (deaf_status.broadcastPacket _ _) fun _ =>
                            keeps_pure true
                        exact .refl ((closed.keeps next).trans marked)
                      · exact announced

/-! ## Leaving -/

/-- Whoever is listed after somebody left was listed before. -/
theorem GameInfo.lists_of_leave {game : GameInfo} {leaver addr : SocketAddr}
    (listed : (game.leave leaver).2.lists addr = true) : game.lists addr = true := by
  have listed_iff : ∀ game : GameInfo, game.lists addr = true ↔
      addr ∈ game.players.map GamePlayerInfo.addr := by simp [lists]
  rw [listed_iff] at listed ⊢
  cases running : game.syncManager with
  | some sync => rwa [(game.leave_keeps leaver).2 (by simp [running])] at listed
  | none =>
      simp only [leave, running, players_migrate, recount] at listed
      split at listed
      · exact List.map_subset _ List.eraseIdx_subset listed
      · exact listed

/-- The group whose statuses a departure from a game may reset. -/
def AppState.company (state : AppState) (gameId : UInt32) (leaver addr : SocketAddr) : Prop :=
  addr = leaver ∨ (state.games.find gameId).any (fun game => game.lists addr) = true

theorem lapses_settleQuit (gameId : UInt32) (src : SocketAddr) (quitData : Bytes)
    (outcome : GameInfo.QuitOutcome) (state : AppState) :
    Lapses (fun addr => (state.games.find gameId).any (fun game => game.lists addr) = true)
      state.status ((settleQuit gameId src quitData outcome).run state).2.status := by
  cases outcome with
  | playing =>
      have dropped := lapses_executeDropGame gameId src state
      rw [settleQuit, status_bind_steady, Task.run_attempt]
      · exact dropped
      intro _
      apply Task.Each.bind (keeps_getGame gameId)
      rintro (_ | game)
      · exact deaf_status.broadcastPacket _ _
      · exact (deaf_status.broadcastPacketToGame _ _ _).bind fun _ => deaf_status.broadcastPacket _ _
  | waitingClosed =>
      apply Lapses.refl
      apply Task.Each.keeps
      apply Task.Each.bind (steady_critical fun _ => rfl)
      exact fun _ => (deaf_status.broadcastPacket _ _).bind fun _ => deaf_status.broadcastPacket _ _
  | waitingOpen =>
      apply Lapses.refl
      apply Task.Each.keeps
      exact (deaf_status.broadcastPacketToGame _ _ _).bind fun _ => deaf_status.announceStatus _

/-- Leaving a game by its reference. -/
theorem lapses_leave {state next : AppState} {gameId : UInt32} {ref : GameRef}
    (here : state.games.byId gameId = some ref) (leaver : SocketAddr)
    (sameGames : next.games = state.games)
    (left : Lapses (· = leaver) state.status next.status)
    (unready : next.status leaver ≠ some playerStatusNetSync) {after : AppState}
    (settled : Lapses (fun addr => ((next.games.write ref
        ((next.games.arena ref).leave leaver).2).find gameId).any (fun game => game.lists addr) = true)
      next.status after.status) :
    Lapses (state.company gameId leaver) state.status after.status ∧
      after.status leaver ≠ some playerStatusNetSync := by
  refine ⟨(left.mono fun _ => .inl).trans (settled.mono fun addr listed => .inr ?_),
    settled.unready unready⟩
  have opened : state.games.find gameId = some (state.games.arena ref) := by
    rw [GameTable.find, here, Option.map_some]
  rw [sameGames, GameTable.find_write _ here, Function.update_self] at listed
  rw [opened]
  exact GameInfo.lists_of_leave listed

/-- Quitting resets the statuses of the players of the game, and that of the quitter, who does
not leave ready. -/
theorem lapses_handleQuitGame (src : SocketAddr) (state : AppState) :
    Lapses (fun addr => ∃ gameId, state.hall.gameOf src = some gameId ∧
      state.company gameId src addr) state.status ((handleQuitGame src).run state).2.status ∧
    ∀ gameId, state.hall.gameOf src = some gameId → (state.games.find gameId).isSome = true →
      ((handleQuitGame src).run state).2.status src ≠ some playerStatusNetSync := by
  rw [handleQuitGame, Task.run_bind, run_getClient]
  cases found : state.clients.find src with
  | none => exact ⟨.refl rfl, fun gameId inGame => by simp [Hall.gameOf, found] at inGame⟩
  | some client =>
      dsimp only
      cases inGame : client.gameId with
      | none => exact ⟨.refl rfl, fun gameId playing => by simp [Hall.gameOf, found, inGame] at playing⟩
      | some gameId =>
          have playing : state.hall.gameOf src = some gameId := by
            simp [Hall.gameOf, found, inGame]
          simp only [Task.run_bind, run_getGameArc]
          cases here : state.games.byId gameId with
          | none =>
              refine ⟨.refl rfl, fun other inOther listed => ?_⟩
              obtain rfl := Option.some.inj (playing.symm.trans inOther)
              simp [GameTable.find, here] at listed
          | some ref =>
              have sets : ∀ client : ClientInfo,
                  client.toLobby.toMember = { client.toMember with gameId := none } := fun _ => rfl
              obtain ⟨next, left, _, games⟩ := run_setGame found sets
              have lapsed := lapses_toLobby src state
              rw [left] at lapsed
              simp only [Task.run_bind, left, lockGame, Task.run_critical]
              let departed : AppState := { next with
                games := next.games.write ref ((next.games.arena ref).leave src).2 }
              have settled := lapses_settleQuit gameId src
                (buildQuitGamePacket client.username client.userId)
                ((next.games.arena ref).leave src).1.1 departed
              have unready := unready_toLobby src state
              rw [left] at unready
              have lapses := lapses_leave here src games lapsed unready settled
              have announced := @status_bind_steady _ _ (settleQuit gameId src
                (buildQuitGamePacket client.username client.userId)
                ((next.games.arena ref).leave src).1.1) _ (fun _ => deaf_status.announceOwner gameId
                  ((next.games.arena ref).leave src).1.2) departed
              rw [← announced, Task.run_bind] at lapses
              exact ⟨lapses.1.mono fun addr member => ⟨gameId, playing, member⟩,
                fun _ _ _ => lapses.2⟩

/-- Kicking resets the statuses of the players of the game, and that of the kicked client, who
does not leave ready. -/
theorem lapses_kickFrom (gameId : UInt32) (addr : SocketAddr) (quitData : Bytes) (state : AppState)
    {client : ClientInfo} (found : state.clients.find addr = some client) {game : GameInfo}
    (opened : state.games.find gameId = some game) :
    Lapses (state.company gameId addr) state.status
        ((kickFrom gameId addr quitData).run state).2.status ∧
      ((kickFrom gameId addr quitData).run state).2.status addr ≠ some playerStatusNetSync := by
  rw [kickFrom, Task.run_bind, run_getGameArc]
  cases here : state.games.byId gameId with
  | none => simp [GameTable.find, here] at opened
  | some ref =>
      have sets : ∀ client : ClientInfo,
          client.toLobby.toMember = { client.toMember with gameId := none } := fun _ => rfl
      obtain ⟨next, left, _, games⟩ := run_setGame found sets
      have lapsed := lapses_toLobby addr state
      have unready := unready_toLobby addr state
      rw [left] at lapsed unready
      simp only [Task.run_bind, Task.run_attempt, left, lockGame, Task.run_critical]
      let departed : AppState := { next with
        games := next.games.write ref ((next.games.arena ref).leave addr).2 }
      have announced : Keeps AppState.status (announceKick gameId addr quitData) :=
        deaf_status.announceKick gameId addr quitData
      by_cases playing : ((next.games.arena ref).leave addr).1.1 = .playing
      · simp only [playing, if_true]
        have dropped := lapses_leave here addr games lapsed unready
          (lapses_executeDropGame gameId addr departed)
        have same := @status_bind_steady _ _ (executeDropGame gameId addr).attempt _
          (fun _ => announced) departed
        rw [Task.run_attempt] at same
        rwa [← same] at dropped
      · simp only [playing, if_false]
        exact lapses_leave here addr games lapsed unready (.refl (announced.keeps departed))

/-! ## Every message -/

/-- Who leaves a game, or drops in it, by a message. -/
def Hall.departure (hall : Hall) (src : SocketAddr) : Request → Option (UInt32 × SocketAddr)
  | .quitGame _ => (hall.gameOf src).map fun gameId => (gameId, src)
  | .userQuit _ => (hall.gameOf src).map fun gameId => (gameId, src)
  | .kickUser data => (parseKickUser data).bind fun userId => hall.kickTarget userId src
  | .dropGame _ => (hall.resolve src).map fun place => (place.1, src)
  | _ => none

/-- Whether a message makes somebody leave, or drop in, a game which lists the address. -/
def Hall.disturbs (hall : Hall) (src : SocketAddr) (request : Request) (addr : SocketAddr) : Bool :=
  (hall.departure src request).any fun (gameId, _) =>
    (hall.room gameId).any fun game => game.lists addr

/-- Whether a message makes an address leave a game. -/
def Hall.leaves (hall : Hall) (src : SocketAddr) (request : Request) (addr : SocketAddr) : Bool :=
  match request with
  | .dropGame _ => false
  | request => (hall.departure src request).any fun (gameId, leaver) =>
      (hall.room gameId).isSome && decide (leaver = addr)

/-- The messages which are about neither readiness nor a start. -/
def Request.isPlain : Request → Bool
  | .startGame _ => false
  | .readyToPlay _ => false
  | _ => true

theorem steady_handleCreateGame (data : Bytes) (src : SocketAddr) :
    Keeps AppState.status (handleCreateGame data src) := by
  have checked : Keeps AppState.status (checkAlreadyInGame src) := by
    refine each_checkAlreadyInGame ?_ (steady_setGame src none)
    intro state
    rfl
  apply Task.Each.bind checked
  rintro (_ | _)
  · apply Task.Each.bind (steady_critical fun _ => rfl)
    intro gameId
    apply Task.Each.bind (keeps_fetchClientInfo src)
    intro client
    apply Task.Each.bind (steady_critical fun _ => rfl)
    intro _
    apply Task.Each.bind (steady_setGame src (some gameId))
    exact fun _ => deaf_status.announceCreatedGame src gameId _ client
  · exact keeps_pure ()

theorem steady_handleJoinGame (data : Bytes) (src : SocketAddr) :
    Keeps AppState.status (handleJoinGame data src) := by
  unfold handleJoinGame
  cases parseJoinGame data with
  | none => exact keeps_pure ()
  | some gameId =>
      apply Task.Each.bind (keeps_inspect _)
      rintro (_ | client)
      · exact keeps_fail _
      dsimp only
      split
      · exact keeps_pure ()
      · apply Task.Each.bind (keeps_getGame gameId)
        rintro (_ | game)
        · exact keeps_pure ()
        dsimp only
        split
        · apply Task.Each.bind (steady_setGame src (some gameId))
          intro _
          apply Task.Each.bind (steady_withGameMut src _)
          exact fun _ => deaf_status.announceJoinedGame src gameId
        · exact keeps_pure ()

/-- Feeding an engine is no matter of statuses. -/
theorem clients_processInput {Failure : Type} (notInitialized : Failure)
    (engineError : GameSyncError → Failure) (invalidPlayer : Nat → Nat → Failure) (gameId : UInt32)
    (ref : GameRef) (playerId : Nat) (input : ClientInput) (state : AppState) :
    (processInput notInitialized engineError invalidPlayer gameId ref playerId input state).2.clients =
      state.clients := by
  unfold processInput
  dsimp only
  split
  · rfl
  · split
    · rfl
    · split <;> rfl

theorem steady_handleGameData (data : Bytes) (src : SocketAddr) :
    Keeps AppState.status (handleGameData data src) := by
  unfold handleGameData
  cases parseGameData data with
  | none => exact keeps_pure ()
  | some bytes =>
      apply Task.Each.bind (keeps_resolveInGame src)
      rintro (_ | ⟨gameId, playerId⟩)
      · exact keeps_pure ()
      apply Task.Each.bind (keeps_inspect _)
      rintro (_ | ref)
      · exact keeps_fail _
      apply Task.Each.bind (steady_critical fun state => clients_processInput _ _ _ _ _ _ _ state)
      exact fun outputs => steady_sendOutputs outputs

theorem steady_handleGameCache (data : Bytes) (src : SocketAddr) :
    Keeps AppState.status (handleGameCache data src) := by
  unfold handleGameCache
  cases parseGameCache data with
  | none => exact keeps_pure ()
  | some position =>
      apply Task.Each.bind (keeps_resolveInGame src)
      rintro (_ | ⟨gameId, playerId⟩)
      · exact keeps_pure ()
      apply Task.Each.bind (keeps_inspect _)
      rintro (_ | ref)
      · exact keeps_fail _
      have processed : Keeps AppState.status (processCache gameId ref playerId position) := by
        apply steady_critical
        exact fun state => clients_processInput _ _ _ gameId ref playerId (.gameCache position) state
      apply Task.Each.bind processed
      rintro (error | outputs)
      · cases error with
        | cachePositionNotFound playerId missing =>
            exact (deaf_status.sendPacket src _ _).bind fun _ => keeps_fail _
        | invalidPlayerId playerId playerCount => exact keeps_fail _
        | bufferInconsistency message => exact keeps_fail _
      · exact steady_sendOutputs outputs

/-- The statuses which a message may reset, by the departure which it causes. -/
def AppState.disturbed (state : AppState) (src : SocketAddr) (request : Request)
    (addr : SocketAddr) : Prop :=
  ∃ gameId leaver, state.hall.departure src request = some (gameId, leaver) ∧
    state.company gameId leaver addr

theorem lapses_handleKickUser (data : Bytes) (src : SocketAddr) (state : AppState) :
    Lapses (state.disturbed src (.kickUser data)) state.status
      ((handleKickUser data src).run state).2.status := by
  unfold handleKickUser
  cases parsed : parseKickUser data with
  | none => exact .refl rfl
  | some userId =>
      rw [Task.run_bind, run_getClient]
      cases found : state.clients.find src with
      | none => exact .refl rfl
      | some requester =>
          dsimp only
          cases inGame : requester.gameId with
          | none => exact .refl rfl
          | some gameId =>
              simp only [Task.run_bind, run_getGame]
              cases opened : state.games.find gameId with
              | none => exact .refl rfl
              | some game =>
                  simp only
                  split
                  next allowed =>
                    simp only [Task.run_bind, Task.run_inspect]
                    cases target : state.clients.findByUserId userId with
                    | none => exact .refl rfl
                    | some entry =>
                        obtain ⟨addr, kicked⟩ := entry
                        simp only [Task.run_bind, run_getClient]
                        cases foundTarget : state.clients.find addr with
                        | none => exact .refl rfl
                        | some client =>
                            simp only
                            split
                            next same =>
                              refine (lapses_kickFrom gameId addr _ state foundTarget opened).1.mono ?_
                              intro other member
                              refine ⟨gameId, addr, ?_, member⟩
                              have named : state.hall.findByUserId userId = some addr := by
                                rw [← findByUserId_roster, target]
                                rfl
                              simp [Hall.departure, parsed, Hall.kickTarget, found, inGame, opened,
                                named, foundTarget, same, allowed]
                            next => exact .refl rfl
                  next => exact .refl rfl

/-- A kicked client is not ready. -/
theorem unready_kicked {data : Bytes} {src addr : SocketAddr} {gameId : UInt32} {state : AppState}
    (departs : state.hall.departure src (.kickUser data) = some (gameId, addr)) :
    ((handleKickUser data src).run state).2.status addr ≠ some playerStatusNetSync := by
  obtain ⟨userId, parsed, target⟩ := Option.bind_eq_some_iff.mp departs
  simp only [Hall.kickTarget, Option.bind_eq_some_iff, Option.ite_none_right_eq_some,
    Option.some.injEq, Prod.mk.injEq] at target
  obtain ⟨member, known, current, playing, room, here, leaver, named, allowed, rfl, rfl⟩ := target
  obtain ⟨owns, owner, kickedMember, knownTarget, inGame⟩ := allowed
  rw [hall_member] at known knownTarget
  obtain ⟨requester, found, rfl⟩ := Option.map_eq_some_iff.mp known
  obtain ⟨client, foundTarget, rfl⟩ := Option.map_eq_some_iff.mp knownTarget
  rw [← findByUserId_roster] at named
  obtain ⟨⟨addr, kicked⟩, target, rfl⟩ := Option.map_eq_some_iff.mp named
  have playingHere : requester.gameId = some current := playing
  have opened : state.games.find current = some room := here
  have inGameHere : client.gameId = some current := inGame
  unfold handleKickUser
  simp only [parsed, Task.run_bind, run_getClient, found, playingHere, run_getGame, opened]
  rw [if_pos ⟨owns, owner⟩]
  simp only [Task.run_bind, Task.run_inspect, target, run_getClient, foundTarget, inGameHere, if_true]
  exact (lapses_kickFrom current addr _ state foundTarget opened).2

theorem lapses_handleDropGame (data : Bytes) (src : SocketAddr) (state : AppState) :
    Lapses (state.disturbed src (.dropGame data)) state.status
      ((handleDropGame src).run state).2.status := by
  rw [handleDropGame, Task.run_bind, run_resolveInGame]
  cases resolved : state.hall.resolve src with
  | none => exact .refl rfl
  | some place =>
      obtain ⟨gameId, slot⟩ := place
      dsimp only
      rw [status_bind_steady fun _ => keeps_pure ()]
      refine (lapses_executeDropGame gameId src state).mono fun addr listed => ?_
      exact ⟨gameId, src, by simp [Hall.departure, resolved], .inr listed⟩

/-- Forgetting a client forgets its status. -/
theorem status_remove (state : AppState) (addr : SocketAddr) :
    ({ state with clients := state.clients.remove addr } : AppState).status =
      Function.update state.status addr none := by
  ext1 other
  simp only [AppState.status, state.clients.find_remove]
  by_cases same : other = addr
  · simp [same]
  · simp [same, AppState.status]

theorem status_handleUserQuit (data : Bytes) (src : SocketAddr) (state : AppState) :
    ((handleUserQuit data src).run state).2.status =
      Function.update ((handleQuitGame src).run state).2.status src none := by
  obtain ⟨next, ran, _⟩ := run_handleQuitGame src state
  have removed : (removeClient src).run next =
      (.ok (next.clients.find src), { next with clients := next.clients.remove src }) := rfl
  rw [handleUserQuit, Task.run_bind_ok ran, Task.run_bind_ok removed, ran, ← status_remove]
  have closed : Keeps AppState.status (closeSession src) := steady_critical fun _ => rfl
  cases next.clients.find src with
  | none => exact (Task.Each.bind (keeps_pure ()) fun _ => closed).keeps _
  | some client => exact ((deaf_status.broadcastPacket _ _).bind fun _ => closed).keeps _

/-- A plain message forgets a status, or returns it to idle because of a departure. -/
theorem status_step (config : Config) (state : AppState) (src : SocketAddr) {request : Request}
    (plain : request.isPlain = true) (addr : SocketAddr) :
    ((server config).step state (src, request)).2.status addr = state.status addr ∨
      ((server config).step state (src, request)).2.status addr = none ∨
      state.disturbed src request addr ∧
        ((server config).step state (src, request)).2.status addr = some playerStatusIdle := by
  have steady : ∀ {task : Handler Unit}, Keeps AppState.status task →
      (task.run state).2.status addr = state.status addr :=
    fun kept => congrFun (kept.keeps state) addr
  have lapsed : ∀ {after : SocketAddr → Option UInt8},
      Lapses (state.disturbed src request) state.status after →
        after addr = state.status addr ∨ after addr = none ∨
          state.disturbed src request addr ∧ after addr = some playerStatusIdle :=
    fun lapses => (lapses addr).imp_right .inr
  have quitted : Lapses (state.disturbed src (.quitGame [])) state.status
      ((handleQuitGame src).run state).2.status := by
    refine (lapses_handleQuitGame src state).1.mono ?_
    rintro other ⟨gameId, playing, member⟩
    exact ⟨gameId, src, by simp [Hall.departure, playing], member⟩
  cases request with
  | createGame data => exact .inl (steady (steady_handleCreateGame data src))
  | joinGame data => exact .inl (steady (steady_handleJoinGame data src))
  | quitGame data => exact lapsed quitted
  | userQuit data =>
      have removed := congrFun (status_handleUserQuit data src state) addr
      by_cases same : addr = src
      · subst same
        rw [Function.update_self] at removed
        exact .inr (.inl removed)
      · rw [Function.update_of_ne same] at removed
        have kept := lapsed quitted
        rw [← removed] at kept
        exact kept
  | kickUser data => exact lapsed (lapses_handleKickUser data src state)
  | dropGame data => exact lapsed (lapses_handleDropGame data src state)
  | gameData data => exact .inl (steady (steady_handleGameData data src))
  | gameCache data => exact .inl (steady (steady_handleGameCache data src))
  | startGame data => simp [Request.isPlain] at plain
  | readyToPlay data => simp [Request.isPlain] at plain

/-- Whoever leaves a game by a message is not ready after it. -/
theorem unready_leaver (config : Config) {state : AppState} {src addr : SocketAddr}
    {request : Request} (leaves : state.hall.leaves src request addr = true) :
    ((server config).step state (src, request)).2.status addr ≠ some playerStatusNetSync := by
  have quits : ((state.hall.gameOf src).map fun gameId => (gameId, src)).any (fun (gameId, leaver) =>
      (state.hall.room gameId).isSome && decide (leaver = addr)) = true →
        addr = src ∧ ((handleQuitGame src).run state).2.status src ≠ some playerStatusNetSync := by
    intro leaves
    obtain ⟨_, here, left⟩ := (Option.any_eq_true ..).mp leaves
    obtain ⟨gameId, playing, rfl⟩ := Option.map_eq_some_iff.mp here
    obtain ⟨opened, same⟩ := Bool.and_eq_true_iff.mp left
    exact ⟨(of_decide_eq_true same).symm, (lapses_handleQuitGame src state).2 gameId playing opened⟩
  cases request with
  | quitGame data =>
      obtain ⟨rfl, unready⟩ := quits leaves
      exact unready
  | userQuit data =>
      obtain ⟨rfl, _⟩ := quits leaves
      have removed := congrFun (status_handleUserQuit data addr state) addr
      rw [Function.update_self] at removed
      change ((handleUserQuit data addr).run state).2.status addr ≠ _
      rw [removed]
      rintro ⟨⟩
  | kickUser data =>
      obtain ⟨⟨gameId, leaver⟩, departs, left⟩ := (Option.any_eq_true ..).mp leaves
      obtain rfl := of_decide_eq_true (Bool.and_eq_true_iff.mp left).2
      exact unready_kicked departs
  | _ => cases leaves

/-! ## Starting -/

/-- Announcing a start makes the players idle. -/
theorem status_announceStart (gameId : UInt32) (src : SocketAddr) {players : List GamePlayerInfo}
    (advertised : List Nat) {state : AppState}
    (registered : ∀ player ∈ players, (state.hall.member player.addr).isSome = true) :
    ((announceStart gameId src players advertised).run state).2.status =
      assign (players.map GamePlayerInfo.addr) playerStatusIdle state.status := by
  obtain ⟨next, set, _, statuses⟩ := status_setAll registered playerStatusIdle
  rw [announceStart, Task.run_bind_ok set, ← statuses]
  apply Task.Each.keeps
  refine (keeps_fetchGameInfo src).bind fun game => (deaf_status.broadcastPacket _ _).bind fun _ => ?_
  refine Task.Each.bind (Task.Each.forEach (fun _ => deaf_status.sendPacket _ _ _) _) fun _ => ?_
  exact deaf_status.broadcastPacketToGame gameId _ _

/-- A started game makes its players idle. -/
theorem status_startFrom (config : Config) {state : AppState} {src : SocketAddr}
    {client : ClientInfo} (found : state.clients.find src = some client) {gameId : UInt32}
    (inGame : client.gameId = some gameId) {game : GameInfo}
    (opened : state.games.find gameId = some game)
    (registered : ∀ player ∈ game.inRoom, (state.hall.member player.addr).isSome = true) :
    ((startFrom config gameId src).run state).2.status =
      assign (game.inRoom.map GamePlayerInfo.addr) playerStatusIdle state.status := by
  obtain ⟨purged, ran, hall, clients⟩ := run_withGameMut found inGame opened GameInfo.purge
  have purgeSteady := value_of_run (steady_withGameMut src GameInfo.purge) ran
  rw [← clients] at found
  have openedPurged : purged.games.find gameId = some game.purge :=
    (congrFun (congrArg Hall.room hall) gameId).trans (Function.update_self ..)
  rw [startFrom, Task.run_bind_ok ran, Task.run_bind_ok (run_fetchGameInfo found inGame openedPurged),
    Task.run_bind_ok (run_fetchPings config game.purge.players purged)]
  obtain ⟨started, begun, hallStarted, _⟩ := run_withGameMut found inGame openedPurged fun game' =>
    game'.begin (game.purge.players.map fun player => player.connType.toNat)
      (sizeDelays config game.purge.players (purged.hall.pings config game.purge.players)).2
      config.disableOutputCache
  have beginSteady := value_of_run (steady_withGameMut src _) begun
  have stillRegistered : ∀ player ∈ game.purge.players,
      (started.hall.member player.addr).isSome = true := by
    intro player member
    rw [hallStarted, hall]
    exact registered player member
  simp only
  rw [Task.run_bind_ok begun, status_announceStart gameId src _ stillRegistered, beginSteady,
    purgeSteady]
  rfl

/-- Everybody in a room is registered. -/
theorem Hall.Sound.registered {hall : Hall} (sound : hall.Sound Hall.nobody) {gameId : UInt32}
    {game : GameInfo} (here : hall.room gameId = some game) {player : GamePlayerInfo}
    (inRoom : player ∈ game.inRoom) :
    hall.gameOf player.addr = some gameId ∧ (hall.member player.addr).isSome = true := by
  obtain ⟨listed, stays⟩ := GameInfo.mem_inRoom.mp inRoom
  have playing := (sound.seated gameId game here player listed).mp stays
  refine ⟨playing, ?_⟩
  obtain ⟨member, known, _⟩ := Option.bind_eq_some_iff.mp playing
  simp [known]

/-- A start begins a waiting game of the sender and makes its players idle, or it does
nothing to rooms, members and statuses. -/
theorem start_step (config : Config) {state : AppState} (sound : state.hall.Sound Hall.nobody)
    (src : SocketAddr) (data : Bytes) :
    let after := ((server config).step state (src, .startGame data)).2
    after.hall = state.hall ∧ after.status = state.status ∨
      ∃ gameId game warmups, state.hall.room gameId = some game ∧ game.syncManager = none ∧
        (∃ player ∈ game.inRoom, player.addr = src) ∧
        after.hall = state.hall.setRoom gameId (some (game.purge.begin
          (game.purge.players.map fun player => player.connType.toNat) warmups
          config.disableOutputCache)) ∧
        after.status =
          assign (game.inRoom.map GamePlayerInfo.addr) playerStatusIdle state.status := by
  dsimp only [server, handleMessage]
  unfold handleStartGame
  split
  · exact .inl ⟨rfl, rfl⟩
  · rw [Task.run_bind, run_getClient]
    cases found : state.clients.find src with
    | none => exact .inl ⟨rfl, rfl⟩
    | some client =>
        dsimp only
        cases inGame : client.gameId with
        | none => exact .inl ⟨rfl, rfl⟩
        | some gameId =>
            simp only [Task.run_bind, run_getGame]
            cases opened : state.games.find gameId with
            | none => exact .inl ⟨rfl, rfl⟩
            | some game =>
                simp only
                split
                next lists =>
                  split
                  next live =>
                    exact .inl ⟨(quiet_broadcastPacketToGame _ _ _).hall state,
                      (deaf_status.broadcastPacketToGame _ _ _).keeps state⟩
                  next idle =>
                    split
                    next owner =>
                      have waiting : game.syncManager = none := by simpa using idle
                      have everybody := (sound.rooms gameId game opened).inRoom_waiting waiting
                      refine .inr ⟨gameId, game, _, opened, waiting, ?_,
                        hall_startFrom config found inGame opened,
                        status_startFrom config found inGame opened fun player inRoom =>
                          (sound.registered opened inRoom).2⟩
                      rw [everybody]
                      simpa [GameInfo.lists] using lists
                    next => exact .inl ⟨rfl, rfl⟩
                next => exact .inl ⟨rfl, rfl⟩

end Direlera.Lobby
