import Direlera.Locks.Flows

/-!
# Deadlocks

The two nestings of a `Scene` are one too many: without either of them the locks have an
order, and all tasks finish however they are interleaved. With both, a client which completes
its handshake while the last player of a listed game drops can stop the server for good.
-/

namespace Direlera.Locks

open Direlera.Library LockFlow

variable {scene : Scene}

/-! ## Every function nests its locks as `Nests` says -/

section Nested

variable {held : List Lock} {body : Flow}

@[simp] theorem nested_lockGame : Nested (Nests scene) held (lockGame body) ↔
    ∀ ref, (∀ own ∈ held, Nests scene own (.game ref)) ∧
      Nested (Nests scene) (.game ref :: held) body := by
  simp [lockGame]

@[simp] theorem nests_clients : Nests scene .clientsByAddr .clientsById := .clients

@[simp] theorem nested_readClients : Nested (Nests scene) [] (readClients body) ↔
    Nested (Nests scene) [.clientsById, .clientsByAddr] body := by
  simp [readClients]

@[simp] theorem nested_lookUpClient : Nested (Nests scene) [] lookUpClient := by
  simp [lookUpClient]

@[simp] theorem nested_getClient : Nested (Nests scene) [] getClient := nested_lookUpClient

@[simp] theorem nested_removeClient : Nested (Nests scene) [] removeClient := by
  simp [removeClient]

@[simp] theorem nested_getGame : Nested (Nests scene) [] getGame := by simp [getGame]

@[simp] theorem nested_removeGame : Nested (Nests scene) [] removeGame := by simp [removeGame]

@[simp] theorem nested_getGameArc : Nested (Nests scene) [] getGameArc := by simp [getGameArc]

@[simp] theorem nested_updateClient : Nested (Nests scene) [] updateClient := by
  simp [updateClient]

@[simp] theorem nested_sendPacket : Nested (Nests scene) [] sendPacket := nested_updateClient

@[simp] theorem nested_withClientMut : Nested (Nests scene) [] withClientMut :=
  nested_updateClient

@[simp] theorem nested_withGameMut : Nested (Nests scene) [] withGameMut := by
  simp [withGameMut, updateGame]

@[simp] theorem nested_fetchGameInfo : Nested (Nests scene) [] fetchGameInfo := by
  simp [fetchGameInfo]

@[simp] theorem nested_resolveInGame : Nested (Nests scene) [] resolveInGame := by
  simp [resolveInGame]

@[simp] theorem nested_makePlayerInformation : Nested (Nests scene) [] makePlayerInformation := by
  simp [makePlayerInformation]

/-- A broadcast needs both client maps to be allowed. -/
theorem nested_broadcastPacket_of (clients : ∀ own ∈ held,
    Nests scene own .clientsByAddr ∧ Nests scene own .clientsById) :
    Nested (Nests scene) held broadcastPacket := by
  have addrs := fun own member => (clients own member).1
  have ids := fun own member => (clients own member).2
  simpa [broadcastPacket, getAllClientAddrs] using And.intro addrs ids

@[simp] theorem nested_broadcastPacket : Nested (Nests scene) [] broadcastPacket :=
  nested_broadcastPacket_of (by simp)

@[simp] theorem nested_broadcastPacketToGame : Nested (Nests scene) [] broadcastPacketToGame := by
  simp [broadcastPacketToGame]

/-- The list of users and games is made where it may be. -/
theorem nested_makeServerStatus (status : scene.status = true) :
    Nested (Nests scene) [] makeServerStatus := by
  have maps : Nests scene .clientsByAddr .games ∧ Nests scene .clientsById .games :=
    ⟨.statusGames status (.inl rfl), .statusGames status (.inr rfl)⟩
  have games : ∀ ref, Nests scene .clientsByAddr (.game ref) ∧
      Nests scene .clientsById (.game ref) := fun ref =>
    ⟨.statusGame status (.inl rfl) ref, .statusGame status (.inr rfl) ref⟩
  simp [makeServerStatus, maps, games]

@[simp] theorem nested_markDropped : Nested (Nests scene) [] (markDropped scene) := by
  simp only [markDropped, nested_lockGame, nested_maybeWhen]
  refine fun ref => ⟨by simp, fun possible => nested_broadcastPacket_of fun own member => ?_⟩
  obtain rfl := List.mem_singleton.mp member
  exact ⟨.lastDrop possible (.inl rfl) ref, .lastDrop possible (.inr rfl) ref⟩

@[simp] theorem nested_executeDropGame : Nested (Nests scene) [] (executeDropGame scene) := by
  simp [executeDropGame]

@[simp] theorem nested_handleQuitGame : Nested (Nests scene) [] (handleQuitGame scene) := by
  simp [handleQuitGame]

theorem nested_handleMessage : Nested (Nests scene) [] (handleMessage scene) := by
  have welcome : scene.status = true → Nested (Nests scene) [] welcomeClient := fun status => by
    simp [welcomeClient, nested_makeServerStatus status, makeUserJoined]
  simp +contextual [handleMessage, handleUserQuit, handleUserLogin, findClientByUsername,
    removeClientByUsername, addClient, handleClientToServerAck, welcome, handleGlobalChat,
    handleGameChat, handleClientKeepAlive, handleCreateGame, fetchClientInfo, addGame,
    handleJoinGame, getAllClientAddrs, handleKickUser, handleStartGame, handleGameData, updateGame,
    handleGameCache, handleDropGame, handleReadyToPlaySignal]

@[simp] theorem nested_expel : Nested (Nests scene) [] (expel scene) := by simp [expel]

/-- Every task nests its locks as `Nests` says. -/
theorem ServerTask.nested (task : ServerTask) : Nested (Nests scene) [] (task.flow scene) := by
  cases task with
  | session =>
      simp [ServerTask.flow, handleSession, receivePacket, updateClientActivity,
        processPacketInSession, nested_handleMessage]
  | sessionManager => simp [ServerTask.flow, sessionManagerRun]
  | cleanup => simp [ServerTask.flow, startCleanupTask]
  | stallResend => simp [ServerTask.flow, startStallResendTask]
  | loginResend => simp [ServerTask.flow, startLoginResendTask]
  | masterList =>
      have games : ∀ ref, Nests scene .games (.game ref) := .collect
      simp [ServerTask.flow, masterListRun, collect, games]

end Nested

/-! ## Ways through a session -/

/-- One game after the other is locked. -/
def gameActs : List Nat → List (LockAct Lock)
  | [] => []
  | ref :: refs =>
      .acquire (.game ref) .exclusive :: .release (.game ref) .exclusive :: gameActs refs

/-- What `make_server_status` does with the locks, for the games of its list. -/
def statusActs (refs : List Nat) : List (LockAct Lock) :=
  [.acquire .clientsByAddr .shared, .acquire .clientsById .shared,
    .acquire .games .shared, .release .games .shared] ++ gameActs refs ++
  [.release .clientsById .shared, .release .clientsByAddr .shared]

/-- What `broadcast_packet` does with the locks. -/
def broadcastActs : List (LockAct Lock) :=
  [.acquire .clientsByAddr .shared, .release .clientsByAddr .shared,
    .acquire .clientsByAddr .shared, .acquire .clientsById .exclusive,
    .release .clientsById .exclusive, .release .clientsByAddr .shared]

/-- What `execute_drop_game` does with the locks while it marks the last player of a game. -/
def lastDropActs (ref : Nat) : List (LockAct Lock) :=
  .acquire (.game ref) .exclusive :: broadcastActs ++ [.release (.game ref) .exclusive]

theorem path_makeServerStatus (refs : List Nat) : Path makeServerStatus (statusActs refs) := by
  have games : Path (many (lockGame skip)) (gameActs refs) := by
    induction refs with
    | nil => exact .finished
    | cons ref refs ih =>
        have one : Path (lockGame skip)
            [.acquire (.game ref) .exclusive, .release (.game ref) .exclusive] :=
          .pick (.hold .skip)
        exact .again one ih
  have inside : Path (steps [read .games skip, many (lockGame skip)])
      ([.acquire .games .shared, .release .games .shared] ++ gameActs refs) :=
    .andThen (.hold .skip) (.returned games)
  have whole : Path makeServerStatus _ := path_read (path_read inside)
  simpa [statusActs] using whole

theorem path_broadcastPacket : Path broadcastPacket broadcastActs :=
  .andThen (path_read .skip) (.returned (path_read (path_write .skip)))

theorem path_markDropped (possible : scene.lastDrop = true) (ref : Nat) :
    Path (markDropped scene) (lastDropActs ref) :=
  .pick (path_write (path_maybeWhen possible path_broadcastPacket))

/-- `get_client` of a known client. -/
def lookUpActs : List (LockAct Lock) :=
  [.acquire .clientsByAddr .shared, .acquire .clientsById .shared,
    .release .clientsById .shared, .release .clientsByAddr .shared]

/-- `update_client`. -/
def updateActs : List (LockAct Lock) :=
  [.acquire .clientsByAddr .shared, .release .clientsByAddr .shared,
    .acquire .clientsById .exclusive, .release .clientsById .exclusive]

/-- `get_game_arc`. -/
def gamesActs : List (LockAct Lock) := [.acquire .games .shared, .release .games .shared]

/-- The acknowledgement which completes a handshake. -/
def handshakeActs (refs : List Nat) : List (LockAct Lock) :=
  updateActs ++ (statusActs refs ++ (updateActs ++ (lookUpActs ++ broadcastActs)))

/-- The drop which ends a game that everybody has left. -/
def dropActs (ref : Nat) : List (LockAct Lock) :=
  (lookUpActs ++ (gamesActs ++ gameActs [ref])) ++
    (lookUpActs ++ (gamesActs ++ (gameActs [ref] ++ (gamesActs ++ (lastDropActs ref ++
      ((gamesActs ++ gameActs [ref]) ++
        (([.acquire .games .exclusive, .release .games .exclusive] ++ gameActs [ref]) ++
          broadcastActs)))))))

/-- The login of a new name. -/
def loginActs : List (LockAct Lock) :=
  [.acquire .clientsById .shared, .release .clientsById .shared] ++
    ([.acquire .clientsByAddr .exclusive, .acquire .clientsById .exclusive,
      .release .clientsById .exclusive, .release .clientsByAddr .exclusive] ++ updateActs)

theorem path_getClient : Path getClient lookUpActs :=
  path_read (path_maybe (path_read .skip))

theorem path_updateClient : Path updateClient updateActs :=
  .andThen (path_read .skip) (.returned (path_write .skip))

theorem path_lockGame (ref : Nat) : Path (lockGame skip) (gameActs [ref]) :=
  .pick (path_write .skip)

theorem path_getGame (ref : Nat) : Path getGame (gamesActs ++ gameActs [ref]) :=
  .andThen (path_read .skip) (.returned (path_lockGame ref))

theorem path_handshake (possible : scene.status = true) (refs : List Nat) :
    Path (handleClientToServerAck scene) (handshakeActs refs) :=
  .andThen path_updateClient (.returned (path_oneOf 1 (path_maybeWhen possible
    (.andThen (path_makeServerStatus refs) (.andThen path_updateClient
      (.andThen path_getClient (.returned path_broadcastPacket)))))))

theorem path_drop (possible : scene.lastDrop = true) (ref : Nat) :
    Path (handleDropGame scene) (dropActs ref) :=
  .andThen (.andThen path_getClient (.andThen (path_read .skip) (.returned (path_lockGame ref))))
    (.returned (.andThen path_getClient (.andThen (path_read .skip) (.andThen (path_lockGame ref)
      (.andThen (path_read .skip) (.andThen (path_markDropped possible ref)
        (.returned (path_oneOf 0 (.andThen (path_getGame ref)
          (.andThen (.andThen (path_write .skip) (.returned (path_lockGame ref)))
            (.returned path_broadcastPacket)))))))))))

theorem path_login : Path (handleUserLogin scene) loginActs := by
  have added : Path addClient [.acquire .clientsByAddr .exclusive,
      .acquire .clientsById .exclusive, .release .clientsById .exclusive,
      .release .clientsByAddr .exclusive] := path_write (path_write .skip)
  have sent : Path (steps [addClient, sendPacket]) _ :=
    .andThen added (.returned path_updateClient)
  have stayed := @Path.andThen _ (maybe (steps [removeClientByUsername, broadcastPacket])) _ [] _
    path_not sent
  have unrelated := @Path.andThen _ (maybe (handleQuitGame scene)) _ [] _ path_not stayed
  exact .andThen (.returned (path_read .skip)) unrelated

/-- What a session does with a packet of one message. -/
def sessionActs (acts : List (LockAct Lock)) : List (LockAct Lock) :=
  [.acquire .sessions .exclusive, .release .sessions .exclusive] ++ (lookUpActs ++ acts)

theorem path_session {acts : List (LockAct Lock)} (path : Path (handleMessage scene) acts) :
    Path (handleSession scene) (sessionActs acts) :=
  .returned (path_once (.andThen (path_write .skip)
    (.andThen path_getClient (.returned (path_once path)))))

/-! ## One nesting alone -/

/-- What every task still does with its locks. -/
def Serving (scene : Scene) {Thread : Type} (script : Thread → List (LockAct Lock)) : Prop :=
  ∀ thread, ∃ task : ServerTask, Path (task.flow scene) (script thread)

/-- An order of the locks: without the list of users and games the client maps come last,
with it they come first. -/
def rank (scene : Scene) : Lock → Nat
  | .sessions => 0
  | .clientsByAddr => if scene.status then 1 else 3
  | .clientsById => if scene.status then 2 else 4
  | .games => if scene.status then 3 else 1
  | .game _ => if scene.status then 4 else 2

theorem rank_le (scene : Scene) (lock : Lock) : rank scene lock ≤ 4 := by
  cases lock <;> cases known : scene.status <;> simp [rank, known]

/-- Either nesting alone goes along the order. -/
theorem Nests.rank_lt (alone : ¬(scene.status = true ∧ scene.lastDrop = true))
    {outer inner : Lock} (nests : Nests scene outer inner) : rank scene outer < rank scene inner := by
  cases nests with
  | clients => simp only [rank]; split <;> omega
  | collect ref => simp only [rank]; split <;> omega
  | statusGames status client => rcases client with rfl | rfl <;> simp [rank, status]
  | statusGame status client ref => rcases client with rfl | rfl <;> simp [rank, status]
  | lastDrop lastDrop client ref =>
      have none : scene.status = false := by simpa [lastDrop] using alone
      rcases client with rfl | rfl <;> simp [rank, none]

/-- No lock is ever taken by somebody who holds it. -/
theorem Nests.ne {outer inner : Lock} (nests : Nests scene outer inner) : outer ≠ inner := by
  rcases nests with _ | _ | ⟨_, rfl | rfl⟩ | ⟨_, rfl | rfl, _⟩ | ⟨_, rfl | rfl, _⟩ <;> simp

variable {Thread : Type} [DecidableEq Thread] {script : Thread → List (LockAct Lock)}

omit [DecidableEq Thread] in
theorem Serving.nesting (serving : Serving scene script) :
    (Locking.start script).Nesting (Nests scene) := by
  refine Locking.nesting_start fun thread => ?_
  obtain ⟨task, path⟩ := serving thread
  exact path.orderly_whole task.nested

/-- Unless some task may report the status and some task may drop a last player, the tasks of the
server never come to a standstill before all of them are finished and have given every lock back,
and there is an end to what they do. -/
theorem tasks_finish [Fintype Thread] (serving : Serving scene script)
    (alone : ¬(scene.status = true ∧ scene.lastDrop = true)) {count : Nat}
    {last : Locking Thread Lock} (run : Locking.Run (Locking.start script) count last) :
    count ≤ ∑ thread, 2 * (script thread).length ∧
      ((∃ mover after, Locking.Step last mover after) ∨
        ∀ thread, last.rest thread = [] ∧ last.held thread = []) := by
  have nesting := serving.nesting
  constructor
  · calc count ≤ count + ∑ thread, last.remaining thread := Nat.le_add_right ..
      _ ≤ ∑ thread, (Locking.start script).remaining thread := run.count_le nesting.queued
      _ ≤ ∑ thread, 2 * (script thread).length :=
        Finset.sum_le_sum fun thread _ => Nat.sub_le ..
  · by_cases moves : ∃ mover after, Locking.Step last mover after
    · exact .inl moves
    · push Not at moves
      refine .inr fun thread => ?_
      have done := nesting.finished (fun nests => nests.rank_lt alone) (rank_le scene) run moves
        thread
      have orderly := (run.keeps (fun nesting step => nesting.step step) nesting).orderly thread
      rw [done] at orderly
      exact ⟨done, orderly⟩

/-- A session which completes a handshake, and a later one which logs in. -/
def twoSessions : Bool → List (LockAct Lock)
  | false => sessionActs (handshakeActs [3, 7])
  | true => sessionActs loginActs

theorem serving_twoSessions : Serving ⟨true, false⟩ twoSessions := by
  intro late
  refine ⟨.session, ?_⟩
  cases late with
  | false => exact path_session (path_oneOf 2 (path_handshake rfl [3, 7]))
  | true => exact path_session (path_oneOf 1 path_login)

/-- The later session waits for the map of sessions and is granted it after the other; neither of
them waits for ever. -/
theorem tasks_finish_two : ∃ last, Locking.Run (Locking.start twoSessions) 5 last ∧
    5 ≤ ∑ late, 2 * (twoSessions late).length ∧
      ((∃ mover after, Locking.Step last mover after) ∨
        ∀ late, last.rest late = [] ∧ last.held late = []) := by
  have asked := Locking.Run.step (.refl (Locking.start twoSessions))
    (@Locking.Step.request _ _ _ _ _ false .sessions .exclusive _ rfl (by simp [Locking.start]))
  have granted := asked.step
    (@Locking.Step.grant _ _ _ _ _ false .sessions .exclusive _ _ rfl rfl
      (by simp [Locking.Free, Locking.start]))
  have waited := granted.step
    (@Locking.Step.request _ _ _ _ _ true .sessions .exclusive _ rfl (by simp))
  have released := waited.step (@Locking.Step.release _ _ _ _ _ false .sessions .exclusive _ rfl)
  have followed := released.step
    (@Locking.Step.grant _ _ _ _ _ true .sessions .exclusive _ _ rfl rfl
      (by simp [Locking.Free, Locking.start]))
  exact ⟨_, followed, tasks_finish serving_twoSessions (by decide) followed⟩

/-! ## Both nestings together -/

/-- The map of addresses is read under no lock but that of a game. -/
theorem Nests.under_clientsByAddr {outer : Lock} (nests : Nests scene outer .clientsByAddr) :
    ∃ ref, outer = .game ref := by
  cases nests with
  | lastDrop _ _ ref => exact ⟨ref, rfl⟩

/-- Under the lock of a game nothing but the client maps is read. -/
theorem Nests.under_game {ref : Nat} {inner : Lock} (nests : Nests scene (.game ref) inner) :
    inner = .clientsByAddr ∨ inner = .clientsById := by
  cases nests with
  | statusGames _ client => simp at client
  | statusGame _ client => simp at client
  | lastDrop _ client _ => exact client

/-- The list of users and games is made by somebody who holds nothing. -/
theorem holding_before_status {refs : List Nat} {earlier later : List (LockAct Lock)}
    (orderly : Locking.Orderly (Nests scene) [] (earlier ++ (statusActs refs ++ later))) :
    Locking.holding [] earlier = [] := by
  obtain ⟨first, _, third, _⟩ := orderly.later
  refine List.eq_nil_iff_forall_not_mem.mpr fun own member => ?_
  obtain ⟨ref, same⟩ := (first own member).under_clientsByAddr
  have games := third own (by simp [member])
  rw [same] at games
  simpa using games.under_game

/-- The last player of a game is marked by somebody who holds nothing. -/
theorem holding_before_lastDrop {ref : Nat} {earlier later : List (LockAct Lock)}
    (orderly : Locking.Orderly (Nests scene) [] (earlier ++ (lastDropActs ref ++ later))) :
    Locking.holding [] earlier = [] := by
  obtain ⟨first, second, _⟩ := orderly.later
  refine List.eq_nil_iff_forall_not_mem.mpr fun own member => ?_
  obtain ⟨other, same⟩ := (second own (by simp [member])).under_clientsByAddr
  have game := first own member
  rw [same] at game
  simpa using game.under_game

/-- A task comes to a section before which it holds nothing. -/
theorem exists_run_section (nesting : (Locking.start script).Nesting (Nests scene))
    {thread : Thread} {earlier ahead : List (LockAct Lock)}
    (does : script thread = earlier ++ ahead)
    (given : Locking.Orderly (Nests scene) [] (earlier ++ ahead) →
      Locking.holding [] earlier = []) :
    ∃ count, Locking.Run (Locking.start script) count
      (Locking.start (Function.update script thread ahead)) := by
  have orderly : Locking.Orderly (Nests scene) [] (script thread) := nesting.orderly thread
  exact Locking.exists_run_start (fun lock nests => nests.ne rfl) does orderly
    (given (does ▸ orderly))

theorem gameActs_append (refs more : List Nat) :
    gameActs (refs ++ more) = gameActs refs ++ gameActs more := by
  induction refs with
  | nil => rfl
  | cons ref refs ih => simp [gameActs, ih]

/-- Games which are locked one after the other are all unlocked. -/
theorem holding_gameActs (held : List (Lock × LockMode)) (refs : List Nat) :
    Locking.holding held (gameActs refs) = held := by
  induction refs with
  | nil => rfl
  | cons ref refs ih => simpa [Locking.holding, gameActs] using ih

theorem mem_gameActs {lock : Lock} {mode : LockMode} {refs : List Nat}
    (member : .acquire lock mode ∈ gameActs refs) : ∃ ref ∈ refs, lock = .game ref := by
  induction refs with
  | nil => cases member
  | cons ref refs ih =>
      simp only [gameActs, List.mem_cons, reduceCtorEq, false_or] at member
      rcases member with here | later
      · exact ⟨ref, List.mem_cons_self .., (LockAct.acquire.inj here).1⟩
      · obtain ⟨other, inside, rfl⟩ := ih later
        exact ⟨other, List.mem_cons_of_mem _ inside, rfl⟩

/-- The one which drops locks the game and the map of addresses, and needs that of sessions. -/
theorem exists_run_dropping (nesting : (Locking.start script).Nesting (Nests scene))
    {dropping : Thread} {ref : Nat} {after : List (LockAct Lock)}
    (drops : script dropping = lastDropActs ref ++ after) :
    ∃ count middle rest, Locking.Run (Locking.start script) count middle ∧
      middle.rest dropping = .acquire .clientsById .exclusive :: rest ∧
      middle.held dropping = [(.clientsByAddr, .shared), (.game ref, .exclusive)] ∧
      (∀ thread, thread ≠ dropping → middle.rest thread = script thread ∧
        middle.held thread = []) ∧
      ∀ lock, middle.queue lock = [] := by
  have taking : (Locking.start script).rest dropping =
      [.acquire (.game ref) .exclusive, .acquire .clientsByAddr .shared,
        .release .clientsByAddr .shared, .acquire .clientsByAddr .shared] ++
      (.acquire .clientsById .exclusive :: [.release .clientsById .exclusive,
        .release .clientsByAddr .shared, .release (.game ref) .exclusive] ++ after) := drops
  obtain ⟨count, run⟩ := Locking.exists_run_alone (fun lock nests => nests.ne rfl) taking
    (taking ▸ nesting.orderly dropping) (by simp [Locking.start, Locking.Bars])
  refine ⟨count, _, _, run, Function.update_self .., ?_, fun thread different => ⟨?_, ?_⟩, ?_⟩
  · dsimp only
    simp [Locking.holding, Locking.start]
  · exact Function.update_of_ne different ..
  · exact Function.update_of_ne different ..
  · exact fun _ => rfl

/-- The one which asks locks both maps and comes to that game. -/
theorem exists_run_asking {middle : Locking Thread Lock} (nesting : middle.Nesting (Nests scene))
    {asking dropping : Thread} (different : asking ≠ dropping) {refs : List Nat} {ref : Nat}
    (listed : ref ∈ refs) {later : List (LockAct Lock)}
    (asks : middle.rest asking = statusActs refs ++ later)
    (idle : ∀ thread, thread ≠ dropping → middle.held thread = [])
    (locked : middle.held dropping = [(.clientsByAddr, .shared), (.game ref, .exclusive)])
    (empty : ∀ lock, middle.queue lock = []) :
    ∃ count stuck rest, Locking.Run middle count stuck ∧
      stuck.rest asking = .acquire (.game ref) .exclusive :: rest ∧
      stuck.held asking = [(.clientsById, .shared), (.clientsByAddr, .shared)] ∧
      ∀ thread, thread ≠ asking → stuck.rest thread = middle.rest thread ∧
        stuck.held thread = middle.held thread := by
  obtain ⟨front, back, rfl, new⟩ := List.eq_append_cons_of_mem listed
  have needs : middle.rest asking =
      ([.acquire .clientsByAddr .shared, .acquire .clientsById .shared,
        .acquire .games .shared, .release .games .shared] ++ gameActs front) ++
      (.acquire (.game ref) .exclusive :: (.release (.game ref) .exclusive :: gameActs back ++
        [.release .clientsById .shared, .release .clientsByAddr .shared] ++ later)) := by
    rw [asks]
    simp [statusActs, gameActs_append, gameActs]
  obtain ⟨count, run⟩ := Locking.exists_run_alone (fun lock nests => nests.ne rfl) needs
    (needs ▸ nesting.orderly asking) (by
      refine fun lock mode member => ⟨empty lock, fun other elsewhere bars => ?_⟩
      obtain ⟨way, holds, excludes⟩ := bars
      by_cases here : other = dropping
      · subst here
        rw [locked] at holds
        rcases List.mem_append.mp member with maps | games
        · -- the map of addresses is read by both
          grind
        · obtain ⟨other, inside, rfl⟩ := mem_gameActs games
          simp only [List.mem_cons, Prod.mk.injEq, reduceCtorEq, Lock.game.injEq, false_and,
            false_or, List.not_mem_nil, or_false] at holds
          exact new (holds.1 ▸ inside)
      · rw [idle other here] at holds
        cases holds)
  refine ⟨count, _, _, run, Function.update_self .., ?_, fun thread elsewhere => ⟨?_, ?_⟩⟩
  · dsimp only
    rw [Function.update_self, idle asking different, Locking.holding_append, holding_gameActs]
    simp [Locking.holding]
  · exact Function.update_of_ne elsewhere ..
  · exact Function.update_of_ne elsewhere ..

/-- A client which completes its handshake and the last player of a game who drops can stop the
server for good, whatever else runs and wherever their sections are in what they do: there is a
state from which neither of them ever finishes, and from which nobody ever holds a client map
exclusively again, be it to add or remove a client or to make a packet for one. -/
theorem status_lastDrop_deadlock (serving : Serving scene script) {asking dropping : Thread}
    (different : asking ≠ dropping) {refs : List Nat} {ref : Nat} (listed : ref ∈ refs)
    {earlier later before after : List (LockAct Lock)}
    (asks : script asking = earlier ++ (statusActs refs ++ later))
    (drops : script dropping = before ++ (lastDropActs ref ++ after)) :
    ∃ count stuck, Locking.Run (Locking.start script) count stuck ∧
      ∀ more last, Locking.Run stuck more last →
        last.rest asking ≠ [] ∧ last.rest dropping ≠ [] ∧
        ∀ map, map = .clientsByAddr ∨ map = .clientsById →
          (∀ thread, (map, .exclusive) ∉ last.held thread) ∧
          ∀ thread, thread ≠ asking → thread ≠ dropping →
            .acquire map .exclusive ∈ script thread → .acquire map .exclusive ∈ last.rest thread := by
  have keeps : ∀ {first last : Locking Thread Lock} {count : Nat},
      Locking.Run first count last → first.Nesting (Nests scene) → last.Nesting (Nests scene) :=
    fun run nesting => run.keeps (fun nesting step => nesting.step step) nesting
  have nesting := serving.nesting
  -- both tasks come to their sections
  obtain ⟨first, toStatus⟩ := exists_run_section nesting asks holding_before_status
  have nesting := keeps toStatus nesting
  have drops : Function.update script asking (statusActs refs ++ later) dropping =
      before ++ (lastDropActs ref ++ after) := by
    rw [Function.update_of_ne different.symm, drops]
  obtain ⟨second, toDrop⟩ := exists_run_section nesting drops holding_before_lastDrop
  have nesting := keeps toDrop nesting
  -- and lock there what the other one needs
  obtain ⟨third, middle, dropRest, dropRun, wants, locked, others, empty⟩ :=
    exists_run_dropping nesting (Function.update_self ..)
  have asks : middle.rest asking = statusActs refs ++ later := by
    rw [(others asking different).1, Function.update_of_ne different, Function.update_self]
  obtain ⟨fourth, stuck, askRest, askRun, needs, reads, same⟩ :=
    exists_run_asking (keeps dropRun nesting) different listed asks
      (fun thread elsewhere => (others thread elsewhere).2) locked empty
  have embrace : stuck.Embrace asking dropping := by
    constructor
    · refine ⟨.game ref, .exclusive, askRest, needs, .exclusive, ?_, .inl rfl⟩
      rw [(same dropping different.symm).2, locked]
      simp
    · refine ⟨.clientsById, .exclusive, dropRest, ?_, .shared, ?_, .inr rfl⟩
      · rw [(same dropping different.symm).1, wants]
      · simp [reads]
  refine ⟨_, stuck, ((toStatus.trans toDrop).trans dropRun).trans askRun, fun more last run => ?_⟩
  obtain ⟨still, never⟩ := embrace.never run
  obtain ⟨⟨_, _, _, asking', _⟩⟩ := still.left
  obtain ⟨⟨_, _, _, dropping', _⟩⟩ := still.right
  refine ⟨by simp [asking'], by simp [dropping'], fun map client => ?_⟩
  have barred : stuck.Bars asking map .exclusive := by
    refine ⟨.shared, ?_, .inr rfl⟩
    rcases client with rfl | rfl <;> simp [reads]
  refine ⟨fun thread => (never map .exclusive thread (.inl barred)).1 ?_,
    fun thread notAsking notDropping changes => (never map .exclusive thread (.inl barred)).2 ?_⟩
  · by_cases isAsking : thread = asking
    · simp [isAsking, reads]
    rw [(same thread isAsking).2]
    by_cases isDropping : thread = dropping
    · rcases client with rfl | rfl <;> simp [isDropping, locked]
    · simp [(others thread isDropping).2]
  · rw [(same thread notAsking).1, (others thread notDropping).1,
      Function.update_of_ne notDropping, Function.update_of_ne notAsking]
    exact changes

/-- Three clients: one completes its handshake, one ends the game, one logs in. -/
inductive Visitor where
  | asking
  | dropping
  | arriving
deriving DecidableEq, Repr

/-- What their sessions do. -/
def visit : Visitor → List (LockAct Lock)
  | .asking => sessionActs (handshakeActs [3, 7])
  | .dropping => sessionActs (dropActs 7)
  | .arriving => sessionActs loginActs

theorem serving_visit : Serving ⟨true, true⟩ visit := by
  intro visitor
  refine ⟨.session, ?_⟩
  cases visitor with
  | asking => exact path_session (path_oneOf 2 (path_handshake rfl [3, 7]))
  | dropping => exact path_session (path_oneOf 13 (path_drop rfl 7))
  | arriving => exact path_session (path_oneOf 1 path_login)

/-- The client which logs in is never added. -/
theorem visit_deadlock : ∃ count stuck, Locking.Run (Locking.start visit) count stuck ∧
    ∀ more last, Locking.Run stuck more last →
      last.rest .asking ≠ [] ∧ last.rest .dropping ≠ [] ∧
      ∀ map, map = .clientsByAddr ∨ map = .clientsById →
        (∀ visitor, (map, .exclusive) ∉ last.held visitor) ∧
        ∀ visitor, visitor ≠ .asking → visitor ≠ .dropping →
          .acquire map .exclusive ∈ visit visitor → .acquire map .exclusive ∈ last.rest visitor :=
  @status_lastDrop_deadlock _ _ _ _ serving_visit .asking .dropping (by decide) [3, 7] 7 (by decide)
    (sessionActs updateActs) (updateActs ++ (lookUpActs ++ broadcastActs))
    (sessionActs (lookUpActs ++ (gamesActs ++ gameActs [7]) ++
      (lookUpActs ++ (gamesActs ++ (gameActs [7] ++ gamesActs)))))
    ((gamesActs ++ gameActs [7]) ++
        (([.acquire .games .exclusive, .release .games .exclusive] ++ gameActs [7]) ++
          broadcastActs)) rfl rfl

end Direlera.Locks
