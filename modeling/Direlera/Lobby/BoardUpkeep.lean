import Direlera.Lobby.Boards
import Direlera.Lobby.DropDelivery
import Direlera.Lobby.LiveRooms

/-!
# Keeping the boards up

A handler which changes a game makes its entry due on every screen, and posts it before it
ends: each handler is followed from one change to the notice of it, through every exit.
-/

namespace Direlera.Lobby

open Direlera.Library Direlera.Sync Direlera.Wire

/-- Every screen shows the games of the server. -/
def AppState.Posted (opened : Listing) (state : AppState) : Prop :=
  Fresh state.listings (state.screens opened)

/-- At most one game is shown wrongly, as its notice is still to come. -/
def AppState.Due (opened : Listing) (gameId : UInt32) (state : AppState) : Prop :=
  StaleAt gameId state.listings (state.screens opened)

/-- Nothing changed which a list of games shows, nor any screen. -/
structure AppState.Unseen (opened : Listing) (before after : AppState) : Prop where
  listings : after.listings = before.listings
  screens : after.screens opened = before.screens opened

section Notices

variable {opened : Listing} {state next last : AppState} {gameId : UInt32} {game : GameInfo}

theorem AppState.Unseen.refl (state : AppState) : state.Unseen opened state := ⟨rfl, rfl⟩

theorem AppState.Unseen.trans (first : state.Unseen opened next) (second : next.Unseen opened last) :
    state.Unseen opened last :=
  ⟨second.listings.trans first.listings, second.screens.trans first.screens⟩

theorem AppState.Posted.unseen (posted : state.Posted opened) (unseen : state.Unseen opened next) :
    next.Posted opened := by
  rw [AppState.Posted, unseen.listings, unseen.screens]
  exact posted

theorem AppState.Due.unseen (due : state.Due opened gameId) (unseen : state.Unseen opened next) :
    next.Due opened gameId := by
  rw [AppState.Due, unseen.listings, unseen.screens]
  exact due

theorem AppState.Posted.due (posted : state.Posted opened) (gameId : UInt32) :
    state.Due opened gameId :=
  Fresh.staleAt posted gameId

theorem listings_hall (state : AppState) (gameId : UInt32) :
    state.listings gameId = (state.hall.room gameId).map GameInfo.listing := rfl

theorem unseen_of_room (room : next.hall.room = state.hall.room)
    (screens : next.screens opened = state.screens opened) : state.Unseen opened next := by
  refine ⟨?_, screens⟩
  ext1 gameId
  rw [listings_hall, room, listings_hall]

/-- A change of a game which its listing does not show. -/
theorem unseen_of_setRoom {changed : GameInfo} (here : state.hall.room gameId = some game)
    (hall : next.hall = state.hall.setRoom gameId (some changed))
    (same : changed.listing = game.listing)
    (screens : next.screens opened = state.screens opened) : state.Unseen opened next := by
  refine ⟨?_, screens⟩
  ext1 other
  rw [listings_hall, listings_hall, hall, Hall.room_setRoom]
  by_cases here' : other = gameId
  · rw [if_pos here', here', here, Option.map_some, Option.map_some, same]
  · rw [if_neg here']

/-- A change of one game makes it due. -/
theorem AppState.Due.change (due : state.Due opened gameId)
    (elsewhere : ∀ other, other ≠ gameId → next.hall.room other = state.hall.room other)
    (screens : next.screens opened = state.screens opened) : next.Due opened gameId := by
  rw [AppState.Due, screens]
  refine StaleAt.change due fun other different => ?_
  rw [listings_hall, listings_hall, elsewhere other different]

theorem AppState.Due.setRoom (due : state.Due opened gameId) {room : Option GameInfo}
    (hall : next.hall = state.hall.setRoom gameId room)
    (screens : next.screens opened = state.screens opened) : next.Due opened gameId := by
  refine due.change (fun other different => ?_) screens
  rw [hall, Hall.room_setRoom, if_neg different]

/-- After everybody heard about one game, only it may be shown wrongly, and only if what they
heard is not what it is. -/
theorem due_heard (due : state.Due opened gameId) (hall : next.hall = state.hall)
    {value : Option Listing}
    (heard : next.screens opened = fun addr =>
      (state.screens opened addr).map fun board => Function.update board gameId value) :
    next.Due opened gameId ∧
      (value = (state.hall.room gameId).map GameInfo.listing → next.Posted opened) := by
  have sameListings : next.listings = state.listings := by
    ext1 other
    rw [listings_hall, hall, listings_hall]
  constructor
  · rw [AppState.Due, sameListings, heard]
    exact StaleAt.notify due value
  · rintro rfl
    rw [AppState.Posted, sameListings, heard]
    exact StaleAt.settle due

/-- A broadcast about one game keeps the other entries. -/
theorem run_notify (due : state.Due opened gameId) {packetType : UInt8} {data : Bytes}
    (fits : data.length ≤ maxPayload) {value : Option Listing}
    (updates : ∀ board : Board,
      board.hear opened packetType data = Function.update board gameId value) :
    ∃ next, (broadcastPacket packetType data).run state = (.ok (), next) ∧
      next.hall = state.hall ∧ next.Due opened gameId ∧
      (value = (state.hall.room gameId).map GameInfo.listing → next.Posted opened) := by
  obtain ⟨next, ran, hall⟩ := run_broadcastPacket packetType data state
  have heard := @screens_broadcastPacket opened packetType data fits state
  have update : Board.hear opened packetType data = fun board =>
      Function.update board gameId value := funext updates
  rw [ran, update] at heard
  exact ⟨next, ran, hall, due_heard due hall heard⟩

/-- The status of a game settles its entry. -/
theorem run_postStatus (due : state.Due opened gameId) (here : state.hall.room gameId = some game)
    (named : game.gameId = gameId) :
    ∃ next, (broadcastPacket Msg.updateGameStatus (makeUpdateGameStatus game)).run state =
        (.ok (), next) ∧ next.hall = state.hall ∧ next.Posted opened := by
  obtain ⟨next, ran, hall, -, settles⟩ := run_notify due
    (by change 8 ≤ 65534; decide : (makeUpdateGameStatus game).length ≤ maxPayload)
    (named ▸ Board.hear_updateGameStatus game)
  exact ⟨next, ran, hall, settles (by rw [here]; rfl)⟩

/-- The notice that a game was closed settles its entry. -/
theorem run_postClosed (due : state.Due opened gameId) (gone : state.hall.room gameId = none) :
    ∃ next, (broadcastPacket Msg.closeGame (buildCloseGamePacket gameId)).run state =
        (.ok (), next) ∧ next.hall = state.hall ∧ next.Posted opened := by
  obtain ⟨next, ran, hall, -, settles⟩ := run_notify due
    (by change 5 ≤ 65534; decide : (buildCloseGamePacket gameId).length ≤ maxPayload)
    (Board.hear_closeGame gameId)
  exact ⟨next, ran, hall, settles (by rw [gone]; rfl)⟩

end Notices

/-! ## Dropping -/

section Dropping

variable {opened : Listing} {state : AppState} {gameId : UInt32}

theorem leaves_forEach_status (players : List GamePlayerInfo) (status : UInt8) :
    Task.Leaves (AppState.screens opened) (Task.forEach players fun player =>
      withClientMut player.addr fun client => { client with playerStatus := status }) :=
  (Task.Each.forEach (fun _ => keeps_screens_update fun _ => rfl) players).leaves

theorem unseen_announceDrop (gameId : UInt32) (username : Bytes) (playerId : Nat)
    (frames : List Frame) (players : List GamePlayerInfo) (state : AppState) :
    state.Unseen opened
      ((announceDrop gameId username playerId frames players).run state).2 := by
  have games := (@keeps_announceDrop _ AppState.games (fun _ _ _ _ => rfl) gameId username playerId
    frames players).keeps state
  have screens : Task.Leaves (AppState.screens opened)
      (announceDrop gameId username playerId frames players) := by
    refine (leaves_forEach_status players playerStatusIdle).bind fun _ => ?_
    refine (leaves_broadcastPacketToGame (by decide) gameId).bind fun _ => ?_
    refine (Task.Leaves.forEach (fun frame => ?_) frames).bind fun _ => (keeps_pure true).leaves
    unfold sendFrame
    split
    · exact (keeps_fail _).leaves
    · exact leaves_sendOutput _
  exact ⟨congrArg (fun table : GameTable => fun gameId => (table.find gameId).map GameInfo.listing) games,
    screens state⟩

/-- The marking section posts a game which ends in it. -/
theorem posts_markDropped {ref : GameRef} (here : state.games.byId gameId = some ref)
    (named : (state.games.arena ref).gameId = gameId) (due : state.Due opened gameId)
    (playerId : Nat) :
    (markDropped gameId ref playerId state).2.Posted opened ∨
      state.Unseen opened (markDropped gameId ref playerId state).2 := by
  have room : state.hall.room gameId = some (state.games.arena ref) := by
    rw [hall_room, GameTable.find, here, Option.map_some]
  unfold markDropped
  cases live : (state.games.arena ref).syncManager with
  | none =>
      simp only [live]
      exact .inr (.refl state)
  | some sync =>
      simp only [live]
      rcases sync.call gameId (.drop playerId) with ⟨result, next⟩
      cases result with
      | error error => exact .inr (unseen_of_setRoom room (hall_write here _) rfl rfl)
      | ok frames =>
          by_cases all : next.allPlayersDropped = true
          · simp only [all, if_true]
            let finished : GameInfo :=
              ({ state.games.arena ref with syncManager := some next } : GameInfo).finish
            let written : AppState := { state with
              calls := state.calls ++ [(gameId, Call.drop playerId)]
              produced := state.produced ++ (state.games.arena ref).targets frames
              games := state.games.write ref finished }
            have hall : written.hall = state.hall.setRoom gameId (some finished) :=
              hall_write here finished
            have dueWritten : written.Due opened gameId := due.setRoom hall rfl
            have finishedHere : written.hall.room gameId = some finished := by
              rw [hall]
              exact Function.update_self ..
            obtain ⟨posted, ran, _, settled⟩ := run_postStatus dueWritten finishedHere
              ((GameInfo.gameId_finish _).trans named)
            simp only [written, finished] at ran
            rw [ran]
            exact .inl settled
          · simp only [all, if_false, Bool.false_eq_true]
            exact .inr (unseen_of_setRoom room (hall_write here _) rfl rfl)

/-- A drop changes nothing on the lists, or posts what it changed. -/
theorem posts_executeDropGame (named : state.hall.Named) (due : state.Due opened gameId)
    (src : SocketAddr) :
    ((executeDropGame gameId src).run state).2.Posted opened ∨
      state.Unseen opened ((executeDropGame gameId src).run state).2 := by
  have nothing : state.Unseen opened state := .refl state
  rw [executeDropGame, Task.run_bind, run_getClient]
  cases state.clients.find src with
  | none => exact .inr nothing
  | some client =>
      simp only [Task.run_bind, run_getGameArc]
      cases here : state.games.byId gameId with
      | none => exact .inr nothing
      | some ref =>
          simp only [Task.run_bind, Task.run_inspect]
          cases dropperSlot src (state.games.arena ref) with
          | none => exact .inr nothing
          | some playerId =>
              simp only [Task.run_bind, run_getGameArc, here, Task.run_critical]
              have own : (state.games.arena ref).gameId = gameId :=
                named gameId _ (by rw [hall_room, GameTable.find, here, Option.map_some])
              have marks := posts_markDropped here own due playerId
              rcases ran : markDropped gameId ref playerId state with ⟨outcome, marked⟩
              rw [ran] at marks
              cases outcome with
              | error report => exact marks
              | ok result =>
                  obtain ⟨frames, players, allDropped⟩ := result
                  simp only at marks ⊢
                  have announced := @unseen_announceDrop opened gameId client.username playerId
                    frames players marked
                  have goesOn := marks.imp (·.unseen announced) (·.trans announced)
                  cases allDropped with
                  | false => exact goesOn
                  | true =>
                      simp only [if_true, Task.run_bind, run_getGame]
                      split
                      next empty =>
                        have dueMarked : marked.Due opened gameId :=
                          marks.elim (·.due gameId) due.unseen
                        let closed : AppState :=
                          { marked with games := marked.games.remove gameId }
                        have hall : closed.hall = marked.hall.setRoom gameId none :=
                          hall_remove marked gameId
                        have gone : closed.hall.room gameId = none := by
                          rw [hall]
                          exact Function.update_self ..
                        obtain ⟨last, told, _, posted⟩ :=
                          run_postClosed (dueMarked.setRoom hall rfl) gone
                        have removed : (removeGame gameId).run marked = (.ok (), closed) := rfl
                        rw [Task.run_bind_ok removed, Task.run_bind_ok told]
                        exact .inl posted
                      next => exact goesOn

end Dropping

/-! ## Leaving -/

section Leaving

variable {opened : Listing} {state : AppState} {gameId : UInt32} {game : GameInfo}
  {addr : SocketAddr}

theorem unseen_of_quiet {Result : Type} {task : Handler Result} (quiet : Quiet task)
    (leaves : Task.Leaves (AppState.screens opened) task) (state : AppState) :
    state.Unseen opened (task.run state).2 :=
  unseen_of_room (congrArg Hall.room (quiet.hall state)) (leaves state)

/-- A registered client leaves its room, which makes the room due. -/
theorem due_left (posted : state.Posted opened) {client : ClientInfo}
    (known : state.clients.find addr = some client) (inGame : client.gameId = some gameId)
    {ref : GameRef} (here : state.games.byId gameId = some ref) :
    ∃ next, (withClientMut addr ClientInfo.toLobby).run state = (.ok (), next) ∧
      next.games = state.games ∧ (next.left ref addr).Due opened gameId ∧
      ∃ game, state.hall.room gameId = some game ∧
        (next.left ref addr).hall = state.hall.depart gameId addr game := by
  obtain ⟨next, ran, games, _, ⟨game, there, hall⟩, _⟩ := vacated_left known inGame here
  have kept : Keeps (AppState.screens opened) (withClientMut addr ClientInfo.toLobby) :=
    keeps_screens_update (by intro client; rfl)
  have screens := kept.keeps state
  rw [ran] at screens
  refine ⟨next, ran, games, (posted.due gameId).change (fun other different => ?_) ?_, game, there, hall⟩
  · rw [hall, Hall.room_depart_of_ne _ _ _ different]
  · exact (screens_congr rfl rfl).trans screens

/-- The room is told something else before the status is posted. -/
theorem run_tellThenPost (due : state.Due opened gameId) (here : state.hall.room gameId = some game)
    (named : game.gameId = gameId) {told : UInt8} (other : told ∉ Board.gameTypes) (data : Bytes) :
    ∃ last, (do
        broadcastPacketToGame gameId told data
        broadcastPacket Msg.updateGameStatus (makeUpdateGameStatus game) : Handler Unit).run state =
      (.ok (), last) ∧ last.Posted opened := by
  obtain ⟨next, ran, hall⟩ := run_broadcastPacketToGame here told data
  have unseen := unseen_of_quiet (quiet_broadcastPacketToGame gameId told data)
    (@leaves_broadcastPacketToGame opened _ _ other gameId) state
  rw [ran] at unseen
  obtain ⟨last, posts, _, posted⟩ := run_postStatus (due.unseen unseen) (hall ▸ here) named
  exact ⟨last, (Task.run_bind_ok ran).trans posts, posted⟩

/-- Whatever a quit meant, what became of the game is posted. -/
theorem posts_settleQuit (named : state.hall.Named) (due : state.Due opened gameId)
    (here : state.hall.room gameId = some game) (src : SocketAddr) (quitData : Bytes)
    (outcome : GameInfo.QuitOutcome) :
    ((settleQuit gameId src quitData outcome).run state).2.Posted opened := by
  have told := fun state => unseen_of_quiet (quiet_broadcastPacket Msg.quitGame quitData)
    (@leaves_broadcastPacket opened _ _ (by decide)) state
  cases outcome with
  | playing =>
      have dropped := posts_executeDropGame named due src
      have hall := hall_executeDropGame gameId src state
      rcases ran : (executeDropGame gameId src).run state with ⟨result, next⟩
      rw [ran] at dropped hall
      rw [settleQuit, Task.run_bind, Task.run_attempt, ran]
      simp only [Task.run_bind, run_getGame]
      cases found : next.games.find gameId with
      | some still =>
          have own := (named.drop gameId src) gameId still (hall ▸ found)
          have dueNext : next.Due opened gameId := dropped.elim (·.due gameId) due.unseen
          obtain ⟨last, ran, posted⟩ := run_tellThenPost dueNext found own
            (by decide : Msg.quitGame ∉ Board.gameTypes) quitData
          exact (congrArg (fun result => result.2.Posted opened) ran).mpr posted
      | none =>
          -- the room went with a notice: an unchanged list would still show it
          have posted : next.Posted opened := by
            refine dropped.resolve_right fun unseen => ?_
            have gone : next.hall.room gameId = none := found
            have shown := congrFun unseen.listings gameId
            rw [listings_hall, listings_hall, here, gone] at shown
            cases shown
          exact posted.unseen (told next)
  | waitingClosed =>
      let closed : AppState := { state with games := state.games.remove gameId }
      have hall : closed.hall = state.hall.setRoom gameId none := hall_remove state gameId
      have gone : closed.hall.room gameId = none := by
        rw [hall]
        exact Function.update_self ..
      obtain ⟨next, ran, _, posted⟩ := run_postClosed (due.setRoom hall rfl) gone
      have removed : (removeGame gameId).run state = (.ok (), closed) := rfl
      rw [settleQuit, Task.run_bind_ok removed, Task.run_bind_ok ran]
      exact posted.unseen (told next)
  | waitingOpen =>
      obtain ⟨next, ran, hall⟩ := run_broadcastPacketToGame here Msg.quitGame quitData
      have unseen := unseen_of_quiet (quiet_broadcastPacketToGame gameId Msg.quitGame quitData)
        (@leaves_broadcastPacketToGame opened _ _ (by decide) gameId) state
      rw [ran] at unseen
      have still : next.games.find gameId = some game :=
        (congrFun (congrArg Hall.room hall) gameId).trans here
      obtain ⟨last, posts, _, posted⟩ :=
        run_postStatus (due.unseen unseen) still (named gameId game here)
      rw [settleQuit, Task.run_bind_ok ran, announceStatus, Task.run_bind, run_getGame, still]
      simp only
      rw [posts]
      exact posted

theorem unseen_announceOwner (gameId : UInt32) (owner : Option Bytes) (state : AppState) :
    state.Unseen opened ((announceOwner gameId owner).run state).2 := by
  refine unseen_of_quiet (quiet_announceOwner gameId owner) ?_ state
  cases owner with
  | none => exact (keeps_pure ()).leaves
  | some owner =>
      refine (keeps_getGame gameId).leaves.bind ?_
      rintro (_ | game)
      · exact (keeps_pure ()).leaves
      · exact leaves_broadcastPacketToGame (by decide) gameId

/-- Quitting a game posts what became of it. -/
theorem posts_handleQuitGame (named : state.hall.Named) (posted : state.Posted opened)
    (src : SocketAddr) : ((handleQuitGame src).run state).2.Posted opened := by
  rw [handleQuitGame, Task.run_bind, run_getClient]
  cases known : state.clients.find src with
  | none => exact posted
  | some client =>
      simp only
      cases inGame : client.gameId with
      | none => exact posted
      | some gameId =>
          simp only [Task.run_bind, run_getGameArc]
          cases here : state.games.byId gameId with
          | none => exact posted
          | some ref =>
              obtain ⟨next, ran, games, due, game, there, hall⟩ := due_left posted known inGame here
              have departed : (next.left ref src).hall.room gameId = some (game.leave src).2 := by
                rw [hall]
                exact Function.update_self ..
              have namedThere : (next.left ref src).hall.Named := hall ▸ named.depart there src
              have settled := posts_settleQuit namedThere due departed src
                (buildQuitGamePacket client.username client.userId)
                ((next.games.arena ref).leave src).1.1
              simp only [Task.run_bind, ran, lockGame, Task.run_critical]
              simp only [AppState.left] at settled
              rcases settles : Task.run (settleQuit gameId src _ _) _ with ⟨outcome, last⟩
              rw [settles] at settled
              cases outcome with
              | error report => exact settled
              | ok result => exact settled.unseen (unseen_announceOwner _ _ _)

/-- A removed client has no screen. -/
theorem posted_remove (posted : state.Posted opened) (addr : SocketAddr) :
    ({ state with clients := state.clients.remove addr } : AppState).Posted opened := by
  refine Fresh.forget posted fun other board shown => ?_
  simp only [AppState.screens, state.clients.find_remove] at shown ⊢
  by_cases same : other = addr
  · subst same
    simp at shown
  · rw [Function.update_of_ne same] at shown
    exact shown

/-- A user quit posts what became of the game. -/
theorem posts_handleUserQuit (named : state.hall.Named) (posted : state.Posted opened)
    (data : Bytes) (src : SocketAddr) : ((handleUserQuit data src).run state).2.Posted opened := by
  have quitted := posts_handleQuitGame named posted src
  obtain ⟨next, ran, _⟩ := run_handleQuitGame src state
  rw [ran] at quitted
  let removed : AppState := { next with clients := next.clients.remove src }
  have removes : (removeClient src).run next = (.ok (next.clients.find src), removed) := rfl
  rw [handleUserQuit, Task.run_bind_ok ran, Task.run_bind_ok removes]
  have closes : Task.Leaves (AppState.screens opened) (closeSession src) :=
    (Task.each_critical fun _ => rfl : Keeps (AppState.screens opened) (closeSession src)).leaves
  refine (posted_remove quitted src).unseen ?_
  cases next.clients.find src with
  | none => exact unseen_of_quiet (quiet_closeSession src) closes removed
  | some client =>
      exact unseen_of_quiet ((quiet_broadcastPacket _ _).bind fun _ => quiet_closeSession src)
        ((leaves_broadcastPacket (by decide)).bind fun _ => closes) removed

theorem posts_handleDropGame (named : state.hall.Named) (posted : state.Posted opened)
    (src : SocketAddr) : ((handleDropGame src).run state).2.Posted opened := by
  rw [handleDropGame, Task.run_bind, run_resolveInGame]
  cases state.hall.resolve src with
  | none => exact posted
  | some place =>
      obtain ⟨gameId, slot⟩ := place
      have dropped := (posts_executeDropGame named (posted.due gameId) src).elim id posted.unseen
      simp only [Task.run_bind]
      rcases ran : (executeDropGame gameId src).run state with ⟨outcome, next⟩
      rw [ran] at dropped
      cases outcome with
      | error report => exact dropped
      | ok result => exact dropped

/-- The kicked client is told first, which cannot fail; then the room and the lobby are. -/
theorem posts_announceKick (named : state.hall.Named) (due : state.Due opened gameId)
    (gone : state.hall.room gameId = none → state.Posted opened)
    (registered : (state.hall.member addr).isSome = true) (quitData : Bytes) :
    ((announceKick gameId addr quitData).run state).2.Posted opened := by
  obtain ⟨next, ran, hall, _⟩ := @run_sendPacket opened state Msg.quitGame quitData addr registered
  have unseen := unseen_of_quiet (quiet_sendPacket addr Msg.quitGame quitData)
    (@leaves_sendPacket opened _ _ (by decide) addr) state
  rw [ran] at unseen
  rw [announceKick, Task.run_bind_ok ran, Task.run_bind, run_getGame]
  cases found : next.games.find gameId with
  | none =>
      have absent : state.hall.room gameId = none := hall ▸ found
      exact (gone absent).unseen unseen
  | some game =>
      have there : next.hall.room gameId = some game := found
      have own : game.gameId = gameId := named gameId game (hall ▸ there)
      obtain ⟨last, told, posted⟩ := run_tellThenPost (due.unseen unseen) there own
        (by decide : Msg.quitGame ∉ Board.gameTypes) quitData
      exact (congrArg (fun result => result.2.Posted opened) told).mpr posted

/-- A kicked client leaves its room, which posts what became of the game. -/
theorem posts_kickFrom (named : state.hall.Named) (posted : state.Posted opened)
    {client : ClientInfo} (known : state.clients.find addr = some client)
    (inGame : client.gameId = some gameId) (quitData : Bytes) :
    ((kickFrom gameId addr quitData).run state).2.Posted opened := by
  rw [kickFrom, Task.run_bind, run_getGameArc]
  cases here : state.games.byId gameId with
  | none => exact posted
  | some ref =>
      obtain ⟨next, ran, games, due, game, there, hall⟩ := due_left posted known inGame here
      have departed : (next.left ref addr).hall.room gameId = some (game.leave addr).2 := by
        rw [hall]
        exact Function.update_self ..
      have namedThere : (next.left ref addr).hall.Named := hall ▸ named.depart there addr
      have registered : ((next.left ref addr).hall.member addr).isSome = true := by
        have inside : state.hall.gameOf addr = some gameId := by simp [hall_gameOf, known, inGame]
        rw [hall]
        exact Hall.member_depart inside gameId game
      simp only [Task.run_bind, Task.run_attempt, ran, lockGame, Task.run_critical]
      change (Task.run _ (next.left ref addr)).2.Posted opened
      split
      next playing =>
        have dropped := posts_executeDropGame namedThere due addr
        have dropHall := hall_executeDropGame gameId addr (next.left ref addr)
        simp only [Task.run_bind, Task.run_attempt]
        rcases ran : (executeDropGame gameId addr).run (next.left ref addr) with ⟨outcome, last⟩
        rw [ran] at dropped dropHall
        refine posts_announceKick (dropHall ▸ namedThere.drop gameId addr)
          (dropped.elim (·.due gameId) due.unseen) (fun gone => ?_) ?_ quitData
        · refine dropped.resolve_right fun unseen => ?_
          have shown := congrFun unseen.listings gameId
          rw [listings_hall, listings_hall, departed, gone] at shown
          cases shown
        · rw [dropHall, Hall.member_drop]
          exact registered
      next =>
        refine posts_announceKick namedThere due (fun gone => ?_) registered quitData
        rw [departed] at gone
        cases gone

theorem posts_handleKickUser (named : state.hall.Named) (posted : state.Posted opened)
    (data : Bytes) (src : SocketAddr) : ((handleKickUser data src).run state).2.Posted opened := by
  unfold handleKickUser
  cases parseKickUser data with
  | none => exact posted
  | some userId =>
      simp only [Task.run_bind, run_getClient]
      cases state.clients.find src with
      | none => exact posted
      | some requester =>
          simp only
          cases requester.gameId with
          | none => exact posted
          | some gameId =>
              simp only [Task.run_bind, run_getGame]
              cases state.games.find gameId with
              | none => exact posted
              | some game =>
                  simp only
                  split
                  next allowed =>
                    simp only [Task.run_bind, Task.run_inspect]
                    cases state.clients.findByUserId userId with
                    | none => exact posted
                    | some entry =>
                        obtain ⟨addr, kicked⟩ := entry
                        simp only [Task.run_bind, run_getClient]
                        cases known : state.clients.find addr with
                        | none => exact posted
                        | some client =>
                            simp only
                            split
                            next inGame => exact posts_kickFrom named posted known inGame _
                            next => exact posted
                  next => exact posted

end Leaving

end Direlera.Lobby
