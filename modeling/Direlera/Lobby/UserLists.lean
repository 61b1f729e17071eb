import Direlera.Lobby.GameLists
import Direlera.Lobby.UserBoards

/-!
# Keeping the user lists up

Every client whose handshake is complete lists the users of the directory. Whoever is removed is
announced, and whoever completes its handshake is sent a snapshot, which leaves it out, and is
then announced to everybody.
-/

namespace Direlera.Lobby

open Direlera.Library Direlera.Sync Direlera.Wire

/-- The lists of the clients whose handshake is complete. -/
def AppState.userScreens (state : AppState) : Copies SocketAddr UInt16 (Option UserListing) :=
  fun addr =>
    if (state.profiles addr).any Profile.complete then some (userDisplay.shown state addr) else none

/-- A user name as `handle_user_login` cuts it. -/
def Profile.Named (profile : Profile) : Prop :=
  0 ∉ profile.username ∧ profile.username.length ≤ 31

/-- Everybody's list may be wrong about one user only, whose notice is still to come. -/
structure AppState.Awaits (userId : UInt16) (state : AppState) : Prop where
  distinct : state.IdsDistinct
  named : ∀ addr profile, state.profiles addr = some profile → profile.Named
  steady : userDisplay.Steady state
  stale : StaleAt userId state.directory state.userScreens

/-- Everybody lists the users of the directory. -/
structure AppState.Introduced (state : AppState) : Prop where
  distinct : state.IdsDistinct
  named : ∀ addr profile, state.profiles addr = some profile → profile.Named
  steady : userDisplay.Steady state
  fresh : Fresh state.directory state.userScreens

section Notices

variable {state next : AppState} {addr src : SocketAddr} {profile : Profile} {userId : UInt16}
  {packetType : UInt8} {data : Bytes}

theorem AppState.Introduced.awaits (introduced : state.Introduced) (userId : UInt16) :
    state.Awaits userId :=
  ⟨introduced.distinct, introduced.named, introduced.steady, introduced.fresh.staleAt userId⟩

theorem AppState.IdsDistinct.of_profiles (distinct : state.IdsDistinct)
    (same : next.profiles = state.profiles) : next.IdsDistinct := by
  intro addr other profile twin known known'
  rw [same] at known known'
  exact distinct addr other profile twin known known'

theorem AppState.IdsDistinct.directory_eq (distinct : state.IdsDistinct)
    (same : next.profiles = state.profiles) : next.directory = state.directory := by
  ext1 userId
  exact directory_congr distinct (distinct.of_profiles same) fun addr profile _ _ => by rw [same]

/-- Nothing was told which concerns users. -/
theorem AppState.Introduced.unmoved (introduced : state.Introduced)
    (unmoved : userDisplay.Unmoved state next) : next.Introduced := by
  have same := unmoved.profiles
  have screens : next.userScreens = state.userScreens := by
    ext1 addr
    rw [AppState.userScreens, same, unmoved.shown]
    rfl
  refine ⟨introduced.distinct.of_profiles same, ?_, unmoved.steady introduced.steady, ?_⟩
  · rw [same]
    exact introduced.named
  · rw [introduced.distinct.directory_eq same, screens]
    exact introduced.fresh

/-! ## Broadcasts -/

theorem complete_of_profile (state : AppState) (addr : SocketAddr) :
    (state.clients.find addr).any ClientInfo.complete =
      (state.profiles addr).any Profile.complete := by
  rw [AppState.profiles]
  cases state.clients.find addr <;> rfl

/-- Everybody whose handshake is complete hears a broadcast. -/
theorem screens_of_heard {recipients : List SocketAddr}
    (everybody : ∀ addr, (state.profiles addr).any Profile.complete = true → addr ∈ recipients)
    (heard : userDisplay.Heard packetType data recipients state next) :
    next.userScreens = fun addr =>
      (state.userScreens addr).map (userDisplay.hear packetType data) := by
  ext1 addr
  simp only [AppState.userScreens, heard.profiles]
  by_cases complete : (state.profiles addr).any Profile.complete = true
  · rw [if_pos complete, if_pos complete, heard.shown, if_pos (everybody addr complete)]
    rfl
  · rw [if_neg complete, if_neg complete]
    rfl

/-- A broadcast of what the directory says of one user settles its entry. -/
theorem AppState.Awaits.settle (awaits : state.Awaits userId) (fits : data.length ≤ maxPayload)
    (hears : userDisplay.hear packetType data = fun users =>
      Function.update users userId (state.directory userId)) :
    ((broadcastPacket packetType data).run state).2.Introduced ∧
      ((broadcastPacket packetType data).run state).2.profiles = state.profiles := by
  have heard : userDisplay.Heard packetType data _ state _ :=
    Display.heard_of_mails (mails_broadcastPacket state) fits
  have everybody : ∀ addr, (state.profiles addr).any Profile.complete = true →
      addr ∈ (state.clients.byAddr.map Prod.fst).filter fun addr =>
        (state.clients.find addr).any ClientInfo.complete := by
    intro addr complete
    obtain ⟨profile, known, _⟩ := (Option.any_eq_true _ _).mp complete
    rw [List.mem_filter, complete_of_profile]
    exact ⟨registered_of_profile known, complete⟩
  have same := heard.profiles
  refine ⟨⟨awaits.distinct.of_profiles same, ?_, heard.steady awaits.steady, ?_⟩, same⟩
  · rw [same]
    exact awaits.named
  · rw [awaits.distinct.directory_eq same, screens_of_heard everybody heard, hears]
    exact awaits.stale.settle

/-! ## Joining -/

/-- A client which logs in is not listed yet. -/
theorem AppState.Introduced.add (introduced : state.Introduced) {client : ClientInfo}
    (clients : next.clients.find = Function.update state.clients.find src (some client))
    (tx : next.tx = state.tx) (free : state.profiles src = none)
    (unused : ∀ addr profile, state.profiles addr = some profile → profile.userId ≠ client.userId)
    (early : client.profile.complete = false) (named : client.profile.Named)
    (unsent : client.packetGenerator.lastSent = none) : next.Introduced := by
  have profiles : next.profiles = Function.update state.profiles src (some client.profile) := by
    ext1 addr
    rw [AppState.profiles, clients]
    by_cases same : addr = src
    · rw [same, Function.update_self, Function.update_self]
      rfl
    · rw [Function.update_of_ne same, Function.update_of_ne same]
      rfl
  have known : ∀ {addr profile}, next.profiles addr = some profile →
      addr = src ∧ profile = client.profile ∨ addr ≠ src ∧ state.profiles addr = some profile := by
    intro addr profile here
    rw [profiles] at here
    by_cases same : addr = src
    · rw [same, Function.update_self] at here
      exact .inl ⟨same, (Option.some.inj here).symm⟩
    · rw [Function.update_of_ne same] at here
      exact .inr ⟨same, here⟩
  have distinct : next.IdsDistinct := by
    intro addr other profile twin here there same
    rcases known here with ⟨rfl, rfl⟩ | ⟨_, before⟩
    · rcases known there with ⟨rfl, -⟩ | ⟨_, earlier⟩
      · rfl
      · exact absurd same.symm (unused other twin earlier)
    · rcases known there with ⟨rfl, rfl⟩ | ⟨_, earlier⟩
      · exact absurd same (unused addr profile before)
      · exact introduced.distinct addr other profile twin before earlier same
  have directory : next.directory = state.directory := by
    ext1 userId
    refine directory_congr introduced.distinct distinct fun addr profile _ complete => ?_
    rw [profiles]
    by_cases same : addr = src
    · rw [same, Function.update_self, free]
      refine iff_of_false (fun here => ?_) (Option.some_ne_none _).symm
      obtain rfl := Option.some.inj here
      rw [early] at complete
      cases complete
    · rw [Function.update_of_ne same]
  have shown : userDisplay.shown next = userDisplay.shown state := Display.shown_of_tx tx
  have screens : next.userScreens = state.userScreens := by
    ext1 addr
    simp only [AppState.userScreens, profiles, shown]
    by_cases same : addr = src
    · rw [same, Function.update_self, free]
      simp [early]
    · rw [Function.update_of_ne same]
  refine ⟨distinct, fun addr profile here => ?_, fun addr other here message last => ?_, ?_⟩
  · rcases known here with ⟨-, rfl⟩ | ⟨_, before⟩
    · exact named
    · exact introduced.named addr profile before
  · rw [shown]
    rw [clients] at here
    by_cases same : addr = src
    · rw [same, Function.update_self] at here
      obtain rfl := Option.some.inj here
      rw [unsent] at last
      cases last
    · rw [Function.update_of_ne same] at here
      exact introduced.steady addr other here message last
  · rw [directory, screens]
    exact introduced.fresh

/-! ## Leaving -/

/-- A client is removed, and nothing else happens. -/
structure AppState.Removes (addr : SocketAddr) (before after : AppState) : Prop where
  clients : after.clients.find = Function.update before.clients.find addr none
  tx : after.tx = before.tx

theorem AppState.Removes.profiles (removes : state.Removes addr next) :
    next.profiles = Function.update state.profiles addr none := by
  ext1 other
  rw [AppState.profiles, removes.clients]
  by_cases same : other = addr
  · rw [same, Function.update_self, Function.update_self]
    rfl
  · rw [Function.update_of_ne same, Function.update_of_ne same]
    rfl

/-- Whoever is known after a removal was known before, at another address. -/
theorem AppState.Removes.known (removes : state.Removes addr next) {other : SocketAddr}
    (known : next.profiles other = some profile) :
    other ≠ addr ∧ state.profiles other = some profile := by
  rw [removes.profiles] at known
  by_cases same : other = addr
  · rw [same, Function.update_self] at known
    cases known
  · rw [Function.update_of_ne same] at known
    exact ⟨same, known⟩

theorem AppState.Removes.steady (removes : state.Removes addr next) {View : Type}
    {display : Display View} (steady : display.Steady state) : display.Steady next := by
  intro other client found
  rw [Display.shown_of_tx removes.tx]
  rw [removes.clients] at found
  by_cases same : other = addr
  · rw [same, Function.update_self] at found
    cases found
  · rw [Function.update_of_ne same] at found
    exact steady other client found

/-- After a removal the lists are wrong about the removed client at most, which the directory
does not list any more. -/
theorem AppState.Introduced.remove (introduced : state.Introduced)
    (removes : state.Removes addr next) (known : state.profiles addr = some profile) :
    next.Awaits profile.userId ∧ next.directory profile.userId = none := by
  have distinct : next.IdsDistinct := by
    intro first second profile twin here there
    exact introduced.distinct first second profile twin (removes.known here).2
      (removes.known there).2
  have elsewhere : ∀ userId, userId ≠ profile.userId →
      next.directory userId = state.directory userId := by
    intro userId different
    refine directory_congr introduced.distinct distinct fun other twin own _ => ?_
    constructor
    · exact fun here => (removes.known here).2
    · intro there
      rw [removes.profiles, Function.update_of_ne]
      · exact there
      · rintro rfl
        obtain rfl := Option.some.inj (known.symm.trans there)
        exact different own.symm
  have fewer : ∀ holder copy, next.userScreens holder = some copy →
      state.userScreens holder = some copy := by
    intro holder copy here
    rw [AppState.userScreens, Display.shown_of_tx removes.tx] at here
    obtain ⟨complete, shown⟩ := Option.ite_none_right_eq_some.mp here
    obtain ⟨twin, there, completes⟩ := (Option.any_eq_true _ _).mp complete
    refine Option.ite_none_right_eq_some.mpr ⟨?_, shown⟩
    exact (Option.any_eq_true _ _).mpr ⟨twin, (removes.known there).2, completes⟩
  refine ⟨⟨distinct, fun other twin here => introduced.named other twin (removes.known here).2,
    removes.steady introduced.steady, ?_⟩, ?_⟩
  · exact ((introduced.fresh.forget fewer).staleAt profile.userId).change elsewhere
  · refine Option.eq_none_iff_forall_ne_some.mpr fun listing listed => ?_
    obtain ⟨other, twin, here, _, entry⟩ := (directory_iff distinct).mp listed
    obtain ⟨different, there⟩ := removes.known here
    exact different (introduced.distinct other addr twin profile there known
      (congrArg Prod.fst entry))

/-- A removed client is announced. -/
theorem AppState.Introduced.dismiss (introduced : state.Introduced)
    (removes : state.Removes addr next) {client : ClientInfo}
    (found : state.clients.find addr = some client) {reason : Bytes}
    (short : reason.length ≤ receiveBuffer) :
    let last := ((broadcastPacket Msg.userQuit
      (buildUserQuitPacket client.username client.userId reason)).run next).2
    last.Introduced ∧ last.profiles = next.profiles := by
  have known : state.profiles addr = some client.profile := by rw [AppState.profiles, found]; rfl
  obtain ⟨plain, username⟩ := introduced.named addr client.profile known
  obtain ⟨awaits, gone⟩ := introduced.remove removes known
  refine awaits.settle ?_ ?_
  · simp only [buildUserQuitPacket, putBytesWithNull, putU16Le, littleEndianBytes,
      List.length_append, List.length_cons, List.length_nil, receiveBuffer, maxPayload,
      ClientInfo.profile] at *
    omega
  · rw [gone]
    exact hear_userQuit plain client.userId reason

/-- Removing an address where nobody is changes nothing. -/
theorem AppState.Introduced.absent (introduced : state.Introduced)
    (removes : state.Removes addr next) (nobody : state.clients.find addr = none) :
    next.Introduced := by
  have unchanged : next.clients.find = state.clients.find := by
    rw [removes.clients, ← nobody, Function.update_eq_self]
  refine introduced.unmoved (Display.unmoved_of_correspondence ?_)
  rw [AppState.correspondence, unchanged, removes.tx]
  rfl

/-! ## Tasks which only remove clients -/

/-- The lists are kept up, and nobody is known who was not known before. -/
structure AppState.Narrows (before after : AppState) : Prop where
  introduced : before.Introduced → after.Introduced
  fewer : ∀ addr profile, after.profiles addr = some profile → before.profiles addr = some profile

theorem AppState.Narrows.refl (state : AppState) : state.Narrows state := ⟨id, fun _ _ => id⟩

theorem AppState.Narrows.trans {last : AppState} (first : state.Narrows next)
    (second : next.Narrows last) : state.Narrows last :=
  ⟨second.introduced ∘ first.introduced, fun addr profile known =>
    first.fewer addr profile (second.fewer addr profile known)⟩

theorem narrows_of_unmoved (unmoved : userDisplay.Unmoved state next) : state.Narrows next :=
  ⟨fun introduced => introduced.unmoved unmoved, fun _ _ known => unmoved.profiles ▸ known⟩

theorem Tells.narrows {Result : Type} {types : List UInt8} {task : Handler Result}
    (tells : Tells types task) (unheard : userDisplay.Ignores types)
    (state : AppState) : state.Narrows (task.run state).2 :=
  narrows_of_unmoved (tells _ userDisplay unheard state)

theorem removes_remove (state : AppState) (addr : SocketAddr) :
    state.Removes addr { state with clients := state.clients.remove addr } :=
  ⟨state.clients.find_remove addr, rfl⟩

/-- The notice of a removal, if there was anybody. -/
def farewell (reason : Bytes) : Option ClientInfo → Handler Unit
  | some client => broadcastPacket Msg.userQuit
      (buildUserQuitPacket client.username client.userId reason)
  | none => return ()

theorem run_farewell (reason : Bytes) (gone : Option ClientInfo) (state : AppState) :
    ∃ next, (farewell reason gone).run state = (.ok (), next) ∧ next.profiles = state.profiles := by
  cases gone with
  | none => exact ⟨state, rfl, rfl⟩
  | some client =>
      obtain ⟨next, ran, _⟩ := run_broadcastPacket Msg.userQuit
        (buildUserQuitPacket client.username client.userId reason) state
      have same := (deaf_profiles.broadcastPacket Msg.userQuit
        (buildUserQuitPacket client.username client.userId reason)).keeps state
      rw [ran] at same
      exact ⟨next, ran, same⟩

/-- A removal which is followed by its notice. -/
theorem AppState.Removes.farewell (removes : state.Removes addr next) {reason : Bytes}
    (short : reason.length ≤ receiveBuffer) :
    ∃ last, (farewell reason (state.clients.find addr)).run next = (.ok (), last) ∧
      state.Narrows last ∧ last.profiles addr = none := by
  obtain ⟨last, ran, same⟩ := run_farewell reason (state.clients.find addr) next
  refine ⟨last, ran, ⟨fun introduced => ?_, fun other twin here => ?_⟩, ?_⟩
  · cases found : state.clients.find addr with
    | none =>
        rw [found] at ran
        obtain rfl : next = last := congrArg Prod.snd ran
        exact introduced.absent removes found
    | some client =>
        have announced := (introduced.dismiss removes found short).1
        rw [found] at ran
        rwa [show (broadcastPacket Msg.userQuit _).run next = (.ok (), last) from ran] at announced
  · rw [same] at here
    exact (removes.known here).2
  · rw [same, removes.profiles, Function.update_self]

theorem length_parseUserQuit (data : Bytes) : (parseUserQuit data).length ≤ data.length := by
  have first := (readStringBytes_spec data).2
  have second := (readStringBytes_spec (if 2 ≤ (readStringBytes data).2.length then
    (readStringBytes data).2.drop 2 else (readStringBytes data).2)).2
  have shorter : (if 2 ≤ (readStringBytes data).2.length then (readStringBytes data).2.drop 2
      else (readStringBytes data).2).length ≤ (readStringBytes data).2.length := by
    split
    · rw [List.length_drop]
      omega
    · exact Nat.le_refl _
  change (readStringBytes (if 2 ≤ (readStringBytes data).2.length then
    (readStringBytes data).2.drop 2 else (readStringBytes data).2)).1.length ≤ data.length
  omega

/-- A user quit is told everybody. -/
theorem narrows_handleUserQuit {data : Bytes} (short : data.length ≤ receiveBuffer)
    (src : SocketAddr) (state : AppState) :
    state.Narrows ((handleUserQuit data src).run state).2 := by
  obtain ⟨next, ran, _⟩ := run_handleQuitGame src state
  have quits := (tells_handleQuitGame src).narrows (by decide) state
  rw [ran] at quits
  have removes : (removeClient src).run next = (.ok (next.clients.find src), _) := rfl
  obtain ⟨last, told, narrows, _⟩ := (removes_remove next src).farewell
    ((length_parseUserQuit data).trans short)
  have closes : Tells [] (closeSession src) := tells_critical (fun _ => rfl) fun _ => rfl
  have closed := closes.narrows (by decide) last
  rw [handleUserQuit, Task.run_bind_ok ran, Task.run_bind_ok removes]
  refine quits.trans (narrows.trans ?_)
  cases found : next.clients.find src with
  | none =>
      rw [found] at told
      exact (congrArg (fun state => last.Narrows ((closeSession src).run state).2)
        (congrArg Prod.snd told)).mpr closed
  | some client =>
      rw [found] at told
      have told : (broadcastPacket Msg.userQuit (buildUserQuitPacket client.username client.userId
        (parseUserQuit data))).run _ = (.ok (), last) := told
      dsimp only
      rw [Task.run_bind_ok told]
      exact closed

end Notices

/-! ## Acknowledging -/

section Acknowledging

variable {state next sent : AppState} {src : SocketAddr} {client : ClientInfo}

/-- A change of a registered client. -/
theorem run_updateClient_found {Result : Type} {addr : SocketAddr}
    (found : state.clients.find addr = some client) (change : ClientInfo → Result × ClientInfo) :
    ∃ next, (updateClient addr change).run state = (.ok (change client).1, next) ∧
      next.clients.find = Function.update state.clients.find addr (some (change client).2) ∧
      next.tx = state.tx := by
  obtain ⟨session, here, known⟩ := state.clients.session_of_find found
  refine ⟨{ state with
    clients := state.clients.update session fun client => (change client).2
    handed := state.handed ++ [] }, ?_, ?_, rfl⟩
  · rw [updateClient, updateClientLogging, Task.run_bind, Task.run_inspect, here]
    simp only [Task.run_critical, known]
  · rw [state.clients.find_update here, found]
    rfl

/-- The profile of one client has another count and another ping; nothing else changes. -/
structure AppState.Recounts (src : SocketAddr) (old counted : Profile) (before after : AppState) :
    Prop where
  known : before.profiles src = some old
  profiles : after.profiles = Function.update before.profiles src (some counted)
  userId : counted.userId = old.userId
  username : counted.username = old.username
  shown : userDisplay.shown after = userDisplay.shown before
  steady : userDisplay.Steady before → userDisplay.Steady after

theorem profile_acknowledge (ping : UInt32) (client : ClientInfo) :
    (client.acknowledge ping).profile.userId = client.userId ∧
      (client.acknowledge ping).profile.username = client.username ∧
        (client.acknowledge ping).profile.ackCount = client.ackCount + 1 ∧
          (client.acknowledge ping).packetGenerator = client.packetGenerator := by
  refine ⟨?_, ?_, ackCount_acknowledge ping client, ?_⟩
  · unfold ClientInfo.acknowledge
    split <;> rfl
  · unfold ClientInfo.acknowledge
    split <;> rfl
  · unfold ClientInfo.acknowledge
    split <;> rfl

/-- The section which counts an acknowledgement. -/
theorem run_recount (ping : UInt32) (found : state.clients.find src = some client) :
    ∃ next, (updateClient src fun client =>
        (client.ackCount + 1, client.acknowledge ping)).run state =
      (.ok (client.ackCount + 1), next) ∧
        state.Recounts src client.profile (client.acknowledge ping).profile next := by
  obtain ⟨next, ran, changed, tx⟩ := run_updateClient_found found fun client =>
    (client.ackCount + 1, client.acknowledge ping)
  obtain ⟨userId, username, _, generator⟩ := profile_acknowledge ping client
  have shown : userDisplay.shown next = userDisplay.shown state := Display.shown_of_tx tx
  refine ⟨next, ran, ⟨by rw [AppState.profiles, found]; rfl, ?_, userId, username, shown, ?_⟩⟩
  · ext1 addr
    rw [AppState.profiles, changed]
    by_cases same : addr = src
    · rw [same, Function.update_self, Function.update_self]
      rfl
    · rw [Function.update_of_ne same, Function.update_of_ne same]
      rfl
  · intro steady addr other here message last
    rw [shown]
    rw [changed] at here
    by_cases same : addr = src
    · rw [same, Function.update_self] at here
      obtain rfl := Option.some.inj here
      rw [generator] at last
      rw [same]
      exact steady src client found message last
    · rw [Function.update_of_ne same] at here
      exact steady addr other here message last

variable {old counted : Profile}

/-- Every profile after a recount is like one before, apart from the count and the ping. -/
theorem AppState.Recounts.earlier (recounts : state.Recounts src old counted next)
    {addr : SocketAddr} {profile : Profile} (here : next.profiles addr = some profile) :
    ∃ earlier, state.profiles addr = some earlier ∧ earlier.userId = profile.userId ∧
      earlier.username = profile.username := by
  rw [recounts.profiles] at here
  by_cases same : addr = src
  · rw [same, Function.update_self] at here
    obtain rfl := Option.some.inj here
    exact ⟨old, same ▸ recounts.known, recounts.userId.symm, recounts.username.symm⟩
  · rw [Function.update_of_ne same] at here
    exact ⟨profile, here, rfl, rfl⟩

theorem AppState.Recounts.distinct (recounts : state.Recounts src old counted next)
    (distinct : state.IdsDistinct) : next.IdsDistinct := by
  intro addr other profile twin here there same
  obtain ⟨earlier, known, userId, _⟩ := recounts.earlier here
  obtain ⟨earlier', known', userId', _⟩ := recounts.earlier there
  exact distinct addr other earlier earlier' known known' (by rw [userId, userId', same])

theorem AppState.Recounts.named (recounts : state.Recounts src old counted next)
    (named : ∀ addr profile, state.profiles addr = some profile → profile.Named) :
    ∀ addr profile, next.profiles addr = some profile → profile.Named := by
  intro addr profile here
  obtain ⟨earlier, known, _, username⟩ := recounts.earlier here
  have before := named addr earlier known
  rwa [Profile.Named, username] at before

/-- Other users are listed as before. -/
theorem AppState.Recounts.elsewhere (recounts : state.Recounts src old counted next)
    (distinct : state.IdsDistinct) {userId : UInt16} (different : userId ≠ old.userId) :
    next.directory userId = state.directory userId := by
  refine directory_congr distinct (recounts.distinct distinct) fun addr profile own _ => ?_
  rw [recounts.profiles]
  by_cases same : addr = src
  · rw [same, Function.update_self, recounts.known]
    refine iff_of_false (fun here => ?_) fun there => ?_
    · obtain rfl := Option.some.inj here
      exact different (own.symm.trans recounts.userId)
    · obtain rfl := Option.some.inj there
      exact different own.symm
  · rw [Function.update_of_ne same]

/-- While the handshake goes on, nobody lists the client. -/
theorem AppState.Introduced.recount (introduced : state.Introduced)
    (recounts : state.Recounts src old counted next) (early : old.complete = false)
    (still : counted.complete = false) : next.Introduced := by
  have distinct := recounts.distinct introduced.distinct
  have directory : next.directory = state.directory := by
    ext1 userId
    refine directory_congr introduced.distinct distinct fun addr profile _ complete => ?_
    rw [recounts.profiles]
    by_cases same : addr = src
    · rw [same, Function.update_self, recounts.known]
      refine iff_of_false (fun here => ?_) fun there => ?_
      · obtain rfl := Option.some.inj here
        rw [still] at complete
        cases complete
      · obtain rfl := Option.some.inj there
        rw [early] at complete
        cases complete
    · rw [Function.update_of_ne same]
  have screens : next.userScreens = state.userScreens := by
    ext1 addr
    simp only [AppState.userScreens, recounts.profiles, recounts.shown]
    by_cases same : addr = src
    · rw [same, Function.update_self, recounts.known]
      simp [early, still]
    · rw [Function.update_of_ne same]
  refine ⟨distinct, recounts.named introduced.named, recounts.steady introduced.steady, ?_⟩
  rw [directory, screens]
  exact introduced.fresh

/-! ## Snapshots -/

/-- What a snapshot for `src` says of an address. -/
theorem entry_visibleUser (state : AppState) (src addr : SocketAddr) :
    (state.visibleUser src addr).map StatusUser.entry =
      (if addr = src then none else (state.profiles addr).filter Profile.complete).map
        Profile.entry := by
  unfold AppState.visibleUser AppState.profiles
  split
  · rfl
  · cases state.clients.find addr with
    | none => rfl
    | some client =>
        rw [Option.bind_some, Option.map_some, Option.filter_some]
        by_cases complete : client.complete = true
        · have same : client.profile.complete = true := complete
          rw [if_pos complete, if_pos same]
          rfl
        · have same : ¬client.profile.complete = true := complete
          rw [if_neg complete, if_neg same]
          rfl

/-- A snapshot which fits shows the users of the directory apart from the one who asks. -/
theorem hear_userSnapshot (distinct : state.IdsDistinct)
    (named : ∀ addr profile, state.profiles addr = some profile → profile.Named)
    (known : state.profiles src = some counted) (users games : Iteration)
    (fits : state.statusSize src ≤ maxPayload) (list : UserList) {userId : UInt16}
    (other : userId ≠ counted.userId) :
    userDisplay.hear Msg.serverStatus (state.serverStatus users games src) list userId =
      state.directory userId := by
  have plain : ∀ user ∈ state.visibleUsers users src, 0 ∉ user.username := by
    intro user member
    obtain ⟨addr, _, visible⟩ := List.mem_filterMap.mp member
    have entry := entry_visibleUser state src addr
    rw [visible, Option.map_some] at entry
    obtain ⟨profile, chosen, same⟩ := Option.map_eq_some_iff.mp entry.symm
    obtain ⟨_, chosen⟩ := Option.ite_none_left_eq_some.mp chosen
    have username := (named addr profile (Option.filter_eq_some_iff.mp chosen).1).1
    have sameName : profile.username = user.username :=
      congrArg (fun entry => entry.2.username) same
    rwa [sameName] at username
  rw [← length_serverStatus users games] at fits
  obtain ⟨rest, read⟩ := run_readUserList plain fits
  have heard : userDisplay.hear Msg.serverStatus (state.serverStatus users games src) list userId =
      ((state.visibleUsers users src).map StatusUser.entry).lookup userId := by
    rw [userDisplay_hear, UserList.hear, if_pos rfl, AppState.serverStatus, read]
  have listed : ∀ entry, entry ∈ (state.visibleUsers users src).map StatusUser.entry ↔
      ∃ addr profile, addr ≠ src ∧ state.profiles addr = some profile ∧ profile.complete = true ∧
        profile.entry = entry := by
    intro entry
    rw [AppState.visibleUsers, List.map_filterMap]
    simp only [entry_visibleUser]
    rw [mem_filterMap_entry]
    constructor
    · rintro ⟨addr, _, profile, chosen, rfl⟩
      obtain ⟨away, chosen⟩ := Option.ite_none_left_eq_some.mp chosen
      obtain ⟨here, complete⟩ := Option.filter_eq_some_iff.mp chosen
      exact ⟨addr, profile, away, here, complete, rfl⟩
    · rintro ⟨addr, profile, away, here, complete, rfl⟩
      refine ⟨addr, ?_, profile, ?_, rfl⟩
      · exact (users.rearranges _).mem_iff.mpr (registered_of_profile here)
      · exact Option.ite_none_left_eq_some.mpr ⟨away, Option.filter_eq_some_iff.mpr ⟨here, complete⟩⟩
  rw [heard]
  ext listing
  rw [directory_iff distinct]
  refine (lookup_iff ?_).trans ((listed _).trans ?_)
  · rintro entry first rfl twin second same
    obtain ⟨addr, profile, _, here, _, rfl⟩ := (listed _).mp first
    obtain ⟨addr', profile', _, here', _, rfl⟩ := (listed _).mp second
    obtain rfl := distinct addr addr' profile profile' here here' same.symm
    obtain rfl := Option.some.inj (here.symm.trans here')
    rfl
  · constructor
    · rintro ⟨addr, profile, _, here, complete, entry⟩
      exact ⟨addr, profile, here, complete, entry⟩
    · rintro ⟨addr, profile, here, complete, entry⟩
      refine ⟨addr, profile, ?_, here, complete, entry⟩
      rintro rfl
      obtain rfl := Option.some.inj (known.symm.trans here)
      exact other (congrArg Prod.fst entry).symm

/-- After the snapshot, the lists are wrong about the newcomer at most. -/
theorem AppState.Introduced.snapshot (introduced : state.Introduced)
    (recounts : state.Recounts src old counted next) (users games : Iteration)
    (fits : next.statusSize src ≤ maxPayload)
    (heard : userDisplay.Heard Msg.serverStatus (next.serverStatus users games src) [src] next sent) :
    sent.Awaits old.userId := by
  have distinct := recounts.distinct introduced.distinct
  have named := recounts.named introduced.named
  have known : next.profiles src = some counted := by
    rw [recounts.profiles, Function.update_self]
  refine ⟨distinct.of_profiles heard.profiles, ?_, heard.steady (recounts.steady introduced.steady), ?_⟩
  · rw [heard.profiles]
    exact named
  · rintro userId ⟨holder, copy, here, differs⟩
    by_contra away
    rw [distinct.directory_eq heard.profiles] at differs
    obtain ⟨complete, shown⟩ := Option.ite_none_right_eq_some.mp here
    obtain rfl := Option.some.inj shown
    rw [heard.profiles] at complete
    rw [heard.shown] at differs
    by_cases same : holder = src
    · rw [if_pos (List.mem_singleton.mpr same)] at differs
      exact differs (hear_userSnapshot distinct named known users games fits _
        (recounts.userId ▸ away))
    · rw [if_neg (mt List.mem_singleton.mp same), recounts.shown,
        recounts.elsewhere introduced.distinct away] at differs
      rw [recounts.profiles, Function.update_of_ne same] at complete
      exact differs (congrFun (introduced.fresh holder _ (if_pos complete)) userId)

/-- The body which tells that a user joined. -/
def Profile.joined (profile : Profile) : Bytes :=
  putBytesWithNull profile.username ++ putU16Le profile.userId ++ putU32Le profile.ping ++
    [profile.connType]

theorem run_makeUserJoined (known : state.profiles src = some counted) :
    (makeUserJoined src).run state = (.ok counted.joined, state) := by
  obtain ⟨client, found, rfl⟩ := Option.map_eq_some_iff.mp known
  rw [makeUserJoined, Task.run_bind, run_getClient, found]
  rfl

theorem Profile.Named.length_joined {profile : Profile} (named : profile.Named) :
    profile.joined.length ≤ maxPayload := by
  have short := named.2
  simp only [Profile.joined, putBytesWithNull, putU16Le, putU32Le, littleEndianBytes,
    List.length_append, List.length_cons, List.length_nil, maxPayload]
  omega

/-- The newcomer is announced to everybody. -/
theorem AppState.Awaits.announce (awaits : state.Awaits counted.userId)
    (known : state.profiles src = some counted) (complete : counted.complete = true) :
    ((broadcastPacket Msg.userJoined counted.joined).run state).2.Introduced := by
  have named := awaits.named src counted known
  have listed : state.directory counted.userId = some counted.entry.2 :=
    (directory_iff awaits.distinct).mpr ⟨src, counted, known, complete, rfl⟩
  refine (awaits.settle named.length_joined ?_).1
  ext1 users
  have read := (reads_joinedUser named.1 counted.userId counted.ping counted.connType).run
  rw [userDisplay_hear, UserList.hear, if_neg (by decide), if_pos rfl, Profile.joined, read, listed]
  rfl

/-- Whoever completes its handshake is sent a snapshot and announced. -/
theorem AppState.Introduced.welcome (introduced : state.Introduced)
    (recounts : state.Recounts src old counted next) (complete : counted.complete = true)
    (surroundings : Surroundings) (fits : next.statusSize src ≤ maxPayload) :
    ((welcomeClient surroundings src).run next).2.Introduced := by
  have known : next.profiles src = some counted := by
    rw [recounts.profiles, Function.update_self]
  have made := run_makeServerStatus surroundings.users surroundings.games src next
  have registered : next.clients.find src ≠ none := by
    intro missing
    rw [AppState.profiles, missing] at known
    cases known
  obtain ⟨sent, sends, mails⟩ := (@mails_drawn Msg.serverStatus
    (next.serverStatus surroundings.users surroundings.games src) [] none src next).resolve_left
      fun missing => registered missing.1
  have sends : (sendPacket src Msg.serverStatus _).run next = (.ok (), sent) := sends
  have heard : userDisplay.Heard Msg.serverStatus _ [src] next sent :=
    Display.heard_of_mails mails (by rw [length_serverStatus]; exact fits)
  have awaits := introduced.snapshot recounts surroundings.users surroundings.games fits heard
  rw [← recounts.userId] at awaits
  have knownSent : sent.profiles src = some counted := by rw [heard.profiles, known]
  have announced := awaits.announce knownSent complete
  obtain ⟨last, ran, _⟩ := run_broadcastPacket Msg.userJoined counted.joined sent
  rw [ran] at announced
  rw [welcomeClient, Task.run_bind_ok made, Task.run_bind_ok sends,
    Task.run_bind_ok (run_makeUserJoined knownSent), Task.run_bind_ok ran]
  have informs : Tells [Msg.serverInformation] (Task.forEach
      (makeServerInformation surroundings.welcome) fun information =>
        sendPacket src Msg.serverInformation information) :=
    Tells.forEach (fun _ => tells_sendPacket (by decide) src _) _
  exact announced.unmoved (informs _ userDisplay (by decide) last)

/-- The snapshot which an acknowledgement asks for fits, and the count does not come round. -/
def AppState.AckFits (state : AppState) (src : SocketAddr) : Prop :=
  ∀ ackCount ∈ state.acks src, ackCount + 1 ≠ 0 ∧
    (numAcksForSpeedTest < ackCount + 1 → state.statusSize src ≤ maxPayload)

instance (state : AppState) (src : SocketAddr) : Decidable (state.AckFits src) :=
  @Option.decidableForallMem _ (fun ackCount => ackCount + 1 ≠ 0 ∧
    (numAcksForSpeedTest < ackCount + 1 → state.statusSize src ≤ maxPayload)) _ (state.acks src)

theorem acks_rise {ackCount : UInt16} (nonzero : ackCount + 1 ≠ 0)
    (before : numAcksForSpeedTest < ackCount) : numAcksForSpeedTest < ackCount + 1 := by
  have small := ackCount.toNat_lt
  rw [ne_eq, ← UInt16.toNat_inj, UInt16.toNat_add] at nonzero
  rw [UInt16.lt_iff_toNat_lt] at before ⊢
  rw [UInt16.toNat_add]
  change ¬(ackCount.toNat + 1) % 65536 = 0 at nonzero
  change numAcksForSpeedTest.toNat < (ackCount.toNat + 1) % 65536
  omega

/-- An acknowledgement keeps the lists up. -/
theorem AppState.Introduced.ack (introduced : state.Introduced) (surroundings : Surroundings)
    (fits : state.AckFits src) :
    ((handleClientToServerAck surroundings src).run state).2.Introduced := by
  cases found : state.clients.find src with
  | none =>
      obtain ⟨report, failed⟩ := run_updateClient_missing found [] fun client =>
        (client.ackCount + 1, client.acknowledge surroundings.ping)
      have same : ((handleClientToServerAck surroundings src).run state).2 = state :=
        congrArg Prod.snd (Task.run_bind_error failed)
      rw [same]
      exact introduced
  | some client =>
      obtain ⟨nonzero, short⟩ := fits client.ackCount (by rw [AppState.acks, found]; rfl)
      obtain ⟨counted, ran, recounts⟩ := run_recount surroundings.ping found
      obtain ⟨counts, ran', size⟩ := run_count surroundings.ping found
      obtain rfl : counts = counted := (Prod.mk.inj (ran'.symm.trans ran)).2
      have count := (profile_acknowledge surroundings.ping client).2.2.1
      rw [handleClientToServerAck, Task.run_bind_ok ran, if_neg nonzero]
      by_cases complete : numAcksForSpeedTest < client.ackCount + 1
      · rw [if_pos complete]
        refine introduced.welcome recounts ?_ surroundings ?_
        · rw [Profile.complete, count]
          exact decide_eq_true complete
        · rw [size.statusSize]
          exact short complete
      · rw [if_neg complete]
        have still : (client.acknowledge surroundings.ping).profile.complete = false := by
          rw [Profile.complete, count]
          exact decide_eq_false complete
        have early : client.profile.complete = false :=
          decide_eq_false fun before => complete (acks_rise nonzero before)
        have tells : Tells [Msg.serverToClientAck]
            (sendPacket src Msg.serverToClientAck buildServerToClientAckPacket) :=
          tells_sendPacket (by decide) src _
        exact (introduced.recount recounts early still).unmoved (tells _ userDisplay (by decide) _)

end Acknowledging

end Direlera.Lobby
