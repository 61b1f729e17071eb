import Direlera.Library.Guarded
import Direlera.Lobby.Chat
import Direlera.Lobby.Handshake

/-!
# The state of a server

The lobby together with what logins draw and compare: user ids, sessions, and when a client was
last heard. The two client maps are also changed one at a time, as an eviction does.
-/

namespace Direlera.Lobby.ClientRegistry

variable (registry : ClientRegistry)

variable (addr : SocketAddr)

theorem nodup_addrs_without :
    ((registry.byAddr.filter fun entry => entry.1 ≠ addr).map Prod.fst).Nodup :=
  registry.addrsDistinct.sublist (List.filter_sublist.map Prod.fst)

theorem nodup_sessions_without :
    ((registry.byAddr.filter fun entry => entry.1 ≠ addr).map Prod.snd).Nodup :=
  registry.sessionsDistinct.sublist (List.filter_sublist.map Prod.snd)

theorem registered_without :
    ∀ entry ∈ registry.byAddr.filter fun entry => entry.1 ≠ addr, (registry.byId entry.2).isSome :=
  fun entry member => registry.registered entry (List.mem_filter.mp member).1

/-- The sections of `add_client`: the address leads to the new session from now on, and what it
led to before stays in `clients_by_id`. A session in use is not drawn again. -/
def add (client : ClientInfo) : ClientRegistry :=
  if unused : client.sessionId ∉ registry.byAddr.map Prod.snd then
    { byAddr := registry.byAddr.filter (fun entry => entry.1 ≠ addr) ++ [(addr, client.sessionId)]
      byId := Function.update registry.byId client.sessionId (some client)
      addrsDistinct := by
        rw [List.map_append, List.map_singleton]
        refine (registry.nodup_addrs_without addr).append (List.nodup_singleton addr) ?_
        simp
      sessionsDistinct := by
        rw [List.map_append, List.map_singleton]
        refine (registry.nodup_sessions_without addr).append
          (List.nodup_singleton client.sessionId) ?_
        rw [List.disjoint_singleton]
        exact fun member => unused ((List.filter_sublist.map Prod.snd).subset member)
      registered := by
        intro entry member
        by_cases same : entry.2 = client.sessionId
        · simp [same]
        · rw [Function.update_of_ne same]
          rcases List.mem_append.mp member with older | newest
          · exact registry.registered_without addr entry older
          · exact absurd (congrArg Prod.snd (List.mem_singleton.mp newest)) same }
  else registry

/-- The second section of `remove_client_by_username`: an address is forgotten, its session is
not. -/
def forgetAddr : ClientRegistry where
  byAddr := registry.byAddr.filter fun entry => entry.1 ≠ addr
  byId := registry.byId
  addrsDistinct := registry.nodup_addrs_without addr
  sessionsDistinct := registry.nodup_sessions_without addr
  registered := registry.registered_without addr

/-- The third section of `remove_client_by_username`: a session without an address is
forgotten. -/
def forgetSession (session : SessionId) : ClientRegistry :=
  if unheld : session ∉ registry.byAddr.map Prod.snd then
    { registry with
      byId := Function.update registry.byId session none
      registered := by
        intro entry member
        have different : entry.2 ≠ session := by
          rintro rfl
          exact unheld (List.mem_map_of_mem member)
        rw [Function.update_of_ne different]
        exact registry.registered entry member }
  else registry

/-- The address which leads to a session. -/
def holder (session : SessionId) : Option SocketAddr :=
  (registry.byAddr.find? fun entry => entry.2 = session).map Prod.fst

theorem lookup_concat {addr : SocketAddr} {session : SessionId}
    {entries : List (SocketAddr × SessionId)} :
    (entries.filter (fun entry => entry.1 ≠ addr) ++ [(addr, session)]).lookup addr =
      some session := by
  induction entries with
  | nil => simp
  | cons entry rest ih =>
      by_cases same : entry.1 = addr
      · rw [List.filter_cons_of_neg (by simp [same]), ih]
      · have different : (addr == entry.1) = false := by simp [Ne.symm same]
        rw [List.filter_cons_of_pos (by simp [same]), List.cons_append, List.lookup_cons, different,
          ih]

theorem lookup_without {addr other : SocketAddr} (different : other ≠ addr)
    (entries : List (SocketAddr × SessionId)) :
    (entries.filter fun entry => entry.1 ≠ addr).lookup other = entries.lookup other := by
  induction entries with
  | nil => rfl
  | cons entry rest ih =>
      by_cases gone : entry.1 = addr
      · have skipped : (other == entry.1) = false := by simp [gone, different]
        rw [List.filter_cons_of_neg (by simp [gone]), ih, List.lookup_cons, skipped]
      · rw [List.filter_cons_of_pos (by simp [gone]), List.lookup_cons, List.lookup_cons, ih]

/-- An address is bound to the new session. -/
theorem session_add {addr : SocketAddr} {client : ClientInfo}
    (unused : client.sessionId ∉ registry.byAddr.map Prod.snd) :
    (registry.add addr client).session =
      Function.update registry.session addr (some client.sessionId) := by
  funext other
  simp only [session, add, dif_pos unused]
  by_cases same : other = addr
  · subst same
    rw [Function.update_self, lookup_concat]
  · rw [Function.update_of_ne same, List.lookup_append, lookup_without same]
    simp [session, same]

/-- A client with a new session is found at its address. -/
theorem find_add {addr : SocketAddr} {client : ClientInfo}
    (unused : client.sessionId ∉ registry.byAddr.map Prod.snd) :
    (registry.add addr client).find addr = some client := by
  rw [find, registry.session_add unused, Function.update_self, Option.bind_some, add,
    dif_pos unused]
  exact Function.update_self ..

/-- The other addresses lead where they led. -/
theorem find_add_of_ne {addr other : SocketAddr} (different : other ≠ addr) (client : ClientInfo) :
    (registry.add addr client).find other = registry.find other := by
  unfold add
  split
  next unused =>
    have sameSession : ((registry.byAddr.filter fun entry => entry.1 ≠ addr) ++
        [(addr, client.sessionId)]).lookup other = registry.session other := by
      rw [List.lookup_append, lookup_without different]
      simp [session, different]
    simp only [find]
    rw [session, sameSession]
    cases found : registry.session other with
    | none => rfl
    | some held =>
        have listed := List.mem_map_of_mem (f := Prod.snd) (registry.mem_of_session found)
        rw [Option.bind_some, Option.bind_some, Function.update_of_ne]
        exact fun same => unused (same ▸ listed)
  next => rfl

/-! ## Members -/

variable {registry} {session : SessionId} {member : Member}

/-- Whoever is a member after a login was one before, or has just logged in. -/
theorem member_add {addr : SocketAddr} {client : ClientInfo}
    (known : (registry.add addr client).member session = some member) :
    registry.member session = some member ∨
      session = client.sessionId ∧ member = client.toMember := by
  unfold add at known
  split at known
  · by_cases same : session = client.sessionId
    · right
      exact ⟨same, by simpa [ClientRegistry.member, same, eq_comm] using known⟩
    · left
      simpa [ClientRegistry.member, same] using known
  · exact .inl known

theorem member_forgetSession {gone : SessionId}
    (known : (registry.forgetSession gone).member session = some member) :
    registry.member session = some member := by
  unfold forgetSession at known
  split at known
  · by_cases same : session = gone
    · simp [ClientRegistry.member, same] at known
    · simpa [ClientRegistry.member, same] using known
  · exact known

theorem member_remove {addr : SocketAddr}
    (known : (registry.remove addr).member session = some member) :
    registry.member session = some member := by
  cases gone : registry.session addr with
  | none => simpa [ClientRegistry.member, remove, gone] using known
  | some removed =>
      by_cases same : session = removed
      · simp [ClientRegistry.member, remove, gone, same] at known
      · simpa [ClientRegistry.member, remove, gone, same] using known

end Direlera.Lobby.ClientRegistry

namespace Direlera.Server

open Direlera.Library Direlera.Lobby Direlera.Sync Direlera.Wire

/-- The lobby, the counters which logins draw from, and when each session was last heard. -/
structure ServerState where
  lobby : AppState
  nextUserId : UInt16
  nextSessionId : SessionId
  activity : SessionId → Nat

/-- A server with nobody in it. -/
def ServerState.new : ServerState where
  lobby := .opened (.ofLogins [] List.nodup_nil List.nodup_nil)
  nextUserId := 1
  nextSessionId := 0
  activity _ := 0

/-- A task of the server or a part of one. -/
abbrev Service (Result : Type) := Task ServerState Report Result

/-- Handlers work on the lobby. -/
def inLobby {Result : Type} (task : Handler Result) : Service Result :=
  task.within ServerState.lobby fun lobby state => { state with lobby }

end Direlera.Server
