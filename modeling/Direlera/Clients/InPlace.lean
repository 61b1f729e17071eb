import Direlera.Clients.Logins

/-!
# Sections which keep the client maps

Most of what a handler does leaves the addresses alone and changes clients in place.
-/

namespace Direlera.Clients

open Direlera.Library Direlera.Lobby Direlera.Sync Direlera.Wire

/-- The addresses are bound as before, and the clients have the names and the order which they
had. -/
structure InPlace (before after : Directory) : Prop where
  byAddr : after.byAddr = before.byAddr
  known : ∀ session, (after.byId.lookup session).map (fun client => client.username) =
    (before.byId.lookup session).map fun client => client.username
  named : ∀ username, (after.named username).map Prod.fst = (before.named username).map Prod.fst
  activeSessions : after.activeSessions = before.activeSessions
  nextSessionId : after.nextSessionId = before.nextSessionId

namespace InPlace

variable {before middle after : Directory}

theorem refl (directory : Directory) : InPlace directory directory :=
  ⟨rfl, fun _ => rfl, fun _ => rfl, rfl, rfl⟩

theorem trans (first : InPlace before middle) (second : InPlace middle after) :
    InPlace before after where
  byAddr := second.byAddr.trans first.byAddr
  known := fun session => (second.known session).trans (first.known session)
  named := fun username => (second.named username).trans (first.named username)
  activeSessions := second.activeSessions.trans first.activeSessions
  nextSessionId := second.nextSessionId.trans first.nextSessionId

theorem symm (inPlace : InPlace before after) : InPlace after before where
  byAddr := inPlace.byAddr.symm
  known := fun session => (inPlace.known session).symm
  named := fun username => (inPlace.named username).symm
  activeSessions := inPlace.activeSessions.symm
  nextSessionId := inPlace.nextSessionId.symm

/-- A session has a client when it had one. -/
theorem isSome_eq (inPlace : InPlace before after) (session : SessionId) :
    (after.byId.lookup session).isSome = (before.byId.lookup session).isSome := by
  have same := congrArg Option.isSome (inPlace.known session)
  rwa [Option.isSome_map, Option.isSome_map] at same

theorem touch (directory : Directory) (touches : SessionId → Touch) :
    InPlace directory (directory.touch touches) where
  byAddr := rfl
  known := by
    intro session
    rw [Directory.touch, EntryMap.lookup_amend, Option.map_map]
    congr 1
    funext client
    exact (touches session).username client
  named := by
    intro username
    have unseen : ∀ session client,
        decide (((touches session).change client).username = username) =
          decide (client.username = username) := by
      intro session client
      rw [(touches session).username]
    rw [Directory.named, Directory.touch, EntryMap.first_amend unseen, Option.map_map]
    rfl
  activeSessions := rfl
  nextSessionId := rfl

/-- Only the clients and their order matter. -/
theorem of_eq (byAddr : after.byAddr = before.byAddr) (byId : after.byId = before.byId)
    (activeSessions : after.activeSessions = before.activeSessions)
    (nextSessionId : after.nextSessionId = before.nextSessionId) : InPlace before after where
  byAddr := byAddr
  known := fun _ => by rw [byId]
  named := fun _ => by rw [Directory.named, Directory.named, byId]
  activeSessions := activeSessions
  nextSessionId := nextSessionId

theorem hear (directory : Directory) (addr : SocketAddr) (now : Nat) :
    InPlace directory (directory.hear addr now) := by
  unfold Directory.hear
  split
  · exact .refl directory
  · split
    · exact .of_eq rfl rfl rfl rfl
    · exact .refl directory

theorem announce (directory : Directory) (addrs : List SocketAddr) (packetType : UInt8)
    (data : Bytes) : InPlace directory (directory.announce addrs packetType data) :=
  (touch directory (directory.addressed addrs packetType data)).trans (.of_eq rfl rfl rfl rfl)

end InPlace

/-- Every section of a task keeps the maps. -/
abbrev Keeping {Result : Type} (task : Access Result) : Prop := Task.Each InPlace task

section Keeping

variable {Result : Type}

theorem keeping_inspect (read : Directory → Result) : Keeping (.inspect read : Access Result) :=
  Task.each_inspect InPlace.refl read

/-- A task which keeps the maps in every section keeps them in its run. -/
theorem Keeping.run {task : Access Result} (keeping : Keeping task) (directory : Directory) :
    InPlace directory (task.run directory).2 :=
  Task.Each.run InPlace.refl (fun _ _ _ => InPlace.trans) keeping directory

theorem keeping_updateClient (addr : SocketAddr) (touch : Touch) :
    Keeping (updateClient addr touch) := by
  apply Task.Each.bind (keeping_inspect _)
  rintro (_ | session)
  · exact Task.each_fail _
  apply Task.each_critical
  intro directory
  split
  · exact .touch directory _
  · exact .refl directory

theorem keeping_takeNextUserId : Keeping takeNextUserId :=
  Task.each_critical fun _ => .of_eq rfl rfl rfl rfl

theorem keeping_closeSession (addr : SocketAddr) : Keeping (closeSession addr) :=
  Task.each_critical fun _ => .of_eq rfl rfl rfl rfl

theorem keeping_rejectLogin (src : SocketAddr) (message : Bytes) :
    Keeping (rejectLogin src message) :=
  Task.each_critical fun _ => .of_eq rfl rfl rfl rfl

theorem keeping_sendPacket (addr : SocketAddr) (packetType : UInt8) (data : Bytes) :
    Keeping (sendPacket addr packetType data) := by
  apply Task.Each.bind (keeping_updateClient addr _)
  intro _
  exact Task.each_critical fun _ => .of_eq rfl rfl rfl rfl

theorem keeping_broadcastPacket (packetType : UInt8) (data : Bytes) :
    Keeping (broadcastPacket packetType data) := by
  apply Task.Each.bind (keeping_inspect _)
  intro addrs
  exact Task.each_critical fun directory => .announce directory addrs packetType data

theorem keeping_playThrough (flow : GameFlow) : Keeping (playThrough flow) := by
  apply Task.Each.bind
  · apply Task.Each.forEach
    intro touch
    exact Task.Each.bind (keeping_updateClient touch.1 touch.2).attempt fun _ => Task.each_pure ()
  · exact fun _ => trivial

end Keeping

end Direlera.Clients
