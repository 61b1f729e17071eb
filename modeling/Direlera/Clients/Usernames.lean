import Direlera.Clients.InPlace
import Direlera.Clients.Sections

/-!
# Names of connected clients

Only the section in which a login adds its client may make two names equal: it keeps the names
of connected clients unique exactly if nobody else is connected under its name. Every other
section fades: it binds no address anew and leaves the names as they are.
-/

namespace Direlera.Clients

open Direlera.Library Direlera.Lobby Direlera.Sync Direlera.Wire

namespace Directory

variable {directory before middle after : Directory}

/-- Two connected clients with one name are one client at one address. -/
def Unique (directory : Directory) : Prop :=
  ∀ first second one two, directory.find first = some one → directory.find second = some two →
    one.username = two.username → first = second

/-- Two connected clients with one key are one client at one address. -/
def UniqueBy {Key : Type} (key : ClientInfo → Key) (directory : Directory) : Prop :=
  ∀ first second one two, directory.find first = some one → directory.find second = some two →
    key one = key two → first = second

/-- Every session which is bound or has a client was drawn already. -/
structure Drawn (directory : Directory) : Prop where
  bound : ∀ addr session, directory.byAddr.lookup addr = some session →
    session < directory.nextSessionId
  known : ∀ session client, directory.byId.lookup session = some client →
    session < directory.nextSessionId

/-! ## Sections which add nobody -/

theorem UniqueBy.retain {Key : Type} {key : ClientInfo → Key} (unique : before.UniqueBy key)
    (retains : Retains key before after) : after.UniqueBy key := by
  intro first second one two here there same
  obtain ⟨earlierOne, hereBefore, sameOne⟩ := retains.find here
  obtain ⟨earlierTwo, thereBefore, sameTwo⟩ := retains.find there
  exact unique first second earlierOne earlierTwo hereBefore thereBefore
    (sameOne.trans (same.trans sameTwo.symm))

theorem Drawn.retain {Value : Type} {field : ClientInfo → Value} (drawn : before.Drawn)
    (retains : Retains field before after) : after.Drawn where
  bound := by
    intro addr session here
    rw [retains.drawn]
    exact drawn.bound addr session (retains.bound addr session here)
  known := by
    intro session client here
    obtain ⟨earlier, there, _⟩ := retains.known session client here
    rw [retains.drawn]
    exact drawn.known session earlier there

/-- No address is bound anew, and every client left keeps its name. -/
structure Fades (before after : Directory) : Prop where
  bound : ∀ addr session, after.byAddr.lookup addr = some session →
    before.byAddr.lookup addr = some session
  known : ∀ session client, after.byId.lookup session = some client →
    ∃ earlier, before.byId.lookup session = some earlier ∧ earlier.username = client.username
  drawn : after.nextSessionId = before.nextSessionId

theorem Fades.retains (fades : Fades before after) :
    Retains (fun client => client.username) before after :=
  ⟨fades.bound, fades.known, fades.drawn⟩

theorem Unique.fade (unique : before.Unique) (fades : Fades before after) : after.Unique :=
  UniqueBy.retain unique fades.retains

theorem Drawn.fade (drawn : before.Drawn) (fades : Fades before after) : after.Drawn :=
  drawn.retain fades.retains

theorem fades_of_works (works : Works (fun client => client.username) (fun _ => True) before after) :
    Fades before after :=
  ⟨works.retains.bound, works.retains.known, works.retains.drawn⟩

theorem fades_of_inPlace (inPlace : InPlace before after) : Fades before after where
  bound := by
    intro addr session here
    rwa [inPlace.byAddr] at here
  known := by
    intro session client here
    have same := inPlace.known session
    rw [here, Option.map_some] at same
    exact Option.map_eq_some_iff.mp same.symm
  drawn := inPlace.nextSessionId

theorem fades_removeClient (directory : Directory) (addr : SocketAddr) :
    Fades directory (directory.removeClient addr) :=
  fades_of_works (.remove addr)

/-! ## The section of a login which adds its client -/

variable {src : SocketAddr} {username emulatorName : Bytes} {connType : UInt8} {userId : UInt16}
  {now : Nat}

/-- A login binds its address and nothing else. -/
theorem find_enrol (drawn : directory.Drawn) :
    (directory.enrol src username emulatorName connType userId now).find =
      Function.update directory.find src
        (some (.login username emulatorName connType userId directory.nextSessionId)) := by
  funext addr
  by_cases same : addr = src
  · subst same
    rw [Function.update_self, find, enrol, addClient, AList.lookup_insert]
    exact AList.lookup_insert _
  · rw [Function.update_of_ne same, find, enrol, addClient, AList.lookup_insert_ne same]
    cases bound : directory.byAddr.lookup addr with
    | none => simp [find, bound]
    | some session =>
        have older : session ≠ directory.nextSessionId := Nat.ne_of_lt (drawn.bound addr session bound)
        simp only [find, bound, Option.bind_some]
        exact AList.lookup_insert_ne older

theorem Drawn.enrol (drawn : directory.Drawn) :
    (directory.enrol src username emulatorName connType userId now).Drawn where
  bound := by
    intro addr session here
    change (directory.byAddr.insert src directory.nextSessionId).lookup addr = some session at here
    by_cases same : addr = src
    · subst same
      rw [AList.lookup_insert] at here
      exact Option.some.inj here ▸ Nat.lt_succ_self directory.nextSessionId
    · rw [AList.lookup_insert_ne same] at here
      exact Nat.lt_succ_of_lt (drawn.bound addr session here)
  known := by
    intro session client here
    by_cases same : session = directory.nextSessionId
    · exact same ▸ Nat.lt_succ_self directory.nextSessionId
    · have there := (AList.lookup_insert_ne same).symm.trans here
      exact Nat.lt_succ_of_lt (drawn.known session client there)

/-- A login keeps keys unique exactly if nobody else has its key. -/
theorem uniqueBy_enrol_iff {Key : Type} {key : ClientInfo → Key} (drawn : directory.Drawn)
    (unique : directory.UniqueBy key) :
    (directory.enrol src username emulatorName connType userId now).UniqueBy key ↔
      ∀ addr client, directory.find addr = some client →
        key client = key (.login username emulatorName connType userId directory.nextSessionId) →
          addr = src := by
  constructor
  · intro after addr client here same
    by_contra other
    have there : (directory.enrol src username emulatorName connType userId now).find addr =
        some client := by
      rw [find_enrol drawn, Function.update_of_ne other]
      exact here
    have own : (directory.enrol src username emulatorName connType userId now).find src =
        some (.login username emulatorName connType userId directory.nextSessionId) := by
      rw [find_enrol drawn, Function.update_self]
    exact other (after addr src client _ there own same)
  · intro free first second one two here there same
    rw [find_enrol drawn] at here there
    by_cases firstOwn : first = src
    · by_cases secondOwn : second = src
      · rw [firstOwn, secondOwn]
      · rw [firstOwn, Function.update_self] at here
        rw [Function.update_of_ne secondOwn] at there
        obtain rfl := Option.some.inj here
        exact absurd (free second two there same.symm) secondOwn
    · rw [Function.update_of_ne firstOwn] at here
      by_cases secondOwn : second = src
      · rw [secondOwn, Function.update_self] at there
        obtain rfl := Option.some.inj there
        exact absurd (free first one here same) firstOwn
      · rw [Function.update_of_ne secondOwn] at there
        exact unique first second one two here there same

/-- A login keeps the names unique exactly if nobody else has its name. -/
theorem unique_enrol_iff (drawn : directory.Drawn) (unique : directory.Unique) :
    (directory.enrol src username emulatorName connType userId now).Unique ↔
      ∀ addr client, directory.find addr = some client → client.username = username →
        addr = src :=
  @uniqueBy_enrol_iff directory src username emulatorName connType userId now _
    (fun client => client.username) drawn unique

end Directory

/-! ## What sections do -/

open Directory

/-- What a section does to the maps: it adds the client which it is to enrol, or nobody. -/
inductive Files (before : Directory) : Option Enrolment → Directory → Prop
  | fade {after : Directory} (fades : Fades before after) : Files before none after
  | enrol (src : SocketAddr) (username emulatorName : Bytes) (connType : UInt8) (userId : UInt16)
      (now : Nat) : Files before (some ⟨src, username⟩)
        (before.enrol src username emulatorName connType userId now)

theorem Files.drawn {before after : Directory} {enrolment : Option Enrolment}
    (files : Files before enrolment after) (drawn : before.Drawn) : after.Drawn := by
  cases files with
  | fade fades => exact drawn.fade fades
  | enrol src username emulatorName connType userId now => exact drawn.enrol

/-- Every section of a handler files what it is to file. -/
abbrev Filing {Result : Type} (task : Clerical Result) : Prop :=
  Labelled.Each (fun enrolment before after _ => Files before enrolment after) task

/-- No errand touches a name. -/
theorem covers_username : Covers (fun client => client.username) fun _ => True :=
  ⟨fun _ _ _ => rfl, trivial, trivial, trivial⟩

theorem filing_runErrand (src : SocketAddr) (errand : Errand) : Filing (runErrand src errand) := by
  have clerking := clerking_runErrand covers_username src fun touch
    (_ : touch ∈ errand.flow.touches) => touch.2.username
  refine clerking.mono fun enrolment before after _ clerks => ?_
  cases clerks with
  | work works => exact .fade (fades_of_works works)
  | draw => exact .fade ⟨fun _ _ => id, fun _ client here => ⟨client, here, rfl⟩, rfl⟩
  | enrol src username emulatorName connType userId now =>
      exact .enrol src username emulatorName connType userId now

/-- A login with the name `a`. -/
def loginA : Errand := .login [97, 0, 0, 1] 100 100 .idle

end Direlera.Clients
