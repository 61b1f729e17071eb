import Mathlib.Logic.Function.Basic

/-!
# Copies kept up by notices

Holders keep copies of an original and learn of its changes by notices. A key is `Stale`
while some copy differs from the original there: a change of the original makes its key
stale, and a notice which everybody hears settles it.
-/

namespace Direlera.Library

variable {Holder Key Value : Type*}

/-- The copies which are kept of an original. -/
abbrev Copies (Holder Key Value : Type*) := Holder → Option (Key → Value)

/-- Some copy differs from the original at the key. -/
def Stale (original : Key → Value) (copies : Copies Holder Key Value) (key : Key) : Prop :=
  ∃ holder copy, copies holder = some copy ∧ copy key ≠ original key

/-- Nothing is stale but, maybe, one key. -/
def StaleAt (key : Key) (original : Key → Value) (copies : Copies Holder Key Value) : Prop :=
  ∀ other, Stale original copies other → other = key

/-- Every copy is like the original. -/
def Fresh (original : Key → Value) (copies : Copies Holder Key Value) : Prop :=
  ∀ holder copy, copies holder = some copy → copy = original

variable {original changed : Key → Value} {copies : Copies Holder Key Value} {key : Key}

theorem fresh_iff : Fresh original copies ↔ ∀ key, ¬Stale original copies key := by
  constructor
  · rintro fresh key ⟨holder, copy, here, differs⟩
    exact differs (congrFun (fresh holder copy here) key)
  · intro settled holder copy here
    ext1 key
    by_contra differs
    exact settled key ⟨holder, copy, here, differs⟩

theorem Fresh.staleAt (fresh : Fresh original copies) (key : Key) :
    StaleAt key original copies :=
  fun other stale => absurd stale (fresh_iff.mp fresh other)

/-- A change at one key makes at most that key stale. -/
theorem StaleAt.change (stale : StaleAt key original copies)
    (elsewhere : ∀ other, other ≠ key → changed other = original other) :
    StaleAt key changed copies := by
  rintro other ⟨holder, copy, here, differs⟩
  by_contra away
  rw [elsewhere other away] at differs
  exact away (stale other ⟨holder, copy, here, differs⟩)

/-- A notice of another value at the key keeps everything else settled. -/
theorem StaleAt.notify [DecidableEq Key] (stale : StaleAt key original copies) (value : Value) :
    StaleAt key original fun holder =>
      (copies holder).map fun copy => Function.update copy key value := by
  rintro other ⟨holder, copy, here, differs⟩
  obtain ⟨before, there, rfl⟩ := Option.map_eq_some_iff.mp here
  by_contra away
  rw [Function.update_of_ne away] at differs
  exact away (stale other ⟨holder, before, there, differs⟩)

/-- A notice of the value of the original settles the key. -/
theorem StaleAt.settle [DecidableEq Key] (stale : StaleAt key original copies) :
    Fresh original fun holder =>
      (copies holder).map fun copy => Function.update copy key (original key) := by
  refine fresh_iff.mpr fun other again => ?_
  obtain rfl := stale.notify (original key) other again
  obtain ⟨holder, copy, here, differs⟩ := again
  obtain ⟨before, there, rfl⟩ := Option.map_eq_some_iff.mp here
  rw [Function.update_self] at differs
  exact differs rfl

/-- Fewer holders have fewer stale keys. -/
theorem Fresh.forget (fresh : Fresh original copies) {fewer : Copies Holder Key Value}
    (kept : ∀ holder copy, fewer holder = some copy → copies holder = some copy) :
    Fresh original fewer :=
  fun holder copy here => fresh holder copy (kept holder copy here)

end Direlera.Library
