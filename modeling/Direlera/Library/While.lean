import Mathlib.Data.List.Basic

/-!
# Loops with a guard

`While guard body` relates the state in which a loop starts to the number of its rounds, what
it puts out, and the state in which it stops. A measure which falls in every round makes the
loop end; the rules here reason about a loop by one round.
-/

namespace Direlera.Library

universe u v

variable {State : Type u} {Output : Type v}

/-- A loop which starts in a state runs so many rounds, with these outputs, and stops. -/
inductive While (guard : State → Bool) (body : State → List Output × State) :
    State → Nat → List Output → State → Prop
  | stop {state : State} (stops : guard state = false) : While guard body state 0 [] state
  | round {state last : State} {rounds : Nat} {outputs : List Output} (goes : guard state = true)
      (rest : While guard body (body state).2 rounds outputs last) :
      While guard body state (rounds + 1) ((body state).1 ++ outputs) last

namespace While

variable {guard : State → Bool} {body : State → List Output × State} {state last : State}
  {rounds : Nat} {outputs : List Output}

/-- A loop ends where its guard fails. -/
theorem stopped (loop : While guard body state rounds outputs last) : guard last = false := by
  induction loop with
  | stop stops => exact stops
  | round _ _ ih => exact ih

/-- Every round takes something from the measure. -/
theorem rounds_le {measure : State → Nat}
    (falls : ∀ state, guard state = true → measure (body state).2 < measure state)
    (loop : While guard body state rounds outputs last) : rounds ≤ measure state := by
  induction loop with
  | stop _ => exact Nat.zero_le _
  | round goes _ ih =>
      have less := falls _ goes
      omega

/-- A loop whose measure falls ends. -/
theorem ends {measure : State → Nat}
    (falls : ∀ state, guard state = true → measure (body state).2 < measure state)
    (state : State) : ∃ rounds outputs last, While guard body state rounds outputs last := by
  generalize size : measure state = bound
  induction bound using Nat.strongRecOn generalizing state with
  | ind bound ih =>
      cases goes : guard state with
      | false => exact ⟨0, [], state, .stop goes⟩
      | true =>
          obtain ⟨rounds, outputs, last, rest⟩ := ih _ (size ▸ falls state goes) _ rfl
          exact ⟨rounds + 1, _, last, .round goes rest⟩

/-- What every round keeps is kept. -/
theorem invariant (Inv : State → Prop)
    (preserved : ∀ state, guard state = true → Inv state → Inv (body state).2)
    (loop : While guard body state rounds outputs last) (initial : Inv state) : Inv last := by
  induction loop with
  | stop _ => exact initial
  | round goes _ ih => exact ih (preserved _ goes initial)

/-- What every round brings about holds at the end, if there was a round. -/
theorem after_round (Inv Post : State → Prop)
    (preserved : ∀ state, guard state = true → Inv state → Inv (body state).2)
    (brought : ∀ state, guard state = true → Inv state → Post (body state).2)
    (loop : While guard body state rounds outputs last) (initial : Inv state)
    (some : 0 < rounds) : Post last := by
  cases loop with
  | stop _ => cases some
  | round goes rest =>
      refine (rest.invariant (fun state => Inv state ∧ Post state) ?_ ?_).2
      · exact fun state goes both => ⟨preserved state goes both.1, brought state goes both.1⟩
      · exact ⟨preserved _ goes initial, brought _ goes initial⟩

end While

end Direlera.Library
