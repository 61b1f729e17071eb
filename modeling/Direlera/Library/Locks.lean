import Mathlib.Algebra.BigOperators.Group.Finset.Basic
import Mathlib.Algebra.Order.BigOperators.Group.Finset
import Mathlib.Data.Fintype.Basic
import Mathlib.Data.Fintype.BigOperators
import Mathlib.Logic.Function.Basic
import Mathlib.Logic.Relation
import Mathlib.Order.WellFounded

/-!
# Locks which are granted in turn

Threads take shared and exclusive locks and give them back. Each lock keeps a queue of
requests and grants only the first one, so that a shared request waits behind an exclusive
one. Threads which take their locks in the order of a rank never come to a standstill, and
all of them finish. Two threads which wait for each other do so for ever, and nobody gets
past them to what they hold.
-/

namespace Direlera.Library

/-- Shared locks go together; an exclusive one goes with nothing. -/
inductive LockMode where
  | shared
  | exclusive
deriving DecidableEq, Repr

/-- What a thread does with a lock. -/
inductive LockAct (Lock : Type*) where
  | acquire (lock : Lock) (mode : LockMode)
  | release (lock : Lock) (mode : LockMode)
deriving DecidableEq, Repr

/-- What is left of every thread, the locks which it holds, and the requests for every lock
in their order. -/
structure Locking (Thread Lock : Type*) where
  rest : Thread → List (LockAct Lock)
  held : Thread → List (Lock × LockMode)
  queue : Lock → List (Thread × LockMode)

namespace Locking

variable {Thread Lock : Type*} {locking next : Locking Thread Lock} {thread : Thread}

/-- Threads which hold nothing and wait for nothing. -/
def start (script : Thread → List (LockAct Lock)) : Locking Thread Lock where
  rest := script
  held _ := []
  queue _ := []

/-- Nobody holds the lock in a mode which excludes this one. -/
def Free (locking : Locking Thread Lock) (lock : Lock) : LockMode → Prop
  | .shared => ∀ thread, (lock, .exclusive) ∉ locking.held thread
  | .exclusive => ∀ thread mode, (lock, mode) ∉ locking.held thread

/-- A lock which is not granted is held. -/
theorem holder_of_refused {lock : Lock} {mode : LockMode} (refused : ¬locking.Free lock mode) :
    ∃ holder way, (lock, way) ∈ locking.held holder := by
  cases mode with
  | shared =>
      simp only [Free, not_forall, not_not] at refused
      obtain ⟨holder, holds⟩ := refused
      exact ⟨holder, .exclusive, holds⟩
  | exclusive =>
      simp only [Free, not_forall, not_not] at refused
      obtain ⟨holder, way, holds⟩ := refused
      exact ⟨holder, way, holds⟩

/-- The lock is held in a mode which excludes this one. -/
def Bars (locking : Locking Thread Lock) (holder : Thread) (lock : Lock) (mode : LockMode) : Prop :=
  ∃ way, (lock, way) ∈ locking.held holder ∧ (way = .exclusive ∨ mode = .exclusive)

theorem Bars.not_free {holder : Thread} {lock : Lock} {mode : LockMode}
    (bars : locking.Bars holder lock mode) : ¬locking.Free lock mode := by
  obtain ⟨way, holds, excludes⟩ := bars
  cases mode with
  | shared =>
      obtain rfl : way = .exclusive := by simpa using excludes
      exact fun free => free holder holds
  | exclusive => exact fun free => free holder way holds

/-- Whoever waits for a lock needs it next, and waits once. -/
structure Queued (locking : Locking Thread Lock) : Prop where
  needs : ∀ lock thread mode, (thread, mode) ∈ locking.queue lock →
    ∃ rest, locking.rest thread = .acquire lock mode :: rest
  once : ∀ lock, (locking.queue lock).Nodup

theorem queued_start (script : Thread → List (LockAct Lock)) : (start script).Queued where
  needs := by simp [start]
  once := by simp [start]

/-- A granted or a released thread waits for nothing else. -/
theorem Queued.others (queued : locking.Queued) {act : LockAct Lock} {rest : List (LockAct Lock)}
    (needs : locking.rest thread = act :: rest) {lock : Lock} {other : Thread} {mode : LockMode}
    (waits : (other, mode) ∈ locking.queue lock) (elsewhere : act ≠ .acquire lock mode) :
    other ≠ thread := by
  rintro rfl
  obtain ⟨_, same⟩ := queued.needs lock other mode waits
  rw [needs] at same
  exact elsewhere (List.cons.inj same).1

section Steps

variable [DecidableEq Thread] [DecidableEq Lock]

/-- A thread joins the queue of the lock which it needs next, is granted the lock when it is
first there, or gives a lock back. -/
inductive Step : Locking Thread Lock → Thread → Locking Thread Lock → Prop where
  | request {locking : Locking Thread Lock} {thread : Thread} {lock : Lock} {mode : LockMode}
      {rest : List (LockAct Lock)} (needs : locking.rest thread = .acquire lock mode :: rest)
      (fresh : (thread, mode) ∉ locking.queue lock) :
      Step locking thread { locking with
        queue := Function.update locking.queue lock (locking.queue lock ++ [(thread, mode)]) }
  | grant {locking : Locking Thread Lock} {thread : Thread} {lock : Lock} {mode : LockMode}
      {rest : List (LockAct Lock)} {waiting : List (Thread × LockMode)}
      (needs : locking.rest thread = .acquire lock mode :: rest)
      (first : locking.queue lock = (thread, mode) :: waiting) (free : locking.Free lock mode) :
      Step locking thread
        { rest := Function.update locking.rest thread rest
          held := Function.update locking.held thread ((lock, mode) :: locking.held thread)
          queue := Function.update locking.queue lock waiting }
  | release {locking : Locking Thread Lock} {thread : Thread} {lock : Lock} {mode : LockMode}
      {rest : List (LockAct Lock)} (needs : locking.rest thread = .release lock mode :: rest) :
      Step locking thread
        { locking with
          rest := Function.update locking.rest thread rest
          held := Function.update locking.held thread
            ((locking.held thread).erase (lock, mode)) }

/-- A number of steps of any threads. -/
inductive Run : Locking Thread Lock → Nat → Locking Thread Lock → Prop where
  | refl (locking : Locking Thread Lock) : Run locking 0 locking
  | step {first middle last : Locking Thread Lock} {thread : Thread} {count : Nat}
      (run : Run first count middle) (step : Step middle thread last) : Run first (count + 1) last

/-- The next run starts where the first one ended. -/
theorem Run.trans {first middle last : Locking Thread Lock} {count more : Nat}
    (run : Run first count middle) (later : Run middle more last) :
    Run first (count + more) last := by
  induction later with
  | refl => exact run
  | step _ step ih => exact .step ih step

/-- What every step keeps, every run keeps. -/
theorem Run.keeps {Inv : Locking Thread Lock → Prop}
    (preserved : ∀ {before thread after}, Inv before → Step before thread after → Inv after)
    {first last : Locking Thread Lock} {count : Nat} (run : Run first count last)
    (holds : Inv first) : Inv last := by
  induction run with
  | refl => exact holds
  | step _ step ih => exact preserved ih step

/-! ## Requests -/

theorem Queued.step (queued : locking.Queued) (step : Step locking thread next) :
    next.Queued := by
  cases step with
  | @request lock mode rest needs fresh =>
      constructor
      · intro other waiter way member
        dsimp only at member ⊢
        by_cases same : other = lock
        · subst same
          rw [Function.update_self, List.mem_append, List.mem_singleton] at member
          rcases member with older | newest
          · exact queued.needs other waiter way older
          · cases newest
            exact ⟨rest, needs⟩
        · rw [Function.update_of_ne same] at member
          exact queued.needs other waiter way member
      · intro other
        dsimp only
        by_cases same : other = lock
        · subst same
          rw [Function.update_self]
          exact (queued.once other).append (List.nodup_singleton _) (by simpa using fresh)
        · rw [Function.update_of_ne same]
          exact queued.once other
  | @grant lock mode rest waiting needs first free =>
      have once := queued.once lock
      rw [first, List.nodup_cons] at once
      constructor
      · intro other waiter way member
        dsimp only at member ⊢
        have waits : (waiter, way) ∈ locking.queue other ∧
            LockAct.acquire lock mode ≠ .acquire other way ∨
              other = lock ∧ (waiter, way) ∈ waiting := by
          by_cases same : other = lock
          · subst same
            rw [Function.update_self] at member
            exact .inr ⟨rfl, member⟩
          · rw [Function.update_of_ne same] at member
            refine .inl ⟨member, fun equal => same ?_⟩
            exact (LockAct.acquire.inj equal).1.symm
        clear member
        have different : waiter ≠ thread := by
          rcases waits with ⟨member, elsewhere⟩ | ⟨rfl, later⟩
          · exact queued.others needs member elsewhere
          · rintro rfl
            obtain ⟨_, same⟩ := queued.needs other waiter way
              (first ▸ List.mem_cons_of_mem _ later)
            rw [needs] at same
            obtain rfl := (LockAct.acquire.inj (List.cons.inj same).1).2
            exact once.1 later
        rw [Function.update_of_ne different]
        rcases waits with ⟨member, _⟩ | ⟨rfl, later⟩
        · exact queued.needs other waiter way member
        · exact queued.needs other waiter way (first ▸ List.mem_cons_of_mem _ later)
      · intro other
        dsimp only
        by_cases same : other = lock
        · subst same
          rw [Function.update_self]
          exact once.2
        · rw [Function.update_of_ne same]
          exact queued.once other
  | @release lock mode rest needs =>
      refine ⟨fun other waiter way member => ?_, queued.once⟩
      have different := queued.others needs member (by simp)
      dsimp only
      rw [Function.update_of_ne different]
      exact queued.needs other waiter way member

/-! ## Taking locks in order -/

/-- A lock may be taken while another one is held only if it is below that one; nothing is
held in the end. -/
def Orderly (below : Lock → Lock → Prop) : List (Lock × LockMode) → List (LockAct Lock) → Prop
  | held, [] => held = []
  | held, .acquire lock mode :: rest =>
      (∀ own ∈ held, below own.1 lock) ∧ Orderly below ((lock, mode) :: held) rest
  | held, .release lock mode :: rest => Orderly below (held.erase (lock, mode)) rest

/-- Nobody waits twice, and all threads nest their locks in order. -/
structure Nesting (below : Lock → Lock → Prop) (locking : Locking Thread Lock) : Prop where
  queued : locking.Queued
  orderly : ∀ thread, Orderly below (locking.held thread) (locking.rest thread)

variable {below : Lock → Lock → Prop}

omit [DecidableEq Thread] in
/-- A thread which holds a lock is not finished. -/
theorem Nesting.unfinished (nesting : locking.Nesting below) {own : Lock × LockMode}
    (holds : own ∈ locking.held thread) : locking.rest thread ≠ [] := by
  intro done
  have orderly := nesting.orderly thread
  rw [done, Orderly] at orderly
  rw [orderly] at holds
  cases holds

omit [DecidableEq Thread] in
theorem nesting_start {script : Thread → List (LockAct Lock)}
    (orderly : ∀ thread, Orderly below [] (script thread)) : (start script).Nesting below :=
  ⟨queued_start script, orderly⟩

theorem Nesting.step (nesting : locking.Nesting below) (step : Step locking thread next) :
    next.Nesting below := by
  refine ⟨nesting.queued.step step, fun other => ?_⟩
  have before := nesting.orderly thread
  cases step with
  | request needs fresh => exact nesting.orderly other
  | grant needs first free =>
      rw [needs] at before
      by_cases same : other = thread
      · subst same
        simpa only [Function.update_self] using before.2
      · simpa only [Function.update_of_ne same] using nesting.orderly other
  | release needs =>
      rw [needs] at before
      by_cases same : other = thread
      · subst same
        simpa only [Function.update_self, Orderly] using before
      · simpa only [Function.update_of_ne same] using nesting.orderly other

/-- A thread which cannot move waits in the queue of the lock which it needs. -/
theorem waits_of_stuck (stuck : ∀ after, ¬Step locking thread after)
    (unfinished : locking.rest thread ≠ []) : ∃ lock mode rest,
      locking.rest thread = .acquire lock mode :: rest ∧ (thread, mode) ∈ locking.queue lock := by
  cases needs : locking.rest thread with
  | nil => exact absurd needs unfinished
  | cons act rest =>
      cases act with
      | release lock mode => exact absurd (.release needs) (stuck _)
      | acquire lock mode =>
          refine ⟨lock, mode, rest, rfl, ?_⟩
          by_contra fresh
          exact stuck _ (.request needs fresh)

variable {rank : Lock → Nat}

/-- When nobody can move, a thread which waits for a lock has to wait for one which waits for
a lock of a higher rank. -/
theorem Nesting.higher (nesting : locking.Nesting below)
    (climbs : ∀ {outer inner}, below outer inner → rank outer < rank inner)
    (stuck : ∀ thread after, ¬Step locking thread after) {lock : Lock} {mode : LockMode}
    (waits : (thread, mode) ∈ locking.queue lock) :
    ∃ higher holder way, (holder, way) ∈ locking.queue higher ∧ rank lock < rank higher := by
  cases queue : locking.queue lock with
  | nil => simp [queue] at waits
  | cons first waiting =>
      obtain ⟨leader, way⟩ := first
      obtain ⟨rest, needs⟩ := nesting.queued.needs lock leader way (by simp [queue])
      have refused : ¬locking.Free lock way := fun free => stuck leader _ (.grant needs queue free)
      obtain ⟨holder, held, holds⟩ := holder_of_refused refused
      obtain ⟨higher, wants, rest, needs, waits⟩ :=
        waits_of_stuck (stuck holder) (nesting.unfinished holds)
      have orderly := nesting.orderly holder
      rw [needs, Orderly] at orderly
      exact ⟨higher, holder, wants, waits, climbs (orderly.1 _ holds)⟩

/-- Threads which nest their locks along a bounded rank never come to a standstill. -/
theorem Nesting.progress (nesting : locking.Nesting below)
    (climbs : ∀ {outer inner}, below outer inner → rank outer < rank inner) {top : Nat}
    (bounded : ∀ lock, rank lock ≤ top) (unfinished : locking.rest thread ≠ []) :
    ∃ mover after, Step locking mover after := by
  by_contra standstill
  push Not at standstill
  -- from every lock which somebody waits for, the ranks would go up for ever
  have climb : ∀ gap lock, (∃ waiter mode, (waiter, mode) ∈ locking.queue lock) →
      top - rank lock = gap → False := by
    intro gap
    induction gap using Nat.strong_induction_on with
    | h gap ih =>
        rintro lock ⟨waiter, mode, waits⟩ rfl
        obtain ⟨higher, holder, way, waiting, above⟩ := nesting.higher climbs standstill waits
        have within := bounded higher
        exact ih (top - rank higher) (by omega) higher ⟨holder, way, waiting⟩ rfl
  obtain ⟨lock, mode, rest, needs, waits⟩ := waits_of_stuck (standstill thread) unfinished
  exact climb _ lock ⟨thread, mode, waits⟩ rfl

/-! ## Every run ends -/

/-- The thread is in some queue. -/
def Waits (locking : Locking Thread Lock) (thread : Thread) : Prop :=
  ∃ lock mode, (thread, mode) ∈ locking.queue lock

open Classical in
/-- How many steps a thread can take at most. -/
noncomputable def remaining (locking : Locking Thread Lock) (thread : Thread) : Nat :=
  2 * (locking.rest thread).length - if locking.Waits thread then 1 else 0

omit [DecidableEq Thread] [DecidableEq Lock] in
theorem remaining_congr (rest : next.rest thread = locking.rest thread)
    (waits : next.Waits thread ↔ locking.Waits thread) :
    next.remaining thread = locking.remaining thread := by
  classical
  unfold remaining
  rw [rest]
  by_cases waiting : locking.Waits thread
  · rw [if_pos waiting, if_pos (waits.mpr waiting)]
  · rw [if_neg waiting, if_neg (waits.not.mpr waiting)]

/-- A step is one of those which its thread can take, and the other threads keep theirs. -/
theorem Queued.remaining_step (queued : locking.Queued) (step : Step locking thread next) :
    next.remaining thread < locking.remaining thread ∧
      ∀ other, other ≠ thread → next.remaining other = locking.remaining other := by
  have idle : ∀ {act : LockAct Lock} {rest : List (LockAct Lock)},
      locking.rest thread = act :: rest → (∀ lock mode, act = .acquire lock mode →
        (thread, mode) ∉ locking.queue lock) → ¬locking.Waits thread := by
    rintro act rest needs fresh ⟨lock, mode, waits⟩
    obtain ⟨_, same⟩ := queued.needs lock thread mode waits
    rw [needs] at same
    exact fresh lock mode (List.cons.inj same).1 waits
  cases step with
  | @request lock mode rest needs fresh =>
      have before := idle needs fun other way same => by
        obtain ⟨rfl, rfl⟩ := LockAct.acquire.inj same
        exact fresh
      generalize joined : Function.update locking.queue lock
        (locking.queue lock ++ [(thread, mode)]) = queue
      constructor
      · have after : Waits { locking with queue := queue } thread :=
          ⟨lock, mode, by simp [← joined]⟩
        simp only [remaining, if_neg before, if_pos after, needs, List.length_cons]
        omega
      · intro other different
        refine remaining_congr rfl (exists_congr fun place => exists_congr fun way => ?_)
        by_cases here : place = lock
        · subst here
          simp [← joined, different]
        · simp [← joined, here]
  | @grant lock mode rest waiting needs first free =>
      have before : locking.Waits thread := ⟨lock, mode, by simp [first]⟩
      constructor
      · simp only [remaining, if_pos before, needs, List.length_cons, Function.update_self]
        omega
      · intro other different
        refine remaining_congr (Function.update_of_ne different ..)
          (exists_congr fun place => exists_congr fun way => ?_)
        by_cases here : place = lock
        · subst here
          simp [first, different]
        · simp [here]
  | @release lock mode rest needs =>
      have before := idle needs (by simp)
      constructor
      · simp only [remaining, if_neg before, needs, List.length_cons, Function.update_self]
        omega
      · intro other different
        exact remaining_congr (Function.update_of_ne different ..) Iff.rfl

/-- No run of finitely many threads is longer than what they can do. -/
theorem Run.count_le [Fintype Thread] {first last : Locking Thread Lock} {count : Nat}
    (run : Run first count last) (queued : first.Queued) :
    count + ∑ thread, last.remaining thread ≤ ∑ thread, first.remaining thread := by
  induction run with
  | refl => simp
  | @step middle last thread count run step ih =>
      obtain ⟨own, others⟩ := (run.keeps (fun queued step => queued.step step) queued).remaining_step step
      have less : ∑ thread, last.remaining thread < ∑ thread, middle.remaining thread := by
        refine Finset.sum_lt_sum (fun other _ => ?_) ⟨thread, Finset.mem_univ thread, own⟩
        by_cases same : other = thread
        · exact same ▸ own.le
        · exact (others other same).le
      omega

/-- A run which cannot go on has finished every thread. -/
theorem Nesting.finished {first last : Locking Thread Lock} {count : Nat}
    (nesting : first.Nesting below)
    (climbs : ∀ {outer inner}, below outer inner → rank outer < rank inner) {top : Nat}
    (bounded : ∀ lock, rank lock ≤ top) (run : Run first count last)
    (stuck : ∀ thread after, ¬Step last thread after) (thread : Thread) :
    last.rest thread = [] := by
  by_contra unfinished
  obtain ⟨mover, after, step⟩ :=
    (run.keeps (fun nesting step => nesting.step step) nesting).progress climbs bounded unfinished
  exact stuck mover after step

/-! ## Running alone -/

/-- What a thread holds after some of its acts. -/
def holding (held : List (Lock × LockMode)) : List (LockAct Lock) → List (Lock × LockMode)
  | [] => held
  | .acquire lock mode :: rest => holding ((lock, mode) :: held) rest
  | .release lock mode :: rest => holding (held.erase (lock, mode)) rest

omit [DecidableEq Thread] in
theorem holding_append (held : List (Lock × LockMode)) (acts more : List (LockAct Lock)) :
    holding held (acts ++ more) = holding (holding held acts) more := by
  induction acts generalizing held with
  | nil => rfl
  | cons act acts ih =>
      cases act with
      | acquire lock mode => exact ih _
      | release lock mode => exact ih _

omit [DecidableEq Thread] [DecidableEq Lock] in
/-- A lock which nobody else bars and which the thread does not hold is free for it. -/
theorem free_of_clear {lock : Lock} {mode : LockMode}
    (others : ∀ other, other ≠ thread → ¬locking.Bars other lock mode)
    (own : ∀ way, (lock, way) ∉ locking.held thread) : locking.Free lock mode := by
  cases mode with
  | shared =>
      intro other holds
      by_cases same : other = thread
      · exact own .exclusive (same ▸ holds)
      · exact others other same ⟨.exclusive, holds, .inl rfl⟩
  | exclusive =>
      intro other way holds
      by_cases same : other = thread
      · exact own way (same ▸ holds)
      · exact others other same ⟨way, holds, .inr rfl⟩

omit [DecidableEq Thread] in
/-- What follows some acts is in order for what they leave held. -/
theorem Orderly.later {held : List (Lock × LockMode)} {acts rest : List (LockAct Lock)}
    (orderly : Orderly below held (acts ++ rest)) :
    Orderly below (Locking.holding held acts) rest := by
  induction acts generalizing held with
  | nil => exact orderly
  | cons act acts ih =>
      cases act with
      | acquire lock mode => exact ih orderly.2
      | release lock mode => exact ih orderly

/-- A thread which nobody bars and before which nobody waits goes through some of its acts
alone. -/
theorem exists_run_alone (apart : ∀ lock, ¬below lock lock) {acts rest : List (LockAct Lock)}
    (needs : locking.rest thread = acts ++ rest)
    (orderly : Orderly below (locking.held thread) (acts ++ rest))
    (clear : ∀ lock mode, .acquire lock mode ∈ acts → locking.queue lock = [] ∧
      ∀ other, other ≠ thread → ¬locking.Bars other lock mode) :
    ∃ count, Run locking count
      { rest := Function.update locking.rest thread rest
        held := Function.update locking.held thread (holding (locking.held thread) acts)
        queue := locking.queue } := by
  induction acts generalizing locking with
  | nil =>
      have same : locking.rest thread = rest := needs
      subst same
      simpa [holding] using ⟨0, Run.refl locking⟩
  | cons act acts ih =>
      -- the state after the first act
      let next : Locking Thread Lock :=
        { rest := Function.update locking.rest thread (acts ++ rest)
          held := Function.update locking.held thread (holding (locking.held thread) [act])
          queue := locking.queue }
      have first : ∃ count, Run locking count next := by
        cases act with
        | acquire lock mode =>
            obtain ⟨empty, others⟩ := clear lock mode (List.mem_cons_self ..)
            have free : locking.Free lock mode := by
              refine free_of_clear others fun way holds => ?_
              exact apart lock (orderly.1 _ holds)
            let asked : Locking Thread Lock :=
              { locking with queue := Function.update locking.queue lock [(thread, mode)] }
            have asks : Step locking thread asked := by
              have joins := Step.request needs (by simp [empty])
              rwa [empty] at joins
            have takes : Step asked thread next := by
              have restored : Function.update asked.queue lock [] = locking.queue := by
                rw [Function.update_idem, Function.update_eq_self_iff, empty]
              have granted : Step asked thread
                  ⟨_, _, Function.update asked.queue lock []⟩ :=
                .grant needs (by simp [asked]) free
              rwa [restored] at granted
            exact ⟨2, .step (.step (.refl _) asks) takes⟩
        | release lock mode => exact ⟨1, .step (.refl _) (.release needs)⟩
      obtain ⟨count, run⟩ := first
      have orderly : Orderly below (next.held thread) (acts ++ rest) := by
        cases act with
        | acquire lock mode => simpa [next, holding] using orderly.2
        | release lock mode => simpa [next, holding, Orderly] using orderly
      obtain ⟨more, later⟩ := @ih next (Function.update_self ..) orderly fun lock mode member => by
        obtain ⟨empty, others⟩ := clear lock mode (List.mem_cons_of_mem _ member)
        refine ⟨empty, fun other different bars => others other different ?_⟩
        simpa [next, Bars, different] using bars
      refine ⟨count + more, run.trans ?_⟩
      simpa [next, ← holding_append] using later

/-- A thread goes alone through what it begins with, if that gives everything back. -/
theorem exists_run_start (apart : ∀ lock, ¬below lock lock)
    {script : Thread → List (LockAct Lock)} {acts rest : List (LockAct Lock)}
    (needs : script thread = acts ++ rest) (orderly : Orderly below [] (script thread))
    (given : holding [] acts = []) :
    ∃ count, Run (start script) count (start (Function.update script thread rest)) := by
  have alone := @exists_run_alone Thread Lock (start script) thread _ _ below apart acts rest needs
    (needs ▸ orderly) (by simp [start, Bars])
  obtain ⟨count, run⟩ := alone
  refine ⟨count, ?_⟩
  have kept : Function.update (start script).held thread (holding [] acts) =
      (start script).held := by
    rw [given, Function.update_eq_self_iff]
    rfl
  rwa [show (start script).held thread = [] from rfl, kept] at run

/-! ## Waiting for each other -/

/-- A thread needs a lock which another one bars. -/
structure Awaits (locking : Locking Thread Lock) (thread holder : Thread) : Prop where
  needs : ∃ lock mode rest, locking.rest thread = .acquire lock mode :: rest ∧
    locking.Bars holder lock mode

/-- What a waiting thread has to do and holds stays as it is. -/
theorem Awaits.step {holder mover : Thread} (awaits : locking.Awaits thread holder)
    (step : Step locking mover next) :
    next.rest thread = locking.rest thread ∧ next.held thread = locking.held thread := by
  obtain ⟨lock, mode, rest, needs, bars⟩ := awaits.needs
  cases step with
  | request _ _ => exact ⟨rfl, rfl⟩
  | grant moves first free =>
      have different : thread ≠ mover := by
        rintro rfl
        rw [needs] at moves
        obtain ⟨rfl, rfl⟩ := LockAct.acquire.inj (List.cons.inj moves).1
        exact bars.not_free free
      exact ⟨Function.update_of_ne different .., Function.update_of_ne different ..⟩
  | release moves =>
      have different : thread ≠ mover := by
        rintro rfl
        rw [needs] at moves
        cases (List.cons.inj moves).1
      exact ⟨Function.update_of_ne different .., Function.update_of_ne different ..⟩

/-- Two threads which wait for each other do not move any more. -/
structure Embrace (locking : Locking Thread Lock) (first second : Thread) : Prop where
  left : locking.Awaits first second
  right : locking.Awaits second first

variable {first second : Thread}

theorem Embrace.step {mover : Thread} (embrace : locking.Embrace first second)
    (step : Step locking mover next) : next.Embrace first second := by
  obtain ⟨restFirst, heldFirst⟩ := embrace.left.step step
  obtain ⟨restSecond, heldSecond⟩ := embrace.right.step step
  obtain ⟨⟨lock, mode, rest, needs, bars⟩⟩ := embrace.left
  obtain ⟨⟨other, way, more, wants, keeps⟩⟩ := embrace.right
  refine ⟨⟨lock, mode, rest, restFirst.trans needs, ?_⟩, ⟨other, way, more, restSecond.trans wants, ?_⟩⟩
  · rw [Bars, heldSecond]
    exact bars
  · rw [Bars, heldFirst]
    exact keeps

/-- What is barred by one of two threads which wait for each other is not taken by any step. -/
theorem Embrace.barred {mover : Thread} (embrace : locking.Embrace first second) {lock : Lock}
    {mode : LockMode} (bars : locking.Bars first lock mode ∨ locking.Bars second lock mode)
    (step : Step locking mover next) :
    (next.Bars first lock mode ∨ next.Bars second lock mode) ∧ ∀ thread,
      .acquire lock mode ∈ locking.rest thread → .acquire lock mode ∈ next.rest thread := by
  constructor
  · rw [Bars, Bars, (embrace.left.step step).2, (embrace.right.step step).2]
    exact bars
  · intro thread ahead
    cases step with
    | request _ _ => exact ahead
    | @grant taken way rest waiting needs queue free =>
        dsimp only
        by_cases same : thread = mover
        · subst same
          rw [needs, List.mem_cons] at ahead
          rw [Function.update_self]
          refine ahead.resolve_left fun equal => ?_
          obtain ⟨rfl, rfl⟩ := LockAct.acquire.inj equal
          exact bars.elim (fun bars => bars.not_free free) fun bars => bars.not_free free
        · rw [Function.update_of_ne same]
          exact ahead
    | release needs =>
        dsimp only
        by_cases same : thread = mover
        · subst same
          rw [needs, List.mem_cons] at ahead
          rw [Function.update_self]
          exact ahead.resolve_left (by simp)
        · rw [Function.update_of_ne same]
          exact ahead

/-- No step takes what somebody bars. -/
theorem untaken_step {holder mover : Thread} {lock : Lock} {mode : LockMode}
    (bars : locking.Bars holder lock mode) (step : Step locking mover next)
    (untaken : (lock, mode) ∉ locking.held thread) : (lock, mode) ∉ next.held thread := by
  cases step with
  | request _ _ => exact untaken
  | grant _ _ free =>
      dsimp only
      by_cases same : thread = mover
      · subst same
        rw [Function.update_self, List.mem_cons, not_or]
        refine ⟨fun equal => ?_, untaken⟩
        obtain ⟨rfl, rfl⟩ := Prod.mk.inj equal
        exact bars.not_free free
      · rwa [Function.update_of_ne same]
  | release _ =>
      dsimp only
      by_cases same : thread = mover
      · subst same
        rw [Function.update_self]
        exact fun member => untaken (List.mem_of_mem_erase member)
      · rwa [Function.update_of_ne same]

/-- Two threads which wait for each other do so for ever, and nobody takes what one of them bars
or gets past it. -/
theorem Embrace.never {last : Locking Thread Lock} {count : Nat}
    (embrace : locking.Embrace first second) (run : Run locking count last) :
    last.Embrace first second ∧ ∀ lock mode thread,
      locking.Bars first lock mode ∨ locking.Bars second lock mode →
        ((lock, mode) ∉ locking.held thread → (lock, mode) ∉ last.held thread) ∧
        (.acquire lock mode ∈ locking.rest thread → .acquire lock mode ∈ last.rest thread) := by
  suffices kept : last.Embrace first second ∧ ∀ lock mode,
      locking.Bars first lock mode ∨ locking.Bars second lock mode →
        (last.Bars first lock mode ∨ last.Bars second lock mode) ∧ ∀ thread,
          ((lock, mode) ∉ locking.held thread → (lock, mode) ∉ last.held thread) ∧
          (.acquire lock mode ∈ locking.rest thread → .acquire lock mode ∈ last.rest thread) from
    ⟨kept.1, fun lock mode thread bars => (kept.2 lock mode bars).2 thread⟩
  induction run with
  | refl => exact ⟨embrace, fun _ _ bars => ⟨bars, fun _ => ⟨id, id⟩⟩⟩
  | step run step ih =>
      obtain ⟨still, kept⟩ := ih
      refine ⟨still.step step, fun lock mode bars => ?_⟩
      obtain ⟨barred, before⟩ := kept lock mode bars
      obtain ⟨stays, passes⟩ := still.barred barred step
      refine ⟨stays, fun thread => ⟨fun untaken => ?_, fun ahead => ?_⟩⟩
      · have earlier := (before thread).1 untaken
        exact barred.elim (fun bars => untaken_step bars step earlier)
          fun bars => untaken_step bars step earlier
      · exact passes thread ((before thread).2 ahead)

end Steps

end Locking

end Direlera.Library
