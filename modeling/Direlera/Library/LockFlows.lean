import Direlera.Library.Locks
import Mathlib.Data.List.GetD

/-!
# The locks of a control flow

A `LockFlow` is what is left of a function when only its locks are looked at: what it does
while it holds one, what it does next unless it returns, which branch it takes, what it
repeats. Its `Path`s are what an execution can do with the locks. A flow which nests its locks
in order has only paths which do.
-/

namespace Direlera.Library

/-- The lock operations of a function and the ways through them. -/
inductive LockFlow (Lock : Type*) where
  | skip
  | hold (lock : Lock) (mode : LockMode) (body : LockFlow Lock)
  | andThen (first second : LockFlow Lock)
  | pick (branches : Nat → LockFlow Lock)
  | many (body : LockFlow Lock)

namespace LockFlow

variable {Lock : Type*}

/-- Hold a lock together with other readers. -/
def read (lock : Lock) (body : LockFlow Lock) : LockFlow Lock := hold lock .shared body

/-- Hold a lock alone. -/
def write (lock : Lock) (body : LockFlow Lock) : LockFlow Lock := hold lock .exclusive body

/-- One of several branches, or none. -/
def oneOf (branches : List (LockFlow Lock)) : LockFlow Lock :=
  pick fun index => branches.getD index skip

/-- Perhaps. -/
def maybe (body : LockFlow Lock) : LockFlow Lock := oneOf [body]

/-- Perhaps, if it is possible at all. -/
def maybeWhen (possible : Bool) (body : LockFlow Lock) : LockFlow Lock :=
  if possible then maybe body else skip

/-- One step after the other, up to where the function returns. -/
def steps : List (LockFlow Lock) → LockFlow Lock
  | [] => skip
  | first :: rest => andThen first (steps rest)

/-- What an execution does with the locks. It may return between two steps. -/
inductive Path : LockFlow Lock → List (LockAct Lock) → Prop where
  | skip : Path skip []
  | hold {lock : Lock} {mode : LockMode} {body : LockFlow Lock} {acts : List (LockAct Lock)}
      (inside : Path body acts) :
      Path (hold lock mode body) (.acquire lock mode :: acts ++ [.release lock mode])
  | returned {first second : LockFlow Lock} {acts : List (LockAct Lock)} (path : Path first acts) :
      Path (andThen first second) acts
  | andThen {first second : LockFlow Lock} {acts more : List (LockAct Lock)}
      (path : Path first acts) (later : Path second more) :
      Path (andThen first second) (acts ++ more)
  | pick {branches : Nat → LockFlow Lock} {index : Nat} {acts : List (LockAct Lock)}
      (path : Path (branches index) acts) : Path (pick branches) acts
  | finished {body : LockFlow Lock} : Path (many body) []
  | again {body : LockFlow Lock} {acts more : List (LockAct Lock)} (path : Path body acts)
      (later : Path (many body) more) : Path (many body) (acts ++ more)

section Path

variable {lock : Lock} {body : LockFlow Lock} {acts : List (LockAct Lock)}

theorem path_read (inside : Path body acts) :
    Path (read lock body) (.acquire lock .shared :: acts ++ [.release lock .shared]) :=
  .hold inside

theorem path_write (inside : Path body acts) :
    Path (write lock body) (.acquire lock .exclusive :: acts ++ [.release lock .exclusive]) :=
  .hold inside

theorem path_oneOf {branches : List (LockFlow Lock)} (index : Nat)
    (path : Path (branches.getD index skip) acts) : Path (oneOf branches) acts :=
  .pick path

theorem path_maybe (path : Path body acts) : Path (maybe body) acts := path_oneOf 0 path

theorem path_not : Path (maybe body) [] := path_oneOf 1 .skip

theorem path_maybeWhen {possible : Bool} (possibly : possible = true) (path : Path body acts) :
    Path (maybeWhen possible body) acts := by
  rw [maybeWhen, if_pos possibly]
  exact path_maybe path

/-- One round of what is repeated. -/
theorem path_once (path : Path body acts) : Path (many body) acts := by
  simpa using path.again .finished

end Path

/-- Under the locks which are held, every further one is taken below all of them. -/
def Nested (below : Lock → Lock → Prop) : List Lock → LockFlow Lock → Prop
  | _, skip => True
  | held, hold lock _ body => (∀ own ∈ held, below own lock) ∧ Nested below (lock :: held) body
  | held, andThen first second => Nested below held first ∧ Nested below held second
  | held, pick branches => ∀ index, Nested below held (branches index)
  | held, many body => Nested below held body

section Nested

variable {below : Lock → Lock → Prop} {held : List Lock} {lock : Lock} {body : LockFlow Lock}

@[simp] theorem nested_skip : Nested below held (skip : LockFlow Lock) := trivial

@[simp] theorem nested_read : Nested below held (read lock body) ↔
    (∀ own ∈ held, below own lock) ∧ Nested below (lock :: held) body := Iff.rfl

@[simp] theorem nested_write : Nested below held (write lock body) ↔
    (∀ own ∈ held, below own lock) ∧ Nested below (lock :: held) body := Iff.rfl

@[simp] theorem nested_many : Nested below held (many body) ↔ Nested below held body := Iff.rfl

@[simp] theorem nested_pick {branches : Nat → LockFlow Lock} :
    Nested below held (pick branches) ↔ ∀ index, Nested below held (branches index) := Iff.rfl

@[simp] theorem nested_oneOf {branches : List (LockFlow Lock)} :
    Nested below held (oneOf branches) ↔ ∀ branch ∈ branches, Nested below held branch := by
  constructor
  · intro nested branch member
    obtain ⟨index, inside, rfl⟩ := List.getElem_of_mem member
    simpa [List.getElem?_eq_getElem inside] using nested index
  · intro nested index
    dsimp only
    by_cases inside : index < branches.length
    · rw [List.getD_eq_getElem _ _ inside]
      exact nested _ (List.getElem_mem inside)
    · rw [List.getD_eq_default _ _ (by omega)]
      trivial

@[simp] theorem nested_maybe : Nested below held (maybe body) ↔ Nested below held body := by
  simp [maybe]

@[simp] theorem nested_maybeWhen {possible : Bool} : Nested below held (maybeWhen possible body) ↔
    (possible = true → Nested below held body) := by
  cases possible <;> simp [maybeWhen]

@[simp] theorem nested_steps {parts : List (LockFlow Lock)} :
    Nested below held (steps parts) ↔ ∀ part ∈ parts, Nested below held part := by
  induction parts with
  | nil => simp [steps]
  | cons first rest ih => simp [steps, Nested, ih]

end Nested

/-- A flow which nests its locks in order gives back all which it takes, in order. -/
theorem Path.orderly [DecidableEq Lock] {below : Lock → Lock → Prop} {flow : LockFlow Lock}
    {acts : List (LockAct Lock)} (path : Path flow acts) {held : List (Lock × LockMode)}
    (nested : Nested below (held.map Prod.fst) flow) {rest : List (LockAct Lock)}
    (later : Locking.Orderly below held rest) : Locking.Orderly below held (acts ++ rest) := by
  induction path generalizing held rest with
  | skip => exact later
  | @hold lock mode body acts inside ih =>
      rw [List.cons_append, List.cons_append, List.append_assoc]
      refine ⟨fun own member => nested.1 own.1 (List.mem_map_of_mem member), ?_⟩
      refine @ih ((lock, mode) :: held) nested.2 _ ?_
      simpa [Locking.Orderly] using later
  | returned path ih => exact ih nested.1 later
  | andThen path more ihPath ihMore =>
      rw [List.append_assoc]
      exact ihPath nested.1 (ihMore nested.2 later)
  | pick path ih => exact ih (nested _) later
  | finished => exact later
  | again path more ihPath ihMore =>
      rw [List.append_assoc]
      exact ihPath nested (ihMore nested later)

/-- An execution of such a flow from beginning to end. -/
theorem Path.orderly_whole [DecidableEq Lock] {below : Lock → Lock → Prop} {flow : LockFlow Lock}
    {acts : List (LockAct Lock)} (path : Path flow acts) (nested : Nested below [] flow) :
    Locking.Orderly below [] acts := by
  have ends : Locking.Orderly below [] ([] : List (LockAct Lock)) := rfl
  simpa using path.orderly nested ends

end LockFlow

end Direlera.Library
