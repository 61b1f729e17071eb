import Mathlib.Data.List.Basic

/-!
# Two mirrored windows of recent values

A sender and a receiver keep the last `capacity` literal values each. The sender
replaces a value it still holds by its position; the receiver looks the position
up. `Sender.decode_encode` is the whole argument: if both windows are equal before a
value, the receiver recovers it and both windows are equal after it.
-/

namespace Direlera.Library.MirroredWindow

universe u v

variable {α : Type u}

/-- Append a value at the newest end, dropping the oldest one when full. -/
def pushBounded (capacity : Nat) (window : List α) (value : α) : List α :=
  if capacity ≤ window.length then window.tail ++ [value] else window ++ [value]

/-- Pushing keeps what is true of the old entries and of the new one. -/
theorem forall_mem_pushBounded {Holds : α → Prop} {capacity : Nat} {window : List α} {value : α}
    (held : ∀ entry ∈ window, Holds entry) (new : Holds value) :
    ∀ entry ∈ pushBounded capacity window value, Holds entry := by
  intro entry mem
  unfold pushBounded at mem
  split at mem
  · rcases List.mem_append.mp mem with old | last
    · exact held entry (List.mem_of_mem_tail old)
    · exact List.mem_singleton.mp last ▸ new
  · rcases List.mem_append.mp mem with old | last
    · exact held entry old
    · exact List.mem_singleton.mp last ▸ new

/-- What travels between the two sides. -/
inductive Token (α : Type u) where
  | literal (value : α)
  | reference (position : Nat)
deriving DecidableEq, Repr

/-- A sender keeps its window in some state; what it reports as held is held and
what it keeps is pushed. -/
structure Sender (σ : Type v) (α : Type u) (capacity : Nat) where
  window : σ → List α
  locate : σ → α → Option Nat
  keep : σ → α → σ
  located : ∀ {state value position}, locate state value = some position →
    (window state)[position]? = some value
  kept : ∀ state value, window (keep state value) = pushBounded capacity (window state) value

/-- The sender's rule: refer to a held value, otherwise send it and keep it. -/
def Sender.encode {σ : Type v} {capacity : Nat} (sender : Sender σ α capacity) (state : σ)
    (value : α) : Token α × σ :=
  match sender.locate state value with
  | some position => (.reference position, state)
  | none => (.literal value, sender.keep state value)

/-- The receiver's rule; `none` is a reference to an absent position. -/
def decode (capacity : Nat) (window : List α) : Token α → Option (α × List α)
  | .literal value => some (value, pushBounded capacity window value)
  | .reference position => window[position]?.map fun value => (value, window)

/-- The last `capacity` values. -/
def latest (capacity : Nat) (values : List α) : List α := values.drop (values.length - capacity)

@[simp] theorem length_latest (capacity : Nat) (values : List α) :
    (latest capacity values).length = min capacity values.length := by
  rw [latest, List.length_drop]
  omega

theorem latest_map {β : Type v} (convert : α → β) (capacity : Nat) (values : List α) :
    latest capacity (values.map convert) = (latest capacity values).map convert := by
  rw [latest, latest, List.length_map, List.map_drop]

/-- A bounded push keeps the latest values. -/
theorem pushBounded_latest {capacity : Nat} (positive : 0 < capacity) (values : List α)
    (value : α) :
    pushBounded capacity (latest capacity values) value = latest capacity (values ++ [value]) := by
  unfold pushBounded
  rw [length_latest]
  by_cases full : capacity ≤ values.length
  · have within : values.length + 1 - capacity ≤ values.length := by omega
    have next : values.length - capacity + 1 = values.length + 1 - capacity := by omega
    rw [if_pos (by omega), latest, latest, List.tail_drop, List.length_append,
      List.length_singleton, List.drop_append_of_le_length within, next]
  · have all : values.length - capacity = 0 := by omega
    have still : values.length + 1 - capacity = 0 := by omega
    rw [if_neg (by omega), latest, latest, List.length_append, List.length_singleton, all, still,
      List.drop_zero, List.drop_zero]

/-- One value survives the channel and leaves both sides with equal windows. -/
theorem Sender.decode_encode {σ : Type v} {capacity : Nat} (sender : Sender σ α capacity)
    (state : σ) (value : α) :
    decode capacity (sender.window state) (sender.encode state value).1 =
      some (value, sender.window (sender.encode state value).2) := by
  unfold Sender.encode
  cases found : sender.locate state value with
  | none => simp [decode, sender.kept]
  | some position =>
      have held := sender.located found
      simp [decode, held]

/-- The tokens of a sequence of values and the sender's last state. -/
def Sender.encodeAll {σ : Type v} {capacity : Nat} (sender : Sender σ α capacity) (state : σ) :
    List α → List (Token α) × σ
  | [] => ([], state)
  | value :: rest =>
      ((sender.encode state value).1 :: (sender.encodeAll (sender.encode state value).2 rest).1,
        (sender.encodeAll (sender.encode state value).2 rest).2)

/-- The sender's window after each value of a sequence. -/
def Sender.windows {σ : Type v} {capacity : Nat} (sender : Sender σ α capacity) (state : σ) :
    List α → List (List α)
  | [] => []
  | value :: rest =>
      sender.window (sender.encode state value).2 ::
        sender.windows (sender.encode state value).2 rest

/-- Receive tokens in order; each yields its value and the window after it. -/
def decodeAll (capacity : Nat) (window : List α) : List (Token α) → Option (List (α × List α))
  | [] => some []
  | token :: rest =>
      (decode capacity window token).bind fun (value, next) =>
        (decodeAll capacity next rest).map ((value, next) :: ·)

theorem Sender.encodeAll_append {σ : Type v} {capacity : Nat} (sender : Sender σ α capacity)
    (state : σ) (first second : List α) :
    sender.encodeAll state (first ++ second) =
      ((sender.encodeAll state first).1 ++
          (sender.encodeAll (sender.encodeAll state first).2 second).1,
        (sender.encodeAll (sender.encodeAll state first).2 second).2) := by
  induction first generalizing state with
  | nil => rfl
  | cons value rest ih => simp [Sender.encodeAll, ih]

theorem Sender.windows_append {σ : Type v} {capacity : Nat} (sender : Sender σ α capacity)
    (state : σ) (first second : List α) :
    sender.windows state (first ++ second) =
      sender.windows state first ++ sender.windows (sender.encodeAll state first).2 second := by
  induction first generalizing state with
  | nil => rfl
  | cons value rest ih => simp [Sender.windows, Sender.encodeAll, ih]

@[simp] theorem Sender.length_windows {σ : Type v} {capacity : Nat}
    (sender : Sender σ α capacity) (state : σ) (values : List α) :
    (sender.windows state values).length = values.length := by
  induction values generalizing state with
  | nil => rfl
  | cons value rest ih => simp [Sender.windows, ih]

/-- A receiver which starts with the sender's window recovers every value and
holds the sender's window after each. -/
theorem Sender.decodeAll_encodeAll {σ : Type v} {capacity : Nat} (sender : Sender σ α capacity)
    (state : σ) (values : List α) :
    decodeAll capacity (sender.window state) (sender.encodeAll state values).1 =
      some (values.zip (sender.windows state values)) := by
  induction values generalizing state with
  | nil => rfl
  | cons value rest ih =>
      simp [decodeAll, Sender.encodeAll, Sender.windows, sender.decode_encode, ih]

end Direlera.Library.MirroredWindow
