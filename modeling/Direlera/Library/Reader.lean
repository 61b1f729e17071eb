import Mathlib.Data.List.Basic

/-!
# Readers of token strings

A reader takes a value off the front of a string, or fails. `Reads` says that it takes one
particular encoding, whatever follows; readers and encodings are composed together.
-/

namespace Direlera.Library

universe u v

/-- A reader takes a value off the front of a string of tokens. -/
abbrev Reader (Token Value : Type u) := StateT (List Token) Option Value

namespace Reader

variable {Token Value Next : Type u}

/-- As many values as counted. -/
def many (reader : Reader Token Value) : Nat → Reader Token (List Value)
  | 0 => pure []
  | count + 1 => do
      let value ← reader
      let values ← many reader count
      return value :: values

/-- Whatever follows the encoding, the reader takes it and nothing else. -/
def Reads (reader : Reader Token Value) (encoding : List Token) (value : Value) : Prop :=
  ∀ rest, reader.run (encoding ++ rest) = some (value, rest)

theorem reads_pure (value : Value) : Reads (pure value : Reader Token Value) [] value :=
  fun _ => rfl

/-- One encoding after the other. -/
theorem Reads.bind {reader : Reader Token Value} {next : Value → Reader Token Next}
    {encoding later : List Token} {value : Value} {result : Next}
    (first : Reads reader encoding value) (second : Reads (next value) later result) :
    Reads (reader >>= next) (encoding ++ later) result := by
  intro rest
  rw [List.append_assoc, StateT.run_bind, first]
  exact second rest

/-- The last value is returned. -/
theorem Reads.map {reader : Reader Token Value} {encoding : List Token} {value : Value}
    (reads : Reads reader encoding value) (result : Value → Next) :
    Reads (do return result (← reader)) encoding (result value) := by
  have returned := @Reads.bind _ _ _ reader (fun value => pure (result value)) _ _ _ _ reads
    (reads_pure (result value))
  rwa [List.append_nil] at returned

theorem Reads.many {Item : Type v} {reader : Reader Token Value} {encode : Item → List Token}
    {decode : Item → Value} {items : List Item}
    (each : ∀ item ∈ items, Reads reader (encode item) (decode item)) :
    Reads (reader.many items.length) (items.map encode).flatten (items.map decode) := by
  induction items with
  | nil => exact reads_pure []
  | cons item rest ih =>
      have later := ih fun other member => each other (List.mem_cons_of_mem _ member)
      exact (each item List.mem_cons_self).bind (later.map (decode item :: ·))

/-- An encoding on its own is read to its end. -/
theorem Reads.run {reader : Reader Token Value} {encoding : List Token} {value : Value}
    (reads : Reads reader encoding value) : reader.run encoding = some (value, []) := by
  have whole := reads []
  rwa [List.append_nil] at whole

end Reader

end Direlera.Library
