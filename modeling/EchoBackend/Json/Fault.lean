/-
# How reading JSON fails

A text can end too early, be no JSON, or be JSON that does not describe what is asked for.
The last kind is told apart in detail, in words.
-/
import EchoBackend.Text.Escaped

namespace EchoBackend

namespace Json

/-! ## Shapes -/

/-- What stands in a text where something else was asked for. -/
inductive Found where
  | null
  | boolean (value : Bool)
  | integer (value : Int)
  /-- A number that is not kept as an integer, with the text under which it is shown. -/
  | floating (written : String)
  | string (value : List Char)
  | list
  | object
  deriving DecidableEq, Repr

/-- How a finding is named. -/
def Found.name : Found → String
  | null => "null"
  | boolean value => "boolean `" ++ (if value then "true" else "false") ++ "`"
  | integer value => "integer `" ++ value.repr ++ "`"
  | floating written => "floating point `" ++ written ++ "`"
  | string value => "string " ++ String.ofList (Escaped.quote value)
  | list => "sequence"
  | object => "map"

/-- A disagreement between a text and what is asked for. -/
inductive Mismatch where
  /-- Something of another type stands there. -/
  | invalidType (found : Found) (expected : String)
  /-- Something of the right type but with an impossible value stands there. -/
  | invalidValue (found : Found) (expected : String)
  | missingField (name : String)
  | duplicateField (name : String)
  /-- A list has too few elements. -/
  | invalidLength (length : Nat) (expected : String)
  deriving DecidableEq, Repr

/-- The text of a disagreement. -/
def Mismatch.message : Mismatch → String
  | invalidType found expected => "invalid type: " ++ found.name ++ ", expected " ++ expected
  | invalidValue found expected => "invalid value: " ++ found.name ++ ", expected " ++ expected
  | missingField name => "missing field `" ++ name ++ "`"
  | duplicateField name => "duplicate field `" ++ name ++ "`"
  | invalidLength length expected =>
    "invalid length " ++ length.repr ++ ", expected " ++ expected

/-! ## Faults -/

/-- Why reading stopped. -/
inductive Fault where
  /-- The text ends before what is read is complete. -/
  | ended
  /-- The text is not JSON. -/
  | malformed
  /-- The text does not describe what is asked for. -/
  | mismatch (detail : Mismatch)
  deriving DecidableEq, Repr

/-- What reading gives: a value and the bytes after it, or a fault. -/
abbrev Reading (α : Type) := Except Fault (α × Bytes)

/-- Changes the value that was read. -/
def Reading.onValue {α β : Type} (change : α → β) : Reading α → Reading β
  | .error fault => .error fault
  | .ok (value, rest) => .ok (change value, rest)

/-- Changing the value leaves the bytes after it as they are. -/
theorem Reading.onValue_eq_ok {α β : Type} {change : α → β} {reading : Reading α} {value : β}
    {rest : Bytes} (h : reading.onValue change = .ok (value, rest)) :
    ∃ read, reading = .ok (read, rest) ∧ change read = value := by
  unfold onValue at h
  split at h
  · contradiction
  · simp only [Except.ok.injEq, Prod.mk.injEq] at h
    obtain ⟨rfl, rfl⟩ := h
    exact ⟨_, rfl, rfl⟩

end Json

end EchoBackend
