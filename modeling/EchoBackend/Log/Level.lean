/-
# Log levels

How important an event is, and from which importance on events are written.
-/
namespace EchoBackend

namespace Log

/-- How important an event is. -/
inductive Level where
  | error
  | warn
  | info
  | debug
  | trace
  deriving DecidableEq, Repr

namespace Level

/-- The name of a level, as it stands in a log line. -/
def name : Level → String
  | error => "ERROR"
  | warn => "WARN"
  | info => "INFO"
  | debug => "DEBUG"
  | trace => "TRACE"

/-- The number of a level: the less important, the greater. -/
def number : Level → Nat
  | error => 1
  | warn => 2
  | info => 3
  | debug => 4
  | trace => 5

end Level

/-- Which events are written: those down to a level, or none at all. -/
inductive Verbosity where
  | off
  | downTo (level : Level)
  deriving DecidableEq, Repr

namespace Verbosity

/-- Whether events of a level are written. -/
def admits : Verbosity → Level → Bool
  | off, _ => false
  | downTo least, level => level.number ≤ least.number

/-! ## Spellings -/

/-- The verbosity of a number. -/
def ofNumber? : Nat → Option Verbosity
  | 0 => some off
  | 1 => some (downTo .error)
  | 2 => some (downTo .warn)
  | 3 => some (downTo .info)
  | 4 => some (downTo .debug)
  | 5 => some (downTo .trace)
  | _ => none

/-- The verbosity of a name in lower case. -/
def ofName? : List Char → Option Verbosity
  | ['o', 'f', 'f'] => some off
  | ['e', 'r', 'r', 'o', 'r'] => some (downTo .error)
  | ['w', 'a', 'r', 'n'] => some (downTo .warn)
  | ['i', 'n', 'f', 'o'] => some (downTo .info)
  | ['d', 'e', 'b', 'u', 'g'] => some (downTo .debug)
  | ['t', 'r', 'a', 'c', 'e'] => some (downTo .trace)
  | _ => none

/-- The number that digits spell, a plus sign before them being allowed. -/
def digits? (text : List Char) : Option Nat :=
  let digits := match text with
    | '+' :: digits => digits
    | digits => digits
  if !digits.isEmpty && digits.all Char.isDigit then some (Nat.ofDigitChars 10 digits 0) else none

/-- Reads a verbosity: a number, or a name in any letter case. -/
def ofChars? (text : List Char) : Option Verbosity :=
  match digits? text with
  | some number => ofNumber? number
  | none => ofName? (text.map Char.toLower)

end Verbosity

end Log

end EchoBackend
