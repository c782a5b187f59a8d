/-
# Port numbers on the command line

A port is written in decimal, possibly with a sign and leading zeros.  The digits are
judged from left to right as a signed number of 64 bits, and the number must be one that a
port can have.
-/
namespace EchoBackend

namespace PortNumber

/-! ## Faults -/

/-- Why a text is no port. -/
inductive Fault where
  /-- Nothing is written. -/
  | empty
  /-- A character is no digit, or no digit follows the sign. -/
  | digit
  /-- The number is too great for 64 bits. -/
  | tooLarge
  /-- The number is too small for 64 bits. -/
  | tooSmall
  /-- The number is no port. -/
  | outOfRange (number : Int)
  deriving DecidableEq, Repr

/-- What is wrong, in words. -/
def Fault.message : Fault → String
  | .empty => "cannot parse integer from empty string"
  | .digit => "invalid digit found in string"
  | .tooLarge => "number too large to fit in target type"
  | .tooSmall => "number too small to fit in target type"
  | .outOfRange number =>
    (if number < 0 then "-" else "") ++ number.natAbs.repr ++ " is not in 1..=65535"

/-! ## Reading -/

/-- The greatest positive number of 64 bits. -/
def maxPositive : Nat := 9223372036854775807

/-- The greatest magnitude of a negative number of 64 bits. -/
def maxNegative : Nat := 9223372036854775808

/-- Reads digits after a number read before, none of the numbers on the way being greater
than a limit. -/
def readDigits (limit : Nat) (excess : Fault) (number : Nat) : List Char → Except Fault Nat
  | [] => .ok number
  | c :: text =>
    if c.isDigit then
      let next := 10 * number + (c.toNat - '0'.toNat)
      if next ≤ limit then readDigits limit excess next text else .error excess
    else .error .digit

/-- Reads the digits after a sign, or a number without one. -/
def readUnsigned (limit : Nat) (excess : Fault) (text : List Char) : Except Fault Nat :=
  if text.isEmpty then .error .digit else readDigits limit excess 0 text

/-- Reads a signed number of 64 bits. -/
def readNumber : List Char → Except Fault Int
  | [] => .error .empty
  | '+' :: text => (readUnsigned maxPositive .tooLarge text).map Int.ofNat
  | '-' :: text => (readUnsigned maxNegative .tooSmall text).map fun number => -Int.ofNat number
  | text => (readUnsigned maxPositive .tooLarge text).map Int.ofNat

/-- Reads a port. -/
def read (text : List Char) : Except Fault UInt16 :=
  match readNumber text with
  | .error fault => .error fault
  | .ok number =>
    if 1 ≤ number ∧ number ≤ 65535 then .ok (UInt16.ofNat number.toNat)
    else .error (.outOfRange number)

end PortNumber

end EchoBackend
