/-
# Hexadecimal digits

The sixteen digits, read in either letter case and written in lower case.
-/
namespace EchoBackend

namespace Hex

/-- The value of a digit. -/
def value? (byte : UInt8) : Option UInt8 :=
  if 0x30 ≤ byte && byte ≤ 0x39 then some (byte - 0x30)
  else if 0x41 ≤ byte && byte ≤ 0x46 then some (byte - 0x41 + 10)
  else if 0x61 ≤ byte && byte ≤ 0x66 then some (byte - 0x61 + 10)
  else none

/-- The digit of a value below 16. -/
def digit (value : Nat) : Char :=
  if value < 10 then Char.ofNat (0x30 + value) else Char.ofNat (0x57 + value)

/-- The lowest `count` digits of a number, most significant first. -/
def digits (value : Nat) : Nat → List Char
  | 0 => []
  | count + 1 => digits (value / 16) count ++ [digit (value % 16)]

/-- As many digits are written as asked for. -/
@[simp] theorem length_digits (value count : Nat) : (digits value count).length = count := by
  induction count generalizing value with
  | zero => rfl
  | succ count ih => simp [digits, ih]

/-- What is written for a value is read as that value. -/
theorem value?_digit (value : Nat) (h : value < 16) :
    value? (UInt8.ofNat (digit value).toNat) = some (UInt8.ofNat value) := by
  revert h
  revert value
  decide

end Hex

end EchoBackend
