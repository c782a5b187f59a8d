/-
# Reading numbers

A number is an optional minus sign, an integer part without superfluous leading zeros, and
optionally a fraction and an exponent.  Numbers that fit are kept as integers; all others
are rounded to floating point, and only those that are too large for it are refused.
-/
import EchoBackend.Decimal.Binary64
import EchoBackend.Decimal.Shortest
import EchoBackend.Http.Method
import EchoBackend.Json.Token

namespace EchoBackend

namespace Json

/-! ## The parts of a number -/

/-- The parts of a number, each as the values of its digits. -/
structure NumberParts where
  negative : Bool
  whole : List Nat
  fraction : List Nat := []
  /-- The sign and the digits of the exponent. -/
  exponent : Option (Bool × List Nat) := none
  deriving DecidableEq, Repr

/-- An ASCII digit. -/
def isDigit (byte : UInt8) : Bool := 0x30 ≤ byte && byte ≤ 0x39

/-- The values of the digits at the head. -/
def digitsOf (bytes : Bytes) : List Nat :=
  (bytes.takeWhile isDigit).map fun byte => byte.toNat - 0x30

/-- What follows the digits at the head. -/
def afterDigits (bytes : Bytes) : Bytes := bytes.dropWhile isDigit

/-- Reads one digit or more; `early` is the fault of a text that ends where one is due. -/
def readDigits (early : Fault) (bytes : Bytes) : Reading (List Nat) :=
  match bytes with
  | [] => .error early
  | byte :: _ =>
    if isDigit byte then .ok (digitsOf bytes, afterDigits bytes) else .error .malformed

/-- Reads the integer part: a single zero, or digits that do not begin with zero. -/
def readWhole (early : Fault) (bytes : Bytes) : Reading (List Nat) :=
  match bytes with
  | 0x30 :: next :: rest =>
    if isDigit next then .error .malformed else .ok ([0], next :: rest)
  | _ => readDigits early bytes

/-- Reads a fraction, if a point stands there. -/
def readFraction (early : Fault) (bytes : Bytes) : Reading (List Nat) :=
  match bytes with
  | 0x2E :: rest => readDigits early rest
  | _ => .ok ([], bytes)

/-- Splits off the sign of an exponent; without a sign, it is positive. -/
def exponentSign (bytes : Bytes) : Bool × Bytes :=
  match bytes with
  | 0x2B :: rest => (false, rest)
  | 0x2D :: rest => (true, rest)
  | _ => (false, bytes)

/-- Reads an exponent, if one stands there. -/
def readExponent (early : Fault) (bytes : Bytes) : Reading (Option (Bool × List Nat)) :=
  match bytes with
  | mark :: rest =>
    if mark == 0x65 || mark == 0x45 then
      match readDigits early (exponentSign rest).2 with
      | .error fault => .error fault
      | .ok (digits, last) => .ok (some ((exponentSign rest).1, digits), last)
    else .ok (none, bytes)
  | [] => .ok (none, bytes)

/-- Splits off the sign of a number. -/
def numberSign (bytes : Bytes) : Bool × Bytes :=
  match bytes with
  | 0x2D :: rest => (true, rest)
  | _ => (false, bytes)

/-- Reads the parts of a number. -/
def readNumberParts (early : Fault) (bytes : Bytes) : Reading NumberParts :=
  match readWhole early (numberSign bytes).2 with
  | .error fault => .error fault
  | .ok (whole, afterWhole) =>
    match readFraction early afterWhole with
    | .error fault => .error fault
    | .ok (fraction, afterFraction) =>
      match readExponent early afterFraction with
      | .error fault => .error fault
      | .ok (exponent, rest) => .ok (⟨(numberSign bytes).1, whole, fraction, exponent⟩, rest)

/-- What follows the digits is no longer than the text. -/
theorem length_afterDigits_le (bytes : Bytes) : (afterDigits bytes).length ≤ bytes.length :=
  (List.dropWhile_suffix isDigit).length_le

/-- Digits that were read are gone from the text. -/
theorem length_readDigits_lt {early : Fault} {bytes rest : Bytes} {digits : List Nat}
    (h : readDigits early bytes = .ok (digits, rest)) : rest.length < bytes.length := by
  unfold readDigits at h
  split at h
  · contradiction
  · rename_i byte tail
    split at h
    · rename_i hdigit
      simp only [Except.ok.injEq, Prod.mk.injEq, afterDigits, List.dropWhile_cons, hdigit,
        if_true] at h
      have := length_afterDigits_le tail
      simp only [← h.2, List.length_cons, afterDigits] at *
      omega
    · contradiction

/-- An integer part that was read is gone from the text. -/
theorem length_readWhole_lt {early : Fault} {bytes rest : Bytes} {digits : List Nat}
    (h : readWhole early bytes = .ok (digits, rest)) : rest.length < bytes.length := by
  unfold readWhole at h
  split at h
  · split at h
    · contradiction
    · simp only [Except.ok.injEq, Prod.mk.injEq] at h
      simp [← h.2]
  · exact length_readDigits_lt h

/-- What follows a fraction is no longer than the text. -/
theorem length_readFraction_le {early : Fault} {bytes rest : Bytes} {digits : List Nat}
    (h : readFraction early bytes = .ok (digits, rest)) : rest.length ≤ bytes.length := by
  unfold readFraction at h
  split at h
  · have := length_readDigits_lt h
    simp only [List.length_cons]
    omega
  · simp only [Except.ok.injEq, Prod.mk.injEq] at h
    simp [← h.2]

/-- What follows a sign is no longer than the text. -/
theorem length_exponentSign_le (bytes : Bytes) : (exponentSign bytes).2.length ≤ bytes.length := by
  unfold exponentSign
  split <;> simp

/-- What follows an exponent is no longer than the text. -/
theorem length_readExponent_le {early : Fault} {bytes rest : Bytes}
    {exponent : Option (Bool × List Nat)}
    (h : readExponent early bytes = .ok (exponent, rest)) : rest.length ≤ bytes.length := by
  unfold readExponent at h
  split at h
  · rename_i mark tail
    split at h
    · have hsign := length_exponentSign_le tail
      split at h
      · contradiction
      · rename_i digits last hlast
        simp only [Except.ok.injEq, Prod.mk.injEq] at h
        have := length_readDigits_lt hlast
        simp only [← h.2, List.length_cons]
        omega
    · simp only [Except.ok.injEq, Prod.mk.injEq] at h
      simp [← h.2]
  · simp only [Except.ok.injEq, Prod.mk.injEq] at h
    simp [← h.2]

/-- What follows a sign is no longer than the text. -/
theorem length_numberSign_le (bytes : Bytes) : (numberSign bytes).2.length ≤ bytes.length := by
  unfold numberSign
  split <;> simp

/-- A number that was read is gone from the text. -/
theorem length_readNumberParts_lt {early : Fault} {bytes rest : Bytes} {parts : NumberParts}
    (h : readNumberParts early bytes = .ok (parts, rest)) : rest.length < bytes.length := by
  unfold readNumberParts at h
  have hsign := length_numberSign_le bytes
  split at h
  · contradiction
  · rename_i whole hwhole
    split at h
    · contradiction
    · rename_i fraction hfraction
      split at h
      · contradiction
      · rename_i exponent hexponent
        simp only [Except.ok.injEq, Prod.mk.injEq] at h
        have := length_readWhole_lt hwhole
        have := length_readFraction_le hfraction
        have := length_readExponent_le hexponent
        rw [← h.2]
        omega

/-! ## Values -/

/-- The value of a number. -/
inductive Number where
  | integer (value : Int)
  /-- A floating-point number: its sign and its magnitude. -/
  | floating (negative : Bool) (magnitude : Binary64)
  deriving DecidableEq, Repr

/-- The greatest significand that is kept: the greatest number of 64 bits. -/
def maxSignificand : Nat := 18446744073709551615

/-- The greatest magnitude of a negative integer of 64 bits. -/
def maxNegative : Nat := 9223372036854775808

/-- Appends digits to a significand until it would become too great: the significand, and
how many digits were left over. -/
def absorb (significand : Nat) : List Nat → Nat × Nat
  | [] => (significand, 0)
  | digit :: digits =>
    if significand * 10 + digit ≤ maxSignificand then absorb (significand * 10 + digit) digits
    else (significand, (digit :: digits).length)

/-- The number that decimal digits stand for. -/
def ofDigits (digits : List Nat) : Nat := digits.foldl (fun value digit => value * 10 + digit) 0

/-- The integer that a number is kept as, if it is written as one and fits. -/
def NumberParts.integer? (parts : NumberParts) : Option Int :=
  if parts.fraction.isEmpty && parts.exponent.isNone then
    match absorb 0 parts.whole with
    | (value, 0) =>
      if !parts.negative then some value
      else if 0 < value && value ≤ maxNegative then some (-(value : Int))
      else none
    | _ => none
  else none

/-- The floating-point number that the parts are rounded to, if it is not too large.
Digits that no longer fit the significand only shift it, or are ignored in the fraction. -/
def NumberParts.floating? (parts : NumberParts) : Option Binary64 :=
  let (whole, excess) := absorb 0 parts.whole
  let (significand, ignored) := absorb whole parts.fraction
  let shift : Int := match parts.exponent with
    | none => 0
    | some (negative, digits) => if negative then -(ofDigits digits : Int) else ofDigits digits
  Binary64.scaled significand (excess - (parts.fraction.length - ignored) + shift)

/-- The value of a number, unless it is too large. -/
def NumberParts.value? (parts : NumberParts) : Option Number :=
  match parts.integer? with
  | some value => some (.integer value)
  | none => parts.floating?.map (.floating parts.negative)

/-- How a number is named where it does not belong. -/
def Number.found : Number → Found
  | integer value => .integer value
  | floating negative magnitude => .floating (Decimal.render negative magnitude)

/-- Reads a number. -/
def readNumber (bytes : Bytes) : Reading Number :=
  match readNumberParts .ended bytes with
  | .error fault => .error fault
  | .ok (parts, rest) =>
    match parts.value? with
    | some value => .ok (value, rest)
    | none => .error .malformed

/-- Passes over a number.  Here a number that breaks off is no number at all. -/
def skipNumber (bytes : Bytes) : Except Fault Bytes :=
  match readNumberParts .malformed bytes with
  | .error fault => .error fault
  | .ok (_, rest) => .ok rest

/-- A number that was read is gone from the text. -/
theorem length_readNumber_lt {bytes rest : Bytes} {value : Number}
    (h : readNumber bytes = .ok (value, rest)) : rest.length < bytes.length := by
  unfold readNumber at h
  split at h
  · contradiction
  · rename_i parts last hparts
    split at h
    · simp only [Except.ok.injEq, Prod.mk.injEq] at h
      rw [← h.2]
      exact length_readNumberParts_lt hparts
    · contradiction

/-- A number that was passed over is gone from the text. -/
theorem length_skipNumber_lt {bytes rest : Bytes} (h : skipNumber bytes = .ok rest) :
    rest.length < bytes.length := by
  unfold skipNumber at h
  split at h
  · contradiction
  · rename_i parts last hparts
    injection h with h
    rw [← h]
    exact length_readNumberParts_lt hparts

end Json

end EchoBackend
