/-
# Decimal text of floating-point numbers

A magnitude is written with the fewest digits that no other magnitude is nearer to; of two
such spellings the nearer one is taken.  Numbers of middling size are written
positionally, all others with an exponent.
-/
import EchoBackend.Decimal.Binary64

namespace EchoBackend

namespace Decimal

/-! ## Digits -/

/-- A decimal number, `digits * 10 ^ exponent`. -/
structure Grid where
  digits : Nat
  exponent : Int
  deriving DecidableEq, Repr, Inhabited

/-- The reals that round to a magnitude: bounds and value as multiples of `num / den`. -/
structure Interval where
  low : Nat
  value : Nat
  high : Nat
  /-- Whether the bounds belong to it. -/
  closed : Bool
  num : Nat
  den : Nat
  deriving DecidableEq, Repr, Inhabited

/-- The interval of a magnitude reaches halfway to its neighbours; below a power of two
the neighbour is nearer. -/
def Interval.of (x : Binary64) : Interval :=
  let (num, den) := Binary64.unscale 1 1 (-(x.exponent - 2))
  let nearer := x.mantissa == Binary64.leastFull && x.exponent != Binary64.minExponent
  { low := 4 * x.mantissa - (if nearer then 1 else 2)
    value := 4 * x.mantissa
    high := 4 * x.mantissa + 2
    closed := x.mantissa % 2 == 0
    num := num
    den := den }

/-- Whether a decimal number lies in an interval. -/
def Interval.contains (interval : Interval) (point : Grid) : Bool :=
  let (a, b) := if 0 ≤ point.exponent then (point.digits * Nat.pow 10 point.exponent.toNat, 1)
    else (point.digits, Nat.pow 10 (-point.exponent).toNat)
  let place := a * interval.den
  let low := interval.low * interval.num * b
  let high := interval.high * interval.num * b
  if interval.closed then low ≤ place && place ≤ high else low < place && place < high

/-- The exponent of the leading decimal digit of a positive ratio. -/
def leadingExponent (num den : Nat) : Int :=
  let guess := (num.repr.length : Int) - den.repr.length
  let reached := if 0 ≤ guess then den * Nat.pow 10 guess.toNat ≤ num
    else den ≤ num * Nat.pow 10 (-guess).toNat
  if reached then guess else guess - 1

/-- The neighbours of a ratio on the grid of an exponent, the nearer one first; of two
equally near ones, the even one. -/
def neighbours (num den : Nat) (exponent : Int) : List Grid :=
  let (a, b) := if 0 ≤ exponent then (num, den * Nat.pow 10 exponent.toNat)
    else (num * Nat.pow 10 (-exponent).toNat, den)
  let below := a / b
  let rest := a % b
  if 2 * rest < b || (2 * rest == b && below % 2 == 0) then
    [⟨below, exponent⟩, ⟨below + 1, exponent⟩]
  else [⟨below + 1, exponent⟩, ⟨below, exponent⟩]

/-- The most digits that are ever needed. -/
def maxDigits : Nat := 17

/-- The shortest decimal number that is nearest to a magnitude. -/
def shortest (x : Binary64) : Grid :=
  let interval := Interval.of x
  let num := interval.value * interval.num
  let leading := leadingExponent num interval.den
  let candidates := (List.range maxDigits).flatMap fun (more : Nat) =>
    neighbours num interval.den (leading - more)
  (candidates.find? interval.contains).getD ⟨0, 0⟩

/-! ## Text -/

/-- The least exponent of the leading digit that is written positionally. -/
def minPositional : Int := -5

/-- The greatest exponent of the leading digit that is written positionally. -/
def maxPositional : Int := 15

/-- The digits of a number without the zeros at its end. -/
def significant (digits : Nat) : List Char :=
  (digits.repr.toList.reverse.dropWhile (· == '0')).reverse

/-- Positional notation, with at least one digit on either side of the point. -/
def positional (digits : List Char) (exponent : Int) : List Char :=
  if exponent < 0 then
    ['0', '.'] ++ List.replicate ((-exponent).toNat - 1) '0' ++ digits
  else
    let whole := exponent.toNat + 1
    let padded := digits ++ List.replicate (whole + 1 - digits.length) '0'
    padded.take whole ++ '.' :: padded.drop whole

/-- Notation with an exponent, which has a sign and at least two digits. -/
def scientific (digits : List Char) (exponent : Int) : List Char :=
  let point := if digits.length ≤ 1 then digits else digits.take 1 ++ '.' :: digits.drop 1
  let size := exponent.natAbs.repr.toList
  point ++ ['e', if exponent < 0 then '-' else '+'] ++ List.replicate (2 - size.length) '0' ++ size

/-- The text of a magnitude with a sign. -/
def render (negative : Bool) (x : Binary64) : String :=
  let text :=
    if x.mantissa = 0 then ['0', '.', '0']
    else
      let grid := shortest x
      let exponent := grid.exponent + grid.digits.repr.length - 1
      let digits := significant grid.digits
      if minPositional ≤ exponent && exponent ≤ maxPositional then positional digits exponent
      else scientific digits exponent
  String.ofList (if negative then '-' :: text else text)

end Decimal

end EchoBackend
