/-
# Binary floating point

Magnitudes with 53 significant bits: a mantissa times a power of two, the exponent lying
between -1074 and 971.  A ratio of natural numbers is rounded to the nearest magnitude,
and halfway between two of them to the one with the even mantissa.
-/
namespace EchoBackend

/-- A finite magnitude, `mantissa * 2 ^ exponent`.  The mantissa has 53 bits, or fewer if
the exponent is the least one. -/
structure Binary64 where
  mantissa : Nat
  exponent : Int
  deriving DecidableEq, Repr, Inhabited

namespace Binary64

/-- The least exponent. -/
def minExponent : Int := -1074

/-- The greatest exponent. -/
def maxExponent : Int := 971

/-- The mantissas of full size are those from here on. -/
def leastFull : Nat := 4503599627370496

/-- The mantissas are those below. -/
def mantissaLimit : Nat := 9007199254740992

/-- Nothing. -/
def zero : Binary64 := ⟨0, minExponent⟩

/-- A quotient, rounded to the nearest integer, a half to the even one. -/
def roundQuotient (num den : Nat) : Nat :=
  let quotient := num / den
  let rest := num % den
  if 2 * rest < den || (2 * rest == den && quotient % 2 == 0) then quotient else quotient + 1

/-- Numerator and denominator of `num / den / 2 ^ exponent`. -/
def unscale (num den : Nat) (exponent : Int) : Nat × Nat :=
  if 0 ≤ exponent then (num, den * Nat.pow 2 exponent.toNat)
  else (num * Nat.pow 2 (-exponent).toNat, den)

/-- The exponent with which a positive ratio has a mantissa of 53 bits, if that is not less
than the least one. -/
def exponentOf (num den : Nat) : Int :=
  let guess := max ((num.log2 : Int) - den.log2 - 53) minExponent
  let (a, b) := unscale num den guess
  if a / b < mantissaLimit then guess else guess + 1

/-- The magnitude nearest to a ratio, unless that is too large. -/
def ofRatio (num den : Nat) : Option Binary64 :=
  if num = 0 then some zero
  else
    let exponent := exponentOf num den
    let (a, b) := unscale num den exponent
    let mantissa := roundQuotient a b
    let result : Binary64 :=
      if mantissa = mantissaLimit then ⟨leastFull, exponent + 1⟩ else ⟨mantissa, exponent⟩
    if result.exponent ≤ maxExponent then some result else none

/-- The rounded product. -/
def mul (x y : Binary64) : Option Binary64 :=
  let (num, den) := unscale (x.mantissa * y.mantissa) 1 (-(x.exponent + y.exponent))
  ofRatio num den

/-- The rounded quotient. -/
def div (x y : Binary64) : Option Binary64 :=
  let (num, den) := unscale x.mantissa y.mantissa (-(x.exponent - y.exponent))
  ofRatio num den

/-- The greatest power of ten there is a magnitude for. -/
def maxPower : Nat := 308

/-- The magnitude nearest to a power of ten. -/
def power (exponent : Nat) : Option Binary64 := ofRatio (Nat.pow 10 exponent) 1

/-- A significand times a power of ten, unless that is too large.  The significand and the
power are rounded on their own before they are multiplied or divided, and a power that is
too small is divided by in steps. -/
def scaled (significand : Nat) (exponent : Int) : Option Binary64 := do
  let value ← ofRatio significand 1
  if value.mantissa = 0 then pure zero
  else if 0 ≤ exponent then
    if exponent ≤ maxPower then value.mul (← power exponent.toNat) else none
  else
    let shift := (-exponent).toNat
    if shift ≤ maxPower then value.div (← power shift)
    else if shift ≤ 2 * maxPower then
      (← value.div (← power maxPower)).div (← power (shift - maxPower))
    else pure zero

end Binary64

end EchoBackend
