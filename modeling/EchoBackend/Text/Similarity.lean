/-
# Similarity of words

Two words are similar if they share many letters at nearby places and in nearly the same
order.  The measure is the mean of three fractions: the shared letters in each of the
words, and the shared letters that stand in the same order.  It is compared exactly, as a
fraction.
-/
namespace EchoBackend

namespace Similarity

/-! ## Shared letters -/

/-- The first free place of a letter from a place on, below a bound; every place of the
word says whether it is taken. -/
def claim? (letter : Char) (low bound : Nat) : Nat → List (Char × Bool) → Option Nat
  | _, [] => none
  | place, (other, taken) :: rest =>
    if place < bound then
      if low ≤ place && other == letter && !taken then some place
      else claim? letter low bound (place + 1) rest
    else none

/-- How far apart shared letters may stand. -/
def reach (x y : List Char) : Nat := max x.length y.length / 2 - 1

/-- Pairs the letters of a word, in order, with letters of another; each letter of either
word is used once.  The letters that found a partner are returned, and the other word with
the letters that were taken. -/
def pairOff (reach : Nat) : Nat → List Char → List (Char × Bool) → List Char × List (Char × Bool)
  | _, [], other => ([], other)
  | place, letter :: word, other =>
    match claim? letter (place - reach) (place + reach + 1) 0 other with
    | some taken =>
      let rest := pairOff reach (place + 1) word (other.modify taken fun (c, _) => (c, true))
      (letter :: rest.1, rest.2)
    | none => pairOff reach (place + 1) word other

/-- The shared letters, as they follow each other in the one word and in the other. -/
def shared (x y : List Char) : List Char × List Char :=
  let (left, marked) := pairOff (reach x y) 0 x (y.map (·, false))
  (left, (marked.filter Prod.snd).map Prod.fst)

/-! ## The measure -/

/-- A fraction, as numerator and denominator. -/
structure Fraction where
  numerator : Nat
  denominator : Nat
  deriving DecidableEq, Repr

/-- Whether one fraction is at least another. -/
def Fraction.atLeast (x y : Fraction) : Bool :=
  y.numerator * x.denominator ≤ x.numerator * y.denominator

/-- The similarity of two words, between 0 and 1. -/
def measure (x y : List Char) : Fraction :=
  let (left, right) := shared x y
  let common := left.length
  if common = 0 then ⟨0, 1⟩
  else
    let swapped := ((left.zip right).filter fun (a, b) => a != b).length / 2
    ⟨common * common * y.length + common * common * x.length +
        (common - swapped) * x.length * y.length,
      3 * common * x.length * y.length⟩

/-- The similarity from which on a word is taken for a misspelling of another. -/
def threshold : Fraction := ⟨7, 10⟩

/-! ## A word and itself -/

/-- The first free place of a letter, where all places before it are taken. -/
theorem claim?_append (letter : Char) {low bound : Nat} (rest : List (Char × Bool))
    (before : List Char) (place : Nat) (hlow : low ≤ place + before.length)
    (hbound : place + before.length < bound) :
    claim? letter low bound place (before.map (·, true) ++ (letter, false) :: rest) =
      some (place + before.length) := by
  induction before generalizing place with
  | nil =>
    rw [List.length_nil, Nat.add_zero] at hlow hbound
    simp [claim?, hlow, hbound]
  | cons other before ih =>
    rw [List.length_cons] at hlow hbound ⊢
    rw [List.map_cons, List.cons_append, claim?, if_pos (by omega)]
    have hskip : (decide (low ≤ place) && other == letter && !true) = false := by simp
    rw [hskip, if_neg Bool.false_ne_true, ih (place + 1) (by omega) (by omega)]
    congr 1
    omega

/-- Takes the place after some others. -/
theorem modify_append (before rest : List (Char × Bool)) (letter : Char) :
    (before ++ (letter, false) :: rest).modify before.length (fun (c, _) => (c, true)) =
      before ++ (letter, true) :: rest := by
  induction before with
  | nil => rfl
  | cons other before ih => simp [ih]

/-- Every letter of a word finds itself, if those before it have done so. -/
theorem pairOff_self (reach : Nat) (before word : List Char) :
    pairOff reach before.length word (before.map (·, true) ++ word.map (·, false)) =
      (word, (before ++ word).map (·, true)) := by
  induction word generalizing before with
  | nil => rw [List.append_nil, List.map_nil, List.append_nil, pairOff]
  | cons letter word ih =>
    have hclaim := @claim?_append letter (before.length - reach) (before.length + reach + 1)
      (word.map (·, false)) before 0 (by omega) (by omega)
    have hrest := ih (before ++ [letter])
    rw [List.length_append, List.length_singleton] at hrest
    rw [Nat.zero_add] at hclaim
    have hmark : (before.map (·, true) ++ (letter, false) :: word.map (·, false)).modify
        before.length (fun (c, _) => (c, true)) =
          (before ++ [letter]).map (·, true) ++ word.map (·, false) := by
      rw [← List.length_map (f := (·, true)), modify_append]
      simp
    rw [List.map_cons, pairOff, hclaim]
    dsimp only
    rw [hmark, hrest, List.append_assoc]
    rfl

/-- A word shares all its letters with itself. -/
theorem shared_self (x : List Char) : shared x x = (x, x) := by
  have hpairs := pairOff_self (reach x x) [] x
  rw [List.map_nil, List.nil_append, List.length_nil, List.nil_append] at hpairs
  rw [shared, hpairs]
  simp [List.filter_map, Function.comp_def]

/-- **A word is as similar to itself as can be.** -/
theorem measure_self {x : List Char} (h : x ≠ []) :
    (measure x x).numerator = (measure x x).denominator := by
  have hlength : x.length ≠ 0 := fun hnil => h (List.eq_nil_of_length_eq_zero hnil)
  have hsame : (x.zip x).filter (fun (a, b) => a != b) = [] := by
    clear h hlength
    induction x with
    | nil => rfl
    | cons letter x ih => simp [ih]
  rw [measure, shared_self]
  dsimp only
  rw [if_neg hlength, hsame]
  simp only [List.length_nil, Nat.zero_div, Nat.sub_zero]
  rw [Nat.mul_assoc 3, Nat.mul_assoc 3]
  omega

example : measure ['h', 'e', 'l', 'p'] ['h', 'e', 'l', 'p'] = ⟨192, 192⟩ := by decide

end Similarity

end EchoBackend
