/-
# Reading what was printed in decimal

A number that was printed in decimal has no superfluous zeros in front, so it is read as that
number, provided that nothing follows that could prolong it.  The main statements are
`readNumber_numeral` and, for ports, `readPort_repr`.
-/
import EchoBackend.Json.Value
import EchoBackend.Proofs.Json.Grammar
import EchoBackend.Proofs.Text.Decoding

namespace EchoBackend

namespace Json

open Utf8

/-! ## Printed digits -/

/-- The first digit of a number other than 0 is not 0. -/
theorem toDigits_eq_cons {number : Nat} (h : 0 < number) :
    ∃ c cs, Nat.toDigits 10 number = c :: cs ∧ c ≠ '0' := by
  induction number using Nat.strongRecOn with
  | ind number ih =>
    rw [Nat.toDigits_eq_if (by decide)]
    split
    case isTrue hlt =>
      have hdigit : ∀ digit < 10, 0 < digit → digit.digitChar ≠ '0' := by decide
      exact ⟨_, [], rfl, hdigit number hlt h⟩
    case isFalse hge =>
      obtain ⟨c, cs, heq, hne⟩ := ih (number / 10) (by omega) (by omega)
      exact ⟨c, cs ++ [(number % 10).digitChar], by rw [heq, List.cons_append], hne⟩

/-- Printed digits lie between 0 and 9. -/
theorem toNat_of_mem_toDigits {number : Nat} {c : Char} (h : c ∈ Nat.toDigits 10 number) :
    0x30 ≤ c.toNat ∧ c.toNat ≤ 0x39 := by
  have hdigit := Nat.isDigit_of_mem_toDigits (by decide) (Nat.le_refl 10) h
  simp only [Char.isDigit, Bool.and_eq_true, decide_eq_true_eq, ge_iff_le,
    UInt32.le_iff_toNat_le] at hdigit
  exact hdigit

/-- The values of the digits of a number. -/
def digitValues (number : Nat) : List Nat := (Nat.toDigits 10 number).map fun c => c.toNat - 0x30

/-- A number is what its digits stand for. -/
theorem ofDigits_digitValues (number : Nat) : ofDigits (digitValues number) = number := by
  rw [ofDigits, digitValues, List.foldl_map]
  have hvalue := Nat.ofDigitChars_ten_toDigits (n := number)
  rw [Nat.ofDigitChars_eq_foldl] at hvalue
  simp only [Nat.mul_comm 10] at hvalue
  exact hvalue

/-- The bytes of the digits of a number. -/
def numeral (number : Nat) : Bytes := (Nat.toDigits 10 number).map fun c => UInt8.ofNat c.toNat

/-- A number is printed as its numeral. -/
theorem encode_repr (number : Nat) : encode number.repr.toList = numeral number := by
  rw [Nat.toList_repr]
  refine encode_of_ascii fun c hc => ?_
  have hdigit := toNat_of_mem_toDigits hc
  omega

/-- The byte of a digit has the number of the digit. -/
theorem toNat_digit {number : Nat} {c : Char} (h : c ∈ Nat.toDigits 10 number) :
    (UInt8.ofNat c.toNat).toNat = c.toNat := by
  have hdigit := toNat_of_mem_toDigits h
  exact UInt8.toNat_ofNat_of_lt' (by show _ < 256; omega)

/-- Numerals consist of digits. -/
theorem isDigit_of_mem_numeral {number : Nat} {byte : UInt8} (h : byte ∈ numeral number) :
    isDigit byte = true := by
  obtain ⟨c, hc, rfl⟩ := List.mem_map.mp h
  have hdigit := toNat_of_mem_toDigits hc
  rw [isDigit, Bool.and_eq_true, decide_eq_true_iff, decide_eq_true_iff, UInt8.le_iff_toNat_le,
    UInt8.le_iff_toNat_le, toNat_digit hc]
  exact hdigit

/-- The bytes of a numeral stand for the digits of the number. -/
theorem map_numeral (number : Nat) :
    (numeral number).map (fun byte => byte.toNat - 0x30) = digitValues number := by
  rw [numeral, digitValues, List.map_map]
  exact List.map_congr_left fun c hc => congrArg (· - 0x30) (toNat_digit hc)

/-- A numeral of more than one digit does not begin with a zero. -/
theorem numeral_cases (number : Nat) : number = 0 ∧ numeral number = [0x30] ∨
    ∃ byte rest, numeral number = byte :: rest ∧ byte ≠ 0x30 := by
  rcases Nat.eq_zero_or_pos number with rfl | hpos
  · exact Or.inl ⟨rfl, by decide⟩
  · obtain ⟨c, cs, heq, hne⟩ := toDigits_eq_cons hpos
    refine Or.inr ⟨_, _, by rw [numeral, heq, List.map_cons], fun hzero => hne ?_⟩
    have hvalue := toNat_digit (heq ▸ List.mem_cons_self : c ∈ Nat.toDigits 10 number)
    rw [hzero] at hvalue
    exact Char.toNat_inj.mp hvalue.symm

/-- A digit is no blank. -/
theorem isBlank_of_isDigit {byte : UInt8} (h : isDigit byte = true) : isBlank byte = false := by
  cases hblank : isBlank byte with
  | false => rfl
  | true =>
    simp only [isBlank, Bool.or_eq_true, beq_iff_eq, or_assoc] at hblank
    rcases hblank with rfl | rfl | rfl | rfl <;> contradiction

/-! ## Significands -/

/-- Appending digits never makes a number smaller. -/
theorem le_foldl_digits (start : Nat) (digits : List Nat) :
    start ≤ digits.foldl (fun value digit => value * 10 + digit) start := by
  induction digits generalizing start with
  | nil => exact Nat.le_refl _
  | cons digit digits ih => exact Nat.le_trans (by omega) (ih (start * 10 + digit))

/-- Digits that fit are all kept. -/
theorem absorb_eq {start : Nat} {digits : List Nat}
    (h : digits.foldl (fun value digit => value * 10 + digit) start ≤ maxSignificand) :
    absorb start digits = (digits.foldl (fun value digit => value * 10 + digit) start, 0) := by
  induction digits generalizing start with
  | nil => rfl
  | cons digit digits ih =>
    rw [List.foldl_cons] at h
    rw [absorb, if_pos (Nat.le_trans (le_foldl_digits _ _) h), ih h, List.foldl_cons]

/-! ## Reading -/

/-- Whether what follows a number cannot prolong it. -/
def Stops (rest : Bytes) : Prop :=
  ∀ byte ∈ rest.head?, isDigit byte = false ∧ byte ≠ 0x2E ∧ byte ≠ 0x65 ∧ byte ≠ 0x45

variable {bytes rest : Bytes}

/-- The end of a text prolongs no number. -/
theorem stops_nil : Stops [] := by
  rintro _ ⟨⟩

/-- No fraction follows what is followed by no point. -/
theorem readFraction_none (early : Fault) (hrest : ∀ byte ∈ rest.head?, byte ≠ 0x2E) :
    readFraction early rest = .ok ([], rest) := by
  unfold Json.readFraction
  split
  case h_1 => exact absurd rfl (hrest 0x2E rfl)
  case h_2 => rfl

/-- No exponent follows a number. -/
theorem Stops.readExponent (hstops : Stops rest) (early : Fault) :
    readExponent early rest = .ok (none, rest) := by
  cases rest with
  | nil => rfl
  | cons byte rest =>
    obtain ⟨-, -, hlower, hupper⟩ := hstops byte rfl
    rw [Json.readExponent, if_neg (by simp [hlower, hupper])]

/-- Digits are read up to what follows them, if that is no digit. -/
theorem readDigits_append (early : Fault) {digits : Bytes} (h : Digits digits)
    (hrest : ∀ byte ∈ rest.head?, isDigit byte = false) :
    readDigits early (digits ++ rest) =
      .ok (digits.map fun byte => byte.toNat - 0x30, rest) := by
  have hspan : rest.takeWhile isDigit = [] ∧ rest.dropWhile isDigit = rest := by
    cases rest with
    | nil => exact ⟨rfl, rfl⟩
    | cons byte rest => simp [hrest byte rfl]
  have hdigits : digitsOf (digits ++ rest) = digits.map fun byte => byte.toNat - 0x30 := by
    rw [digitsOf, List.takeWhile_append_of_pos h.2, hspan.1, List.append_nil]
  have hafter : afterDigits (digits ++ rest) = rest := by
    rw [afterDigits, List.dropWhile_append_of_pos h.2, hspan.2]
  obtain ⟨byte, tail, rfl⟩ := List.exists_cons_of_ne_nil h.1
  rw [List.cons_append, readDigits, if_pos (h.2 byte List.mem_cons_self), ← List.cons_append,
    hdigits, hafter]

/-! ## Integer parts -/

/-- The first of some digits. -/
theorem Digits.exists_cons (h : Digits bytes) :
    ∃ byte tail, bytes = byte :: tail ∧ isDigit byte = true := by
  obtain ⟨byte, tail, rfl⟩ := List.exists_cons_of_ne_nil h.1
  exact ⟨byte, tail, rfl, h.2 byte List.mem_cons_self⟩

/-- A digit is none of the marks that stand between the parts of a number. -/
theorem ne_of_isDigit {byte : UInt8} (h : isDigit byte = true) :
    byte ≠ 0x2B ∧ byte ≠ 0x2D ∧ byte ≠ 0x2E := by
  refine ⟨?_, ?_, ?_⟩ <;>
    · rintro rfl
      contradiction

/-- An integer part begins with a digit. -/
theorem IsWhole.exists_cons (h : IsWhole bytes) :
    ∃ byte tail, bytes = byte :: tail ∧ isDigit byte = true := by
  cases h with
  | zero => exact ⟨0x30, [], rfl, by decide⟩
  | digits h _ => exact h.exists_cons

/-- An integer part has no sign. -/
theorem IsWhole.numberSign (h : IsWhole bytes) (rest : Bytes) :
    Json.numberSign (bytes ++ rest) = (false, bytes ++ rest) := by
  obtain ⟨byte, tail, rfl, hdigit⟩ := h.exists_cons
  rw [List.cons_append, Json.numberSign]
  rintro last ⟨⟩
  exact (ne_of_isDigit hdigit).2.1 rfl

/-- An integer part is read up to what is no digit. -/
theorem IsWhole.readWhole (h : IsWhole bytes) (early : Fault)
    (hrest : ∀ byte ∈ rest.head?, isDigit byte = false) :
    Json.readWhole early (bytes ++ rest) =
      .ok (bytes.map fun byte => byte.toNat - 0x30, rest) := by
  have hdigits {bytes : Bytes} (h : Digits bytes) := readDigits_append early h hrest
  cases h with
  | zero =>
    cases rest with
    | nil => exact hdigits (by decide : Digits [0x30])
    | cons next rest =>
      show Json.readWhole early (0x30 :: next :: rest) = _
      rw [Json.readWhole, if_neg (by simp [hrest next rfl])]
      rfl
  | digits h hfirst =>
    unfold Json.readWhole
    split
    case h_1 next last heq =>
      obtain ⟨byte, tail, rfl, -⟩ := h.exists_cons
      rw [List.cons_append, List.cons.injEq] at heq
      exact absurd (congrArg some heq.1) hfirst
    case h_2 => exact hdigits h

/-! ## Numerals -/

/-- A numeral is an integer part. -/
theorem isWhole_numeral (number : Nat) : IsWhole (numeral number) := by
  rcases numeral_cases number with ⟨-, hzero⟩ | ⟨byte, tail, hcons, hne⟩
  · exact hzero ▸ IsWhole.zero
  · refine .digits ⟨hcons ▸ List.cons_ne_nil _ _, fun _ => isDigit_of_mem_numeral⟩ ?_
    rw [hcons, List.head?_cons]
    exact fun heq => hne (Option.some.inj heq)

/-- A numeral begins with a digit. -/
theorem numeral_eq_cons (number : Nat) :
    ∃ byte tail, numeral number = byte :: tail ∧ isDigit byte = true :=
  (isWhole_numeral number).exists_cons

/-- A numeral is read in parts, of which only the integer part is there. -/
theorem readNumberParts_numeral (early : Fault) (number : Nat) (hstops : Stops rest) :
    readNumberParts early (numeral number ++ rest) =
      .ok (⟨false, digitValues number, [], none⟩, rest) := by
  have hwhole := isWhole_numeral number
  rw [readNumberParts, hwhole.numberSign]
  dsimp only
  rw [hwhole.readWhole early fun byte hbyte => (hstops byte hbyte).1, map_numeral]
  dsimp only
  rw [readFraction_none early fun byte hbyte => (hstops byte hbyte).2.1]
  dsimp only
  rw [hstops.readExponent]

/-- **What was printed in decimal is read as the number**, if it fits. -/
theorem readNumber_numeral {number : Nat} (hfits : number ≤ maxSignificand) (hstops : Stops rest) :
    readNumber (numeral number ++ rest) = .ok (.integer number, rest) := by
  have habsorb : absorb 0 (digitValues number) = (number, 0) := by
    have hvalue := ofDigits_digitValues number
    rw [ofDigits] at hvalue
    rw [absorb_eq (hvalue.symm ▸ hfits), hvalue]
  have hvalue : NumberParts.value? ⟨false, digitValues number, [], none⟩ =
      some (.integer number) := by
    simp [NumberParts.value?, NumberParts.integer?, habsorb]
  rw [readNumber, readNumberParts_numeral _ number hstops]
  dsimp only
  rw [hvalue]

/-- **What was printed for a port is read as the port.** -/
theorem readPort_repr (port : UInt16) (hstops : Stops rest) :
    readPort (encode port.toNat.repr.toList ++ rest) = .ok (port, rest) := by
  have hlt : port.toNat < 65536 := port.toNat_lt
  obtain ⟨byte, tail, hcons, hfirst⟩ := numeral_eq_cons port.toNat
  have hread : readNumber (numeral port.toNat ++ rest) = .ok (.integer port.toNat, rest) :=
    readNumber_numeral (Nat.le_trans (Nat.le_of_lt hlt) (by decide)) hstops
  rw [hcons, List.cons_append] at hread
  rw [encode_repr, hcons, List.cons_append, readPort, skipBlanks_cons _ (isBlank_of_isDigit hfirst)]
  dsimp only
  rw [if_pos (by rw [hfirst, Bool.or_true]), hread]
  dsimp only
  rw [if_pos (by simp only [Bool.and_eq_true, decide_eq_true_eq]; omega), Int.toNat_natCast,
    UInt16.ofNat_toNat]

end Json

end EchoBackend
