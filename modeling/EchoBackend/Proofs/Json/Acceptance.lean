/-
# What the grammar derives is passed over

Every string, number or word is passed over from its first byte to its last.  The main statement is
`IsScalar.skipScalar`.
-/
import EchoBackend.Proofs.Json.Numerals
import EchoBackend.Proofs.Json.Quoting
import Mathlib.Data.List.DropRight

namespace EchoBackend

namespace Json

open Utf8

variable {bytes blanks digits rest text next : Bytes} {byte : UInt8} {c : Char} {value : Nat}

/-! ## Blanks -/

/-- Blanks are skipped. -/
theorem skipBlanks_append (h : Blanks blanks) (rest : Bytes) :
    skipBlanks (blanks ++ rest) = skipBlanks rest :=
  List.dropWhile_append_of_pos h

/-- There need be no blanks. -/
theorem blanks_nil : Blanks [] := by
  decide

/-- Of blanks nothing is left. -/
theorem Blanks.skipBlanks_eq (h : Blanks blanks) : skipBlanks blanks = [] :=
  List.dropWhile_eq_nil_iff.mpr h

/-- What follows blanks does not begin with a blank. -/
theorem skipBlanks_skipBlanks (bytes : Bytes) :
    skipBlanks (skipBlanks bytes) = skipBlanks bytes :=
  List.dropWhile_idempotent _ _

/-- A blank prolongs no number, so blanks may stand between a number and what ends it. -/
theorem Blanks.stops (h : Blanks blanks) (hrest : Stops rest) : Stops (blanks ++ rest) := by
  cases blanks with
  | nil => exact hrest
  | cons byte blanks =>
    have hblank := h byte List.mem_cons_self
    simp only [isBlank, Bool.or_eq_true, beq_iff_eq, or_assoc] at hblank
    rintro _ ⟨⟩
    rcases hblank with rfl | rfl | rfl | rfl <;> decide

/-! ## Passing over strings -/

/-- An escape is passed over. -/
theorem skipText_escape (h : skipEscape bytes = .ok rest) :
    skipText (0x5C :: bytes) = skipText rest := by
  rw [skipText, if_neg (by decide), if_pos (by decide)]
  split
  case h_1 fault hfault =>
    rw [h] at hfault
    contradiction
  case h_2 tail hskip =>
    rw [h, Except.ok.injEq] at hskip
    rw [← hskip]

/-- Plain bytes are passed over. -/
theorem skipText_plain_append (h : ∀ byte ∈ bytes, isPlain byte = true) :
    skipText (bytes ++ rest) = skipText rest := by
  induction bytes with
  | nil => rfl
  | cons byte bytes ih =>
    rw [List.forall_mem_cons] at h
    have hplain := h.1
    simp only [isPlain, Bool.and_eq_true, bne_iff_ne, decide_eq_true_eq] at hplain
    have hcontrol : ¬ byte < 0x20 := by
      rw [UInt8.lt_iff_toNat_lt]
      exact Nat.not_lt.mpr hplain.2
    rw [List.cons_append, skipText, if_neg (by simpa using hplain.1.1),
      if_neg (by simpa using hplain.1.2), if_neg hcontrol, ih h.2]

/-- An escape by number is passed over, whatever the number. -/
theorem skipText_number (h : FourDigits value digits) (rest : Bytes) :
    skipText (0x5C :: 0x75 :: (digits ++ rest)) = skipText rest := by
  refine skipText_escape ?_
  rw [skipEscape, show shortEscape? 0x75 = none by decide, if_neg (by decide), if_pos (by decide),
    h.readUnit]

/-- A piece of a string is passed over. -/
theorem Piece.skipText (h : Piece bytes) (rest : Bytes) :
    Json.skipText (bytes ++ rest) = Json.skipText rest := by
  cases h with
  | number h => exact skipText_number h rest
  | char h =>
    cases h with
    | plain hquote hslash hcontrol =>
      exact skipText_plain_append (isPlain_of_mem hquote hslash hcontrol)
    | @letter mark h =>
      have hletters : ∀ entry ∈ letters, (shortEscape? entry.1).isSome = true := by decide
      refine skipText_escape ?_
      show skipEscape (mark :: rest) = _
      rw [skipEscape, if_pos (hletters _ h)]
    | number h => exact skipText_number h rest
    | @pair high low upper lower hhigh hlow hvalue hupper hlower =>
      show Json.skipText (0x5C :: 0x75 :: (upper ++ (0x5C :: 0x75 :: lower) ++ rest)) = _
      rw [List.append_assoc, skipText_number hupper]
      exact skipText_number hlower rest

/-- A string begins with a quote and is passed over. -/
theorem IsString.skipText (h : IsString bytes) (rest : Bytes) :
    ∃ inner, bytes ++ rest = 0x22 :: inner ∧ Json.skipText inner = .ok rest := by
  obtain ⟨h⟩ := h
  rename_i pieces
  refine ⟨_, List.cons_append, ?_⟩
  rw [List.append_assoc]
  induction pieces with
  | nil =>
    rw [List.flatten_nil, List.nil_append, List.singleton_append, Json.skipText]
    rfl
  | cons piece pieces ih =>
    rw [List.forall_mem_cons] at h
    rw [List.flatten_cons, List.append_assoc, h.1.skipText, ih h.2]

/-! ## Passing over numbers -/

/-- An exponent is read. -/
theorem IsExponent.readExponent (h : IsExponent bytes) (early : Fault) (hstops : Stops rest) :
    ∃ value, Json.readExponent early (bytes ++ rest) = .ok (value, rest) := by
  cases h with
  | none => exact ⟨_, hstops.readExponent early⟩
  | @digits mark sign digits hmark hsign h =>
    have hread := readDigits_append early h fun byte hbyte => (hstops byte hbyte).1
    have hsplit : (exponentSign (sign ++ (digits ++ rest))).2 = digits ++ rest := by
      rcases hsign with rfl | rfl | rfl
      · obtain ⟨byte, tail, rfl, hdigit⟩ := h.exists_cons
        obtain ⟨hplus, hminus, -⟩ := ne_of_isDigit hdigit
        rw [List.nil_append, List.cons_append, exponentSign]
        · rintro last ⟨⟩
          exact hplus rfl
        · rintro last ⟨⟩
          exact hminus rfl
      · rfl
      · rfl
    have hexponent : Json.readExponent early (mark :: (sign ++ (digits ++ rest))) = .ok (some
        ((exponentSign (sign ++ (digits ++ rest))).1, digits.map fun byte => byte.toNat - 0x30),
          rest) := by
      rw [Json.readExponent, if_pos (by rcases hmark with rfl | rfl <;> decide), hsplit, hread]
    rw [List.cons_append, List.append_assoc]
    exact ⟨_, hexponent⟩

/-- What follows the fraction of a number begins neither with a digit nor with a point. -/
theorem IsExponent.head?_append (h : IsExponent bytes) (hstops : Stops rest) :
    ∀ byte ∈ (bytes ++ rest).head?, isDigit byte = false ∧ byte ≠ 0x2E := by
  cases h with
  | none => exact fun byte hbyte => ⟨(hstops byte hbyte).1, (hstops byte hbyte).2.1⟩
  | digits hmark _ _ =>
    rintro _ ⟨⟩
    rcases hmark with rfl | rfl <;> decide

/-- A fraction is read up to what is no digit and no point. -/
theorem IsFraction.readFraction (h : IsFraction bytes) (early : Fault)
    (hrest : ∀ byte ∈ rest.head?, isDigit byte = false ∧ byte ≠ 0x2E) :
    ∃ value, Json.readFraction early (bytes ++ rest) = .ok (value, rest) := by
  cases h with
  | none => exact ⟨[], readFraction_none early fun byte hbyte => (hrest byte hbyte).2⟩
  | digits h =>
    exact ⟨_, readDigits_append early h fun byte hbyte => (hrest byte hbyte).1⟩

/-- What follows the integer part of a number does not begin with a digit. -/
theorem IsFraction.head?_append (h : IsFraction bytes)
    (hrest : ∀ byte ∈ rest.head?, isDigit byte = false ∧ byte ≠ 0x2E) :
    ∀ byte ∈ (bytes ++ rest).head?, isDigit byte = false := by
  cases h with
  | none => exact fun byte hbyte => (hrest byte hbyte).1
  | digits => rintro _ ⟨⟩; decide

/-- **Every number is passed over.** -/
theorem IsNumber.skipNumber (h : IsNumber bytes) (hstops : Stops rest) :
    Json.skipNumber (bytes ++ rest) = .ok rest := by
  obtain ⟨hsign, hwhole, hfraction, hexponent⟩ := h
  rename_i sign whole fraction exponent
  have hafterFraction := hexponent.head?_append hstops
  have hafterWhole := hfraction.head?_append hafterFraction
  have hreadWhole := hwhole.readWhole .malformed hafterWhole
  obtain ⟨_, hreadFraction⟩ := hfraction.readFraction .malformed hafterFraction
  obtain ⟨_, hreadExponent⟩ := hexponent.readExponent .malformed hstops
  have hsplit : (numberSign (sign ++ (whole ++ (fraction ++ (exponent ++ rest))))).2 =
      whole ++ (fraction ++ (exponent ++ rest)) := by
    rcases hsign with rfl | rfl
    · rw [List.nil_append, hwhole.numberSign]
    · rfl
  simp only [List.append_assoc]
  rw [Json.skipNumber, readNumberParts, hsplit, hreadWhole]
  dsimp only
  rw [hreadFraction]
  dsimp only
  rw [hreadExponent]

/-! ## Passing over words -/

/-- A word is read. -/
theorem readWord_append (word rest : Bytes) : readWord word (word ++ rest) = .ok rest := by
  induction word with
  | nil => rfl
  | cons byte word ih => rw [List.cons_append, readWord, if_pos (beq_self_eq_true byte), ih]

/-- A number begins with a digit or a minus sign. -/
theorem IsNumber.exists_cons (h : IsNumber bytes) :
    ∃ byte tail, bytes = byte :: tail ∧ (byte == 0x2D || isDigit byte) = true := by
  obtain ⟨hsign, hwhole, -, -⟩ := h
  rcases hsign with rfl | rfl
  · obtain ⟨byte, tail, rfl, hdigit⟩ := hwhole.exists_cons
    exact ⟨byte, _, rfl, by rw [hdigit, Bool.or_true]⟩
  · exact ⟨0x2D, _, rfl, rfl⟩

/-- The bytes with which a value begins are told apart from blanks and brackets. -/
theorem starts_of_number (h : (byte == 0x2D || isDigit byte) = true) :
    byte ≠ 0x22 ∧ isBlank byte = false ∧ Frame.opened? byte = none ∧ byte ≠ 0x5D := by
  have hall : ∀ bits < 256, (UInt8.ofNat bits == 0x2D || isDigit (UInt8.ofNat bits)) = true →
      UInt8.ofNat bits ≠ 0x22 ∧ isBlank (UInt8.ofNat bits) = false ∧
        Frame.opened? (UInt8.ofNat bits) = none ∧ UInt8.ofNat bits ≠ 0x5D := by decide +kernel
  have hbyte := hall byte.toNat byte.toNat_lt
  rw [UInt8.ofNat_toNat] at hbyte
  exact hbyte h

/-- A value that is neither a list nor an object is passed over. -/
theorem IsScalar.skipScalar (h : IsScalar bytes) (hstops : Stops rest) :
    ∃ byte tail, bytes ++ rest = byte :: tail ∧ isBlank byte = false ∧
      Frame.opened? byte = none ∧ byte ≠ 0x5D ∧ Json.skipScalar byte tail = .ok rest := by
  cases h with
  | word h =>
    simp only [List.mem_cons, List.not_mem_nil, or_false] at h
    rcases h with rfl | rfl | rfl
    · exact ⟨0x6E, _, rfl, by decide, by decide, by decide, readWord_append [0x75, 0x6C, 0x6C] rest⟩
    · exact ⟨0x74, _, rfl, by decide, by decide, by decide, readWord_append [0x72, 0x75, 0x65] rest⟩
    · exact ⟨0x66, _, rfl, by decide, by decide, by decide,
        readWord_append [0x61, 0x6C, 0x73, 0x65] rest⟩
  | number h =>
    have hskip := h.skipNumber hstops
    obtain ⟨byte, tail, rfl, hfirst⟩ := h.exists_cons
    obtain ⟨hquote, hblank, hopened, hclose⟩ := starts_of_number hfirst
    refine ⟨byte, tail ++ rest, rfl, hblank, hopened, hclose, ?_⟩
    rw [Json.skipScalar, if_neg (by simpa using hquote), if_pos hfirst]
    exact hskip
  | string h =>
    obtain ⟨inner, heq, hskip⟩ := h.skipText rest
    exact ⟨0x22, inner, heq, by decide, by decide, by decide, hskip⟩

end Json

end EchoBackend
