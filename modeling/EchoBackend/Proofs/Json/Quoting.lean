/-
# Reading quoted text

Every spelling of a text is read as that text, and what is written for a text is one of its
spellings.  The proof goes character by character: `Spells` says of some bytes that they are read as
a character wherever they stand inside quotes, and `readText_spelled` reads any text that is spelled
so.  The main statements are `readString_quoted` and `Quoted.quote`.
-/
import EchoBackend.Json.Quoted
import EchoBackend.Json.Value
import EchoBackend.Proofs.Json.Grammar

namespace EchoBackend

namespace Json

open Utf8

variable {bytes rest done digits : Bytes} {byte : UInt8} {c : Char} {value : Nat}

/-! ## Steps of the reader -/

/-- The closing quote ends a text. -/
theorem readTextOnto_quote : readTextOnto done (0x22 :: rest) = closeText done rest := by
  rw [readTextOnto]
  rfl

/-- An escape stands for its character. -/
theorem readTextOnto_escape (h : readEscape bytes = .ok (c, rest)) :
    readTextOnto done (0x5C :: bytes) =
      readTextOnto ((String.utf8EncodeChar c).reverse ++ done) rest := by
  rw [readTextOnto, if_neg (by decide), if_pos (by decide)]
  split
  case h_1 fault hfault =>
    rw [h] at hfault
    contradiction
  case h_2 read tail hread =>
    rw [h, Except.ok.injEq, Prod.mk.injEq] at hread
    rw [← hread.1, ← hread.2]

/-- The bytes that stand for themselves inside quotes. -/
def isPlain (byte : UInt8) : Bool := byte != 0x22 && byte != 0x5C && 0x20 ≤ byte.toNat

/-- A plain byte stands for itself. -/
theorem readTextOnto_plain (h : isPlain byte = true) :
    readTextOnto done (byte :: rest) = readTextOnto (byte :: done) rest := by
  simp only [isPlain, Bool.and_eq_true, bne_iff_ne, decide_eq_true_eq] at h
  have hcontrol : ¬ byte < 0x20 := by
    rw [UInt8.lt_iff_toNat_lt]
    exact Nat.not_lt.mpr h.2
  rw [readTextOnto, if_neg (by simpa using h.1.1), if_neg (by simpa using h.1.2), if_neg hcontrol]

/-- Plain bytes stand for themselves. -/
theorem readTextOnto_plain_append (h : ∀ byte ∈ bytes, isPlain byte = true) :
    readTextOnto done (bytes ++ rest) = readTextOnto (bytes.reverse ++ done) rest := by
  induction bytes generalizing done with
  | nil => rfl
  | cons byte bytes ih =>
    rw [List.forall_mem_cons] at h
    rw [List.cons_append, readTextOnto_plain h.1, ih h.2, List.reverse_cons, List.append_assoc,
      List.singleton_append]

/-! ## Spellings -/

/-- Whether bytes are read as a character wherever they stand inside quotes. -/
def Spells (bytes : Bytes) (c : Char) : Prop :=
  ∀ done rest, readTextOnto done (bytes ++ rest) =
    readTextOnto ((String.utf8EncodeChar c).reverse ++ done) rest

/-- The bytes of a character that is no quote, no backslash and no control character are plain. -/
theorem isPlain_of_mem (hquote : c ≠ '"') (hslash : c ≠ '\\') (hcontrol : 0x20 ≤ c.toNat) :
    ∀ byte ∈ String.utf8EncodeChar c, isPlain byte = true := by
  intro byte hbyte
  simp only [isPlain, Bool.and_eq_true, bne_iff_ne, decide_eq_true_eq]
  refine ⟨⟨ne_of_mem_utf8EncodeChar hquote (by decide) byte hbyte,
    ne_of_mem_utf8EncodeChar hslash (by decide) byte hbyte⟩, ?_⟩
  by_cases hascii : c.toNat < 0x80
  case pos =>
    rw [utf8EncodeChar_of_ascii hascii, List.mem_singleton] at hbyte
    rw [hbyte, UInt8.toNat_ofNat_of_lt' (Nat.lt_trans hascii (by decide))]
    exact hcontrol
  case neg => exact Nat.le_trans (by decide) (le_of_mem_utf8EncodeChar (Nat.not_lt.mp hascii) hbyte)

/-- A character that is no quote, no backslash and no control character spells itself. -/
theorem spells_self (hquote : c ≠ '"') (hslash : c ≠ '\\') (hcontrol : 0x20 ≤ c.toNat) :
    Spells (String.utf8EncodeChar c) c :=
  fun _ _ => readTextOnto_plain_append (isPlain_of_mem hquote hslash hcontrol)

/-- Four digits are read as their number. -/
theorem FourDigits.readUnit (h : FourDigits value digits) (rest : Bytes) :
    Json.readUnit (digits ++ rest) = .ok (value, rest) := by
  rcases h with _ | ⟨ha, h⟩
  rcases h with _ | ⟨hb, h⟩
  rcases h with _ | ⟨hc, h⟩
  rcases h with _ | ⟨hd, h⟩
  rcases h
  rename_i a b c d
  have hunit : unit? a b c d = some value := by
    rw [unit?, ha.value?_eq, hb.value?_eq, hc.value?_eq, hd.value?_eq]
    show some _ = some value
    rw [ha.toNat_ofNat, hb.toNat_ofNat, hc.toNat_ofNat, hd.toNat_ofNat, Option.some.injEq]
    omega
  show Json.readUnit (a :: b :: c :: d :: rest) = _
  rw [Json.readUnit, hunit]

/-- A character of four digits at most is no half of another. -/
theorem not_isSurrogate (c : Char) :
    isLowSurrogate c.toNat = false ∧ isHighSurrogate c.toNat = false := by
  have hvalid : c.toNat < 0xD800 ∨ 0xDFFF < c.toNat ∧ c.toNat < 0x110000 := c.valid
  simp only [isLowSurrogate, isHighSurrogate, Bool.and_eq_false_iff, decide_eq_false_iff_not]
  omega

/-- An escape by number is read. -/
theorem readEscape_number (h : FourDigits value digits) (rest : Bytes) :
    readEscape (0x75 :: (digits ++ rest)) =
      if isLowSurrogate value then .error .malformed
      else if isHighSurrogate value then readLowSurrogate value rest
      else .ok (Char.ofNat value, rest) := by
  rw [readEscape, show shortEscape? 0x75 = none by decide]
  dsimp only
  rw [if_pos (by decide), h.readUnit]

/-- The second half of a character is read. -/
theorem readLowSurrogate_number {low : Nat} (hlow : low < 0x400)
    (h : FourDigits (0xDC00 + low) digits) (high : Nat) (rest : Bytes) :
    readLowSurrogate high (0x5C :: 0x75 :: (digits ++ rest)) =
      .ok (ofSurrogates high (0xDC00 + low), rest) := by
  have hsecond : isLowSurrogate (0xDC00 + low) = true := by
    rw [isLowSurrogate, Bool.and_eq_true, decide_eq_true_iff, decide_eq_true_iff]
    omega
  rw [readLowSurrogate, readByte, if_pos (by decide)]
  dsimp only
  rw [readByte, if_pos (by decide)]
  dsimp only
  rw [h.readUnit]
  dsimp only
  rw [if_pos hsecond]

/-- **Every spelling of a character is read as that character.** -/
theorem Spelling.spells (h : Spelling c bytes) : Spells bytes c := by
  cases h with
  | plain hquote hslash hcontrol => exact spells_self hquote hslash hcontrol
  | @letter mark h =>
    have hletters : ∀ entry ∈ letters, shortEscape? entry.1 = some entry.2 := by decide
    intro done rest
    refine readTextOnto_escape ?_
    show readEscape (mark :: rest) = _
    rw [readEscape, hletters _ h]
  | number h =>
    intro done rest
    refine readTextOnto_escape ?_
    show readEscape (0x75 :: (_ ++ rest)) = _
    rw [readEscape_number h, (not_isSurrogate c).1, (not_isSurrogate c).2, Char.ofNat_toNat]
    rfl
  | @pair high low upper lower hhigh hlow hvalue hupper hlower =>
    intro done rest
    refine readTextOnto_escape ?_
    have hnot : isLowSurrogate (0xD800 + high) = false := by
      simp only [isLowSurrogate, Bool.and_eq_false_iff, decide_eq_false_iff_not]
      omega
    have hfirst : isHighSurrogate (0xD800 + high) = true := by
      rw [isHighSurrogate, Bool.and_eq_true, decide_eq_true_iff, decide_eq_true_iff]
      omega
    have hchar : ofSurrogates (0xD800 + high) (0xDC00 + low) = c := by
      have hnumber : (0xD800 + high - 0xD800) * 0x400 + (0xDC00 + low - 0xDC00) + 0x10000 =
          c.toNat := by omega
      rw [ofSurrogates, hnumber, Char.ofNat_toNat]
    show readEscape (0x75 :: (upper ++ (0x5C :: 0x75 :: lower) ++ rest)) = _
    rw [List.append_assoc, readEscape_number hupper, hnot, hfirst]
    show readLowSurrogate (0xD800 + high) (0x5C :: 0x75 :: (lower ++ rest)) = _
    rw [readLowSurrogate_number hlow hlower, hchar]

/-! ## Texts -/

/-- A text is read however its characters are spelled. -/
theorem readText_spelled {spelled : List Bytes} {text : List Char}
    (h : List.Forall₂ Spells spelled text) (rest : Bytes) :
    readText (spelled.flatten ++ 0x22 :: rest) = .ok (text, rest) := by
  have honto (done : Bytes) : readTextOnto done (spelled.flatten ++ 0x22 :: rest) =
      closeText ((encode text).reverse ++ done) rest := by
    induction h generalizing done with
    | nil => exact readTextOnto_quote
    | cons hfirst _ ih =>
      rw [List.flatten_cons, List.append_assoc, hfirst, ih, encode_cons, List.reverse_append,
        List.append_assoc]
  rw [readText, honto, List.append_nil, closeText, List.reverse_reverse, decode?_encode]

/-- Every spelling of a text begins with a quote and is read as that text. -/
theorem Quoted.readText {text : List Char} (h : Quoted text bytes) (rest : Bytes) :
    ∃ inner, bytes ++ rest = 0x22 :: inner ∧ Json.readText inner = .ok (text, rest) := by
  obtain ⟨h⟩ := h
  refine ⟨_, List.cons_append, ?_⟩
  rw [List.append_assoc]
  exact readText_spelled (h.imp fun _ _ => Spelling.spells).flip rest

/-- **Every spelling of a text is read as that text.** -/
theorem readString_quoted {text : List Char} (h : Quoted text bytes) (rest : Bytes) :
    readString (bytes ++ rest) = .ok (String.ofList text, rest) := by
  obtain ⟨inner, heq, hread⟩ := h.readText rest
  rw [heq, readString, skipBlanks_cons _ (by decide)]
  dsimp only
  rw [if_pos (by decide), hread]

/-! ## What is written -/

/-- An escape of one letter is a spelling of its character. -/
theorem spelling_letter (letter : Char) {meant : Char} (hmeant : c = meant)
    (hascii : letter.toNat < 0x80) (h : (UInt8.ofNat letter.toNat, meant) ∈ letters) :
    Spelling c (encode ['\\', letter]) := by
  subst hmeant
  rw [encode_cons, encode_cons, utf8EncodeChar_of_ascii hascii, encode_nil]
  exact .letter h

/-- Hexadecimal digits are ASCII. -/
theorem digit_ascii : ∀ value < 16, (Hex.digit value).toNat < 0x80 := by
  decide

/-- What is written for a control character is its number. -/
theorem fourDigits_control (h : c.toNat < 0x20) : FourDigits c.toNat
    (encode ['0', '0', Hex.digit (c.toNat / 16), Hex.digit (c.toNat % 16)]) := by
  have hnumber : ∀ value < 0x20, value / 4096 = 0 ∧ value / 256 % 16 = 0 ∧ value / 16 < 16 := by
    decide
  obtain ⟨hfirst, hsecond, hhigh⟩ := hnumber _ h
  have hlow := Nat.mod_lt c.toNat (by decide : 16 > 0)
  rw [FourDigits, hfirst, hsecond, Nat.mod_eq_of_lt hhigh, encode_of_ascii (by
    simp [digit_ascii _ hhigh, digit_ascii _ hlow])]
  exact .cons (by decide) (.cons (by decide)
    (.cons (Hex.writes_digit hhigh) (.cons (Hex.writes_digit hlow) .nil)))

/-- What is written for a character is one of its spellings. -/
theorem Spelling.escape (c : Char) : Spelling c (encode (escape c)) := by
  unfold Json.escape
  split
  case isTrue h => exact spelling_letter '"' h (by decide) (by decide)
  case isFalse hquote =>
  split
  case isTrue h => exact spelling_letter '\\' h (by decide) (by decide)
  case isFalse hslash =>
  split
  case isTrue h => exact spelling_letter 'b' h (by decide) (by decide)
  case isFalse =>
  split
  case isTrue h => exact spelling_letter 'f' h (by decide) (by decide)
  case isFalse =>
  split
  case isTrue h => exact spelling_letter 'n' h (by decide) (by decide)
  case isFalse =>
  split
  case isTrue h => exact spelling_letter 'r' h (by decide) (by decide)
  case isFalse =>
  split
  case isTrue h => exact spelling_letter 't' h (by decide) (by decide)
  case isFalse =>
  split
  case isTrue hcontrol => exact .number (fourDigits_control hcontrol)
  case isFalse hcontrol =>
    rw [encode_cons, encode_nil, List.append_nil]
    exact .plain hquote hslash (Nat.not_lt.mp hcontrol)

/-- A quoted text is a quote, its characters as they are spelled, and a quote. -/
theorem encode_quote (text : List Char) :
    encode (quote text) = 0x22 :: ((text.map fun c => encode (escape c)).flatten ++ [0x22]) := by
  have hspelled : encode (text.flatMap escape) =
      (text.map fun c => encode (escape c)).flatten := by
    rw [encode, List.flatMap_assoc]
    rfl
  rw [quote, encode_cons, encode_append, ← hspelled]
  rfl

/-- **What is written for a text is one of its spellings.** -/
theorem Quoted.quote (text : List Char) : Quoted text (encode (quote text)) := by
  rw [encode_quote]
  exact .spelled (List.forall₂_map_right_iff.mpr
    (List.forall₂_same.mpr fun c _ => Spelling.escape c))

end Json

end EchoBackend
