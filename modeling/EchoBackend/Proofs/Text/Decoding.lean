/-
# Decoding what was encoded

The decoding machine reads the bytes of a character as that character, wherever they stand.  The
main statement, `Utf8.decode?_encode`, follows by induction over the text.
-/
import EchoBackend.Text.Utf8
import Mathlib.Data.List.Basic

namespace EchoBackend

namespace Utf8

/-! ## The bytes of a character -/

/-- A character of ASCII is one byte, its number. -/
theorem utf8EncodeChar_of_ascii {c : Char} (h : c.toNat < 0x80) :
    String.utf8EncodeChar c = [UInt8.ofNat c.toNat] := by
  have hone : c.val.toNat ≤ 127 := Nat.le_of_lt_succ h
  rw [String.utf8EncodeChar, if_pos hone]
  rfl

/-- A text of ASCII has as many bytes as characters. -/
theorem encode_of_ascii {cs : List Char} (h : ∀ c ∈ cs, c.toNat < 0x80) :
    encode cs = cs.map fun c => UInt8.ofNat c.toNat := by
  induction cs with
  | nil => rfl
  | cons c cs ih =>
    rw [List.forall_mem_cons] at h
    rw [encode_cons, utf8EncodeChar_of_ascii h.1, ih h.2, List.map_cons, List.singleton_append]

/-- The bytes of any other character are beyond ASCII. -/
theorem le_of_mem_utf8EncodeChar {c : Char} {byte : UInt8} (h : 0x80 ≤ c.toNat)
    (hbyte : byte ∈ String.utf8EncodeChar c) : 0x80 ≤ byte.toNat := by
  have hvalue {bits : Nat} (hlow : 0x80 ≤ bits) (hhigh : bits < 256)
      (hequal : byte = UInt8.ofNat bits) : 0x80 ≤ byte.toNat := by
    rw [hequal, UInt8.toNat_ofNat_of_lt' hhigh]
    exact hlow
  have hone : ¬ c.val.toNat ≤ 127 := Nat.not_le.mpr h
  rw [String.utf8EncodeChar, if_neg hone] at hbyte
  split at hbyte
  case isTrue =>
    simp only [List.mem_cons, List.not_mem_nil, or_false] at hbyte
    rcases hbyte with hbyte | hbyte <;> exact hvalue (by omega) (by omega) hbyte
  case isFalse =>
    split at hbyte
    case isTrue =>
      simp only [List.mem_cons, List.not_mem_nil, or_false] at hbyte
      rcases hbyte with hbyte | hbyte | hbyte <;> exact hvalue (by omega) (by omega) hbyte
    case isFalse =>
      simp only [List.mem_cons, List.not_mem_nil, or_false] at hbyte
      rcases hbyte with hbyte | hbyte | hbyte | hbyte <;> exact hvalue (by omega) (by omega) hbyte

/-- A character of ASCII is a byte of no other character. -/
theorem ne_of_mem_utf8EncodeChar {c other : Char} (hne : c ≠ other) (hascii : other.toNat < 0x80) :
    ∀ byte ∈ String.utf8EncodeChar c, byte ≠ UInt8.ofNat other.toNat := by
  have hother : (UInt8.ofNat other.toNat).toNat = other.toNat :=
    UInt8.toNat_ofNat_of_lt' (Nat.lt_trans hascii (by decide))
  rintro byte hbyte rfl
  by_cases hc : c.toNat < 0x80
  case pos =>
    rw [utf8EncodeChar_of_ascii hc, List.mem_singleton] at hbyte
    have hvalue := congrArg UInt8.toNat hbyte
    rw [hother, UInt8.toNat_ofNat_of_lt' (Nat.lt_trans hc (by decide))] at hvalue
    exact hne (Char.toNat_inj.mp hvalue.symm)
  case neg =>
    have hle := le_of_mem_utf8EncodeChar (Nat.not_lt.mp hc) hbyte
    rw [hother] at hle
    omega

/-! ## Lead bytes -/

/-- The lead bytes of two-byte characters. -/
theorem lead?_two : ∀ bits < 32, 2 ≤ bits →
    lead? (UInt8.ofNat (bits + 0xC0)) = some ⟨bits, 1, 0x80, 0xBF⟩ := by
  decide

/-- The lead bytes of three-byte characters. -/
theorem lead?_three : ∀ bits < 16, lead? (UInt8.ofNat (bits + 0xE0)) =
    some ⟨bits, 2, if bits = 0 then 0xA0 else 0x80, if bits = 13 then 0x9F else 0xBF⟩ := by
  decide

/-- The lead bytes of four-byte characters. -/
theorem lead?_four : ∀ bits < 5, lead? (UInt8.ofNat (bits + 0xF0)) =
    some ⟨bits, 3, if bits = 0 then 0x90 else 0x80, if bits = 4 then 0x8F else 0xBF⟩ := by
  decide

/-- No single-byte character is a lead byte. -/
theorem lead?_ascii : ∀ bits < 128, lead? (UInt8.ofNat bits) = none := by
  decide

namespace Decoder

/-! ## Steps -/

/-- A byte of ASCII stands for itself. -/
theorem step_ascii (read : List (Option Char)) {bits : Nat} (h : bits < 128) :
    step ⟨read, none⟩ (UInt8.ofNat bits) = ⟨some (Char.ofNat bits) :: read, none⟩ := by
  have hvalue : (UInt8.ofNat bits).toNat = bits := UInt8.toNat_ofNat_of_lt' (by show _ < 256; omega)
  have hlt : UInt8.ofNat bits < 0x80 := by
    rw [UInt8.lt_iff_toNat_lt, hvalue]
    exact h
  rw [step, begin, if_pos hlt, hvalue]

/-- A lead byte begins a character. -/
theorem step_lead (read : List (Option Char)) {byte : UInt8} {pending : Pending}
    (h : lead? byte = some pending) : step ⟨read, none⟩ byte = ⟨read, some pending⟩ := by
  have hge : ¬ byte < 0x80 := by
    intro hlt
    have hascii := lead?_ascii byte.toNat (UInt8.lt_iff_toNat_lt.mp hlt)
    rw [UInt8.ofNat_toNat, h] at hascii
    contradiction
  rw [step, begin, if_neg hge]
  dsimp only
  rw [h]

variable {bits : Nat}

/-- A continuation byte in the range that is asked for adds six bits to the character under way. -/
theorem step_continuation (read : List (Option Char)) (pending : Pending) (hbits : bits < 64)
    (hlow : pending.low.toNat ≤ bits + 0x80) (hhigh : bits + 0x80 ≤ pending.high.toNat) :
    step ⟨read, some pending⟩ (UInt8.ofNat (bits + 0x80)) =
      if pending.needed = 1 then ⟨some (Char.ofNat (pending.bits * 64 + bits)) :: read, none⟩
      else ⟨read, some ⟨pending.bits * 64 + bits, pending.needed - 1, 0x80, 0xBF⟩⟩ := by
  have hvalue : (UInt8.ofNat (bits + 0x80)).toNat = bits + 0x80 :=
    UInt8.toNat_ofNat_of_lt' (by show _ < 256; omega)
  have hwithin : within pending.low pending.high (UInt8.ofNat (bits + 0x80)) = true := by
    rw [within, Bool.and_eq_true, decide_eq_true_iff, decide_eq_true_iff, UInt8.le_iff_toNat_le,
      UInt8.le_iff_toNat_le, hvalue]
    exact ⟨hlow, hhigh⟩
  rw [step]
  dsimp only
  rw [if_pos hwithin, hvalue, Nat.add_sub_cancel]

/-- The last byte of a character completes it. -/
theorem step_last (read : List (Option Char)) (before : Nat) (hbits : bits < 64) :
    step ⟨read, some ⟨before, 1, 0x80, 0xBF⟩⟩ (UInt8.ofNat (bits + 0x80)) =
      ⟨some (Char.ofNat (before * 64 + bits)) :: read, none⟩ :=
  step_continuation read _ hbits (by show 0x80 ≤ _; omega) (by show _ ≤ 0xBF; omega)

/-- A byte in the middle of a character leaves it under way. -/
theorem step_middle (read : List (Option Char)) (before needed : Nat) {low high : UInt8}
    (hbits : bits < 64) (hlow : low.toNat ≤ bits + 0x80) (hhigh : bits + 0x80 ≤ high.toNat) :
    step ⟨read, some ⟨before, needed + 2, low, high⟩⟩ (UInt8.ofNat (bits + 0x80)) =
      ⟨read, some ⟨before * 64 + bits, needed + 1, 0x80, 0xBF⟩⟩ :=
  step_continuation read ⟨before, needed + 2, low, high⟩ hbits hlow hhigh

/-! ## Characters -/

/-- The bytes of a character are read as that character. -/
theorem foldl_step_char (c : Char) (read : List (Option Char)) :
    (String.utf8EncodeChar c).foldl step ⟨read, none⟩ = ⟨some c :: read, none⟩ := by
  have hvalid : c.val.toNat < 0xD800 ∨ 0xDFFF < c.val.toNat ∧ c.val.toNat < 0x110000 := c.valid
  have hchar : Char.ofNat c.val.toNat = c := Char.ofNat_toNat c
  unfold String.utf8EncodeChar
  generalize c.val.toNat = value at hvalid hchar
  dsimp only
  split
  case isTrue hone =>
    rw [List.foldl_cons, List.foldl_nil, step_ascii read (by omega), hchar]
  case isFalse hone =>
  split
  case isTrue htwo =>
    rw [List.foldl_cons, List.foldl_cons, List.foldl_nil,
      step_lead read (lead?_two _ (by omega) (by omega)), step_last read _ (by omega),
      show value / 64 % 32 * 64 + value % 64 = value by omega, hchar]
  case isFalse htwo =>
  split
  case isTrue hthree =>
    rw [List.foldl_cons, List.foldl_cons, List.foldl_cons, List.foldl_nil,
      step_lead read (lead?_three _ (by omega)), step_middle read _ 0 (by omega) ?_ ?_,
      step_last read _ (by omega),
      show (value / 4096 % 16 * 64 + value / 64 % 64) * 64 + value % 64 = value by omega, hchar]
    -- No overlong form, and no surrogate.
    · split
      · show 0xA0 ≤ _
        omega
      · show 0x80 ≤ _
        omega
    · split
      · show _ ≤ 0x9F
        omega
      · show _ ≤ 0xBF
        omega
  case isFalse hthree =>
    rw [List.foldl_cons, List.foldl_cons, List.foldl_cons, List.foldl_cons, List.foldl_nil,
      step_lead read (lead?_four _ (by omega)), step_middle read _ 1 (by omega) ?_ ?_,
      step_middle read _ 0 (by omega) (by show 0x80 ≤ _; omega) (by show _ ≤ 0xBF; omega),
      step_last read _ (by omega),
      show ((value / 262144 % 8 * 64 + value / 4096 % 64) * 64 + value / 64 % 64) * 64 +
        value % 64 = value by omega, hchar]
    -- No overlong form, and no number past the last character.
    · split
      · show 0x90 ≤ _
        omega
      · show 0x80 ≤ _
        omega
    · split
      · show _ ≤ 0x8F
        omega
      · show _ ≤ 0xBF
        omega

/-- The bytes of a text are read as its characters. -/
theorem foldl_step_encode (cs : List Char) (read : List (Option Char)) :
    (encode cs).foldl step ⟨read, none⟩ = ⟨(cs.map some).reverse ++ read, none⟩ := by
  induction cs generalizing read with
  | nil => rfl
  | cons c cs ih =>
    rw [encode_cons, List.foldl_append, foldl_step_char, ih, List.map_cons, List.reverse_cons,
      List.append_assoc, List.singleton_append]

end Decoder

/-! ## Texts -/

/-- A byte is never passed over: it adds an item or begins one. -/
theorem Decoder.step_ne_empty (decoder : Decoder) (byte : UInt8) :
    (decoder.step byte).read ≠ [] ∨ (decoder.step byte).pending ≠ none := by
  have hbegin (decoder : Decoder) :
      (decoder.begin byte).read ≠ [] ∨ (decoder.begin byte).pending ≠ none := by
    unfold Decoder.begin
    split
    · exact Or.inl (List.cons_ne_nil _ _)
    · split
      · exact Or.inr (Option.some_ne_none _)
      · exact Or.inl (List.cons_ne_nil _ _)
  unfold Decoder.step
  split
  · exact hbegin decoder
  · split
    · dsimp only
      split
      · exact Or.inl (List.cons_ne_nil _ _)
      · exact Or.inr (Option.some_ne_none _)
    · exact hbegin _

/-- Only no bytes hold no items. -/
theorem scan_eq_nil_iff {bytes : Bytes} : scan bytes = [] ↔ bytes = [] := by
  refine ⟨fun h => ?_, fun h => h ▸ rfl⟩
  rcases bytes.eq_nil_or_concat with hnil | ⟨front, byte, rfl⟩
  · exact hnil
  · rw [scan, List.concat_eq_append, List.foldl_append, List.foldl_cons, List.foldl_nil,
      Decoder.finish] at h
    have hne := Decoder.step_ne_empty (front.foldl Decoder.step {}) byte
    split at h
    case h_1 hpending => exact absurd (List.reverse_eq_nil_iff.mp h) (hne.resolve_right (· hpending))
    case h_2 => exact absurd (List.reverse_eq_nil_iff.mp h) (List.cons_ne_nil _ _)

/-- Only no bytes are the empty text. -/
theorem text?_eq_some_empty_iff {bytes : Bytes} : text? bytes = some "" ↔ bytes = [] := by
  refine ⟨fun h => ?_, fun h => h ▸ rfl⟩
  obtain ⟨chars, hchars, hempty⟩ := Option.map_eq_some_iff.mp h
  obtain rfl : chars = [] := String.ofList_eq_empty_iff.mp hempty
  simp only [decode?] at hchars
  split at hchars
  case isFalse => contradiction
  case isTrue hall =>
    rw [Option.some.injEq, List.filterMap_eq_nil_iff] at hchars
    rw [← scan_eq_nil_iff, List.eq_nil_iff_forall_not_mem]
    intro item hitem
    have hsome := List.all_eq_true.mp hall item hitem
    rw [show item = none from hchars item hitem] at hsome
    contradiction

/-- What was encoded holds its characters and nothing unreadable. -/
theorem scan_encode (cs : List Char) : scan (encode cs) = cs.map some := by
  rw [scan, Decoder.foldl_step_encode, Decoder.finish, List.append_nil, List.reverse_reverse]

/-- **What was encoded is decoded.** -/
theorem decode?_encode (cs : List Char) : decode? (encode cs) = some cs := by
  rw [decode?, scan_encode]
  simp

end Utf8

end EchoBackend
