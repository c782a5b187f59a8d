/-
# What decoding accepts

What the decoding machine takes for a character was written as that character, since the bytes of a
sequence are determined by the number that they make up.  The main statements are
`scan_eq_some_cons_iff`, on the first item of a text, and `decode?_eq_some_iff`: strict decoding
accepts what was encoded and nothing else.
-/
import EchoBackend.Proofs.Text.Controls
import EchoBackend.Proofs.Text.Decoding

namespace EchoBackend

namespace Utf8

/-! ## Sequences of several bytes -/

/-- A character that stands for a number has that number. -/
theorem val_ofNat {value : Nat} (h : value.isValidChar) : (Char.ofNat value).val.toNat = value := by
  have hvalue := toNat_ofNat value
  rwa [if_pos h] at hvalue

/-- A character of two bytes. -/
theorem encode_two {a b : Nat} (ha : 2 ≤ a ∧ a < 32) (hb : b < 64) :
    String.utf8EncodeChar (Char.ofNat (a * 64 + b)) =
      [UInt8.ofNat (a + 0xC0), UInt8.ofNat (b + 0x80)] := by
  have hvalid : (a * 64 + b).isValidChar := Or.inl (by omega)
  rw [String.utf8EncodeChar, val_ofNat hvalid, if_neg (by omega), if_pos (by omega),
    show (a * 64 + b) / 64 % 32 = a by omega, show (a * 64 + b) % 64 = b by omega]

/-- A character of three bytes; numbers below 2048 and surrogates are excluded. -/
theorem encode_three {a b c : Nat} (ha : a < 16) (hb : b < 64) (hc : c < 64)
    (hlow : a = 0 → 32 ≤ b) (hhigh : a = 13 → b < 32) :
    String.utf8EncodeChar (Char.ofNat ((a * 64 + b) * 64 + c)) =
      [UInt8.ofNat (a + 0xE0), UInt8.ofNat (b + 0x80), UInt8.ofNat (c + 0x80)] := by
  have hvalid : ((a * 64 + b) * 64 + c).isValidChar := by
    show _ < 0xD800 ∨ 0xDFFF < _ ∧ _ < 0x110000
    omega
  rw [String.utf8EncodeChar, val_ofNat hvalid, if_neg (by omega), if_neg (by omega),
    if_pos (by omega), show ((a * 64 + b) * 64 + c) / 4096 % 16 = a by omega,
    show ((a * 64 + b) * 64 + c) / 64 % 64 = b by omega,
    show ((a * 64 + b) * 64 + c) % 64 = c by omega]

/-- A character of four bytes; numbers of fewer bytes and numbers past the last character are
excluded. -/
theorem encode_four {a b c d : Nat} (ha : a < 5) (hb : b < 64) (hc : c < 64) (hd : d < 64)
    (hlow : a = 0 → 16 ≤ b) (hhigh : a = 4 → b < 16) :
    String.utf8EncodeChar (Char.ofNat (((a * 64 + b) * 64 + c) * 64 + d)) =
      [UInt8.ofNat (a + 0xF0), UInt8.ofNat (b + 0x80), UInt8.ofNat (c + 0x80),
        UInt8.ofNat (d + 0x80)] := by
  have hvalid : (((a * 64 + b) * 64 + c) * 64 + d).isValidChar := Or.inr (by omega)
  rw [String.utf8EncodeChar, val_ofNat hvalid, if_neg (by omega), if_neg (by omega),
    if_neg (by omega), show (((a * 64 + b) * 64 + c) * 64 + d) / 262144 % 8 = a by omega,
    show (((a * 64 + b) * 64 + c) * 64 + d) / 4096 % 64 = b by omega,
    show (((a * 64 + b) * 64 + c) * 64 + d) / 64 % 64 = c by omega,
    show (((a * 64 + b) * 64 + c) * 64 + d) % 64 = d by omega]

/-! ## Characters under way -/

/-- A byte that may come next, by the bits that it adds. -/
def Pending.Allows (pending : Pending) (bits : Nat) : Prop :=
  bits < 64 ∧ pending.low.toNat ≤ bits + 0x80 ∧ bits + 0x80 ≤ pending.high.toNat

/-- The bytes that have begun a character, and what is known of it after them. -/
inductive Begun : Bytes → Pending → Prop
  | lead {byte : UInt8} {pending : Pending} (h : lead? byte = some pending) :
    Begun [byte] pending
  | more {begun : Bytes} {pending : Pending} {bits : Nat} (h : Begun begun pending)
    (hneeded : pending.needed ≠ 1) (hbits : pending.Allows bits) :
    Begun (begun ++ [UInt8.ofNat (bits + 0x80)])
      ⟨pending.bits * 64 + bits, pending.needed - 1, 0x80, 0xBF⟩

/-- **What a lead byte tells**: how many bytes follow, the first bits, and which byte may come
next. -/
theorem lead?_cases {byte : UInt8} {pending : Pending} (h : lead? byte = some pending) :
    (∃ a < 32, 2 ≤ a ∧ byte = UInt8.ofNat (a + 0xC0) ∧ pending = ⟨a, 1, 0x80, 0xBF⟩) ∨
      (∃ a < 16, byte = UInt8.ofNat (a + 0xE0) ∧ pending =
        ⟨a, 2, if a = 0 then 0xA0 else 0x80, if a = 13 then 0x9F else 0xBF⟩) ∨
      ∃ a < 5, byte = UInt8.ofNat (a + 0xF0) ∧ pending =
        ⟨a, 3, if a = 0 then 0x90 else 0x80, if a = 4 then 0x8F else 0xBF⟩ := by
  have hall : ∀ bits < 256, ∀ pending ∈ lead? (UInt8.ofNat bits),
      (∃ a < 32, 2 ≤ a ∧ UInt8.ofNat bits = UInt8.ofNat (a + 0xC0) ∧
        pending = ⟨a, 1, 0x80, 0xBF⟩) ∨
      (∃ a < 16, UInt8.ofNat bits = UInt8.ofNat (a + 0xE0) ∧ pending =
        ⟨a, 2, if a = 0 then 0xA0 else 0x80, if a = 13 then 0x9F else 0xBF⟩) ∨
      ∃ a < 5, UInt8.ofNat bits = UInt8.ofNat (a + 0xF0) ∧ pending =
        ⟨a, 3, if a = 0 then 0x90 else 0x80, if a = 4 then 0x8F else 0xBF⟩ := by
    decide +kernel
  have hbyte := hall byte.toNat byte.toNat_lt pending
  rw [UInt8.ofNat_toNat] at hbyte
  exact hbyte h

/-- A character under way needs at least one more byte and at most three. -/
theorem Begun.needed_bounds {begun : Bytes} {pending : Pending} (h : Begun begun pending) :
    1 ≤ pending.needed ∧ pending.needed ≤ 3 := by
  induction h with
  | lead h =>
    rcases lead?_cases h with ⟨_, _, _, _, rfl⟩ | ⟨_, _, _, rfl⟩ | ⟨_, _, _, rfl⟩
    all_goals
      dsimp only
      omega
  | more h hneeded hbits ih =>
    dsimp only
    omega

/-- The ranges for the next byte hold continuation bytes only. -/
theorem Begun.range {begun : Bytes} {pending : Pending} (h : Begun begun pending) :
    0x80 ≤ pending.low.toNat ∧ pending.high.toNat ≤ 0xBF := by
  cases h with
  | lead h =>
    rcases lead?_cases h with ⟨_, _, _, _, rfl⟩ | ⟨_, _, _, rfl⟩ | ⟨_, _, _, rfl⟩
    · exact ⟨Nat.le_refl 0x80, Nat.le_refl 0xBF⟩
    · dsimp only
      constructor <;> split <;> decide
    · dsimp only
      constructor <;> split <;> decide
  | more h hneeded hbits => exact ⟨Nat.le_refl 0x80, Nat.le_refl 0xBF⟩

/-- A byte within the range adds bits. -/
theorem Begun.exists_allows {begun : Bytes} {pending : Pending} {byte : UInt8}
    (h : Begun begun pending) (hwithin : within pending.low pending.high byte = true) :
    ∃ bits, pending.Allows bits ∧ byte = UInt8.ofNat (bits + 0x80) ∧
      byte.toNat - 0x80 = bits := by
  obtain ⟨hlow, hhigh⟩ := h.range
  rw [within, Bool.and_eq_true, decide_eq_true_iff, decide_eq_true_iff,
    UInt8.le_iff_toNat_le, UInt8.le_iff_toNat_le] at hwithin
  refine ⟨byte.toNat - 0x80, ⟨by omega, by omega, by omega⟩, ?_, rfl⟩
  rw [Nat.sub_add_cancel (by omega), UInt8.ofNat_toNat]

/-- **The byte that completes a character**: all its bytes are those in which it is written. -/
theorem Begun.encode {begun : Bytes} {pending : Pending} {bits : Nat} (h : Begun begun pending)
    (hneeded : pending.needed = 1) (hbits : pending.Allows bits) :
    String.utf8EncodeChar (Char.ofNat (pending.bits * 64 + bits)) =
      begun ++ [UInt8.ofNat (bits + 0x80)] := by
  -- One case for each length of a sequence.
  cases h with
  | lead h =>
    rcases lead?_cases h with ⟨a, hlt, hle, rfl, rfl⟩ | ⟨_, _, _, rfl⟩ | ⟨_, _, _, rfl⟩
    · exact encode_two ⟨hle, hlt⟩ hbits.1
    all_goals
      dsimp only at hneeded
      omega
  | more h hne hsecond =>
    dsimp only at hneeded
    cases h with
    | @lead byte pending h =>
      rcases lead?_cases h with ⟨_, _, _, _, rfl⟩ | ⟨a, ha, rfl, rfl⟩ | ⟨_, _, _, rfl⟩
      case inr.inl =>
        obtain ⟨hb, hlow, hhigh⟩ := hsecond
        refine encode_three ha hb hbits.1 ?_ ?_
        · rintro rfl
          exact Nat.le_of_add_le_add_right (show 32 + 128 ≤ _ from hlow)
        · rintro rfl
          exact Nat.lt_of_add_lt_add_right (show _ < 32 + 128 from Nat.lt_succ_of_le hhigh)
      all_goals
        dsimp only at hneeded hne
        omega
    | more h hne' hfirst =>
      dsimp only at hneeded hne
      cases h with
      | lead h =>
        rcases lead?_cases h with ⟨_, _, _, _, rfl⟩ | ⟨_, _, _, rfl⟩ | ⟨a, ha, rfl, rfl⟩
        case inr.inr =>
          obtain ⟨hb, hlow, hhigh⟩ := hfirst
          refine encode_four ha hb hsecond.1 hbits.1 ?_ ?_
          · rintro rfl
            exact Nat.le_of_add_le_add_right (show 16 + 128 ≤ _ from hlow)
          · rintro rfl
            exact Nat.lt_of_add_lt_add_right (show _ < 16 + 128 from Nat.lt_succ_of_le hhigh)
        all_goals
          dsimp only at hneeded hne hne'
          omega
      | more h hne'' _ =>
        have hle := h.needed_bounds
        dsimp only at hneeded hne hne'
        omega

/-! ## Reading on -/

namespace Decoder

/-- A decoder that has read something before. -/
def onto (read : List (Option Char)) (decoder : Decoder) : Decoder :=
  ⟨decoder.read ++ read, decoder.pending⟩

/-- What was read before does not matter for a byte that continues nothing. -/
theorem begin_onto (read : List (Option Char)) (decoder : Decoder) (byte : UInt8) :
    (decoder.onto read).begin byte = (decoder.begin byte).onto read := by
  unfold Decoder.begin
  split
  · rfl
  · cases lead? byte <;> rfl

/-- What was read before does not matter for a byte. -/
theorem step_onto (read : List (Option Char)) (decoder : Decoder) (byte : UInt8) :
    (decoder.onto read).step byte = (decoder.step byte).onto read := by
  rcases decoder with ⟨items, pending⟩
  cases pending with
  | none => exact begin_onto read ⟨items, none⟩ byte
  | some pending =>
    simp only [step, onto]
    split
    · split <;> rfl
    · exact begin_onto read ⟨none :: items, none⟩ byte

/-- What was read before comes before what is read later. -/
theorem finish_foldl_onto (read : List (Option Char)) (decoder : Decoder) (bytes : Bytes) :
    (bytes.foldl step (decoder.onto read)).finish =
      read.reverse ++ (bytes.foldl step decoder).finish := by
  induction bytes generalizing decoder with
  | nil =>
    rcases decoder with ⟨items, pending⟩
    cases pending <;> simp [onto, finish]
  | cons byte bytes ih => rw [List.foldl_cons, step_onto, ih, List.foldl_cons]

/-- After a complete item the bytes are read as on their own. -/
theorem finish_foldl_item (item : Option Char) (bytes : Bytes) :
    (bytes.foldl step ⟨[item], none⟩).finish = item :: scan bytes :=
  finish_foldl_onto [item] {} bytes

/-- A sequence that is broken off is unreadable. -/
theorem finish_foldl_broken (decoder : Decoder) (bytes : Bytes) :
    (bytes.foldl step (decoder.onto [none])).finish =
      none :: (bytes.foldl step decoder).finish :=
  finish_foldl_onto [none] decoder bytes

/-- **A character that is read after some of its bytes** was written with these bytes in front. -/
theorem exists_of_begun {bytes begun : Bytes} {pending : Pending} {c : Char}
    {items : List (Option Char)} (hbegun : Begun begun pending)
    (h : (bytes.foldl step ⟨[], some pending⟩).finish = some c :: items) :
    ∃ rest, begun ++ bytes = String.utf8EncodeChar c ++ rest ∧ scan rest = items := by
  induction bytes generalizing begun pending with
  | nil => exact absurd (List.cons.inj h).1 (Option.some_ne_none _).symm
  | cons byte bytes ih =>
    rw [List.foldl_cons, step] at h
    dsimp only at h
    split at h
    case isFalse =>
      rw [show begin ⟨[none], none⟩ byte = (begin {} byte).onto [none] from
        begin_onto [none] {} byte, finish_foldl_broken] at h
      exact absurd (List.cons.inj h).1 (Option.some_ne_none _).symm
    case isTrue hwithin =>
      obtain ⟨bits, hbits, rfl, hvalue⟩ := hbegun.exists_allows hwithin
      rw [hvalue] at h
      by_cases hneeded : pending.needed = 1
      · -- The byte completes the character that is read first.
        rw [if_pos hneeded, finish_foldl_item] at h
        obtain ⟨hc, hitems⟩ := List.cons.inj h
        obtain rfl := Option.some.inj hc
        refine ⟨bytes, ?_, hitems⟩
        rw [hbegun.encode hneeded hbits, List.append_assoc, List.singleton_append]
      · rw [if_neg hneeded] at h
        obtain ⟨rest, hbytes, hitems⟩ := ih (hbegun.more hneeded hbits) h
        refine ⟨rest, ?_, hitems⟩
        rw [← hbytes, List.append_assoc, List.singleton_append]

end Decoder

/-! ## Texts -/

/-- **The first item.**  Bytes are read as a character first exactly if they begin with the bytes of
that character; the others are read on their own. -/
theorem scan_eq_some_cons_iff {bytes : Bytes} {c : Char} {items : List (Option Char)} :
    scan bytes = some c :: items ↔
      ∃ rest, bytes = String.utf8EncodeChar c ++ rest ∧ scan rest = items := by
  constructor
  · intro h
    cases bytes with
    | nil => contradiction
    | cons byte bytes =>
      rw [scan, List.foldl_cons, Decoder.step, Decoder.begin] at h
      dsimp only at h
      split at h
      case isTrue hascii =>
        rw [Decoder.finish_foldl_item] at h
        obtain ⟨hc, hitems⟩ := List.cons.inj h
        obtain rfl := Option.some.inj hc
        have hlt := UInt8.lt_iff_toNat_lt.mp hascii
        have hvalue : (Char.ofNat byte.toNat).toNat = byte.toNat :=
          val_ofNat (Or.inl (Nat.lt_trans hlt (by decide)))
        refine ⟨bytes, ?_, hitems⟩
        rw [utf8EncodeChar_of_ascii (by rw [hvalue]; exact hlt), hvalue, UInt8.ofNat_toNat,
          List.singleton_append]
      case isFalse =>
        cases hlead : lead? byte with
        | none =>
          rw [hlead] at h
          dsimp only at h
          rw [Decoder.finish_foldl_item] at h
          exact absurd (List.cons.inj h).1 (Option.some_ne_none _).symm
        | some pending =>
          rw [hlead] at h
          exact Decoder.exists_of_begun (.lead hlead) h
  · rintro ⟨rest, rfl, rfl⟩
    rw [scan, List.foldl_append, Decoder.foldl_step_char, Decoder.finish_foldl_item]

/-- Items that are all readable are their characters. -/
theorem eq_map_some {items : List (Option Char)} (h : items.all Option.isSome = true) :
    items = (items.filterMap id).map some := by
  induction items with
  | nil => rfl
  | cons item items ih =>
    rw [List.all_cons, Bool.and_eq_true] at h
    obtain ⟨c, rfl⟩ := Option.isSome_iff_exists.mp h.1
    show some c :: items = some c :: (items.filterMap id).map some
    rw [← ih h.2]

/-- **Strict decoding accepts what was encoded and nothing else.** -/
theorem decode?_eq_some_iff {bytes : Bytes} {cs : List Char} :
    decode? bytes = some cs ↔ bytes = encode cs := by
  refine ⟨fun h => ?_, fun h => h ▸ decode?_encode cs⟩
  have hscan : scan bytes = cs.map some := by
    simp only [decode?] at h
    split at h
    case isFalse => contradiction
    case isTrue hall =>
      obtain rfl := Option.some.inj h
      exact eq_map_some hall
  clear h
  induction cs generalizing bytes with
  | nil => exact scan_eq_nil_iff.mp hscan
  | cons c cs ih =>
    obtain ⟨rest, rfl, hrest⟩ := scan_eq_some_cons_iff.mp hscan
    rw [encode_cons, ih hrest]

/-- Bytes are a text exactly if they are the bytes of that text. -/
theorem text?_eq_some_iff {data : Bytes} {text : String} :
    text? data = some text ↔ data = bytes text := by
  rw [text?, Option.map_eq_some_iff]
  constructor
  · rintro ⟨cs, hcs, rfl⟩
    rw [bytes, String.toList_ofList]
    exact decode?_eq_some_iff.mp hcs
  · intro h
    exact ⟨text.toList, decode?_eq_some_iff.mpr h, String.ofList_toList⟩

end Utf8

end EchoBackend
