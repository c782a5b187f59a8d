/-
# Percent escapes, wherever they stand

What is decoded from the bytes before a byte that is no digit does not depend on it, so a text with
escapes is decoded part by part.  An escape stands for its byte whatever surrounds it, and what was
decoded is not decoded again.  The main statements are `decode_append` and
`decode_flatten`.
-/
import EchoBackend.Http.Method
import EchoBackend.Proofs.Text.Decoding
import EchoBackend.Text.Percent
import Mathlib.Data.List.Forall2

namespace EchoBackend

/-! ## Digits in either letter case -/

namespace Hex

/-- Whether a byte is the digit of a value below 16, in either letter case. -/
def Writes (value : Nat) (byte : UInt8) : Prop :=
  value < 16 ∧ Http.lowerByte byte = UInt8.ofNat (digit value).toNat

instance (value : Nat) (byte : UInt8) : Decidable (Writes value byte) :=
  inferInstanceAs (Decidable (_ ∧ _))

/-- Whether a byte is a digit. -/
def IsDigit (byte : UInt8) : Prop := ∃ value, Writes value byte

/-- A byte is read as a value exactly if it is the digit of that value. -/
theorem value?_eq_some_iff {byte value : UInt8} :
    value? byte = some value ↔ Writes value.toNat byte := by
  have hread : ∀ bits < 256, ∀ value ∈ value? (UInt8.ofNat bits),
      Writes value.toNat (UInt8.ofNat bits) := by decide +kernel
  have hwritten : ∀ bits < 256, ∀ number < 16, Writes number (UInt8.ofNat bits) →
      value? (UInt8.ofNat bits) = some (UInt8.ofNat number) := by decide +kernel
  have hbyte := hread byte.toNat byte.toNat_lt
  have hvalue := hwritten byte.toNat byte.toNat_lt value.toNat
  rw [UInt8.ofNat_toNat] at hbyte hvalue
  rw [UInt8.ofNat_toNat] at hvalue
  exact ⟨fun h => hbyte value h, fun h => hvalue h.1 h⟩

/-- The value of a digit is that of the byte it is read as. -/
theorem Writes.toNat_ofNat {byte : UInt8} {value : Nat} (h : Writes value byte) :
    (UInt8.ofNat value).toNat = value :=
  UInt8.toNat_ofNat_of_lt' (Nat.lt_trans h.1 (by decide))

/-- A digit is read. -/
theorem Writes.value?_eq {byte : UInt8} {value : Nat} (h : Writes value byte) :
    value? byte = some (UInt8.ofNat value) := by
  rw [value?_eq_some_iff, h.toNat_ofNat]
  exact h

/-- What is written for a value is its digit. -/
theorem writes_digit {value : Nat} (h : value < 16) :
    Writes value (UInt8.ofNat (digit value).toNat) := by
  have hread := value?_eq_some_iff.mp (value?_digit value h)
  rwa [UInt8.toNat_ofNat_of_lt' (Nat.lt_trans h (by decide))] at hread

/-- A byte is not read exactly if it is no digit. -/
theorem value?_eq_none_iff {byte : UInt8} : value? byte = none ↔ ¬ IsDigit byte := by
  constructor
  · rintro hnone ⟨value, h⟩
    rw [h.value?_eq] at hnone
    contradiction
  · intro h
    cases hvalue : value? byte with
    | none => rfl
    | some value => exact absurd ⟨value.toNat, value?_eq_some_iff.mp hvalue⟩ h

instance (byte : UInt8) : Decidable (IsDigit byte) :=
  decidable_of_iff (¬ value? byte = none) (by rw [value?_eq_none_iff, not_not])

end Hex

namespace Percent

variable {byte first high low : UInt8} {bytes rest : Bytes}

/-! ## Decoding from the left -/

/-- What was decoded comes before what is decoded later. -/
theorem decodeOnto_append (done before bytes : Bytes) :
    decodeOnto (done ++ before) bytes = before.reverse ++ decodeOnto done bytes := by
  fun_induction decodeOnto done bytes with
  | case1 done => rw [decodeOnto, List.reverse_append]
  | case2 done first high low rest byte hescape ih =>
    rw [decodeOnto, hescape]
    exact ih
  | case3 done first high low rest hescape ih =>
    rw [decodeOnto, hescape]
    exact ih
  | case4 done byte rest hshort ih =>
    rw [decodeOnto.eq_3 _ _ _ hshort]
    exact ih

/-- One byte was decoded. -/
theorem decodeOnto_singleton (byte : UInt8) (bytes : Bytes) :
    decodeOnto [byte] bytes = byte :: decode bytes :=
  decodeOnto_append [] [byte] bytes

/-- An escape at the head stands for its byte. -/
theorem decode_of_escape (h : escape? first high low = some byte) :
    decode (first :: high :: low :: rest) = byte :: decode rest := by
  rw [decode, decodeOnto, h]
  exact decodeOnto_singleton byte rest

/-- Whether an escape stands at the head: a percent sign and two digits. -/
def BeginsEscape : Bytes → Prop
  | percent :: high :: low :: _ => percent = 0x25 ∧ Hex.IsDigit high ∧ Hex.IsDigit low
  | _ => False

instance (bytes : Bytes) : Decidable (BeginsEscape bytes) :=
  match bytes with
  | [] | [_] | [_, _] => isFalse id
  | percent :: high :: low :: _ =>
    inferInstanceAs (Decidable (percent = 0x25 ∧ Hex.IsDigit high ∧ Hex.IsDigit low))

/-- Three bytes stand for themselves exactly if they are no escape. -/
theorem escape?_eq_none_iff (rest : Bytes) :
    escape? first high low = none ↔ ¬ BeginsEscape (first :: high :: low :: rest) := by
  have hsome {digit : UInt8} (h : Hex.IsDigit digit) : ∃ value, Hex.value? digit = some value := by
    cases hvalue : Hex.value? digit with
    | none => exact absurd h (Hex.value?_eq_none_iff.mp hvalue)
    | some value => exact ⟨value, rfl⟩
  unfold escape? BeginsEscape
  constructor
  · rintro h ⟨rfl, hhigh, hlow⟩
    obtain ⟨upper, hupper⟩ := hsome hhigh
    obtain ⟨lower, hlower⟩ := hsome hlow
    rw [if_pos (by decide), hupper, hlower] at h
    exact Option.some_ne_none _ h
  · intro h
    split
    case isFalse => rfl
    case isTrue hfirst =>
      cases hupper : Hex.value? high with
      | none => rfl
      | some upper =>
        cases hlower : Hex.value? low with
        | none => rfl
        | some lower =>
          exact absurd ⟨eq_of_beq hfirst, ⟨_, Hex.value?_eq_some_iff.mp hupper⟩,
            ⟨_, Hex.value?_eq_some_iff.mp hlower⟩⟩ h

/-- A byte that begins no escape stands for itself. -/
theorem decode_cons (h : ¬ BeginsEscape (first :: rest)) :
    decode (first :: rest) = first :: decode rest := by
  match rest with
  | [] => rfl
  | [_] => rfl
  | high :: low :: after =>
    rw [decode, decodeOnto, (escape?_eq_none_iff after).mpr h]
    exact decodeOnto_singleton first (high :: low :: after)

/-- Only a percent sign begins an escape. -/
theorem not_beginsEscape_of_ne (h : first ≠ 0x25) : ¬ BeginsEscape (first :: rest) := by
  match rest with
  | [] | [_] => exact id
  | _ :: _ :: _ => exact fun hbegins => h hbegins.1

/-- A byte other than the percent sign stands for itself. -/
theorem decode_cons_of_ne (h : first ≠ 0x25) : decode (first :: rest) = first :: decode rest :=
  decode_cons (not_beginsEscape_of_ne h)

/-- Without percent signs there is nothing to decode. -/
theorem decode_append_of_plain (h : ∀ byte ∈ bytes, byte ≠ 0x25) :
    decode (bytes ++ rest) = bytes ++ decode rest := by
  induction bytes with
  | nil => rfl
  | cons byte bytes ih =>
    rw [List.forall_mem_cons] at h
    rw [List.cons_append, decode_cons_of_ne h.1, ih h.2, List.cons_append]

/-- Whether an escape stands anywhere. -/
def HasEscape (bytes : Bytes) : Prop := ∃ tail ∈ bytes.tails, BeginsEscape tail

instance (bytes : Bytes) : Decidable (HasEscape bytes) :=
  inferInstanceAs (Decidable (∃ tail ∈ bytes.tails, BeginsEscape tail))

/-- Without escapes there is nothing to decode. -/
theorem decode_eq_self (h : ¬ HasEscape bytes) : decode bytes = bytes := by
  induction bytes with
  | nil => rfl
  | cons byte bytes ih =>
    rw [HasEscape, List.tails] at h
    simp only [List.mem_cons, exists_eq_or_imp, not_or] at h
    rw [decode_cons h.1, ih h.2]

/-- **Decoding is cut at any byte that is no digit**: what stands before it is decoded on its own,
even if it breaks off in the middle of an escape. -/
theorem decode_append (hdigit : ¬ Hex.IsDigit byte) (front rest : Bytes) :
    decode (front ++ byte :: rest) = decode front ++ decode (byte :: rest) := by
  have honto (done : Bytes) : decodeOnto done (front ++ byte :: rest) =
      decodeOnto done front ++ decode (byte :: rest) := by
    fun_induction decodeOnto done front with
    | case1 done => exact decodeOnto_append [] done (byte :: rest)
    | case2 done first high low front value hescape ih =>
      rw [List.cons_append, List.cons_append, List.cons_append, decodeOnto, hescape]
      exact ih
    | case3 done first high low front hescape ih =>
      rw [List.cons_append, List.cons_append, List.cons_append, decodeOnto, hescape]
      exact ih
    | case4 done first front hshort ih =>
      -- Fewer than two bytes are left before the one that is no digit.
      rw [← ih]
      match front with
      | [] =>
        cases rest with
        | nil => rfl
        | cons next rest =>
          have hescape : escape? first byte next = none :=
            (escape?_eq_none_iff rest).mpr fun hbegins => hdigit hbegins.2.1
          rw [List.cons_append, List.nil_append, decodeOnto, hescape]
      | [high] =>
        have hescape : escape? first high byte = none :=
          (escape?_eq_none_iff rest).mpr fun hbegins => hdigit hbegins.2.2
        rw [List.cons_append, List.singleton_append, decodeOnto, hescape]
      | high :: low :: front => exact absurd rfl (hshort high low front)
  exact honto []

/-! ## Escapes as they are written -/

/-- The ways to escape a byte: a percent sign and its two digits. -/
inductive Escapes (byte : UInt8) : Bytes → Prop
  | digits {high low : UInt8} (hhigh : Hex.Writes (byte.toNat / 16) high)
    (hlow : Hex.Writes (byte.toNat % 16) low) : Escapes byte [0x25, high, low]

/-- An escape stands for the byte that was escaped. -/
theorem Escapes.decode {escape : Bytes} (h : Escapes byte escape) (rest : Bytes) :
    decode (escape ++ rest) = byte :: decode rest := by
  obtain ⟨hhigh, hlow⟩ := h
  have hlt := byte.toNat_lt
  refine decode_of_escape ?_
  rw [escape?, if_pos (by decide), hhigh.value?_eq, hlow.value?_eq]
  show some (16 * UInt8.ofNat (byte.toNat / 16) + UInt8.ofNat (byte.toNat % 16)) = some byte
  rw [Option.some.injEq, ← UInt8.toNat_inj, UInt8.toNat_add, UInt8.toNat_mul, hhigh.toNat_ofNat,
    hlow.toNat_ofNat]
  show (16 * (byte.toNat / 16) % 256 + byte.toNat % 16) % 256 = byte.toNat
  omega

/-- Escapes stand for the bytes that were escaped. -/
theorem decode_escapes {escapes : List Bytes} (h : List.Forall₂ Escapes bytes escapes)
    (rest : Bytes) : decode (escapes.flatten ++ rest) = bytes ++ decode rest := by
  induction h with
  | nil => rfl
  | cons hfirst _ ih =>
    rw [List.flatten_cons, List.append_assoc, hfirst.decode, ih, List.cons_append]

/-- The ways to write a character among escapes: as it is, unless it is the percent sign, or with
all of its bytes escaped. -/
inductive Writes (c : Char) : Bytes → Prop
  | plain (h : c ≠ '%') : Writes c (String.utf8EncodeChar c)
  | escaped {escapes : List Bytes} (h : List.Forall₂ Escapes (String.utf8EncodeChar c) escapes) :
    Writes c escapes.flatten

/-- However a character is written, its bytes are decoded. -/
theorem Writes.decode {c : Char} {written : Bytes} (h : Writes c written) (rest : Bytes) :
    decode (written ++ rest) = String.utf8EncodeChar c ++ decode rest := by
  cases h with
  | plain h => exact decode_append_of_plain (Utf8.ne_of_mem_utf8EncodeChar h (by decide))
  | escaped h => exact decode_escapes h rest

/-- **However a text is written, its bytes are decoded**, and nothing is decoded twice. -/
theorem decode_flatten {text : List Char} {written : List Bytes}
    (h : List.Forall₂ Writes text written) : decode written.flatten = Utf8.encode text := by
  induction h with
  | nil => rfl
  | cons hfirst _ ih => rw [List.flatten_cons, hfirst.decode, ih, Utf8.encode_cons]

end Percent

end EchoBackend
