/-
# Control characters in decoded text

No sequence of several bytes is read as a control character: the forms that would stand for one
are overlong.  Hence a line feed or a carriage return in a decoded text was a byte of its own.  The
main statement is `mem_of_mem_lossy`.
-/
import EchoBackend.Text.Utf8
import Mathlib.Data.List.Basic

namespace EchoBackend

namespace Utf8

/-- The bits that a character under way will have at least, once its next byte was read. -/
def Pending.least (pending : Pending) : Nat := pending.bits * 64 + (pending.low.toNat - 0x80)

/-- A lead byte leaves no room for a control character. -/
theorem least_of_lead? {byte : UInt8} {pending : Pending} (h : lead? byte = some pending) :
    16 ≤ pending.least ∧ 0x80 ≤ pending.low.toNat := by
  have hall : ∀ bits < 256, ∀ pending ∈ lead? (UInt8.ofNat bits),
      16 ≤ pending.least ∧ 0x80 ≤ pending.low.toNat := by decide +kernel
  have hbyte := hall byte.toNat byte.toNat_lt pending
  rw [UInt8.ofNat_toNat] at hbyte
  exact hbyte h

/-- The control characters of interest: those below 16, the first of which is left out because it
also stands for numbers that are no characters. -/
def IsLow (c : Char) : Prop := 0 < c.toNat ∧ c.toNat < 16

/-- The number of a character that stands for a number. -/
theorem toNat_ofNat (bits : Nat) :
    (Char.ofNat bits).toNat = if bits.isValidChar then bits else 0 := by
  by_cases hvalid : bits.isValidChar
  · rw [Char.ofNat, dif_pos hvalid, if_pos hvalid]
    rfl
  · rw [Char.ofNat, dif_neg hvalid, if_neg hvalid]
    rfl

/-- A number from 16 on stands for no low character. -/
theorem not_isLow_ofNat {bits : Nat} (h : 16 ≤ bits) : ¬ IsLow (Char.ofNat bits) := by
  rintro ⟨hpos, hlt⟩
  rw [toNat_ofNat] at hpos hlt
  split at hlt
  · omega
  · rw [if_neg ‹_›] at hpos
    omega

namespace Decoder

variable {bytes : Bytes} {decoder : Decoder}

/-- What is known of a decoder that has read some of the given bytes: the low characters that it
has read are among them, and what is under way will not become one. -/
structure Low (bytes : Bytes) (decoder : Decoder) : Prop where
  read : ∀ c, some c ∈ decoder.read → IsLow c → UInt8.ofNat c.toNat ∈ bytes
  pending : ∀ pending ∈ decoder.pending, 16 ≤ pending.least ∧ 0x80 ≤ pending.low.toNat

/-- Reading an item that is no low character changes nothing. -/
theorem Low.push (h : Low bytes decoder) {item : Option Char}
    (hitem : ∀ c ∈ item, IsLow c → UInt8.ofNat c.toNat ∈ bytes) :
    Low bytes ⟨item :: decoder.read, none⟩ := by
  refine ⟨fun c hc hlow => ?_, by rintro _ ⟨⟩⟩
  rcases List.mem_cons.mp hc with heq | hc
  · exact hitem c heq.symm hlow
  · exact h.read c hc hlow

/-- A byte that continues nothing. -/
theorem Low.begin (h : Low bytes decoder) {byte : UInt8} (hbyte : byte ∈ bytes) :
    Low bytes (decoder.begin byte) := by
  unfold Decoder.begin
  split
  case isTrue hascii =>
    refine h.push fun c hc hlow => ?_
    obtain rfl := Option.some.inj hc
    rw [UInt8.lt_iff_toNat_lt] at hascii
    have hvalid : byte.toNat.isValidChar := Or.inl (Nat.lt_trans hascii (by decide))
    rwa [toNat_ofNat, if_pos hvalid, UInt8.ofNat_toNat]
  case isFalse =>
    cases hlead : lead? byte with
    | none => exact h.push (by rintro _ ⟨⟩)
    | some pending =>
      refine ⟨h.read, ?_⟩
      rintro _ ⟨⟩
      exact least_of_lead? hlead

/-- A byte keeps what is known. -/
theorem Low.step (h : Low bytes decoder) {byte : UInt8} (hbyte : byte ∈ bytes) :
    Low bytes (decoder.step byte) := by
  unfold Decoder.step
  split
  case h_1 => exact h.begin hbyte
  case h_2 pending hpending =>
    obtain ⟨hleast, hlow⟩ := h.pending pending hpending
    split
    case isTrue hwithin =>
      rw [within, Bool.and_eq_true, decide_eq_true_iff, UInt8.le_iff_toNat_le] at hwithin
      have hbits : 16 ≤ pending.bits * 64 + (byte.toNat - 0x80) := by
        unfold Pending.least at hleast
        omega
      dsimp only
      split
      case isTrue =>
        refine h.push fun c hc hclow => absurd hclow ?_
        obtain rfl := Option.some.inj hc
        exact not_isLow_ofNat hbits
      case isFalse =>
        refine ⟨h.read, fun next hnext => ?_⟩
        obtain rfl := Option.some.inj hnext
        unfold Pending.least
        dsimp only
        exact ⟨by omega, by decide⟩
    case isFalse => exact (h.push (by rintro _ ⟨⟩)).begin hbyte

/-- Bytes keep what is known. -/
theorem Low.foldl (h : Low bytes decoder) {rest : Bytes} (hrest : ∀ byte ∈ rest, byte ∈ bytes) :
    Low bytes (rest.foldl Decoder.step decoder) := by
  induction rest generalizing decoder with
  | nil => exact h
  | cons byte rest ih =>
    rw [List.forall_mem_cons] at hrest
    exact ih (h.step hrest.1) hrest.2

/-- What is known does not change at the end. -/
theorem Low.finish (h : Low bytes decoder) {c : Char} (hc : some c ∈ decoder.finish)
    (hlow : IsLow c) : UInt8.ofNat c.toNat ∈ bytes := by
  refine h.read c ?_ hlow
  unfold Decoder.finish at hc
  split at hc
  · exact List.mem_reverse.mp hc
  · rw [List.mem_reverse, List.mem_cons] at hc
    exact hc.resolve_left (by simp)

end Decoder

/-- **A low character in a decoded text was a byte of its own.** -/
theorem mem_of_mem_lossy {bytes : Bytes} {c : Char} (hc : c ∈ lossy bytes) (hlow : IsLow c) :
    UInt8.ofNat c.toNat ∈ bytes := by
  obtain ⟨item, hitem, rfl⟩ := List.mem_map.mp hc
  cases item with
  | none =>
    have hnot : ¬ IsLow replacement := by
      rw [IsLow]
      decide
    exact absurd hlow hnot
  | some c =>
    have hstart : Decoder.Low bytes {} := ⟨by simp, by rintro _ ⟨⟩⟩
    exact (hstart.foldl fun _ hbyte => hbyte).finish hitem hlow

end Utf8

end EchoBackend
