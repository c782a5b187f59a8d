/-
# Ports in decimal

Which texts the reader of port numbers accepts: an optional plus sign and at least one digit, any
number of leading zeros, and a value from 1 to 65535.  The limits of the 64 bits in which the value
is gathered never decide, since the value only grows from digit to digit.  The main statement is
`judge_eq_ok_iff`.
-/
import EchoBackend.CommandLine.Request
import EchoBackend.Proofs.Http.Fields
import EchoBackend.Proofs.Text.Scanning

namespace EchoBackend

namespace PortNumber

/-! ## Digits -/

/-- Further digits never make a number smaller. -/
theorem le_ofDigitChars (start : Nat) (digits : List Char) :
    start ≤ Nat.ofDigitChars 10 digits start := by
  induction digits generalizing start with
  | nil => exact Nat.le_of_eq Nat.ofDigitChars_nil.symm
  | cons c digits ih =>
    rw [Nat.ofDigitChars_cons]
    exact Nat.le_trans (by omega) (ih _)

/-- **Digits are read as their number**, if that keeps within the limit. -/
theorem readDigits_eq_ok_iff {limit start number : Nat} {excess : Fault} {digits : List Char} :
    readDigits limit excess start digits = .ok number ↔
      (∀ c ∈ digits, c.isDigit = true) ∧ Nat.ofDigitChars 10 digits start = number ∧
        (digits ≠ [] → number ≤ limit) := by
  induction digits generalizing start with
  | nil => simp [readDigits]
  | cons c digits ih =>
    rw [readDigits, Nat.ofDigitChars_cons, List.forall_mem_cons]
    cases hdigit : c.isDigit with
    | false => simp
    | true =>
      dsimp only
      have hle := le_ofDigitChars (10 * start + (c.toNat - '0'.toNat)) digits
      by_cases hlimit : 10 * start + (c.toNat - '0'.toNat) ≤ limit
      · rw [if_pos rfl, if_pos hlimit, ih]
        constructor
        · rintro ⟨hall, hvalue, hbound⟩
          refine ⟨⟨rfl, hall⟩, hvalue, fun _ => ?_⟩
          by_cases hnil : digits = []
          · rwa [← hvalue, hnil, Nat.ofDigitChars_nil]
          · exact hbound hnil
        · rintro ⟨⟨-, hall⟩, hvalue, hbound⟩
          exact ⟨hall, hvalue, fun _ => hbound (List.cons_ne_nil _ _)⟩
      · -- What is too great already stays too great.
        rw [if_pos rfl, if_neg hlimit]
        constructor
        · intro h
          contradiction
        · rintro ⟨-, rfl, hbound⟩
          exact absurd (hbound (List.cons_ne_nil _ _)) (by omega)

/-- A number without a sign has at least one digit. -/
theorem readUnsigned_eq_ok_iff {limit number : Nat} {excess : Fault} {digits : List Char} :
    readUnsigned limit excess digits = .ok number ↔
      digits ≠ [] ∧ (∀ c ∈ digits, c.isDigit = true) ∧
        Nat.ofDigitChars 10 digits 0 = number ∧ number ≤ limit := by
  rw [readUnsigned]
  by_cases hnil : digits = []
  · simp [hnil]
  · rw [if_neg (by simpa using hnil), readDigits_eq_ok_iff]
    simp [hnil]

/-! ## Ports -/

/-- A text that spells a port: an optional plus sign and digits whose number is that port; 0 is
none. -/
def Spells (text : List Char) (port : UInt16) : Prop :=
  ∃ digits, (text = digits ∨ text = '+' :: digits) ∧ digits ≠ [] ∧
    (∀ c ∈ digits, c.isDigit = true) ∧ Nat.ofDigitChars 10 digits 0 = port.toNat ∧ port ≠ 0

/-- A number is one that a port can have exactly if it is that of a port other than 0. -/
theorem eq_port_iff {number : Int} {port : UInt16} :
    (if 1 ≤ number ∧ number ≤ 65535 then .ok (UInt16.ofNat number.toNat)
      else .error (Fault.outOfRange number)) = Except.ok port ↔
      number = port.toNat ∧ port ≠ 0 := by
  have hlt := port.toNat_lt
  have hzero : port ≠ 0 ↔ port.toNat ≠ 0 := by rw [ne_eq, ne_eq, ← UInt16.toNat_inj]; rfl
  split
  case isTrue h =>
    rw [Except.ok.injEq, ← UInt16.toNat_inj, hzero,
      UInt16.toNat_ofNat_of_lt' (by show _ < 65536; omega)]
    omega
  case isFalse h =>
    rw [hzero]
    constructor
    · intro h
      contradiction
    · omega

/-- A number of a port keeps within the limit of positive numbers. -/
theorem readUnsigned_eq_port_iff {digits : List Char} {port : UInt16} :
    readUnsigned maxPositive .tooLarge digits = .ok port.toNat ↔
      digits ≠ [] ∧ (∀ c ∈ digits, c.isDigit = true) ∧
        Nat.ofDigitChars 10 digits 0 = port.toNat := by
  have hle : port.toNat ≤ maxPositive := by
    have hlt := port.toNat_lt
    show _ ≤ 9223372036854775807
    omega
  rw [readUnsigned_eq_ok_iff]
  simp [hle]

/-- What a number without a sign comes to. -/
theorem map_readUnsigned_eq_port_iff {digits : List Char} {port : UInt16} :
    (readUnsigned maxPositive .tooLarge digits).map Int.ofNat = .ok (port.toNat : Int) ↔
      digits ≠ [] ∧ (∀ c ∈ digits, c.isDigit = true) ∧
        Nat.ofDigitChars 10 digits 0 = port.toNat := by
  rw [Except.map_eq_ok_iff, ← readUnsigned_eq_port_iff]
  constructor
  · rintro ⟨number, hread, hnumber⟩
    rwa [← Int.ofNat.inj hnumber]
  · intro hread
    exact ⟨_, hread, rfl⟩

/-- The number that is read is that of a port exactly if a port is spelled. -/
theorem readNumber_eq_port_iff {text : List Char} {port : UInt16} (hport : port ≠ 0) :
    readNumber text = .ok (port.toNat : Int) ↔ Spells text port := by
  have hdigits : Spells text port ↔ ∃ digits, (text = digits ∨ text = '+' :: digits) ∧
      readUnsigned maxPositive .tooLarge digits = .ok port.toNat := by
    simp only [readUnsigned_eq_port_iff, Spells, hport, ne_eq, not_false_eq_true, and_true]
  rw [hdigits]
  unfold readNumber
  split
  case h_1 =>
    constructor
    · intro h
      contradiction
    · rintro ⟨digits, rfl | h, hread⟩
      · contradiction
      · contradiction
  case h_2 digits =>
    rw [map_readUnsigned_eq_port_iff, ← readUnsigned_eq_port_iff]
    constructor
    · exact fun hread => ⟨digits, Or.inr rfl, hread⟩
    · rintro ⟨other, rfl | h, hread⟩
      · -- A plus sign is no digit.
        have hplus := (readUnsigned_eq_port_iff.mp hread).2.1 '+' List.mem_cons_self
        contradiction
      · rwa [(List.cons.inj h).2]
  case h_3 digits =>
    constructor
    · intro h
      obtain ⟨number, -, hnumber⟩ := Except.map_eq_ok_iff.mp h
      have hzero : port.toNat = 0 := by
        change -(number : Int) = port.toNat at hnumber
        omega
      exact absurd (UInt16.toNat_inj.mp hzero) hport
    · rintro ⟨other, rfl | h, hread⟩
      · have hminus := (readUnsigned_eq_port_iff.mp hread).2.1 '-' List.mem_cons_self
        contradiction
      · exact absurd (List.cons.inj h).1 (by decide)
  case h_4 hne hplus hminus =>
    rw [map_readUnsigned_eq_port_iff, ← readUnsigned_eq_port_iff]
    constructor
    · exact fun hread => ⟨text, Or.inl rfl, hread⟩
    · rintro ⟨other, rfl | h, hread⟩
      · exact hread
      · exact absurd h (hplus other)

/-- **The reader of ports accepts what spells a port.** -/
theorem read_eq_ok_iff {text : List Char} {port : UInt16} :
    read text = .ok port ↔ Spells text port := by
  have hread : read text = .ok port ↔
      readNumber text = .ok (port.toNat : Int) ∧ port ≠ 0 := by
    unfold read
    cases readNumber text with
    | error fault => simp
    | ok number =>
      dsimp only
      rw [eq_port_iff, Except.ok.injEq]
  rw [hread]
  constructor
  · rintro ⟨hnumber, hport⟩
    exact (readNumber_eq_port_iff hport).mp hnumber
  · intro hspells
    have hport : port ≠ 0 := by
      obtain ⟨_, _, _, _, _, hport⟩ := hspells
      exact hport
    exact ⟨(readNumber_eq_port_iff hport).mpr hspells, hport⟩

end PortNumber

namespace CommandLine

/-- Bytes that spell a port. -/
def SpellsPort (written : Bytes) (port : UInt16) : Prop :=
  ∃ text, written = Utf8.encode text ∧ PortNumber.Spells text port

/-- **A value is accepted exactly if it spells a port.** -/
theorem judge_eq_ok_iff {written : Bytes} {port : UInt16} :
    judge written = .ok port ↔ SpellsPort written port := by
  unfold judge
  constructor
  · intro h
    split at h
    case h_1 => contradiction
    case h_2 text htext =>
      split at h
      case h_1 other hread =>
        injection h with h
        subst h
        exact ⟨text, Utf8.decode?_eq_some_iff.mp htext, PortNumber.read_eq_ok_iff.mp hread⟩
      case h_2 => contradiction
  · rintro ⟨text, rfl, hspells⟩
    rw [Utf8.decode?_encode]
    dsimp only
    rw [PortNumber.read_eq_ok_iff.mpr hspells]

/-- A port begins with a digit or a plus sign. -/
theorem SpellsPort.exists_cons {written : Bytes} {port : UInt16} (h : SpellsPort written port) :
    ∃ byte rest, written = byte :: rest ∧ (byte = 0x2B ∨ 0x30 ≤ byte.toNat) := by
  obtain ⟨text, rfl, digits, htext, hne, hall, -⟩ := h
  obtain ⟨c, digits, rfl⟩ := List.exists_cons_of_ne_nil hne
  rcases htext with rfl | rfl
  · have hdigit := hall c List.mem_cons_self
    simp only [Char.isDigit, Bool.and_eq_true, decide_eq_true_eq, ge_iff_le,
      UInt32.le_iff_toNat_le] at hdigit
    change 0x30 ≤ c.toNat ∧ c.toNat ≤ 0x39 at hdigit
    refine ⟨UInt8.ofNat c.toNat, Utf8.encode digits, ?_, Or.inr ?_⟩
    · rw [Utf8.encode_cons, Utf8.utf8EncodeChar_of_ascii (by omega), List.singleton_append]
    · rw [UInt8.toNat_ofNat_of_lt' (by show _ < 256; omega)]
      exact hdigit.1
  · exact ⟨0x2B, Utf8.encode (c :: digits), rfl, Or.inl rfl⟩

end CommandLine

end EchoBackend
