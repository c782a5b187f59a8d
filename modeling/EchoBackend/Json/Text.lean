/-
# Reading quoted text

Text inside quotes is read up to the closing quote.  Escapes are replaced by the
characters they stand for, a character outside the basic plane being written as two
escapes, and the whole must be well-formed UTF-8.  Where a text is only passed over, its
escapes must have the right form, but what they stand for does not matter.
-/
import EchoBackend.Json.Token

namespace EchoBackend

namespace Json

/-! ## Escapes -/

/-- The characters that have an escape of one letter. -/
def shortEscape? (byte : UInt8) : Option Char :=
  if byte == 0x22 then some '"'
  else if byte == 0x5C then some '\\'
  else if byte == 0x2F then some '/'
  else if byte == 0x62 then some '\x08'
  else if byte == 0x66 then some '\x0c'
  else if byte == 0x6E then some '\n'
  else if byte == 0x72 then some '\r'
  else if byte == 0x74 then some '\t'
  else none

/-- The number that four hexadecimal digits stand for. -/
def unit? (a b c d : UInt8) : Option Nat := do
  let a ← Hex.value? a
  let b ← Hex.value? b
  let c ← Hex.value? c
  let d ← Hex.value? d
  pure (((a.toNat * 16 + b.toNat) * 16 + c.toNat) * 16 + d.toNat)

/-- Reads four hexadecimal digits. -/
def readUnit : Bytes → Reading Nat
  | a :: b :: c :: d :: rest =>
    match unit? a b c d with
    | some value => .ok (value, rest)
    | none => .error .malformed
  | _ => .error .ended

/-- Reads one given byte. -/
def readByte (expected : UInt8) : Bytes → Except Fault Bytes
  | [] => .error .ended
  | byte :: rest => if byte == expected then .ok rest else .error .malformed

/-- Whether a number is the first half of a character outside the basic plane. -/
def isHighSurrogate (value : Nat) : Bool := 0xD800 ≤ value && value ≤ 0xDBFF

/-- Whether a number is the second half of a character outside the basic plane. -/
def isLowSurrogate (value : Nat) : Bool := 0xDC00 ≤ value && value ≤ 0xDFFF

/-- The character whose halves are given. -/
def ofSurrogates (high low : Nat) : Char :=
  Char.ofNat ((high - 0xD800) * 0x400 + (low - 0xDC00) + 0x10000)

/-- Reads the second half of a character, written as an escape of its own. -/
def readLowSurrogate (high : Nat) (bytes : Bytes) : Reading Char :=
  match readByte 0x5C bytes with
  | .error fault => .error fault
  | .ok bytes =>
    match readByte 0x75 bytes with
    | .error fault => .error fault
    | .ok bytes =>
      match readUnit bytes with
      | .error fault => .error fault
      | .ok (low, rest) =>
        if isLowSurrogate low then .ok (ofSurrogates high low, rest) else .error .malformed

/-- Reads the character of an escape, after the backslash. -/
def readEscape : Bytes → Reading Char
  | [] => .error .ended
  | kind :: bytes =>
    match shortEscape? kind with
    | some c => .ok (c, bytes)
    | none =>
      if kind == 0x75 then
        match readUnit bytes with
        | .error fault => .error fault
        | .ok (value, rest) =>
          if isLowSurrogate value then .error .malformed
          else if isHighSurrogate value then readLowSurrogate value rest
          else .ok (Char.ofNat value, rest)
      else .error .malformed

/-- Passes over an escape, after the backslash. -/
def skipEscape : Bytes → Except Fault Bytes
  | [] => .error .ended
  | kind :: bytes =>
    if (shortEscape? kind).isSome then .ok bytes
    else if kind == 0x75 then
      match readUnit bytes with
      | .error fault => .error fault
      | .ok (_, rest) => .ok rest
    else .error .malformed

/-- Four digits are four bytes. -/
theorem length_readUnit {bytes rest : Bytes} {value : Nat}
    (h : readUnit bytes = .ok (value, rest)) :
    rest.length + 4 = bytes.length := by
  unfold readUnit at h
  split at h
  · split at h
    · cases h
      rfl
    · contradiction
  · contradiction

/-- A byte that was read is gone from the text. -/
theorem length_readByte {expected : UInt8} {bytes rest : Bytes}
    (h : readByte expected bytes = .ok rest) : rest.length + 1 = bytes.length := by
  unfold readByte at h
  split at h
  · contradiction
  · split at h
    · cases h
      rfl
    · contradiction

/-- A second half that was read is gone from the text. -/
theorem length_readLowSurrogate_lt {high : Nat} {bytes rest : Bytes} {c : Char}
    (h : readLowSurrogate high bytes = .ok (c, rest)) : rest.length < bytes.length := by
  unfold readLowSurrogate at h
  split at h
  · contradiction
  · rename_i first hfirst
    split at h
    · contradiction
    · rename_i second hsecond
      split at h
      · contradiction
      · rename_i low last hlast
        split at h
        · simp only [Except.ok.injEq, Prod.mk.injEq] at h
          obtain ⟨_, rfl⟩ := h
          have := length_readByte hfirst
          have := length_readByte hsecond
          have := length_readUnit hlast
          omega
        · contradiction

/-- An escape that was read is gone from the text. -/
theorem length_readEscape_lt {bytes rest : Bytes} {c : Char}
    (h : readEscape bytes = .ok (c, rest)) : rest.length < bytes.length := by
  unfold readEscape at h
  split at h
  · contradiction
  · split at h
    · cases h
      simp
    · split at h
      · split at h
        · contradiction
        · rename_i value last hlast
          have := length_readUnit hlast
          simp only [List.length_cons]
          split at h
          · contradiction
          · split at h
            · have := length_readLowSurrogate_lt h
              omega
            · cases h
              omega
      · contradiction

/-- An escape that was passed over is gone from the text. -/
theorem length_skipEscape_lt {bytes rest : Bytes} (h : skipEscape bytes = .ok rest) :
    rest.length < bytes.length := by
  unfold skipEscape at h
  split at h
  · contradiction
  · split at h
    · cases h
      simp
    · split at h
      · split at h
        · contradiction
        · rename_i value last hlast
          injection h with h
          have := length_readUnit hlast
          simp only [List.length_cons, ← h]
          omega
      · contradiction

/-! ## Texts -/

/-- The text whose bytes were read, newest first, and the bytes after it. -/
def closeText (done rest : Bytes) : Reading (List Char) :=
  match Utf8.decode? done.reverse with
  | some text => .ok (text, rest)
  | none => .error .malformed

/-- Reads a text up to its closing quote; `done` holds its bytes so far, newest first. -/
def readTextOnto (done : Bytes) (bytes : Bytes) : Reading (List Char) :=
  match bytes with
  | [] => .error .ended
  | byte :: rest =>
    if byte == 0x22 then closeText done rest
    else if byte == 0x5C then
      match _escape : readEscape rest with
      | .error fault => .error fault
      | .ok (c, rest) => readTextOnto ((String.utf8EncodeChar c).reverse ++ done) rest
    else if byte < 0x20 then .error .malformed
    else readTextOnto (byte :: done) rest
termination_by bytes.length
decreasing_by
  · have := length_readEscape_lt _escape
    simp only [List.length_cons]
    omega
  · simp

/-- Reads a text, after its opening quote. -/
def readText (bytes : Bytes) : Reading (List Char) := readTextOnto [] bytes

/-- Passes over a text, after its opening quote. -/
def skipText (bytes : Bytes) : Except Fault Bytes :=
  match bytes with
  | [] => .error .ended
  | byte :: rest =>
    if byte == 0x22 then .ok rest
    else if byte == 0x5C then
      match _escape : skipEscape rest with
      | .error fault => .error fault
      | .ok rest => skipText rest
    else if byte < 0x20 then .error .malformed
    else skipText rest
termination_by bytes.length
decreasing_by
  · have := length_skipEscape_lt _escape
    simp only [List.length_cons]
    omega
  · simp

/-- Closing a text leaves the bytes after it. -/
theorem closeText_rest {done bytes rest : Bytes} {text : List Char}
    (h : closeText done bytes = .ok (text, rest)) : rest = bytes := by
  unfold closeText at h
  split at h
  · simp only [Except.ok.injEq, Prod.mk.injEq] at h
    exact h.2.symm
  · contradiction

/-- A text that was read is gone. -/
theorem length_readTextOnto_lt {done bytes rest : Bytes} {text : List Char}
    (h : readTextOnto done bytes = .ok (text, rest)) : rest.length < bytes.length := by
  fun_induction readTextOnto done bytes with
  | case1 => contradiction
  | case2 done byte tail _ =>
    rw [closeText_rest h]
    simp
  | case3 => contradiction
  | case4 done byte tail _ _ c left hescape ih =>
    have := length_readEscape_lt hescape
    have := ih h
    simp only [List.length_cons]
    omega
  | case5 => contradiction
  | case6 done byte tail _ _ _ ih =>
    have := ih h
    simp only [List.length_cons]
    omega

/-- A text that was passed over is gone. -/
theorem length_skipText_lt {bytes rest : Bytes} (h : skipText bytes = .ok rest) :
    rest.length < bytes.length := by
  fun_induction skipText bytes with
  | case1 => contradiction
  | case2 =>
    cases h
    simp
  | case3 => contradiction
  | case4 byte tail _ _ left hescape ih =>
    have := length_skipEscape_lt hescape
    have := ih h
    simp only [List.length_cons]
    omega
  | case5 => contradiction
  | case6 byte tail _ _ _ ih =>
    have := ih h
    simp only [List.length_cons]
    omega

end Json

end EchoBackend
