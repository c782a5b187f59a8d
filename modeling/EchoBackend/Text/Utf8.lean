/-
# UTF-8

Bytes are read as characters by a small machine that consumes one byte at a time.  Where
the bytes are ill-formed, each maximal subpart that could have begun a character counts as
one unreadable item.  Strict decoding refuses unreadable items, lossy decoding puts the
replacement character in their place.
-/
namespace EchoBackend

/-- Raw bytes. -/
abbrev Bytes := List UInt8

namespace Utf8

/-! ## Encoding -/

/-- The bytes of a character sequence. -/
def encode (chars : List Char) : Bytes := chars.flatMap String.utf8EncodeChar

/-- Encoding works character by character. -/
@[simp] theorem encode_append (xs ys : List Char) : encode (xs ++ ys) = encode xs ++ encode ys := by
  simp [encode]

/-- Nothing is encoded by nothing. -/
@[simp] theorem encode_nil : encode [] = [] := rfl

/-- The first character's bytes come first. -/
theorem encode_cons (c : Char) (cs : List Char) :
    encode (c :: cs) = String.utf8EncodeChar c ++ encode cs := rfl

/-- The bytes of a text. -/
def bytes (text : String) : Bytes := encode text.toList

/-! ## The decoding machine -/

/-- A character that has begun and still needs continuation bytes. -/
structure Pending where
  /-- The bits gathered so far. -/
  bits : Nat
  /-- How many more bytes are needed. -/
  needed : Nat
  /-- The least byte that may come next. -/
  low : UInt8
  /-- The greatest byte that may come next. -/
  high : UInt8
  deriving DecidableEq, Repr

/-- Whether a byte lies in a range, ends included. -/
def within (low high byte : UInt8) : Bool := low ≤ byte && byte ≤ high

/-- The bytes that continue a character. -/
def isContinuation (byte : UInt8) : Bool := within 0x80 0xBF byte

/-- What a lead byte begins.  The range of the byte after it keeps out overlong forms,
surrogates and numbers past the last character. -/
def lead? (byte : UInt8) : Option Pending :=
  if within 0xC2 0xDF byte then some ⟨byte.toNat - 0xC0, 1, 0x80, 0xBF⟩
  else if byte == 0xE0 then some ⟨0x0, 2, 0xA0, 0xBF⟩
  else if byte == 0xED then some ⟨0xD, 2, 0x80, 0x9F⟩
  else if within 0xE1 0xEF byte then some ⟨byte.toNat - 0xE0, 2, 0x80, 0xBF⟩
  else if byte == 0xF0 then some ⟨0x0, 3, 0x90, 0xBF⟩
  else if byte == 0xF4 then some ⟨0x4, 3, 0x80, 0x8F⟩
  else if within 0xF1 0xF3 byte then some ⟨byte.toNat - 0xF0, 3, 0x80, 0xBF⟩
  else none

/-- The machine's state: what was read, newest first, and what is under way.  An
unreadable item is `none`. -/
structure Decoder where
  read : List (Option Char) := []
  pending : Option Pending := none
  deriving DecidableEq, Repr

namespace Decoder

/-- Reads a byte that does not continue anything. -/
def begin (decoder : Decoder) (byte : UInt8) : Decoder :=
  if byte < 0x80 then ⟨some (Char.ofNat byte.toNat) :: decoder.read, none⟩
  else match lead? byte with
    | some pending => ⟨decoder.read, some pending⟩
    | none => ⟨none :: decoder.read, none⟩

/-- Reads a byte. -/
def step (decoder : Decoder) (byte : UInt8) : Decoder :=
  match decoder.pending with
  | none => decoder.begin byte
  | some pending =>
    if within pending.low pending.high byte then
      let bits := pending.bits * 64 + (byte.toNat - 0x80)
      if pending.needed = 1 then ⟨some (Char.ofNat bits) :: decoder.read, none⟩
      else ⟨decoder.read, some ⟨bits, pending.needed - 1, 0x80, 0xBF⟩⟩
    else begin ⟨none :: decoder.read, none⟩ byte

/-- Everything read, oldest first; a character cut off at the end is unreadable. -/
def finish (decoder : Decoder) : List (Option Char) :=
  match decoder.pending with
  | none => decoder.read.reverse
  | some _ => (none :: decoder.read).reverse

end Decoder

/-- Splits bytes into characters and unreadable items. -/
def scan (bytes : Bytes) : List (Option Char) := (bytes.foldl Decoder.step {}).finish

/-- No bytes hold no items. -/
@[simp] theorem scan_nil : scan [] = [] := rfl

/-! ## Decoding -/

/-- The characters of well-formed bytes. -/
def decode? (bytes : Bytes) : Option (List Char) :=
  let items := scan bytes
  if items.all Option.isSome then some (items.filterMap id) else none

/-- The text of well-formed bytes. -/
def text? (bytes : Bytes) : Option String := (decode? bytes).map String.ofList

/-- The character that stands for an unreadable item. -/
def replacement : Char := '\uFFFD'

/-- The characters of any bytes, unreadable items replaced. -/
def lossy (bytes : Bytes) : List Char := (scan bytes).map (·.getD replacement)

/-- The text of any bytes, unreadable items replaced. -/
def lossyText (bytes : Bytes) : String := String.ofList (lossy bytes)

end Utf8

end EchoBackend
