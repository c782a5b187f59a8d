/-
# Request identifiers

A request is traced by an identifier: the one that it brings along, or else a version 4
UUID made of random bits, which is written in lower case.
-/
import EchoBackend.Text.Hex
import EchoBackend.Text.Utf8

namespace EchoBackend

namespace Http

/-! ## Random identifiers -/

/-- A version 4 UUID, as the random bits it is made of; of each word, the bits that the
version and the variant occupy do not count. -/
structure Uuid4 where
  high : UInt64
  low : UInt64
  deriving DecidableEq, Repr, Inhabited

namespace Uuid4

/-- The written form: 32 digits in groups of 8, 4, 4, 4 and 12.  The third group begins
with the version, the fourth with the variant. -/
def bytes (id : Uuid4) : Bytes :=
  let high := id.high.toNat
  let low := id.low.toNat
  Utf8.encode <|
    Hex.digits (high >>> 32) 8 ++ ['-'] ++
    Hex.digits (high >>> 16) 4 ++ ['-'] ++
    ['4'] ++ Hex.digits high 3 ++ ['-'] ++
    [Hex.digit (8 + (low >>> 60) % 4)] ++ Hex.digits (low >>> 48) 3 ++ ['-'] ++
    Hex.digits low 12

/-- A lower-case hexadecimal digit, as a byte. -/
def isHexDigit (byte : UInt8) : Bool :=
  (0x30 ≤ byte && byte ≤ 0x39) || (0x61 ≤ byte && byte ≤ 0x66)

/-- Whether a byte may stand at a place of the written form. -/
def allowedAt (place : Nat) (byte : UInt8) : Bool :=
  if place = 8 || place = 13 || place = 18 || place = 23 then byte == 0x2D
  else if place = 14 then byte == 0x34
  else if place = 19 then byte == 0x38 || byte == 0x39 || byte == 0x61 || byte == 0x62
  else isHexDigit byte

/-- Recognises the written form. -/
def isWritten (bytes : Bytes) : Bool :=
  bytes.length == 36 && bytes.zipIdx.all fun (byte, place) => allowedAt place byte

end Uuid4

/-! ## Identifiers of requests -/

/-- The identifier under which a request is answered. -/
inductive RequestId where
  /-- The one that came with the request. -/
  | given (value : Bytes)
  /-- One made for it. -/
  | generated
  deriving DecidableEq, Repr

/-- The written form, `fresh` being used if an identifier has to be made. -/
def RequestId.value (fresh : Uuid4) : RequestId → Bytes
  | .given value => value
  | .generated => fresh.bytes

end Http

end EchoBackend
