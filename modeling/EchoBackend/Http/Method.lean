/-
# Request methods

A method is a token: one or more of the bytes that RFC 9110 allows in names.  Methods are
case-sensitive.
-/
import EchoBackend.Text.Utf8

namespace EchoBackend

namespace Http

/-! ## Tokens -/

/-- The punctuation that a token may hold. -/
def tokenMarks : List UInt8 :=
  [0x21, 0x23, 0x24, 0x25, 0x26, 0x27, 0x2A, 0x2B, 0x2D, 0x2E, 0x5E, 0x5F, 0x60, 0x7C, 0x7E]

/-- An ASCII digit. -/
def isDigitByte (byte : UInt8) : Bool := 0x30 ≤ byte && byte ≤ 0x39

/-- An ASCII letter. -/
def isLetterByte (byte : UInt8) : Bool :=
  (0x41 ≤ byte && byte ≤ 0x5A) || (0x61 ≤ byte && byte ≤ 0x7A)

/-- The bytes a token is made of. -/
def isTokenByte (byte : UInt8) : Bool :=
  isDigitByte byte || isLetterByte byte || tokenMarks.contains byte

/-- A token has at least one byte. -/
def isToken (bytes : Bytes) : Bool := !bytes.isEmpty && bytes.all isTokenByte

/-- The lower-case form of an ASCII byte. -/
def lowerByte (byte : UInt8) : UInt8 :=
  if 0x41 ≤ byte && byte ≤ 0x5A then byte + 0x20 else byte

/-- The text of bytes that are all ASCII. -/
def asciiText (bytes : Bytes) : String :=
  String.ofList (bytes.map fun byte => Char.ofNat byte.toNat)

/-! ## Methods -/

/-- A request method. -/
structure Method where
  bytes : Bytes
  isToken : isToken bytes = true
  deriving DecidableEq, Repr

namespace Method

/-- Reads a method. -/
def ofBytes? (bytes : Bytes) : Option Method :=
  if h : Http.isToken bytes = true then some ⟨bytes, h⟩ else none

/-- The spelling of a method. -/
def text (method : Method) : String := asciiText method.bytes

/-- The method `GET`. -/
def get : Method := ⟨[0x47, 0x45, 0x54], by decide⟩

/-- The method `HEAD`. -/
def head : Method := ⟨[0x48, 0x45, 0x41, 0x44], by decide⟩

/-- The method `POST`, the only one whose body is read. -/
def post : Method := ⟨[0x50, 0x4F, 0x53, 0x54], by decide⟩

/-- The method `CONNECT`. -/
def connect : Method := ⟨[0x43, 0x4F, 0x4E, 0x4E, 0x45, 0x43, 0x54], by decide⟩

/-- Reading accepts exactly the spellings of methods. -/
theorem ofBytes?_eq_some_iff {bytes : Bytes} {method : Method} :
    ofBytes? bytes = some method ↔ method.bytes = bytes := by
  unfold ofBytes?
  split
  case isTrue h =>
    constructor
    · intro e
      injection e with e
      rw [← e]
    · intro e
      subst e
      rfl
  case isFalse h =>
    constructor
    · intro e
      exact absurd e (by simp)
    · intro e
      exact absurd (e ▸ method.isToken) h

end Method

end Http

end EchoBackend
