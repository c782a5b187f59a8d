/-
# What a head arranges

The fields of a head say how the body after it is delimited: by its length, or by chunks.
-/
import EchoBackend.Wire.Head

namespace EchoBackend

namespace Wire

open Http

/-! ## Words in values -/

/-- Bytes in lower case. -/
def lowered (bytes : Bytes) : Bytes := bytes.map lowerByte

/-- A value without the blanks around it. -/
def trimmed (bytes : Bytes) : Bytes := trimmedValue (bytes.dropWhile isBlank).reverse

/-- Whether a value is ASCII throughout. -/
def isPlain (value : Bytes) : Bool := value.all (· < 0x7F)

/-- The words of a value that is a list with commas, in lower case. -/
def words (value : Bytes) : List Bytes :=
  if isPlain value then (value.splitOn 0x2C).map fun word => lowered (trimmed word) else []

/-! ## Framing -/

/-- How a body is delimited. -/
inductive Framing where
  /-- By its length. -/
  | counted (length : Nat)
  /-- By chunks, the last of which is empty. -/
  | chunked
  deriving DecidableEq, Repr

/-- The name of the field that gives the length of the body. -/
def contentLength : HeaderName := Utf8.bytes "content-length"

/-- The name of the field that names the codings of the body. -/
def transferEncoding : HeaderName := Utf8.bytes "transfer-encoding"

/-- A length: the number that digits spell. -/
def readLength? (value : Bytes) : Option Nat :=
  if !value.isEmpty && value.all isDigitByte then
    some (value.foldl (fun number byte => 10 * number + (byte.toNat - 0x30)) 0)
  else none

/-- What the fields so far say about the body. -/
structure Coding where
  /-- Whether the last coding named is the chunked one. -/
  chunked : Option Bool := none
  length : Option Nat := none
  deriving DecidableEq, Repr

namespace Coding

/-- Takes in one field.  Once a coding is named lengths do not count; lengths must agree. -/
def read (coding : Coding) (header : Header) : Except Refusal Coding :=
  if header.name == transferEncoding then
    let last := (words header.value).getLast?
    .ok { coding with chunked := some (last == some (Utf8.bytes "chunked")) }
  else if header.name == contentLength && coding.chunked.isNone then
    match readLength? header.value, coding.length with
    | none, _ => .error .malformed
    | some length, some other => if length = other then .ok coding else .error .malformed
    | some length, none => .ok { coding with length := some length }
  else .ok coding

/-- The framing that was agreed; of several codings the last must be the chunked one. -/
def framing (coding : Coding) : Except Refusal Framing :=
  match coding.chunked with
  | some true => .ok .chunked
  | some false => .error .malformed
  | none => .ok (.counted (coding.length.getD 0))

end Coding

/-- How the body after a head is delimited. -/
def Framing.ofHeaders (headers : Headers) : Except Refusal Framing :=
  match headers.foldlM Coding.read {} with
  | .error cause => .error cause
  | .ok coding => coding.framing

/-! ## Heads -/

/-- The request that a head begins, without its body, and how the body is delimited. -/
def Head.opens (head : Head) : Except Refusal (Request × Framing) :=
  match Request.ofParts head.line.method head.line.target head.fields [] with
  | .error (.uri .tooLong) => .error .targetTooLong
  | .error _ => .error .malformed
  | .ok request => (Framing.ofHeaders request.headers).map fun framing => (request, framing)

end Wire

end EchoBackend
