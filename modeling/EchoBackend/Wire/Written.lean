/-
# Written requests

A request as a client writes it: the request line, the fields with blanks around their values, an
empty line, and the body.  A body is counted, or it comes in chunks, each with its size in hexadecimal
digits before it.
-/
import EchoBackend.Echo.Server
import EchoBackend.Text.Hex
import EchoBackend.Wire.Terms

namespace EchoBackend

namespace Wire

open Http

/-- The end of a line. -/
def lineBreak : Bytes := [carriageReturn, lineFeed]

/-- The number that digits spell, the most significant one first; at least one digit is needed. -/
def number? (base : Nat) (digit? : UInt8 → Option Nat) (digits : Bytes) : Option Nat :=
  if digits.isEmpty then none
  else digits.foldlM (fun number byte => (digit? byte).map fun digit => base * number + digit) 0

/-! ## Fields -/

/-- A field; blanks may stand before and after its value. -/
structure WrittenField where
  name : Bytes
  value : Bytes
  before : Bytes := [space]
  after : Bytes := []
  deriving DecidableEq, Repr

namespace WrittenField

/-- The line of a field. -/
def bytes (field : WrittenField) : Bytes :=
  field.name ++ [colon] ++ field.before ++ field.value ++ field.after ++ lineBreak

/-- What a field says. -/
def pair (field : WrittenField) : Bytes × Bytes := (field.name, field.value)

/-- Whether a field is well-formed: its name is a token, and its value does not begin or end with
the blanks that stand around it. -/
def isWellFormed (field : WrittenField) : Bool :=
  isToken field.name && isValue field.value && field.before.all isBlank &&
    field.after.all isBlank && !field.value.head?.any isBlank && !field.value.getLast?.any isBlank

end WrittenField

/-! ## Bodies -/

/-- The line before a chunk: the size of the chunk, and what else is said about it. -/
structure SizeLine where
  digits : Bytes
  extension : Bytes := []
  deriving DecidableEq, Repr

namespace SizeLine

/-- The line as bytes. -/
def bytes (line : SizeLine) : Bytes := line.digits ++ line.extension ++ lineBreak

/-- The size that the line gives. -/
def size? (line : SizeLine) : Option Nat :=
  number? 16 (fun byte => (Hex.value? byte).map UInt8.toNat) line.digits

/-- Whether what else is said follows a semicolon and stays on the line. -/
def isExtended (line : SizeLine) : Bool :=
  match line.extension.dropWhile isBlank with
  | [] => true
  | byte :: rest =>
    byte == 0x3B && rest.all fun byte => byte != carriageReturn && byte != lineFeed

end SizeLine

/-- A chunk with the line before it. -/
structure Chunk where
  line : SizeLine
  data : Bytes
  deriving DecidableEq, Repr

namespace Chunk

/-- The chunk as bytes. -/
def bytes (chunk : Chunk) : Bytes := chunk.line.bytes ++ chunk.data ++ lineBreak

/-- Whether a chunk is well-formed: it is not empty, and its line gives its size. -/
def isWellFormed (chunk : Chunk) : Bool :=
  !chunk.data.isEmpty && chunk.line.size? == some chunk.data.length && chunk.line.isExtended

end Chunk

/-- A body in its framing. -/
inductive WrittenBody where
  /-- No body, and nothing said about one. -/
  | absent
  | counted (bytes : Bytes)
  /-- Chunks, the line of the empty one after them, and further fields. -/
  | chunked (chunks : List Chunk) (last : SizeLine) (trailers : List WrittenField)
  deriving DecidableEq, Repr

namespace WrittenBody

/-- The body without its framing. -/
def payload : WrittenBody → Bytes
  | absent => []
  | counted bytes => bytes
  | chunked chunks _ _ => chunks.flatMap Chunk.data

/-- The body in its framing. -/
def bytes : WrittenBody → Bytes
  | absent => []
  | counted bytes => bytes
  | chunked chunks last trailers =>
    chunks.flatMap Chunk.bytes ++ last.bytes ++ trailers.flatMap WrittenField.bytes ++ lineBreak

/-- Whether the framing is well-formed. -/
def isWellFormed : WrittenBody → Bool
  | absent => true
  | counted _ => true
  | chunked chunks last trailers =>
    chunks.all Chunk.isWellFormed && last.size? == some 0 && last.isExtended &&
      trailers.all WrittenField.isWellFormed

/-- The length that a value gives in decimal digits. -/
def length? (value : Bytes) : Option Nat :=
  number? 10 (fun byte => if isDigitByte byte then some (byte.toNat - 0x30) else none) value

/-- Whether headers announce the body as it is framed: by its length, or by the chunked coding, which
is the last of all. -/
def isAnnounced (headers : Headers) (body : WrittenBody) : Bool :=
  let lengths := headers.all contentLength
  let codings := headers.all transferEncoding
  match body with
  | absent => lengths.isEmpty && codings.isEmpty
  | counted bytes =>
    !lengths.isEmpty && lengths.all (length? · == some bytes.length) && codings.isEmpty
  | chunked _ _ _ =>
    lengths.isEmpty &&
      codings.getLast?.bind (fun value => (words value).getLast?) == some (Utf8.bytes "chunked")

end WrittenBody

/-! ## Requests -/

/-- A request of version 1.1 as it is written. -/
structure WrittenRequest where
  method : Bytes
  target : Bytes
  fields : List WrittenField := []
  body : WrittenBody := .absent
  deriving DecidableEq, Repr

namespace WrittenRequest

/-- The request line. -/
def line (written : WrittenRequest) : Bytes :=
  written.method ++ [space] ++ written.target ++ [space] ++ protocol ++ lineBreak

/-- The request without its body. -/
def head (written : WrittenRequest) : Bytes :=
  written.line ++ written.fields.flatMap WrittenField.bytes ++ lineBreak

/-- The whole request. -/
def bytes (written : WrittenRequest) : Bytes := written.head ++ written.body.bytes

/-- The same request without a connection: its method, target and fields, and its body in one
piece, without the framing. -/
def parts (written : WrittenRequest) : Echo.RequestParts where
  method := written.method
  uri := written.target
  headers := written.fields.map WrittenField.pair
  body := [.data written.body.payload]

/-- A written request is well-formed and says the same as a request. -/
structure WellFormed (written : WrittenRequest) (request : Request) : Prop where
  parts : written.parts.request = .ok request
  target : written.target.all isTargetByte = true
  fields : ∀ field ∈ written.fields, field.isWellFormed = true
  body : written.body.isWellFormed = true
  announced : written.body.isAnnounced request.headers = true

/-- Whether a written request is well-formed can be decided. -/
instance (written : WrittenRequest) : Decidable (∃ request, written.WellFormed request) :=
  match h : written.parts.request with
  | .error _ => isFalse fun ⟨request, hwritten⟩ => by
    rw [hwritten.parts] at h
    contradiction
  | .ok request => decidable_of_iff (written.target.all isTargetByte = true ∧
      (∀ field ∈ written.fields, field.isWellFormed = true) ∧ written.body.isWellFormed = true ∧
      written.body.isAnnounced request.headers = true) <| by
    constructor
    · rintro ⟨htarget, hfields, hbody, hannounced⟩
      exact ⟨request, h, htarget, hfields, hbody, hannounced⟩
    · rintro ⟨other, hparts, htarget, hfields, hbody, hannounced⟩
      obtain rfl := Except.ok.inj (h.symm.trans hparts)
      exact ⟨htarget, hfields, hbody, hannounced⟩

/-- What there is to read of a request: its head, the bytes of its body without the framing, and the
end of the body. -/
def spelled (written : WrittenRequest) : List Part :=
  match written.parts.request with
  | .error _ => []
  | .ok request =>
    .head { request with body := [] } :: (Part.data written.body.payload).pieces ++ [.last]

end WrittenRequest

/-- A library takes requests that are written one after the other apart as they are framed: it reads
these requests, in whatever portions it reads their bodies. -/
def Frames (library : Bytes → List Part) (requests : List WrittenRequest) : Prop :=
  (library (requests.flatMap WrittenRequest.bytes)).flatMap Part.pieces =
    requests.flatMap WrittenRequest.spelled

end Wire

end EchoBackend
