/-
# Header fields

A header is a name and a value.  Names are tokens that do not distinguish letter case and
are kept in lower case; values are bytes without control characters other than tabs.  A
list of headers keeps the order in which they came, and a name may occur several times.
-/
import EchoBackend.Http.Method

namespace EchoBackend

namespace Http

/-! ## Names and values -/

/-- The longest name there is, in bytes. -/
def maxNameLength : Nat := 65535

/-- A header name, in lower case. -/
abbrev HeaderName := Bytes

/-- Reads a name. -/
def HeaderName.ofBytes? (bytes : Bytes) : Option HeaderName :=
  if isToken bytes && bytes.length ≤ maxNameLength then some (bytes.map lowerByte) else none

/-- The bytes a value is made of. -/
def isValueByte (byte : UInt8) : Bool := (0x20 ≤ byte && byte != 0x7F) || byte == 0x09

/-- Whether bytes may stand as a value. -/
def isValue (bytes : Bytes) : Bool := bytes.all isValueByte

/-- One header field. -/
structure Header where
  name : HeaderName
  value : Bytes
  deriving DecidableEq, Repr

/-- What can be wrong with a header. -/
inductive HeaderFault where
  | name
  | value
  deriving DecidableEq, Repr

/-- The text of a fault. -/
def HeaderFault.message : HeaderFault → String
  | .name => "invalid HTTP header name"
  | .value => "failed to parse header value"

/-- Reads a header; the name is judged before the value. -/
def Header.ofBytes (name value : Bytes) : Except HeaderFault Header :=
  match HeaderName.ofBytes? name with
  | none => .error .name
  | some name => if isValue value then .ok ⟨name, value⟩ else .error .value

/-! ## Header lists -/

/-- Header fields in the order in which they came. -/
abbrev Headers := List Header

namespace Headers

/-- Reads the fields in order; the first fault ends it. -/
def ofPairs : List (Bytes × Bytes) → Except HeaderFault Headers
  | [] => .ok []
  | (name, value) :: pairs =>
    match Header.ofBytes name value with
    | .error fault => .error fault
    | .ok header => (ofPairs pairs).map (header :: ·)

/-- The value of the first field of a name, the name being in lower case. -/
def first? (headers : Headers) (name : HeaderName) : Option Bytes :=
  (headers.find? (·.name == name)).map Header.value

/-- The values of all fields of a name, in order. -/
def all (headers : Headers) (name : HeaderName) : List Bytes :=
  (headers.filter (·.name == name)).map Header.value

/-- The first value is the head of all of them. -/
theorem first?_eq_head?_all (headers : Headers) (name : HeaderName) :
    headers.first? name = (headers.all name).head? := by
  simp [first?, all, List.head?_filter]

end Headers

end Http

end EchoBackend
