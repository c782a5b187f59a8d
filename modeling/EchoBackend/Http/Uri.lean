/-
# Request URIs

The URI of a request comes in one of four forms: a path with an optional query (origin
form), a scheme and an authority before the path (absolute form), a single asterisk, or a
bare authority.  A
fragment is cut off, and only the first two forms have a path.
-/
import EchoBackend.Http.Method

namespace EchoBackend

namespace Http

/-! ## Faults -/

/-- What can be wrong with a URI. -/
inductive UriFault where
  | empty
  | tooLong
  | schemeTooLong
  | invalidByte
  | invalidAuthority
  | invalidForm
  deriving DecidableEq, Repr

/-- The text of a fault. -/
def UriFault.message : UriFault → String
  | .empty => "empty string"
  | .tooLong => "uri too long"
  | .schemeTooLong => "scheme too long"
  | .invalidByte => "invalid uri character"
  | .invalidAuthority => "invalid authority"
  | .invalidForm => "invalid format"

/-! ## Forms -/

/-- A request URI, without its fragment. -/
inductive Uri where
  /-- A path, and what follows its question mark. -/
  | origin (path : Bytes) (query : Option Bytes)
  /-- A scheme and an authority before the path; the path may be empty. -/
  | absolute (scheme authority path : Bytes) (query : Option Bytes)
  /-- A single asterisk. -/
  | asterisk
  /-- Nothing but an authority. -/
  | bareAuthority (authority : Bytes)
  deriving DecidableEq, Repr

namespace Uri

/-- The path of a URI that has one; the empty path after an authority is a single slash. -/
def path? : Uri → Option Bytes
  | .origin path _ => some path
  | .absolute _ _ path _ => some (if path.isEmpty then [0x2F] else path)
  | .asterisk => none
  | .bareAuthority _ => none

/-- The longest URI there is, in bytes. -/
def maxLength : Nat := 65534

/-- The longest scheme there is, in bytes. -/
def maxSchemeLength : Nat := 64

/-- The most colons that may stand between two marks that reset their count. -/
def maxColons : Nat := 8

/-! ## Paths and queries -/

/-- The bytes a path may hold, 7F not among them; those past ASCII must also be well-formed. -/
def isPathByte (byte : UInt8) : Bool :=
  byte == 0x21 || byte == 0x22 || (0x24 ≤ byte && byte ≤ 0x3B) || byte == 0x3D ||
    (0x40 ≤ byte && byte ≤ 0x5F) || (0x61 ≤ byte && byte ≤ 0x7E) || 0x80 ≤ byte

/-- The bytes a query may hold, 7F not among them; those past ASCII must also be well-formed. -/
def isQueryByte (byte : UInt8) : Bool :=
  byte == 0x21 || (0x24 ≤ byte && byte ≤ 0x3B) || byte == 0x3D ||
    (0x3F ≤ byte && byte ≤ 0x7E) || 0x80 ≤ byte

/-- Splits off the fragment and divides the rest at the first question mark. -/
def readPath (bytes : Bytes) : Except UriFault (Bytes × Option Bytes) :=
  let kept := bytes.takeWhile (· != 0x23)
  let path := kept.takeWhile (· != 0x3F)
  let query := (kept.dropWhile (· != 0x3F)).tail?
  if path.all isPathByte && (query.getD []).all isQueryByte && (Utf8.decode? kept).isSome then
    .ok (path, query)
  else .error .invalidByte

/-! ## Schemes -/

/-- The bytes a scheme is made of. -/
def isSchemeByte (byte : UInt8) : Bool :=
  isDigitByte byte || isLetterByte byte || [0x2B, 0x2D, 0x2E, 0x7E].contains byte

/-- Splits off a scheme with the colon and the two slashes after it, if one stands there. -/
def readScheme (bytes : Bytes) : Except UriFault (Option (Bytes × Bytes)) :=
  let scheme := bytes.takeWhile isSchemeByte
  match bytes.dropWhile isSchemeByte with
  | 0x3A :: 0x2F :: 0x2F :: rest =>
    if bytes.length ≤ 3 then .ok none
    else if scheme.length > maxSchemeLength then .error .schemeTooLong
    else .ok (some (scheme, rest))
  | _ => .ok none

/-! ## Authorities -/

/-- The bytes an authority may hold as they are. -/
def isAuthorityByte (byte : UInt8) : Bool :=
  isDigitByte byte || isLetterByte byte ||
    [0x21, 0x24, 0x26, 0x27, 0x28, 0x29, 0x2A, 0x2B, 0x2C, 0x2D, 0x2E, 0x3A, 0x3B, 0x3D, 0x40,
      0x5B, 0x5D, 0x5F, 0x7E].contains byte

/-- What has been noticed in an authority so far. -/
structure AuthorityMarks where
  /-- Colons since the last mark that resets their count. -/
  colons : Nat := 0
  opened : Bool := false
  closed : Bool := false
  /-- A percent sign since the last mark that resets this. -/
  percent : Bool := false
  deriving DecidableEq, Repr

/-- Reads one byte of an authority.  Brackets enclose an address, and what stands before
them or before an at sign does not count as host and port. -/
def AuthorityMarks.read (marks : AuthorityMarks) (byte : UInt8) :
    Except UriFault AuthorityMarks :=
  if byte == 0x3A then
    if marks.colons ≥ maxColons then .error .invalidAuthority
    else .ok { marks with colons := marks.colons + 1 }
  else if byte == 0x5B then
    if marks.percent || marks.opened then .error .invalidAuthority
    else .ok { marks with opened := true }
  else if byte == 0x5D then
    if !marks.opened || marks.closed then .error .invalidAuthority
    else .ok { marks with closed := true, colons := 0, percent := false }
  else if byte == 0x40 then .ok { marks with colons := 0, percent := false }
  else if byte == 0x25 then .ok { marks with percent := true }
  else if isAuthorityByte byte then .ok marks
  else .error .invalidByte

/-- Whether an authority may end with these marks. -/
def AuthorityMarks.complete (marks : AuthorityMarks) : Bool :=
  marks.opened == marks.closed && marks.colons ≤ 1 && !marks.percent

/-- The bytes that end an authority. -/
def endsAuthority (byte : UInt8) : Bool := byte == 0x2F || byte == 0x3F || byte == 0x23

/-- Splits off an authority: everything up to a slash, a question mark or a number sign. -/
def readAuthority (bytes : Bytes) : Except UriFault (Bytes × Bytes) :=
  let authority := bytes.takeWhile (!endsAuthority ·)
  match authority.foldlM AuthorityMarks.read {} with
  | .error fault => .error fault
  | .ok marks =>
    if marks.complete && authority.getLast? != some 0x40 then
      .ok (authority, bytes.dropWhile (!endsAuthority ·))
    else .error .invalidAuthority

/-! ## Reading a URI -/

/-- Reads a URI that does not begin with a slash. -/
def readRooted (bytes : Bytes) : Except UriFault Uri :=
  match readScheme bytes with
  | .error fault => .error fault
  | .ok none =>
    match readAuthority bytes with
    | .error fault => .error fault
    | .ok (authority, []) => .ok (.bareAuthority authority)
    | .ok _ => .error (if bytes.length = 1 then .invalidByte else .invalidForm)
  | .ok (some (scheme, rest)) =>
    match readAuthority rest with
    | .error fault => .error fault
    | .ok ([], _) => .error .invalidForm
    | .ok (authority, rest) =>
      (readPath rest).map fun (path, query) => .absolute scheme authority path query

/-- Reads a URI. -/
def ofBytes (bytes : Bytes) : Except UriFault Uri :=
  if bytes.length > maxLength then .error .tooLong
  else match bytes with
    | [] => .error .empty
    | [0x2A] => .ok .asterisk
    | 0x2F :: _ => (readPath bytes).map fun (path, query) => .origin path query
    | _ => readRooted bytes

end Uri

end Http

end EchoBackend
