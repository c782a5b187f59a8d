/-
# Log directives

A directive sets the verbosity of a part of the program, or of events that carry certain
named values.  Its spelling is a level alone, or a target, then what encloses the event in
brackets, then an equals sign and a level; each part may be left out.
-/
import EchoBackend.Log.Event
import EchoBackend.Text.Alphanumeric

namespace EchoBackend

namespace Log

/-- A rule for which events are written. -/
structure Directive where
  /-- The part of the program that the rule is for; the empty text is all of it. -/
  target : List Char := []
  /-- The values that an event must carry. -/
  fields : List (List Char) := []
  /-- Whether the rule is only for events inside a span or for certain values. -/
  isNarrow : Bool := false
  verbosity : Verbosity := .downTo .trace
  deriving DecidableEq, Repr

namespace Directive

/-! ## Meaning -/

/-- Whether the rule is for an event. -/
def covers (directive : Directive) (event : Event) : Bool :=
  !directive.isNarrow && directive.target.isPrefixOf event.target.toList &&
    directive.fields.all fun field => (event.names.map String.toList).contains field

/-- Compares two texts by code points. -/
def precedes : List Char → List Char → Bool
  | _, [] => false
  | [], _ :: _ => true
  | a :: as, b :: bs => a < b || (a == b && precedes as bs)

/-- Compares two lists of texts, text by text. -/
def listPrecedes : List (List Char) → List (List Char) → Bool
  | _, [] => false
  | [], _ :: _ => true
  | a :: as, b :: bs => precedes a b || (a == b && listPrecedes as bs)

/-- Whether one rule gives way to another: the longer target counts, then the greater
number of values, then the later in the alphabet. -/
def yieldsTo (x y : Directive) : Bool :=
  let sizeX := (String.ofList x.target).utf8ByteSize
  let sizeY := (String.ofList y.target).utf8ByteSize
  if sizeX ≠ sizeY then sizeX < sizeY
  else if x.fields.length ≠ y.fields.length then x.fields.length < y.fields.length
  else if x.target ≠ y.target then precedes x.target y.target
  else listPrecedes x.fields y.fields

/-! ## Spelling -/

/-- The white space of Unicode. -/
def isBlank (c : Char) : Bool :=
  let code := c.toNat
  (9 ≤ code && code ≤ 13) || code == 32 || code == 0x85 || code == 0xA0 || code == 0x1680 ||
    (0x2000 ≤ code && code ≤ 0x200A) || code == 0x2028 || code == 0x2029 || code == 0x202F ||
    code == 0x205F || code == 0x3000

/-- The characters that a target can begin with. -/
def beginsTarget (c : Char) : Bool :=
  c == '-' || c == ':' || c == '_' || Alphanumeric.contains c

/-- Reads a level after an equals sign; nothing stands for all levels. -/
def readLevel? (text : List Char) : Option Verbosity :=
  if text.isEmpty then some (.downTo .trace) else Verbosity.ofChars? text

/-- Adds the level, if one follows. -/
def withLevel? (directive : Directive) : List Char → Option Directive
  | [] => some directive
  | '=' :: text => (readLevel? text).map fun verbosity => { directive with verbosity := verbosity }
  | _ => none

/-- Reads the value in braces, which is not empty, up to the closing one. -/
def readField? (text : List Char) : Option (List Char × List Char) :=
  let field := text.takeWhile (· != '\x7d')
  match text.dropWhile (· != '\x7d') with
  | '\x7d' :: rest => if field.isEmpty then none else some (field, rest)
  | _ => none

/-- Adds the span, after the opening bracket; its name ends before a value in braces. -/
def withSpan? (directive : Directive) (text : List Char) : Option Directive :=
  let isInner (c : Char) : Bool := c != ']' && c != '\x7b'
  let name := text.takeWhile isInner
  match text.dropWhile isInner with
  | ']' :: rest => withLevel? { directive with isNarrow := true } rest
  | '\x7b' :: rest =>
    match readField? rest with
    | some (field, ']' :: rest) =>
      let isNarrow := !name.isEmpty || field.contains '='
      withLevel? { directive with fields := [field], isNarrow := isNarrow } rest
    | _ => none
  | _ => none

/-- Reads a directive that begins and ends without blanks. -/
def ofTrimmed? (text : List Char) : Option Directive :=
  let isInner (c : Char) : Bool := c != '=' && c != '['
  let head := text.takeWhile isInner
  match text with
  | [] => none
  | '[' :: rest => withSpan? {} rest
  | first :: _ =>
    if !beginsTarget first then none
    else match text.dropWhile isInner with
      | [] =>
        match Verbosity.ofChars? head with
        | some verbosity => some { verbosity := verbosity }
        | none => some { target := head }
      | '[' :: rest => withSpan? { target := head } rest
      | rest => withLevel? { target := head } rest

/-- Whether a level is given after an equals sign. -/
def hasLevel (text : List Char) : Bool := (text.reverse.takeWhile (· != ']')).contains '='

/-- Reads a directive.  Blanks around it belong to its first and its last part: a level
with blanks is none, and a target with blanks is none that an event has. -/
def ofChars? (text : List Char) : Option Directive :=
  let inner := text.dropWhile isBlank
  let trimmed := (inner.reverse.dropWhile isBlank).reverse
  if inner.length < text.length then
    if hasLevel trimmed then none
    else (ofTrimmed? trimmed).map fun directive => { directive with isNarrow := true }
  else if trimmed.getLast? = some ']' then ofTrimmed? trimmed
  else ofTrimmed? text

end Directive

end Log

end EchoBackend
