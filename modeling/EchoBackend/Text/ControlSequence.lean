/-
# Control sequences

Terminals take an escape character and what follows it as a command.  Text that is not
meant for a terminal is shown without such commands, and without control characters other
than blanks.
-/
namespace EchoBackend

namespace ControlSequence

/-! ## Characters -/

/-- The character that begins every command. -/
def escape : Char := '\x1b'

/-- The characters that call a command off. -/
def isCancel (c : Char) : Bool := c == '\x18' || c == '\x1a'

/-- The blanks: space, tab, line feed, form feed and carriage return. -/
def isBlank (c : Char) : Bool :=
  c == ' ' || c == '\t' || c == '\n' || c == '\x0c' || c == '\r'

/-- The characters that are kept outside of commands. -/
def isKept (c : Char) : Bool := isBlank c || (0x20 ≤ c.toNat && c != '\x7f')

/-- Whether the code point of a character lies in a range, ends included. -/
def within (low high : Nat) (c : Char) : Bool := low ≤ c.toNat && c.toNat ≤ high

/-! ## Commands -/

/-- How far a command has been read. -/
inductive Place where
  /-- Outside of commands. -/
  | outside
  /-- After the escape character. -/
  | begun
  /-- After the escape character and intermediate characters. -/
  | intermediate
  /-- In a control sequence, before its final character. -/
  | sequence
  /-- In a system command, which a bell ends. -/
  | system
  /-- In a string for the device. -/
  | string
  deriving DecidableEq, Repr

/-- The place that the character after the escape character leads to. -/
def afterEscape (c : Char) : Place :=
  if within 0x20 0x2F c then .intermediate
  else if c == '[' then .sequence
  else if c == ']' then .system
  else if c == 'P' || c == 'X' || c == '^' || c == '_' then .string
  else if within 0x30 0x7E c then .outside
  else .begun

/-- The place after a character inside a command. -/
def follow (place : Place) (c : Char) : Place :=
  match place with
  | .outside => .outside
  | .begun => afterEscape c
  | .intermediate => if within 0x30 0x7E c then .outside else .intermediate
  | .sequence => if within 0x40 0x7E c then .outside else .sequence
  | .system => if c == '\x07' then .outside else .system
  | .string => .string

/-- Whether a line break or tab at a place shows and ends the command. -/
def breaksOff (place : Place) (c : Char) : Bool :=
  isBlank c && c != ' ' &&
    (place == .begun || place == .intermediate || place == .sequence)

/-! ## Stripping -/

/-- Leaves out commands and control characters; reading starts at a place. -/
def stripFrom (place : Place) : List Char → List Char
  | [] => []
  | c :: text =>
    if c == escape then stripFrom .begun text
    else if isCancel c then stripFrom .outside text
    else if place == .outside then
      if isKept c then c :: stripFrom .outside text else stripFrom .outside text
    else if breaksOff place c then c :: stripFrom .outside text
    else stripFrom (follow place c) text

/-- The text without commands and without control characters other than blanks. -/
def strip (text : List Char) : List Char := stripFrom .outside text

end ControlSequence

end EchoBackend
