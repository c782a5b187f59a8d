/-
# Command lines

The program takes one optional value, the first port to try, and two options.  Arguments
are read from left to right.  An option takes effect where it stands, so what follows it
is not looked at; a value before it is judged first.  After a bare double dash everything
is a value.
-/
import EchoBackend.CommandLine.Rejection
import EchoBackend.Settings
import EchoBackend.Text.Utf8

namespace EchoBackend

namespace CommandLine

/-- What the user asks for. -/
inductive Request where
  /-- To serve on the first free port from this one on. -/
  | serve (port : UInt16)
  /-- To be shown what an option shows. -/
  | inform (flag : Flag)
  deriving DecidableEq, Repr

/-! ## Arguments -/

/-- What an argument is, before a bare double dash. -/
inductive Argument where
  /-- A value. -/
  | value
  /-- The bare double dash. -/
  | divider
  /-- An option by name, with the value attached to it. -/
  | named (name : Bytes) (attached : Option Bytes)
  /-- Options by letter. -/
  | lettered (letters : Bytes)
  deriving DecidableEq, Repr

/-- Recognises an argument by its dashes.  A single dash is a value. -/
def Argument.ofBytes : Bytes → Argument
  | [0x2D] => .value
  | [0x2D, 0x2D] => .divider
  | 0x2D :: 0x2D :: rest =>
    .named (rest.takeWhile (· != 0x3D)) ((rest.dropWhile (· != 0x3D)).tail?)
  | 0x2D :: letters => .lettered letters
  | _ => .value

/-- The option of a name. -/
def Flag.ofName? (name : Bytes) : Option Flag :=
  if name == Utf8.bytes Flag.help.name then some .help
  else if name == Utf8.bytes Flag.version.name then some .version
  else none

/-- The option of a letter. -/
def Flag.ofLetter? : Char → Option Flag
  | 'h' => some .help
  | 'V' => some .version
  | _ => none

/-- The first of several letters, or all that is written if it begins with no letter at
all. -/
def firstLetter (letters : Bytes) : Option Char × List Char :=
  match Utf8.scan letters with
  | some letter :: _ => (some letter, [letter])
  | _ => (none, Utf8.lossy letters)

/-! ## Values -/

/-- Judges a value. -/
def judge (written : Bytes) : Except Rejection UInt16 :=
  match Utf8.decode? written with
  | none => .error .notText
  | some text =>
    match PortNumber.read text with
    | .ok port => .ok port
    | .error fault => .error (.port text fault)

/-- Judges the value that was given, if there is one; the default is the port that the
settings begin with. -/
def judgeGiven : Option Bytes → Except Rejection UInt16
  | some written => judge written
  | none => .ok ({} : Settings).startPort

/-- An option takes effect once the value before it is judged. -/
def inform (given : Option Bytes) (flag : Flag) : Except Rejection Request :=
  (judgeGiven given).map fun _ => .inform flag

/-! ## Reading -/

/-- Reads values only; `given` is the value read before. -/
def readValues (given : Option Bytes) : List Bytes → Except Rejection Request
  | [] => (judgeGiven given).map .serve
  | written :: rest =>
    match given with
    | none => readValues (some written) rest
    | some _ => .error (.surplus (Utf8.lossy written))

/-- Reads arguments; `given` is the value read before. -/
def readArguments (given : Option Bytes) : List Bytes → Except Rejection Request
  | [] => (judgeGiven given).map .serve
  | written :: rest =>
    match Argument.ofBytes written with
    | .value =>
      match given with
      | none => readArguments (some written) rest
      | some _ => .error (.surplus (Utf8.lossy written))
    | .divider => readValues given rest
    | .named name attached =>
      match Flag.ofName? name, attached with
      | some flag, none => inform given flag
      | some flag, some value => .error (.flagValue flag (Utf8.lossy value))
      | none, _ => .error (.name (Utf8.lossy name) given.isSome)
    | .lettered letters =>
      let (letter, written) := firstLetter letters
      match letter.bind Flag.ofLetter? with
      | some flag => inform given flag
      | none => .error (.letter written)

/-- Reads a command line, without the name of the program. -/
def read (arguments : List Bytes) : Except Rejection Request := readArguments none arguments

/-! ## Information -/

/-- The version of the program. -/
def version : String := "0.1.0"

/-- What an option shows. -/
def Flag.information : Flag → String
  | .help =>
    "Self-identifying HTTP echo backend for reverse-proxy tests\n\n" ++ usage ++ "\n\n" ++
    "Arguments:\n" ++
    "  [PORT]  First port to try; later ports are probed if it is taken [default: 9001]\n\n" ++
    "Options:\n" ++
    "  -h, --help     Print help\n" ++
    "  -V, --version  Print version\n"
  | .version => programName ++ " " ++ CommandLine.version ++ "\n"

end CommandLine

end EchoBackend
