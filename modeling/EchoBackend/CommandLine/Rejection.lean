/-
# Rejected command lines

Why a command line is rejected, and what the user is told.  Every message names the cause
and where to find help; most show how the program is used, with the arguments that were
understood.  What the user wrote is shown without control sequences.
-/
import EchoBackend.CommandLine.PortNumber
import EchoBackend.Text.ControlSequence
import EchoBackend.Text.Similarity

namespace EchoBackend

namespace CommandLine

/-! ## Options -/

/-- The options there are. -/
inductive Flag where
  | help
  | version
  deriving DecidableEq, Repr

/-- The long spelling of an option, without the dashes. -/
def Flag.name : Flag → String
  | .help => "help"
  | .version => "version"

/-- The option that a misspelt name may stand for; the more similar one counts. -/
def Flag.similarTo? (name : List Char) : Option Flag :=
  let help := Similarity.measure name Flag.help.name.toList
  let version := Similarity.measure name Flag.version.name.toList
  if version.atLeast Similarity.threshold && version.atLeast help then some .version
  else if help.atLeast Similarity.threshold then some .help
  else none

/-! ## Causes -/

/-- Why a command line is rejected. -/
inductive Rejection where
  /-- The value of the port is no port. -/
  | port (written : List Char) (fault : PortNumber.Fault)
  /-- The value of the port is not UTF-8. -/
  | notText
  /-- There is a value too many. -/
  | surplus (written : List Char)
  /-- There is no option of one letter like this. -/
  | letter (written : List Char)
  /-- There is no option with this name; `afterPort` says whether a value precedes it. -/
  | name (written : List Char) (afterPort : Bool)
  /-- An option takes no value, but was given one. -/
  | flagValue (flag : Flag) (written : List Char)
  deriving DecidableEq, Repr

/-! ## Messages -/

/-- The name under which the program introduces itself. -/
def programName : String := "echo-target"

/-- A line that shows how the program is used. -/
def usageWith (arguments : List String) : String :=
  " ".intercalate ("Usage:" :: programName :: arguments)

/-- How the program is used. -/
def usage : String := usageWith ["[PORT]"]

/-- Where to find more. -/
def hint : String := "For more information, try '--help'."

/-- What the user wrote, as it is shown. -/
def shown (written : List Char) : String := String.ofList (ControlSequence.strip written)

/-- The advice to mark an argument as a value. -/
def markTip (argument : String) : String :=
  "  tip: to pass '" ++ argument ++ "' as a value, use '-- " ++ argument ++ "'"

/-- The advice to use another option. -/
def similarTip (flag : Flag) : String :=
  "  tip: a similar argument exists: '--" ++ flag.name ++ "'"

/-- The complaint about an argument that is not understood. -/
def unexpected (argument : String) : String := "unexpected argument '" ++ argument ++ "' found"

/-- The paragraphs of a message: the complaint, and advice and usage where there are some. -/
def Rejection.paragraphs : Rejection → List String
  | port written fault =>
    ["invalid value '" ++ shown written ++ "' for '[PORT]': " ++ fault.message]
  | notText => ["invalid UTF-8 was detected in one or more arguments", usage]
  | surplus written => [unexpected (shown written), usage]
  | letter written =>
    let argument := "-" ++ shown written
    [unexpected argument, markTip argument, usage]
  | name written afterPort =>
    let argument := "--" ++ shown written
    let value := if afterPort then "<PORT>" else "[PORT]"
    match Flag.similarTo? written with
    | some flag => [unexpected argument, similarTip flag, usageWith ["--" ++ flag.name, value]]
    | none => [unexpected argument, markTip argument, usageWith [value]]
  | flagValue flag written =>
    ["unexpected value '" ++ shown written ++ "' for '--" ++ flag.name ++
        "' found; no more were expected",
      usageWith ["--" ++ flag.name, "[PORT]"]]

/-- The message of a rejection: paragraphs with an empty line between them. -/
def Rejection.message (rejection : Rejection) : String :=
  "error: " ++ "\n\n".intercalate (rejection.paragraphs ++ [hint]) ++ "\n"

/-- Whether a text occurs within another. -/
def occurs (part : List Char) : List Char → Bool
  | [] => part.isEmpty
  | c :: text => part.isPrefixOf (c :: text) || occurs part text

/-- Everything that the user is told: a message in which no usage is found is followed
by one. -/
def Rejection.report (rejection : Rejection) : String :=
  let message := rejection.message
  if occurs "Usage:".toList message.toList then message
  else message ++ "\n" ++ usage ++ "\n"

end CommandLine

end EchoBackend
