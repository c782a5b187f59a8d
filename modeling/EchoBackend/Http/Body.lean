/-
# Request bodies

A body arrives piece by piece: data, pauses between the data, and possibly a failure.  It
is read up to a limit, and reading stops at the first failure and at the piece that
exceeds the limit.  What was read becomes the payload of a request, as text.
-/
import EchoBackend.Text.Utf8

namespace EchoBackend

namespace Http

/-- One piece of a body. -/
inductive Piece where
  | data (bytes : Bytes)
  | delay (milliseconds : Nat)
  | failure (message : String)
  deriving DecidableEq, Repr

/-- How many milliseconds a piece keeps its reader waiting. -/
def Piece.wait : Piece → Nat
  | .delay milliseconds => milliseconds
  | _ => 0

/-- A body, as its pieces in order. -/
abbrev Body := List Piece

/-- Why a body cannot be read. -/
inductive BodyFault where
  /-- The body failed while it arrived. -/
  | failed (message : String)
  /-- There is more than the limit allows. -/
  | tooLong
  deriving DecidableEq, Repr

/-! ## Reading -/

/-- The data read so far, newest piece first, and its size. -/
structure Gathered where
  pieces : List Bytes := []
  size : Nat := 0
  deriving DecidableEq, Repr

namespace Gathered

/-- Everything gathered, in order. -/
def bytes (gathered : Gathered) : Bytes := gathered.pieces.reverse.flatten

/-- Takes in the next piece. -/
def add (limit : Nat) (gathered : Gathered) : Piece → Except BodyFault Gathered
  | .data bytes =>
    let size := gathered.size + bytes.length
    if size > limit then .error .tooLong else .ok ⟨bytes :: gathered.pieces, size⟩
  | .delay _ => .ok gathered
  | .failure message => .error (.failed message)

end Gathered

namespace Body

/-- Reads the pieces, after what was gathered before. -/
def readOnto (limit : Nat) (gathered : Gathered) : Body → Except BodyFault Bytes
  | [] => .ok gathered.bytes
  | piece :: body =>
    match gathered.add limit piece with
    | .error fault => .error fault
    | .ok gathered => readOnto limit gathered body

/-- The bytes of a body, if they arrive and keep within the limit. -/
def read (limit : Nat) (body : Body) : Except BodyFault Bytes := readOnto limit {} body

/-- How long reading waits, after what was gathered before: pauses count until the
reading stops. -/
def waitOnto (limit : Nat) (gathered : Gathered) : Body → Nat
  | [] => 0
  | piece :: body =>
    match gathered.add limit piece with
    | .error _ => 0
    | .ok gathered => piece.wait + waitOnto limit gathered body

/-- How many milliseconds the reading of a body takes. -/
def wait (limit : Nat) (body : Body) : Nat := waitOnto limit {} body

end Body

/-! ## Payloads -/

/-- What stands for a payload that cannot be shown. -/
def unreadable : String := "<error reading body>"

/-- The payload that was read; an empty body is none. -/
def payloadOf : Except BodyFault Bytes → Option String
  | .error _ => some unreadable
  | .ok [] => none
  | .ok bytes => some ((Utf8.text? bytes).getD unreadable)

/-- Reads the payload of a body. -/
def Body.payload (limit : Nat) (body : Body) : Option String := payloadOf (body.read limit)

end Http

end EchoBackend
