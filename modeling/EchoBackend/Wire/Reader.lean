/-
# A reader of connections

One way to read what clients write to a connection: byte by byte, head after head and body after
body, without any limit.  What is no request is refused.
-/
import EchoBackend.Wire.BodyReader

namespace EchoBackend

namespace Wire

/-- How far a connection has been read. -/
inductive Reader where
  | head (reader : HeadReader)
  | body (reader : BodyReader)
  /-- Nothing more is read. -/
  | stopped
  deriving DecidableEq, Repr

namespace Reader

/-- Whether nothing but empty lines was read of a head. -/
def isFresh : HeadReader → Bool
  | .start => true
  | .startReturn => true
  | _ => false

/-- Goes on with a body, which may be at its end. -/
def goOn (reader : BodyReader) : Reader × List Part :=
  if reader.isDone then (head .start, [.last]) else (body reader, [])

/-- A head is complete. -/
def finish (complete : Head) : Reader × List Part :=
  match complete.opens with
  | .error cause => (stopped, [.refusal cause])
  | .ok (request, framing) =>
    let (next, parts) := goOn (BodyReader.ofFraming framing)
    (next, .head request :: parts)

/-- Reads a byte. -/
def step (reader : Reader) (byte : UInt8) : Reader × List Part :=
  match reader with
  | stopped => (stopped, [])
  | head reader =>
    match reader.step byte with
    | .reading next =>
      (head next, if isFresh reader && !isFresh next then [.beginning] else [])
    | .refused cause => (stopped, [.refusal cause])
    | .complete complete => finish complete
  | body reader =>
    match reader.step byte with
    | .broken => (stopped, [.failure brokenBody, .ended])
    | .delimiter next => goOn next
    | .data next =>
      let (next, parts) := goOn next
      (next, .data [byte] :: parts)

/-- Reads bytes; gives the reader after them, and the parts that were read. -/
def steps (reader : Reader) : Bytes → Reader × List Part
  | [] => (reader, [])
  | byte :: bytes =>
    let (next, parts) := reader.step byte
    let (final, more) := next.steps bytes
    (final, parts ++ more)

/-- The parts of what is written to a connection. -/
def parts (bytes : Bytes) : List Part := ((head .start).steps bytes).2

end Reader

end Wire

end EchoBackend
