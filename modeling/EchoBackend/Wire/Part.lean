/-
# What is read off a connection

Clients write bytes to a connection, and a library takes them apart into requests.  How it does
that is its own affair, and so is when it reads on and when it gives up; an instance only sees the
parts that it reads, one after the other.
-/
import EchoBackend.Http.Request
import EchoBackend.Http.Response

namespace EchoBackend

namespace Wire

open Http

/-- Why the library answers by itself what is no request. -/
inductive Refusal where
  /-- It is not well-formed, or contradicts itself. -/
  | malformed
  /-- The target is longer than any URI. -/
  | targetTooLong
  /-- It exceeds a limit of the library. -/
  | tooLarge
  deriving DecidableEq, Repr

/-- The status of a refusal. -/
def Refusal.status : Refusal → Status
  | .malformed => .badRequest
  | .targetTooLong => .uriTooLong
  | .tooLarge => .headersTooLarge

/-- What is read off a connection. -/
inductive Part where
  /-- A head has begun to arrive, and the library waits for the end of it even if the instance is about
  to stop. -/
  | beginning
  /-- A head is complete; the body of the request is still to come. -/
  | head (request : Request)
  /-- Some bytes of a body. -/
  | data (bytes : Bytes)
  /-- The end of a body. -/
  | last
  /-- The body breaks off, or it is not framed as announced. -/
  | failure (message : String)
  /-- This is no request: the library says so, and reads no more. -/
  | refusal (cause : Refusal)
  /-- The library reads no more. -/
  | ended
  deriving DecidableEq, Repr

/-- The fault of a body that breaks off. -/
def brokenBody : String := "error reading a body from connection"

/-- A part with its bytes one by one; what only concerns the connection itself is left out. -/
def Part.pieces : Part → List Part
  | beginning => []
  | ended => []
  | data bytes => bytes.map fun byte => data [byte]
  | part => [part]

end Wire

end EchoBackend
