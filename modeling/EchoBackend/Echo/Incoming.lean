/-
# What an instance sees of a request

The path as the client meant it, the user that the request names, and the payload.
-/
import EchoBackend.Http.Request
import EchoBackend.Text.Percent

namespace EchoBackend

namespace Echo

open Http

/-! ## Paths -/

/-- The path without its leading slash, escapes decoded and unreadable bytes replaced. -/
def pathSegment (uriPath : Bytes) : String :=
  let path := match uriPath with
    | 0x2F :: rest => rest
    | path => path
  Utf8.lossyText (Percent.decode path)

/-- The endpoint that a path names. -/
def endpointFor (path : String) : String := "/" ++ path

/-! ## Users -/

/-- The header that names the user. -/
def userIdHeader : HeaderName := Utf8.bytes "x-user-id"

/-- What stands for the user of a request that names none. -/
def noUser : String := "NOT_SET"

/-- The user that the headers name: the first value counts. -/
def userId (headers : Headers) : Option String :=
  (headers.first? userIdHeader).map Utf8.lossyText

/-! ## Requests -/

/-- A request as an instance sees it. -/
structure Incoming where
  method : Method
  path : String
  userId : Option String := none
  payload : Option String := none
  deriving DecidableEq, Repr

namespace Incoming

/-- Puts a seen request together from what was read; `reading` is what became of the body. -/
def ofReading (method : Method) (path : String) (headers : Headers)
    (reading : Except BodyFault Bytes) : Incoming where
  method := method
  path := path
  userId := Echo.userId headers
  payload := if method == Method.post then payloadOf reading else none

/-- Takes from a request what an instance looks at. -/
def extract (method : Method) (path : String) (headers : Headers) (body : Body)
    (limit : Nat) : Incoming :=
  ofReading method path headers (body.read limit)

/-- The endpoint that was asked for. -/
def endpoint (incoming : Incoming) : String := endpointFor incoming.path

/-- The user, or what stands for none. -/
def userIdOrNone (incoming : Incoming) : String := incoming.userId.getD noUser

end Incoming

end Echo

end EchoBackend
