/-
# The echo service

An instance answers every request that has a path with a description of what it saw, and
reports it as a diagnostic block.  Requests without a path are not found, and a request
whose handling takes too long is given up.  `Service.answer` says all of this for one
request on its own; nothing about earlier requests enters.
-/
import EchoBackend.Echo.Block
import EchoBackend.Echo.Reply
import EchoBackend.Http.Response
import EchoBackend.Settings
import EchoBackend.Timer

namespace EchoBackend

namespace Echo

open Http

/-- An instance: its settings, what it serves as, and the timers that it uses. -/
structure Service where
  settings : Settings := {}
  target : Target
  timer : Timer := {}
  deriving DecidableEq, Repr

/-- What becomes of a request: the response, and the block that reports it, if any. -/
structure Outcome where
  response : Response
  block : Option String := none
  deriving DecidableEq, Repr

/-- The header that carries the identifier of a request. -/
def requestIdHeader : HeaderName := Utf8.bytes "x-request-id"

/-- The identifier of a request: the first one it brings along, else a new one. -/
def requestId (headers : Headers) : RequestId :=
  match headers.first? requestIdHeader with
  | some value => .given value
  | none => .generated

namespace Service

/-! ## Limits -/

/-- The greatest payload, in bytes. -/
def limit (service : Service) : Nat := service.settings.bodyLimit.toNat

/-- The time, in milliseconds after its arrival, at which a request is given up. -/
def deadline (service : Service) : Nat := service.timer.span service.settings.requestSeconds

/-- The part of a body that is waited for: only a request with a path, and only one whose
method is `POST`, has its body read. -/
def awaited (request : Request) : Body :=
  if request.uri.path?.isSome && request.readsBody then request.body else []

/-- How many milliseconds the handling of a request takes. -/
def duration (service : Service) (request : Request) : Nat :=
  (awaited request).wait service.limit

/-! ## Responses -/

/-- The response to a request that took too long. -/
def timedOut : Response := { status := .requestTimeout, contentLength := some 0 }

/-- The response to a request that has no path. -/
def notFound (headers : Headers) : Response :=
  { status := .notFound, contentLength := some 0, requestId := some (requestId headers) }

/-- A JSON body as the method lets it through: `HEAD` keeps only the headers, and `CONNECT`
does not even keep the length. -/
def jsonResponse (method : Method) (headers : Headers) (json : Bytes) : Response :=
  { status := .ok
    contentType := some "application/json"
    contentLength := if method == Method.connect then none else some json.length
    requestId := some (requestId headers)
    body := if method == Method.head || method == Method.connect then [] else json }

/-- What an instance says about a request. -/
def reply (service : Service) (incoming : Incoming) : Reply :=
  Reply.describe service.target.identity service.target.port incoming

/-- What an instance reports about a request. -/
def record (service : Service) (incoming : Incoming) : RequestRecord where
  identity := service.target.identity
  port := service.target.port
  method := incoming.method
  endpoint := incoming.endpoint
  userId := incoming.userIdOrNone
  payload := incoming.payload

/-- The outcome of a request with a given path, once the reading of its body is over. -/
def echo (service : Service) (request : Request) (path : Bytes)
    (reading : Except BodyFault Bytes) : Outcome :=
  let incoming := Incoming.ofReading request.method (pathSegment path) request.headers reading
  { response := jsonResponse request.method request.headers (service.reply incoming).json
    block := some (service.record incoming).block }

/-- The outcome of a request that is handled in time. -/
def finish (service : Service) (request : Request) (reading : Except BodyFault Bytes) : Outcome :=
  match request.uri.path? with
  | some path => service.echo request path reading
  | none => { response := notFound request.headers }

/-! ## Answers -/

/-- The outcome of a request on its own. -/
def answer (service : Service) (request : Request) : Outcome :=
  if service.deadline ≤ service.duration request then { response := timedOut }
  else service.finish request ((awaited request).read service.limit)

end Service

end Echo

end EchoBackend
