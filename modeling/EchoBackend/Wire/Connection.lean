/-
# Connections

A connection carries requests, one after the other, and the responses to them in the same order.
A request with a path whose method is `POST` is answered when its body has been read or cannot be
read, or when that takes too long; every other request is answered as soon as its head is complete.
Parts that nobody waits for are passed over.
-/
import EchoBackend.Echo.Journal
import EchoBackend.Wire.Part

namespace EchoBackend

namespace Wire

open Http Echo

/-! ## Requests that are served -/

/-- How a request comes to its answer. -/
inductive Served where
  /-- It is none, and the library refuses it. -/
  | refused (cause : Refusal)
  /-- Its handling took too long. -/
  | late (request : Request)
  /-- It was handled, with what was read of its body. -/
  | finished (request : Request) (reading : Except BodyFault Bytes)
  deriving Repr

namespace Served

/-- The response, and the block that goes with it. -/
def outcome (service : Service) : Served → Outcome
  | refused cause => { response := { status := cause.status, contentLength := some 0 } }
  | late _ => { response := Service.timedOut }
  | finished request reading => service.finish request reading

/-- What is logged. -/
def events (service : Service) : Served → List Log.Event
  | finished request reading => service.events request reading
  | _ => []

/-- The responses to requests, in order. -/
def responses (service : Service) (log : List Served) : List Response :=
  log.map fun served => (served.outcome service).response

/-- The blocks of requests, in order. -/
def blocks (service : Service) (log : List Served) : List String :=
  log.filterMap fun served => (served.outcome service).block

end Served

/-! ## Stages -/

/-- A request whose body is being read. -/
structure Exchange where
  request : Request
  /-- What was read of the body so far. -/
  gathered : Gathered := {}
  /-- The moment at which its handling began. -/
  began : Nat
  deriving DecidableEq, Repr

/-- What goes on on a connection. -/
inductive Stage where
  /-- Nothing. -/
  | waiting
  /-- A head arrives. -/
  | arriving
  | handling (exchange : Exchange)
  | closed
  deriving DecidableEq, Repr

namespace Stage

/-- Whether a request is under way. -/
def isBusy : Stage → Bool
  | waiting => false
  | arriving => true
  | handling _ => true
  | closed => false

/-- The stage after an answer: an instance that is about to stop closes the connection. -/
def answered (stopping : Bool) : Stage := if stopping then closed else waiting

/-- A head is complete at a moment: the request is answered, unless its body has to be read. -/
def start (service : Service) (now : Nat) (stopping : Bool) (request : Request) :
    Stage × Option Served :=
  if service.deadline = 0 then (answered stopping, some (.late request))
  else if request.uri.path?.isSome && request.readsBody then
    (handling { request := request, began := now }, none)
  else (answered stopping, some (.finished request (.ok [])))

/-- Reads a piece of a body. -/
def gather (limit : Nat) (stopping : Bool) (exchange : Exchange) (piece : Piece) :
    Stage × Option Served :=
  match exchange.gathered.add limit piece with
  | .error fault => (answered stopping, some (.finished exchange.request (.error fault)))
  | .ok gathered => (handling { exchange with gathered := gathered }, none)

/-- Reads a part where no request is handled. -/
def receive (service : Service) (now : Nat) (stopping : Bool) (stage : Stage) :
    Part → Stage × Option Served
  | .beginning => (arriving, none)
  | .head request => start service now stopping request
  | .refusal cause => (closed, some (.refused cause))
  | .ended => (closed, none)
  | _ => (stage, none)

/-- Reads a part at a moment; `stopping` says that the instance is about to stop. -/
def feed (service : Service) (now : Nat) (stopping : Bool) (stage : Stage) (part : Part) :
    Stage × Option Served :=
  match stage with
  | waiting => receive service now stopping waiting part
  | arriving => receive service now stopping arriving part
  | closed => (closed, none)
  | handling exchange =>
    match part with
    | .data bytes => gather service.limit stopping exchange (.data bytes)
    | .failure message => gather service.limit stopping exchange (.failure message)
    | .last =>
      (answered stopping, some (.finished exchange.request (.ok exchange.gathered.bytes)))
    | _ => (handling exchange, none)

/-- A moment has come: a request that was handled for too long is given up. -/
def expire (service : Service) (now : Nat) (stopping : Bool) (stage : Stage) :
    Stage × Option Served :=
  match stage with
  | handling exchange =>
    if exchange.began + service.deadline ≤ now then
      (answered stopping, some (.late exchange.request))
    else (handling exchange, none)
  | stage => (stage, none)

/-- The instance is told to stop: a connection without a request under way is closed. -/
def stop (stage : Stage) : Stage := if stage.isBusy then stage else closed

end Stage

end Wire

end EchoBackend
