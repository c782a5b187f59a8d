/-
# A server over time

A server handles one group of requests after the other; a single request is a group of
one.  What is not a request is refused before it reaches the service.  The only thing that
a server keeps from one group to the next is its sink.
-/
import EchoBackend.Echo.Timeline

namespace EchoBackend

namespace Echo

open Http

/-- The parts of a request before they are judged. -/
structure RequestParts where
  method : Bytes := Method.get.bytes
  uri : Bytes
  headers : List (Bytes × Bytes) := []
  body : Body := []
  deriving DecidableEq, Repr

/-- The request that the parts make, if they make one. -/
def RequestParts.request (parts : RequestParts) : Except RequestFault Request :=
  Request.ofParts parts.method parts.uri parts.headers parts.body

/-- What a client learns. -/
inductive Result where
  /-- This was no request. -/
  | refused (fault : RequestFault)
  /-- The request was answered. -/
  | answered (response : Response)
  deriving DecidableEq, Repr

namespace Result

/-- Puts the responses of the requests back between the refusals, in order. -/
def merge : List (Except RequestFault Request) → List Response → List Result
  | [], _ => []
  | .error fault :: parts, responses => refused fault :: merge parts responses
  | .ok _ :: parts, response :: responses => answered response :: merge parts responses
  | .ok _ :: _, [] => []

end Result

/-- A service and what it has reported so far. -/
structure Server where
  service : Service
  sink : Sink := {}
  deriving DecidableEq, Repr

namespace Server

/-- What one group of requests brings about. -/
structure Turn where
  /-- What the clients learn, in the order of the requests. -/
  results : List Result
  /-- The blocks written, in the order in which they were written. -/
  blocks : List String
  deriving DecidableEq, Repr

/-- Handles a group of requests together. -/
def handle (server : Server) (group : List RequestParts) : Turn × Server :=
  let requests := group.map RequestParts.request
  let (responses, blocks) := Timeline.handle server.service (requests.filterMap Except.toOption)
  (⟨Result.merge requests responses, blocks⟩,
    { server with sink := blocks.foldl Sink.emit server.sink })

/-- Handles groups of requests one after the other. -/
def run (server : Server) : List (List RequestParts) → List Turn × Server
  | [] => ([], server)
  | group :: groups =>
    let (turn, next) := server.handle group
    let (turns, final) := next.run groups
    (turn :: turns, final)

end Server

end Echo

end EchoBackend
