/-
# Replies

What an instance says about itself and the request, and how it is written as JSON: one
compact object whose members stand in a fixed order.
-/
import EchoBackend.Echo.Incoming
import EchoBackend.Identity
import EchoBackend.Json.Quoted

namespace EchoBackend

namespace Echo

/-- The contents of an answer. -/
structure Reply where
  server : String
  port : UInt16
  endpoint : String
  userId : String
  path : String
  deriving DecidableEq, Repr, Inhabited

namespace Reply

/-- Describes a request from the point of view of an instance. -/
def describe (identity : Identity) (port : UInt16) (incoming : Incoming) : Reply where
  server := identity.label
  port := port
  endpoint := incoming.endpoint
  userId := incoming.userIdOrNone
  path := incoming.path

/-! ## Writing -/

/-- One member of an object: its name in quotes, a colon, its value. -/
def member (name : String) (value : List Char) : List Char :=
  Json.quote name.toList ++ ':' :: value

/-- The members of a reply, in order. -/
def members (reply : Reply) : List (List Char) :=
  [ member "server" (Json.quote reply.server.toList),
    member "port" reply.port.toNat.repr.toList,
    member "endpoint" (Json.quote reply.endpoint.toList),
    member "x_user_id" (Json.quote reply.userId.toList),
    member "path" (Json.quote reply.path.toList) ]

/-- The characters of the JSON text of a reply. -/
def jsonChars (reply : Reply) : List Char :=
  '\x7b' :: ([','].intercalate reply.members ++ ['\x7d'])

/-- The JSON text of a reply, as bytes. -/
def json (reply : Reply) : Bytes := Utf8.encode reply.jsonChars

end Reply

end Echo

end EchoBackend
