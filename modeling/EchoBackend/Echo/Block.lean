/-
# Diagnostic blocks

An instance reports its start and every echoed request as a block of lines between two
separator lines.
-/
import EchoBackend.Address
import EchoBackend.Identity
import EchoBackend.Http.Method

namespace EchoBackend

namespace Echo

/-- The line that opens and closes a block. -/
def separator : String := String.ofList (List.replicate 60 '=')

/-- Lines between two separators, after an empty line; every line ends with a line feed. -/
def framed (lines : List String) : String :=
  String.join (([""] ++ [separator] ++ lines ++ [separator]).map (· ++ "\n"))

/-! ## Requests -/

/-- What is reported about a request. -/
structure RequestRecord where
  identity : Identity
  port : UInt16
  method : Http.Method
  endpoint : String
  userId : String
  payload : Option String
  deriving DecidableEq, Repr

namespace RequestRecord

/-- The payload line; an absent or empty payload has none. -/
def payloadLines (record : RequestRecord) : List String :=
  match record.payload with
  | none => []
  | some payload => if payload.isEmpty then [] else ["Payload: " ++ payload]

/-- The block that reports a request. -/
def block (record : RequestRecord) : String :=
  framed <|
    [ "Server: " ++ record.identity.label ++ " (listening on port " ++
        record.port.toNat.repr ++ ")",
      "Method: " ++ record.method.text,
      "Endpoint: " ++ record.endpoint,
      "X-User-Id: " ++ record.userId ] ++ record.payloadLines

end RequestRecord

/-! ## Starts -/

/-- What is reported when an instance begins to serve. -/
structure Banner where
  identity : Identity
  address : SocketAddress
  deriving DecidableEq, Repr

/-- The block that reports a start. -/
def Banner.block (banner : Banner) : String :=
  framed
    [ "Starting " ++ banner.identity.label ++ " server on port " ++
        banner.address.port.toNat.repr,
      "Listening on http://" ++ banner.address.toString ]

end Echo

end EchoBackend
