/-
# Settings

What an operator can choose about an instance, the defaults, and the conditions that
usable settings meet.  `Settings.faults` lists every condition that fails, in a fixed
order, so that one start-up attempt reports all of them.
-/
import EchoBackend.Address

namespace EchoBackend

/-- The adjustable parameters of an instance. -/
structure Settings where
  /-- The first port to try. -/
  startPort : UInt16 := 9001
  /-- The address to listen on. -/
  host : IPv4 := IPv4.localhost
  /-- How many ports are tried at most. -/
  maxAttempts : UInt16 := 10
  /-- How many seconds the handling of a request may take. -/
  requestSeconds : UInt64 := 30
  /-- How many bytes of a request body are kept at most. -/
  bodyLimit : UInt64 := 2097152
  /-- Which log events are written when nothing else is said. -/
  logFilter : String := "echo_target=info,tower_http=info"
  deriving DecidableEq, Repr, Inhabited

namespace Settings

/-! ## Faults -/

/-- A condition that settings can violate. -/
inductive Fault where
  | zeroStartPort
  | noAttempts
  | nonLoopbackHost (host : IPv4)
  | zeroBodyLimit
  | zeroTimeout
  deriving DecidableEq, Repr

/-- What the operator is told about a fault. -/
def Fault.message : Fault → String
  | .zeroStartPort => "start port must be between 1 and 65535"
  | .noAttempts => "max port attempts must be at least 1"
  | .nonLoopbackHost host => "listener host " ++ host.toString ++ " is not a loopback address"
  | .zeroBodyLimit => "body limit must be greater than zero"
  | .zeroTimeout => "request timeout must be greater than zero"

/-- The violated conditions, in the order in which they are reported. -/
def faults (settings : Settings) : List Fault :=
  [ (settings.startPort == 0, Fault.zeroStartPort),
    (settings.maxAttempts == 0, Fault.noAttempts),
    (!settings.host.isLoopback, Fault.nonLoopbackHost settings.host),
    (settings.bodyLimit == 0, Fault.zeroBodyLimit),
    (settings.requestSeconds == 0, Fault.zeroTimeout) ].filterMap
      fun (violated, fault) => if violated then some fault else none

/-- The defaults are usable. -/
theorem faults_default : faults {} = [] := rfl

end Settings

end EchoBackend
