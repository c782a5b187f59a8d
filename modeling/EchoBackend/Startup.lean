/-
# Starting an instance

Start-up has two steps that touch the machine: `Startup.prepare` checks the settings and
picks a port, `Startup.bind` takes the port for good.  Between them another program can
take the port, and then binding fails.
-/
import EchoBackend.Identity
import EchoBackend.Settings
import EchoBackend.PortSearch
import EchoBackend.PortTable

namespace EchoBackend

namespace Startup

/-! ## Failures -/

/-- Why an instance does not run. -/
inductive Failure where
  /-- The settings are not usable. -/
  | settings (faults : List Settings.Fault)
  /-- No port was found. -/
  | port (cause : PortSearch.Failure)
  /-- The chosen address could not be bound. -/
  | bind (address : SocketAddress) (cause : SystemError)
  /-- Serving broke down. -/
  | serve (cause : SystemError)
  deriving DecidableEq, Repr

namespace Failure

/-- What the operator is told. -/
def message : Failure → String
  | settings faults =>
    "invalid configuration: " ++ ", ".intercalate (faults.map Settings.Fault.message)
  | port cause => cause.message
  | bind address cause =>
    "failed to bind listener on " ++ address.toString ++ ": " ++ cause.message
  | serve cause => "server error: " ++ cause.message

/-- The exit status of a process that fails in this way. -/
def exitCode : Failure → UInt8
  | settings _ => 2
  | port _ => 3
  | bind _ _ => 1
  | serve _ => 1

/-- The system failure underneath, if there is one. -/
def cause? : Failure → Option SystemError
  | settings _ => none
  | port _ => none
  | bind _ cause => some cause
  | serve cause => some cause

end Failure

/-! ## Steps -/

/-- Checks the settings and picks the port to serve on. -/
def prepare (table : PortTable) (settings : Settings) : Except Failure Target :=
  match settings.faults with
  | [] =>
    match PortSearch.run table.isFree settings.host settings.startPort settings.maxAttempts with
    | .ok port => .ok (Target.ofPort port)
    | .error cause => .error (.port cause)
  | faults => .error (.settings faults)

/-- Takes the port of a target on a host. -/
def bind (table : PortTable) (host : IPv4) (target : Target) :
    Except Failure (SocketAddress × PortTable) :=
  let address : SocketAddress := ⟨host, target.port⟩
  match table.bind address with
  | .ok bound => .ok (address, bound)
  | .error cause => .error (.bind address cause)

/-! ## Starting -/

/-- A started instance. -/
structure Started where
  target : Target
  address : SocketAddress
  /-- The held addresses, its own among them. -/
  table : PortTable
  deriving DecidableEq, Repr

/-- Checks the settings, picks a port and takes it at once. -/
def start (table : PortTable) (settings : Settings) : Except Failure Started :=
  match prepare table settings with
  | .error failure => .error failure
  | .ok target =>
    match bind table settings.host target with
    | .error failure => .error failure
    | .ok (address, table) => .ok ⟨target, address, table⟩

/-- The held addresses after a started instance has stopped. -/
def Started.tableAfter (started : Started) : PortTable := started.table.release started.address

end Startup

end EchoBackend
