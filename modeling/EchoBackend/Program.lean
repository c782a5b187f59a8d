/-
# The program

From a command line to an exit status.  The program informs, rejects the command line,
fails to start, or serves until it gets a stop signal.  On its standard output stand the
banner and the blocks of the requests, on its standard error the messages to the user;
what it logs depends on a filter and goes there as well.
-/
import EchoBackend.CommandLine.Request
import EchoBackend.Log.Filter
import EchoBackend.Startup
import EchoBackend.Trial

namespace EchoBackend

namespace Program

/-! ## Log events -/

/-- The settings that a command line leads to. -/
def settingsFor (port : UInt16) : Settings := { startPort := port }

/-- The event of the beginning. -/
def starting (settings : Settings) : Log.Event :=
  ⟨.info, "echo_target", "echo-target starting",
    [⟨"version", "\"" ++ CommandLine.version ++ "\""⟩,
      ⟨"start_port", settings.startPort.toNat.repr⟩,
      ⟨"max_attempts", settings.maxAttempts.toNat.repr⟩]⟩

/-- The event of a port that was tried. -/
def tried (table : PortTable) (host : IPv4) (port : UInt16) : Log.Event :=
  let fields : List Log.Field := [⟨"host", host.toString⟩, ⟨"port", port.toNat.repr⟩]
  match table.refusal? ⟨host, port⟩ with
  | none => ⟨.debug, "echo_target::net::port", "Port available", fields⟩
  | some error =>
    ⟨.debug, "echo_target::net::port", "Port unavailable", fields ++ [⟨"error", error.message⟩]⟩

/-- The events of a search for a port. -/
def search (table : PortTable) (settings : Settings) : List Log.Event :=
  if settings.faults.isEmpty then
    let ports := PortSearch.candidates settings.startPort settings.maxAttempts
    (PortSearch.tried (fun port => table.isFree ⟨settings.host, port⟩) ports).map
      (tried table settings.host)
  else []

/-- The events of a start that succeeds. -/
def started (settings : Settings) (target : Target) (address : SocketAddress) : List Log.Event :=
  let server : Log.Field := ⟨"server", target.identity.label⟩
  let listener : Log.Field := ⟨"address", address.toString⟩
  [⟨.info, "echo_target::lifecycle::startup", "Port allocated",
      [⟨"start_port", settings.startPort.toNat.repr⟩, ⟨"port", target.port.toNat.repr⟩, server]⟩,
    ⟨.info, "echo_target::lifecycle::startup", "Listening for connections", [listener]⟩,
    ⟨.info, "echo_target::http::server", "HTTP server starting", [listener, server]⟩]

/-- The event of a start that fails. -/
def failed (failure : Startup.Failure) : Log.Event :=
  ⟨.error, "echo_target", "Startup failed", [⟨"error", failure.message⟩]⟩

/-- The events of the end. -/
def ended (target : Target) : List Log.Event :=
  [⟨.info, "echo_target::http::server", "HTTP server stopped",
      [⟨"server", target.identity.label⟩]⟩,
    ⟨.info, "echo_target", "Shutdown complete", []⟩]

/-! ## Launching -/

/-- What a command line leads to. -/
inductive Launch where
  /-- The user is informed. -/
  | informed (text : String)
  /-- The command line is rejected. -/
  | rejected (cause : CommandLine.Rejection)
  /-- No instance can be started. -/
  | failed (failure : Startup.Failure) (events : List Log.Event)
  /-- An instance serves. -/
  | serving (started : Startup.Started) (host : Wire.Host)
  deriving DecidableEq, Repr

/-- An instance that has just been started: it has printed its banner. -/
def hostFor (settings : Settings) (begun : Startup.Started) (events : List Log.Event) :
    Wire.Host :=
  let banner : Echo.Banner := ⟨begun.target.identity, begun.address⟩
  { service := { settings := settings, target := begun.target }
    sink := Sink.emit {} banner.block
    events := events ++ started settings begun.target begun.address }

/-- Starts an instance and prints its banner. -/
def serve (table : PortTable) (settings : Settings) : Launch :=
  let events := starting settings :: search table settings
  match Startup.start table settings with
  | .error failure => .failed failure (events ++ [failed failure])
  | .ok begun => .serving begun (hostFor settings begun events)

/-- Follows a command line. -/
def launch (table : PortTable) (arguments : List Bytes) : Launch :=
  match CommandLine.read arguments with
  | .error cause => .rejected cause
  | .ok (.inform flag) => .informed flag.information
  | .ok (.serve port) => serve table (settingsFor port)

/-- The addresses that are held after a launch. -/
def Launch.tableAfter (table : PortTable) : Launch → PortTable
  | .serving started _ => started.table
  | _ => table

/-! ## Running -/

/-- What a process has come to. -/
structure Outcome where
  /-- The exit status; a process that still runs has none. -/
  exitCode : Option UInt8
  /-- What stands on the standard output. -/
  output : String
  /-- What stands on the standard error, log lines apart. -/
  complaints : String := ""
  /-- What was logged, whether written or not. -/
  events : List Log.Event := []
  /-- The answers of the script, if there was an instance to play it against. -/
  answers : Option (List Trial.Answer) := none
  deriving DecidableEq, Repr

/-- The exit status of a process whose command line is rejected. -/
def usageExitCode : UInt8 := 2

/-- What a process that serves has come to: it ends with success once its instance has
stopped. -/
def Outcome.ofPlayed (started : Startup.Started) (played : Trial.Played) : Outcome :=
  let host := played.final.host
  { exitCode := if host.hasStopped then some 0 else none
    output := played.final.output
    events := host.events ++ if host.hasStopped then ended started.target else []
    answers := some played.answers }

/-- Plays a script against the instance that a launch led to, if there is one. -/
def Launch.play (link : Link) (script : List Trial.Step) :
    Launch → Except Trial.NoConnection Outcome
  | .informed text => .ok { exitCode := some 0, output := text }
  | .rejected cause =>
    .ok { exitCode := some usageExitCode, output := "", complaints := cause.report }
  | .failed failure events =>
    .ok
      { exitCode := some failure.exitCode
        output := ""
        complaints := "Error: " ++ failure.message ++ "\n"
        events := events }
  | .serving started host =>
    (Trial.play { link := link, host := host } script).map (Outcome.ofPlayed started)

/-- Runs the program. -/
def run (table : PortTable) (arguments : List Bytes) (link : Link) (script : List Trial.Step) :
    Except Trial.NoConnection Outcome :=
  (launch table arguments).play link script

/-- The log lines that are written, `asked` being the filter that the user asks for. -/
def Outcome.logLines (outcome : Outcome) (asked : Option String) : List String :=
  (Log.Filter.choose asked ({} : Settings).logFilter).lines outcome.events

end Program

end EchoBackend
