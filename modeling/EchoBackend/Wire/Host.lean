/-
# Instances on a network

An instance serves any number of connections, which clients open, use and close under names
of their own.  All of them report to one sink, and one clock runs for all.  Once it is told to stop,
an instance accepts no more connections, closes those without a request under way, and goes on with
the others.
-/
import EchoBackend.Sink
import EchoBackend.Wire.Connection

namespace EchoBackend

namespace Wire

open Http Echo

/-- A connection with what the client has not received yet. -/
structure Line where
  stage : Stage := .waiting
  inbox : List Response := []
  deriving DecidableEq, Repr

/-- A connection after a step of it: a response to whatever was served waits for the client. -/
def Line.after (service : Service) (line : Line) (step : Stage × Option Served) : Line :=
  ⟨step.1, line.inbox ++ Served.responses service step.2.toList⟩

/-- A serving instance. -/
structure Host where
  service : Service
  /-- The milliseconds that have passed. -/
  clock : Nat := 0
  sink : Sink := {}
  /-- What was logged, oldest first. -/
  events : List Log.Event := []
  stopping : Bool := false
  /-- The open connections, by the names that the clients use. -/
  lines : List (String × Line) := []
  deriving DecidableEq, Repr

/-- What a client learns when it looks for a response. -/
inductive Delivery where
  | response (response : Response)
  /-- The instance has closed the connection, and nothing is left to receive. -/
  | ended
  /-- Nothing has come. -/
  | nothing
  deriving DecidableEq, Repr

/-- What was served on a connection of a name. -/
def tagged (name : String) (served : Option Served) : List (String × Served) :=
  served.toList.map fun served => (name, served)

namespace Host

/-- The connection of a name. -/
def line? (host : Host) (name : String) : Option Line := host.lines.lookup name

/-- Forgets a connection. -/
def forget (host : Host) (name : String) : Host :=
  { host with lines := host.lines.filter (·.1 != name) }

/-- Puts a connection in the place of the one of that name. -/
def put (host : Host) (name : String) (line : Line) : Host :=
  { host with lines := (name, line) :: (host.forget name).lines }

/-- Reports what was served to the sink and to the log. -/
def report (host : Host) (log : List Served) : Host :=
  { host with
    sink := (Served.blocks host.service log).foldl Sink.emit host.sink
    events := host.events ++ log.flatMap (Served.events host.service) }

/-- A part is read off a connection. -/
def read (host : Host) (name : String) (line : Line) (part : Part) : List (String × Served) × Host :=
  let step := line.stage.feed host.service host.clock host.stopping part
  (tagged name step.2,
    (host.report step.2.toList).put name (line.after host.service step))

/-- A client goes away: the body of its request fails, if it is being read. -/
def leave (host : Host) (name : String) : List (String × Served) × Host :=
  match host.line? name with
  | some line =>
    let (served, host) := host.read name line (.failure brokenBody)
    (served, host.forget name)
  | none => ([], host)

/-- A client connects.  A connection of that name is given up. -/
def connect (host : Host) (name : String) : List (String × Served) × Host :=
  let (served, host) := host.leave name
  (served, host.put name {})

/-- Time passes; whoever was handled for too long is given up. -/
def wait (host : Host) (milliseconds : Nat) : List (String × Served) × Host :=
  let now := host.clock + milliseconds
  let expired := host.lines.map fun (name, line) =>
    (name, line, line.stage.expire host.service now host.stopping)
  let served := expired.flatMap fun (name, _, step) => tagged name step.2
  (served,
    { host.report (served.map Prod.snd) with
      clock := now
      lines := expired.map fun (name, line, step) => (name, line.after host.service step) })

/-- A client looks for the next response. -/
def receive (host : Host) (name : String) (line : Line) : Delivery × Host :=
  match line.inbox with
  | response :: rest => (.response response, host.put name { line with inbox := rest })
  | [] => (if line.stage = .closed then .ended else .nothing, host)

/-- The instance is told to stop. -/
def stop (host : Host) : Host :=
  { host with
    stopping := true
    lines := host.lines.map fun (name, line) => (name, { line with stage := line.stage.stop }) }

/-- Whether the instance has stopped: it was told to, and every connection is closed. -/
def hasStopped (host : Host) : Bool :=
  host.stopping && host.lines.all fun (_, line) => line.stage = .closed

end Host

end Wire

end EchoBackend
