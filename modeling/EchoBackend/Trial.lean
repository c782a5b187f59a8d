/-
# Trials

A trial is a script that is played against a serving instance: clients connect, send, receive and go
away, the library reads on, time passes, and whoever runs the instance tells it to stop.  An instance
stops as soon as its receiver of the stop signal learns anything at all.
-/
import EchoBackend.StopSignal
import EchoBackend.Wire.Host

namespace EchoBackend

open Http Wire

/-! ## Scripts -/

/-- Whether clients can reach the instance over the network. -/
inductive Link where
  | up
  | down
  deriving DecidableEq, Repr

namespace Trial

/-- One step of a script. -/
inductive Step where
  | connect (name : String)
  /-- A client writes bytes, which may be cut from other bytes anywhere. -/
  | send (name : String) (bytes : Bytes)
  /-- The library reads a part of what was sent. -/
  | read (name : String) (part : Part)
  | receive (name : String)
  /-- A client goes away. -/
  | close (name : String)
  | wait (milliseconds : Nat)
  /-- Sends the stop signal within the program. -/
  | trigger
  /-- Gives up the only handle that can send the stop signal. -/
  | dropHandle
  /-- Sends the stop signal to the process. -/
  | signal
  /-- Asks whether the instance has stopped. -/
  | awaitExit
  /-- Reads what was printed so far and nothing after that. -/
  | closeOutput
  deriving DecidableEq, Repr

/-- What a step answers. -/
inductive Answer where
  | connected
  /-- Nobody listens. -/
  | refused
  /-- The network does not lead there. -/
  | unreachable
  | sent
  | received (delivery : Delivery)
  | closed
  | stopped
  /-- The instance goes on. -/
  | running
  /-- What was asked for was done. -/
  | done
  deriving DecidableEq, Repr

/-- A script names a connection that does not exist. -/
structure NoConnection where
  name : String
  deriving DecidableEq, Repr

end Trial

/-! ## Playing -/

/-- A trial under way. -/
structure Trial where
  link : Link
  host : Host
  /-- The stop signal of the instance. -/
  channel : StopSignal.Channel := {}
  receiver : StopSignal.Receiver := ⟨0, 0⟩
  /-- Whether the process has received its stop signal. -/
  signalled : Bool := false
  /-- How many blocks were read when the reader of the output went away, if it did. -/
  readUpTo : Option Nat := none
  deriving DecidableEq, Repr

namespace Trial

/-- What a step brings about. -/
structure Turn where
  answer : Answer
  /-- The requests that were served, with the names of their connections. -/
  served : List (String × Served) := []
  next : Trial
  deriving Repr

/-- What a script brings about. -/
structure Played where
  answers : List Answer
  /-- The requests that were served, in the order in which that happened. -/
  served : List (String × Served)
  final : Trial
  deriving Repr

/-- A script that goes on after a turn. -/
def Turn.followedBy (turn : Turn) (rest : Played) : Played :=
  ⟨turn.answer :: rest.answers, turn.served ++ rest.served, rest.final⟩

/-- The event of a received stop signal. -/
def signalReceived : Log.Event :=
  ⟨.info, "echo_target::lifecycle::signals", "Shutdown signal received", []⟩

/-- Changes the channel of the stop signal; the instance stops if its receiver learns
anything. -/
def changeChannel (trial : Trial) (change : StopSignal.Channel → StopSignal.Channel) : Trial :=
  let channel := change trial.channel
  let host :=
    if (trial.receiver.receive channel).1.endsWaiting then trial.host.stop else trial.host
  { trial with channel := channel, host := host }

/-- Sends the stop signal within the program. -/
def trigger (trial : Trial) : Trial :=
  trial.changeChannel fun channel => { channel with sent := channel.sent + 1 }

/-- Gives up a handle. -/
def dropHandle (trial : Trial) : Trial :=
  trial.changeChannel fun channel => { channel with openHandles := channel.openHandles - 1 }

/-- Sends the stop signal to the process; only the first one counts. -/
def signal (trial : Trial) : Trial :=
  if trial.signalled then trial
  else
    let host := { trial.host with events := trial.host.events ++ [signalReceived] }
    { trial with host := host, signalled := true }.trigger

/-- A turn that only concerns the connections. -/
def turn (trial : Trial) (answer : Answer) (step : List (String × Served) × Host) : Turn :=
  ⟨answer, step.1, { trial with host := step.2 }⟩

/-- A step over a connection, which must exist. -/
def onLine (trial : Trial) (name : String) (step : Line → Turn) : Except NoConnection Turn :=
  match trial.host.line? name with
  | none => .error ⟨name⟩
  | some line => .ok (step line)

/-- Performs a step. -/
def perform (trial : Trial) : Step → Except NoConnection Turn
  | .connect name =>
    match trial.link, trial.host.stopping with
    | .down, _ => .ok { answer := .unreachable, next := trial }
    | .up, true => .ok { answer := .refused, next := trial }
    | .up, false => .ok (trial.turn .connected (trial.host.connect name))
  | .send name _ => trial.onLine name fun _ => { answer := .sent, next := trial }
  | .read name part => trial.onLine name fun line =>
    trial.turn .done (trial.host.read name line part)
  | .receive name => trial.onLine name fun line =>
    let (delivery, host) := trial.host.receive name line
    trial.turn (.received delivery) ([], host)
  | .close name => trial.onLine name fun _ => trial.turn .closed (trial.host.leave name)
  | .wait milliseconds => .ok (trial.turn .done (trial.host.wait milliseconds))
  | .trigger => .ok { answer := .done, next := trial.trigger }
  | .dropHandle => .ok { answer := .done, next := trial.dropHandle }
  | .signal => .ok { answer := .done, next := trial.signal }
  | .awaitExit =>
    .ok { answer := if trial.host.hasStopped then .stopped else .running, next := trial }
  | .closeOutput =>
    .ok { answer := .done, next := { trial with readUpTo := some trial.host.sink.blocks.length } }

/-- Plays a script. -/
def play (trial : Trial) : List Step → Except NoConnection Played
  | [] => .ok ⟨[], [], trial⟩
  | step :: steps =>
    match trial.perform step with
    | .error fault => .error fault
    | .ok turn => (turn.next.play steps).map turn.followedBy

/-- What was read of the output. -/
def output (trial : Trial) : String :=
  match trial.readUpTo with
  | none => trial.host.sink.printed
  | some count => Sink.printed ⟨trial.host.sink.blocks.take count⟩

end Trial

end EchoBackend
