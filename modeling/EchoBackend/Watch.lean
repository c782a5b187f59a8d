/-
# Watching for the stop signal

An instance is handed a receiver of the stop signal.  Once it serves it waits on that receiver,
and it stops at the first look that tells it anything at all, whatever that is.  The receiver is
its own: others can send, and do what they like with handles and with their own receivers.
-/
import EchoBackend.StopSignal

namespace EchoBackend

/-- How far an instance has come. -/
inductive Watch.Stage where
  /-- It has its receiver but does not wait yet. -/
  | starting
  | waiting
  | stopped
  deriving DecidableEq, Repr

/-- An instance, as far as the stop signal is concerned. -/
structure Watch where
  /-- All channels, handles and receivers. -/
  signals : StopSignal.State
  /-- The receiver that was handed to the instance. -/
  receiver : Nat
  stage : Watch.Stage := .starting
  deriving DecidableEq, Repr

namespace Watch

/-! ## Actions -/

/-- What can happen, in any order. -/
inductive Action where
  /-- Somebody does something with handles and receivers. -/
  | signal (action : StopSignal.Action)
  /-- The instance begins to wait. -/
  | begin
  /-- The instance, if it waits, looks whether it still has to. -/
  | look
  deriving DecidableEq, Repr

/-- Whether an action uses a receiver. -/
def uses (receiver : Nat) : StopSignal.Action → Bool
  | .receive number => number == receiver
  | .dropReceiver number => number == receiver
  | _ => false

/-- Whether an answer ends the waiting. -/
def endsWaiting : StopSignal.Answer → Bool
  | .received reception => reception.endsWaiting
  | _ => false

/-- Looks for a message, and stops unless it has to wait. -/
def look (watch : Watch) : Watch :=
  let (answer, signals) := watch.signals.act (.receive watch.receiver)
  { watch with
    signals := signals
    stage := if endsWaiting answer then .stopped else .waiting }

/-- Performs an action.  Nobody else uses the receiver of the instance. -/
def act (watch : Watch) : Action → Watch
  | .signal action =>
    if uses watch.receiver action then watch
    else { watch with signals := (watch.signals.act action).2 }
  | .begin => if watch.stage = .starting then { watch with stage := .waiting } else watch
  | .look => if watch.stage = .waiting then watch.look else watch

/-- Performs actions one after the other. -/
def run (watch : Watch) (actions : List Action) : Watch := actions.foldl act watch

end Watch

end EchoBackend
