/-
# Stop signals

A stop signal is a broadcast: handles send it, receivers learn of it.  A channel keeps
only its newest message, so a receiver that was passed by is first told how many messages
it missed.  A channel is represented by two counts, what was sent and how many handles
are open; a receiver by its channel and by how much of what was sent is behind it.
-/
namespace EchoBackend

namespace StopSignal

/-! ## Channels and receivers -/

/-- A broadcast channel. -/
structure Channel where
  /-- How many messages were sent. -/
  sent : Nat := 0
  /-- How many handles can still send. -/
  openHandles : Nat := 1
  deriving DecidableEq, Repr, Inhabited

/-- A receiver, subscribed to one channel. -/
structure Receiver where
  channel : Nat
  /-- How many of the messages sent lie behind this receiver. -/
  passed : Nat
  deriving DecidableEq, Repr, Inhabited

/-- What a receiver learns when it looks without waiting. -/
inductive Reception where
  /-- The stop message. -/
  | stop
  /-- Nothing has come yet. -/
  | empty
  /-- Nothing is left and nothing can come any more. -/
  | closed
  /-- So many messages passed by unread. -/
  | lagged (missed : Nat)
  deriving DecidableEq, Repr

/-- How many messages a receiver has before it. -/
def Receiver.unread (receiver : Receiver) (channel : Channel) : Nat :=
  channel.sent - receiver.passed

/-- Looks for a message: what is learned, and the receiver afterwards. -/
def Receiver.receive (receiver : Receiver) (channel : Channel) : Reception × Receiver :=
  match receiver.unread channel with
  | 0 => (if channel.openHandles = 0 then .closed else .empty, receiver)
  | 1 => (.stop, { receiver with passed := channel.sent })
  | missed + 1 => (.lagged missed, { receiver with passed := channel.sent - 1 })

/-- Waiting ends as soon as there is anything to learn. -/
def Reception.endsWaiting : Reception → Bool
  | .empty => false
  | _ => true

/-! ## Runs -/

/-- All channels, handles and receivers ever made.  Handles and receivers are numbered in
order of creation, each kind on its own; a dropped one leaves an empty place. -/
structure State where
  channels : List Channel
  /-- The channel of each handle. -/
  handles : List (Option Nat)
  receivers : List (Option Receiver)
  deriving DecidableEq, Repr

/-- One channel with one handle and no receiver. -/
def State.initial : State := ⟨[{}], [some 0], []⟩

/-- What can be done with handles and receivers, named by number. -/
inductive Action where
  | new
  | clone (handle : Nat)
  | subscribe (handle : Nat)
  | trigger (handle : Nat)
  | dropHandle (handle : Nat)
  | dropReceiver (receiver : Nat)
  | receive (receiver : Nat)
  deriving DecidableEq, Repr

/-- What an action answers. -/
inductive Answer where
  | newHandle (number : Nat)
  | newReceiver (number : Nat)
  | triggered
  | dropped
  | received (reception : Reception)
  /-- The handle or receiver named does not exist, or was dropped. -/
  | unknown
  deriving DecidableEq, Repr

namespace State

/-- The channel number of a live handle. -/
def channelOf? (state : State) (handle : Nat) : Option Nat := (state.handles[handle]?).join

/-- A live receiver. -/
def receiver? (state : State) (receiver : Nat) : Option Receiver :=
  (state.receivers[receiver]?).join

/-- A channel by its number. -/
def channel (state : State) (number : Nat) : Channel :=
  (state.channels[number]?).getD { openHandles := 0 }

/-- Changes one channel. -/
def updateChannel (state : State) (number : Nat) (change : Channel → Channel) : State :=
  { state with channels := state.channels.modify number change }

/-- Performs one action. -/
def act (state : State) : Action → Answer × State
  | .new =>
    (.newHandle state.handles.length,
      { state with
        channels := state.channels ++ [{}]
        handles := state.handles ++ [some state.channels.length] })
  | .clone handle =>
    match state.channelOf? handle with
    | none => (.unknown, state)
    | some number =>
      let state := state.updateChannel number fun c => { c with openHandles := c.openHandles + 1 }
      (.newHandle state.handles.length, { state with handles := state.handles ++ [some number] })
  | .subscribe handle =>
    match state.channelOf? handle with
    | none => (.unknown, state)
    | some number =>
      (.newReceiver state.receivers.length,
        { state with
          receivers := state.receivers ++ [some ⟨number, (state.channel number).sent⟩] })
  | .trigger handle =>
    match state.channelOf? handle with
    | none => (.unknown, state)
    | some number =>
      (.triggered, state.updateChannel number fun c => { c with sent := c.sent + 1 })
  | .dropHandle handle =>
    match state.channelOf? handle with
    | none => (.unknown, state)
    | some number =>
      let state := state.updateChannel number fun c => { c with openHandles := c.openHandles - 1 }
      (.dropped, { state with handles := state.handles.set handle none })
  | .dropReceiver receiver =>
    match state.receiver? receiver with
    | none => (.unknown, state)
    | some _ => (.dropped, { state with receivers := state.receivers.set receiver none })
  | .receive receiver =>
    match state.receiver? receiver with
    | none => (.unknown, state)
    | some r =>
      let (reception, after) := r.receive (state.channel r.channel)
      (.received reception, { state with receivers := state.receivers.set receiver (some after) })

/-- Performs actions one after the other and collects the answers. -/
def run (state : State) : List Action → List Answer × State
  | [] => ([], state)
  | action :: actions =>
    let (answer, next) := state.act action
    let (answers, final) := next.run actions
    (answer :: answers, final)

end State

end StopSignal

end EchoBackend
