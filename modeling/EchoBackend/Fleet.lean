/-
# Several instances on one machine

Instances share the ports of their machine with each other and with other programs.  Each
picks a port, takes it in a second step, and gives it free when it stops; in between anybody
else may act.
-/
import EchoBackend.Startup

namespace EchoBackend

/-- What an instance holds while it serves. -/
structure Listener where
  address : SocketAddress
  /-- The identity under which the instance serves there. -/
  identity : Identity
  deriving DecidableEq, Repr

/-- An instance, as far as its port is concerned. -/
structure Member where
  settings : Settings
  /-- What it was told to serve as when it last picked a port. -/
  target : Option Target := none
  /-- What it holds, if it serves. -/
  listener : Option Listener := none
  deriving DecidableEq, Repr

/-- Gives free what an instance holds. -/
def Member.withdraw (member : Member) (table : PortTable) : PortTable :=
  match member.listener with
  | none => table
  | some listener => table.release listener.address

/-- Some instances, and the addresses that are held by them and by others. -/
structure Fleet where
  members : List Member
  /-- The addresses that other programs hold. -/
  outside : List SocketAddress := []
  table : PortTable := {}
  deriving DecidableEq, Repr

namespace Fleet

/-! ## Actions -/

/-- What can happen; members are named by number. -/
inductive Action where
  /-- A member checks its settings and picks a port. -/
  | prepare (member : Nat)
  /-- A member takes the port that it picked. -/
  | bind (member : Nat)
  /-- A member gives its port free. -/
  | stop (member : Nat)
  /-- Another program takes an address. -/
  | hold (address : SocketAddress)
  /-- Another program gives an address free. -/
  | release (address : SocketAddress)
  deriving DecidableEq, Repr

/-- What an action answers. -/
inductive Answer where
  | prepared (target : Target)
  | bound (address : SocketAddress)
  | failed (failure : Startup.Failure)
  | stopped
  | held
  | refused (cause : SystemError)
  | released
  /-- There was nothing to do. -/
  | idle
  deriving DecidableEq, Repr

/-- Puts a member in the place of the one with that number, and brings the table up to date. -/
def update (fleet : Fleet) (number : Nat) (member : Member) (table : PortTable) : Fleet :=
  { fleet with members := fleet.members.set number member, table := table }

/-- A member picks a port. -/
def prepare (fleet : Fleet) (number : Nat) (member : Member) : Answer × Fleet :=
  match Startup.prepare fleet.table member.settings with
  | .error failure => (.failed failure, fleet)
  | .ok target =>
    (.prepared target, fleet.update number { member with target := some target } fleet.table)

/-- A member takes the port that it picked.  If it served before, what it held until then is
given free once it has the new port. -/
def bind (fleet : Fleet) (number : Nat) (member : Member) : Answer × Fleet :=
  match member.target with
  | none => (.idle, fleet)
  | some target =>
    match Startup.bind fleet.table member.settings.host target with
    | .error failure => (.failed failure, fleet)
    | .ok (address, table) =>
      (.bound address,
        fleet.update number { member with listener := some ⟨address, target.identity⟩ }
          (member.withdraw table))

/-- A member stops serving. -/
def stop (fleet : Fleet) (number : Nat) (member : Member) : Answer × Fleet :=
  if member.listener.isNone then (.idle, fleet)
  else
    (.stopped,
      fleet.update number { member with listener := none } (member.withdraw fleet.table))

/-- Performs an action. -/
def act (fleet : Fleet) : Action → Answer × Fleet
  | .prepare number =>
    match fleet.members[number]? with
    | none => (.idle, fleet)
    | some member => fleet.prepare number member
  | .bind number =>
    match fleet.members[number]? with
    | none => (.idle, fleet)
    | some member => fleet.bind number member
  | .stop number =>
    match fleet.members[number]? with
    | none => (.idle, fleet)
    | some member => fleet.stop number member
  | .hold address =>
    match fleet.table.bind address with
    | .error cause => (.refused cause, fleet)
    | .ok table => (.held, { fleet with outside := address :: fleet.outside, table := table })
  | .release address =>
    if fleet.outside.contains address then
      (.released,
        { fleet with
          outside := fleet.outside.filter (· != address)
          table := fleet.table.release address })
    else (.idle, fleet)

/-- Performs actions one after the other. -/
def run (fleet : Fleet) : List Action → List Answer × Fleet
  | [] => ([], fleet)
  | action :: actions =>
    let (answer, next) := fleet.act action
    let (answers, final) := next.run actions
    (answer :: answers, final)

/-! ## Views -/

/-- What a member was told to serve as when it last picked a port. -/
def target? (fleet : Fleet) (number : Nat) : Option Target :=
  fleet.members[number]?.bind Member.target

/-- What a member holds, if it serves. -/
def listener? (fleet : Fleet) (number : Nat) : Option Listener :=
  fleet.members[number]?.bind Member.listener

/-- Members that have not begun, on a machine on which nothing is held. -/
def initial (settings : List Settings) : Fleet where
  members := settings.map fun chosen => { settings := chosen }

end Fleet

end EchoBackend
