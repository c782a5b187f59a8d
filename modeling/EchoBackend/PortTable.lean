/-
# The table of held ports

Which addresses of this machine are held by listeners, whose they ever are.  An address
can be bound while no held address excludes it; binding adds it to the table, releasing
takes it out again.
-/
import EchoBackend.Address
import EchoBackend.SystemError

namespace EchoBackend

namespace IPv4

/-- This machine owns the loopback block, and the unspecified address stands for all it owns. -/
def isLocal (ip : IPv4) : Bool := ip.isLoopback || ip == unspecified

end IPv4

/-- Two addresses exclude each other if the ports agree and the hosts agree or one of
them is the unspecified address. -/
def SocketAddress.excludes (x y : SocketAddress) : Bool :=
  x.port == y.port &&
    (x.host == y.host || x.host == IPv4.unspecified || y.host == IPv4.unspecified)

/-- The addresses that are held at one moment. -/
structure PortTable where
  held : List SocketAddress := []
  deriving DecidableEq, Repr, Inhabited

namespace PortTable

/-! ## Binding -/

/-- Why an address cannot be bound now, if it cannot.  Port 0 asks for any free port and
is never taken. -/
def refusal? (table : PortTable) (address : SocketAddress) : Option SystemError :=
  if !address.host.isLocal then some .addressNotAvailable
  else if address.port != 0 && table.held.any address.excludes then some .addressInUse
  else none

/-- Whether an address can be bound now. -/
def isFree (table : PortTable) (address : SocketAddress) : Bool :=
  (table.refusal? address).isNone

/-- Binds an address, if it can be bound. -/
def bind (table : PortTable) (address : SocketAddress) : Except SystemError PortTable :=
  match table.refusal? address with
  | some error => .error error
  | none => .ok { held := address :: table.held }

/-- Whether exactly this address is held. -/
def holds (table : PortTable) (address : SocketAddress) : Bool :=
  table.held.contains address

/-- Gives an address free; nothing happens if it is not held. -/
def release (table : PortTable) (address : SocketAddress) : PortTable :=
  { held := table.held.filter (· != address) }

/-- An address is free exactly if binding it succeeds. -/
theorem isFree_iff_bind (table : PortTable) (address : SocketAddress) :
    table.isFree address = true ↔
      table.bind address = .ok { held := address :: table.held } := by
  unfold isFree bind
  cases table.refusal? address <;> simp

end PortTable

end EchoBackend
