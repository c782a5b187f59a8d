/-
# Server identities

Every instance names itself after the port it listens on.  Two ports have names of
their own; all others are named by their number.
-/
namespace EchoBackend

/-- The name by which an instance introduces itself. -/
structure Identity where
  label : String
  deriving DecidableEq, Repr, Inhabited

namespace Identity

/-- The name that goes with a port. -/
def ofPort (port : UInt16) : Identity :=
  match port.toNat with
  | 9001 => ⟨"api-a"⟩
  | 9002 => ⟨"api-b"⟩
  | number => ⟨"api-" ++ number.repr⟩

instance : ToString Identity := ⟨label⟩

end Identity

/-! ## Targets -/

/-- What an instance serves as: a port and the identity that goes with it. -/
structure Target where
  port : UInt16
  identity : Identity
  deriving DecidableEq, Repr, Inhabited

namespace Target

/-- The target on a port, under the identity of that port. -/
def ofPort (port : UInt16) : Target := ⟨port, Identity.ofPort port⟩

/-- A target keeps its port. -/
@[simp] theorem port_ofPort (port : UInt16) : (ofPort port).port = port := rfl

/-- A target carries the identity of its port. -/
@[simp] theorem identity_ofPort (port : UInt16) :
    (ofPort port).identity = Identity.ofPort port := rfl

end Target

end EchoBackend
