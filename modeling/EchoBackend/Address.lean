/-
# Addresses

IPv4 addresses, their dotted spelling, and the `host:port` pairs that listeners
are bound to.
-/
namespace EchoBackend

/-! ## Hosts -/

/-- An IPv4 address, as its four octets from left to right. -/
structure IPv4 where
  a : UInt8
  b : UInt8
  c : UInt8
  d : UInt8
  deriving DecidableEq, Repr, Inhabited

namespace IPv4

/-- The address `127.0.0.1`. -/
def localhost : IPv4 := ⟨127, 0, 0, 1⟩

/-- The address `0.0.0.0`, which stands for every local address at once. -/
def unspecified : IPv4 := ⟨0, 0, 0, 0⟩

/-- The loopback block is `127.0.0.0/8`. -/
def isLoopback (ip : IPv4) : Bool := ip.a == 127

/-- The dotted spelling, each octet in decimal without leading zeros. -/
def toString (ip : IPv4) : String :=
  ".".intercalate [ip.a.toNat.repr, ip.b.toNat.repr, ip.c.toNat.repr, ip.d.toNat.repr]

instance : ToString IPv4 := ⟨toString⟩

/-- Reads one octet: one to three digits, no superfluous leading zero, at most 255. -/
def octet? (digits : List Char) : Option UInt8 :=
  let value := Nat.ofDigitChars 10 digits 0
  if digits.all Char.isDigit && value < 256 && value.repr.toList == digits then
    some (UInt8.ofNat value)
  else none

/-- Reads the dotted spelling. -/
def ofString? (text : String) : Option IPv4 :=
  match text.toList.splitOn '.' with
  | [w, x, y, z] => do
    pure ⟨← octet? w, ← octet? x, ← octet? y, ← octet? z⟩
  | _ => none

end IPv4

/-! ## Socket addresses -/

/-- A host together with a port on it. -/
structure SocketAddress where
  host : IPv4
  port : UInt16
  deriving DecidableEq, Repr, Inhabited

namespace SocketAddress

/-- The spelling `host:port`. -/
def toString (address : SocketAddress) : String :=
  address.host.toString ++ ":" ++ address.port.toNat.repr

instance : ToString SocketAddress := ⟨toString⟩

end SocketAddress

end EchoBackend
