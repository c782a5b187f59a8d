/-
# Where UTF-8 breaks off

For bytes that are not UTF-8: where their first ill-formed part begins and how long it is,
or that they end in the middle of a character.
-/
import EchoBackend.Text.Utf8

namespace EchoBackend

namespace Utf8

/-- The first ill-formed part of some bytes. -/
structure Flaw where
  start : Nat
  /-- The number of bytes; none if the bytes end in the middle of a character. -/
  length : Option Nat
  deriving DecidableEq, Repr

/-- Looks for a flaw after `index` bytes, the last `taken` of which begin a character. -/
def flawFrom (pending : Option Pending) (index taken : Nat) : Bytes → Option Flaw
  | [] => pending.map fun _ => ⟨index - taken, none⟩
  | byte :: bytes =>
    match pending with
    | none =>
      if byte < 0x80 then flawFrom none (index + 1) 0 bytes
      else match lead? byte with
        | some begun => flawFrom (some begun) (index + 1) 1 bytes
        | none => some ⟨index, some 1⟩
    | some begun =>
      if within begun.low begun.high byte then
        if begun.needed = 1 then flawFrom none (index + 1) 0 bytes
        else
          flawFrom (some ⟨begun.bits, begun.needed - 1, 0x80, 0xBF⟩) (index + 1) (taken + 1) bytes
      else some ⟨index - taken, some taken⟩

/-- The first flaw, if there is one. -/
def flaw? (bytes : Bytes) : Option Flaw := flawFrom none 0 0 bytes

/-- A flaw in words. -/
def Flaw.message (flaw : Flaw) : String :=
  match flaw.length with
  | some length =>
    "invalid utf-8 sequence of " ++ length.repr ++ " bytes from index " ++ flaw.start.repr
  | none => "incomplete utf-8 byte sequence from index " ++ flaw.start.repr

end Utf8

end EchoBackend
