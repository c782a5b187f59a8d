/-
# Percent escapes

An escape is a percent sign with two hexadecimal digits and stands for one byte.  A
percent sign that begins no escape stands for itself.
-/
import EchoBackend.Text.Hex
import EchoBackend.Text.Utf8

namespace EchoBackend

namespace Percent

/-- The byte that three bytes stand for if they are an escape. -/
def escape? (percent high low : UInt8) : Option UInt8 :=
  if percent == 0x25 then do
    let upper ← Hex.value? high
    let lower ← Hex.value? low
    pure (16 * upper + lower)
  else none

/-- Replaces escapes, scanning from the left; `done` holds the bytes so far, newest first. -/
def decodeOnto (done : Bytes) : Bytes → Bytes
  | [] => done.reverse
  | first :: high :: low :: rest =>
    match escape? first high low with
    | some byte => decodeOnto (byte :: done) rest
    | none => decodeOnto (first :: done) (high :: low :: rest)
  | byte :: rest => decodeOnto (byte :: done) rest

/-- Replaces every escape by its byte, once, from left to right. -/
def decode (bytes : Bytes) : Bytes := decodeOnto [] bytes

end Percent

end EchoBackend
