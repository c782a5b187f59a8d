/-
# Quoted text in messages

Inside quotes, what could be mistaken is written as an escape: the quote and the backslash,
a few control characters by letter, and every other character that is not shown as it is
by the number of its code point.
-/
import EchoBackend.Text.Hex
import EchoBackend.Text.Printable
import EchoBackend.Text.Utf8

namespace EchoBackend

namespace Escaped

/-- The hexadecimal digits of a code point, without leading zeros. -/
def codeDigits (code : Nat) : List Char :=
  match (Hex.digits code 6).dropWhile (· == '0') with
  | [] => ['0']
  | digits => digits

/-- One character inside quotes. -/
def escape (c : Char) : List Char :=
  if c = '\x00' then ['\\', '0']
  else if c = '\t' then ['\\', 't']
  else if c = '\r' then ['\\', 'r']
  else if c = '\n' then ['\\', 'n']
  else if c = '"' then ['\\', '"']
  else if c = '\\' then ['\\', '\\']
  else if Printable.isShown c then [c]
  else ['\\', 'u', '\x7b'] ++ codeDigits c.toNat ++ ['\x7d']

/-- A text in quotes. -/
def quote (text : List Char) : List Char := '"' :: (text.flatMap escape ++ ['"'])

end Escaped

end EchoBackend
