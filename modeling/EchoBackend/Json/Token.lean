/-
# The smallest parts of JSON

Blanks between tokens, and the words that are spelled in one way only.
-/
import EchoBackend.Json.Fault

namespace EchoBackend

namespace Json

/-- The bytes that may stand between tokens. -/
def isBlank (byte : UInt8) : Bool :=
  byte == 0x20 || byte == 0x0A || byte == 0x09 || byte == 0x0D

/-- What follows the blanks at the head. -/
def skipBlanks (bytes : Bytes) : Bytes := bytes.dropWhile isBlank

/-- Nothing is skipped where no blank stands. -/
theorem skipBlanks_cons {byte : UInt8} (rest : Bytes) (h : isBlank byte = false) :
    skipBlanks (byte :: rest) = byte :: rest := by
  rw [skipBlanks, List.dropWhile_cons, if_neg (Bool.not_eq_true _ ▸ h)]

/-- Skipping blanks never makes the text longer. -/
theorem length_skipBlanks_le (bytes : Bytes) : (skipBlanks bytes).length ≤ bytes.length :=
  (List.dropWhile_suffix isBlank).length_le

/-- Reads the rest of a word, byte by byte. -/
def readWord : Bytes → Bytes → Except Fault Bytes
  | [], bytes => .ok bytes
  | _ :: _, [] => .error .ended
  | expected :: word, byte :: bytes =>
    if byte == expected then readWord word bytes else .error .malformed

/-- A word that was read is gone from the text. -/
theorem length_readWord_le {word bytes rest : Bytes} (h : readWord word bytes = .ok rest) :
    rest.length ≤ bytes.length := by
  fun_induction readWord word bytes with
  | case1 bytes =>
    injection h with h
    simp [h]
  | case2 => contradiction
  | case3 expected word byte bytes _ ih =>
    have := ih h
    simp only [List.length_cons]
    omega
  | case4 => contradiction

end Json

end EchoBackend
