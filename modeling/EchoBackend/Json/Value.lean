/-
# Reading values of a known type

Where a value of one type is asked for and another stands there, the other value is read
far enough to name it, so that what is reported is a disagreement about types only if the
text is JSON up to that point.
-/
import EchoBackend.Json.Number
import EchoBackend.Json.Text

namespace EchoBackend

namespace Json

/-- Names the value that begins at the head. -/
def foundAt : Bytes → Except Fault Found
  | [] => .error .ended
  | byte :: rest =>
    if byte == 0x22 then (readText rest).map fun (text, _) => .string text
    else if byte == 0x2D || isDigit byte then
      (readNumber (byte :: rest)).map fun (number, _) => number.found
    else if byte == 0x6E then (readWord [0x75, 0x6C, 0x6C] rest).map fun _ => .null
    else if byte == 0x74 then (readWord [0x72, 0x75, 0x65] rest).map fun _ => .boolean true
    else if byte == 0x66 then (readWord [0x61, 0x6C, 0x73, 0x65] rest).map fun _ => .boolean false
    else if byte == 0x5B then .ok .list
    else if byte == 0x7B then .ok .object
    else .error .malformed

/-- The fault of a value of the wrong type at the head. -/
def unexpected (expected : String) (bytes : Bytes) : Fault :=
  match foundAt bytes with
  | .error fault => fault
  | .ok found => .mismatch (.invalidType found expected)

/-! ## Texts -/

/-- Reads a text. -/
def readString (bytes : Bytes) : Reading String :=
  match skipBlanks bytes with
  | [] => .error .ended
  | byte :: rest =>
    if byte == 0x22 then
      match readText rest with
      | .error fault => .error fault
      | .ok (text, rest) => .ok (String.ofList text, rest)
    else .error (unexpected "a string" (byte :: rest))

/-- A text that was read is gone. -/
theorem length_readString_lt {bytes rest : Bytes} {text : String}
    (h : readString bytes = .ok (text, rest)) : rest.length < bytes.length := by
  unfold readString at h
  have hblanks := length_skipBlanks_le bytes
  split at h
  · contradiction
  · rename_i byte tail hbytes
    split at h
    · split at h
      · contradiction
      · rename_i value last hlast
        simp only [Except.ok.injEq, Prod.mk.injEq] at h
        have := length_readTextOnto_lt hlast
        simp only [hbytes, List.length_cons] at hblanks
        rw [← h.2]
        omega
    · contradiction

/-! ## Ports -/

/-- Reads an integer of 16 bits. -/
def readPort (bytes : Bytes) : Reading UInt16 :=
  match skipBlanks bytes with
  | [] => .error .ended
  | byte :: rest =>
    if byte == 0x2D || isDigit byte then
      match readNumber (byte :: rest) with
      | .error fault => .error fault
      | .ok (.integer value, last) =>
        if 0 ≤ value && value < 65536 then .ok (UInt16.ofNat value.toNat, last)
        else .error (.mismatch (.invalidValue (.integer value) "u16"))
      | .ok (number, _) => .error (.mismatch (.invalidType number.found "u16"))
    else .error (unexpected "u16" (byte :: rest))

/-- A number that was read is gone. -/
theorem length_readPort_lt {bytes rest : Bytes} {port : UInt16}
    (h : readPort bytes = .ok (port, rest)) : rest.length < bytes.length := by
  unfold readPort at h
  have hblanks := length_skipBlanks_le bytes
  split at h
  · contradiction
  · rename_i byte tail hbytes
    rw [hbytes] at hblanks
    split at h
    · split at h
      · contradiction
      · rename_i value last hlast
        split at h
        · simp only [Except.ok.injEq, Prod.mk.injEq] at h
          have := length_readNumber_lt hlast
          rw [← h.2]
          omega
        · contradiction
      · contradiction
    · contradiction

end Json

end EchoBackend
