/-
# Passing over values

A value of no interest is passed over from its first byte to its last, without a limit on
how deep it is nested: the lists and objects that are still open are kept in a list,
innermost first.
-/
import EchoBackend.Json.Number
import EchoBackend.Json.Text

namespace EchoBackend

namespace Json

/-- A list or object that is still open. -/
inductive Frame where
  | list
  | object
  deriving DecidableEq, Repr

namespace Frame

/-- The frame that a byte opens. -/
def opened? (byte : UInt8) : Option Frame :=
  if byte == 0x5B then some list else if byte == 0x7B then some object else none

/-- The byte that closes a frame. -/
def close : Frame → UInt8
  | list => 0x5D
  | object => 0x7D

end Frame

/-- Passes over the name of a member and the colon after it. -/
def skipName (bytes : Bytes) : Except Fault Bytes :=
  match skipBlanks bytes with
  | [] => .error .ended
  | byte :: rest =>
    if byte == 0x22 then
      match skipText rest with
      | .error fault => .error fault
      | .ok rest => readByte 0x3A (skipBlanks rest)
    else .error .malformed

/-- Passes over what stands before a value in a frame: in an object, its name. -/
def Frame.skipName : Frame → Bytes → Except Fault Bytes
  | list, bytes => .ok bytes
  | object, bytes => Json.skipName bytes

/-- Passes over a value that is neither a list nor an object, `byte` being its first. -/
def skipScalar (byte : UInt8) (rest : Bytes) : Except Fault Bytes :=
  if byte == 0x22 then skipText rest
  else if byte == 0x2D || isDigit byte then skipNumber (byte :: rest)
  else if byte == 0x6E then readWord [0x75, 0x6C, 0x6C] rest
  else if byte == 0x74 then readWord [0x72, 0x75, 0x65] rest
  else if byte == 0x66 then readWord [0x61, 0x6C, 0x73, 0x65] rest
  else .error .malformed

/-- The name of a member is gone once it was passed over. -/
theorem length_skipName_lt {bytes rest : Bytes} (h : skipName bytes = .ok rest) :
    rest.length < bytes.length := by
  unfold skipName at h
  have hblanks := length_skipBlanks_le bytes
  split at h
  · contradiction
  · rename_i byte tail hbytes
    split at h
    · split at h
      · contradiction
      · rename_i last hlast
        have := length_skipText_lt hlast
        have := length_skipBlanks_le last
        have := length_readByte h
        simp only [hbytes, List.length_cons] at hblanks
        omega
    · contradiction

/-- What stands before a value is no longer there once it was passed over. -/
theorem Frame.length_skipName_le {frame : Frame} {bytes rest : Bytes}
    (h : frame.skipName bytes = .ok rest) : rest.length ≤ bytes.length := by
  cases frame with
  | list =>
    injection h with h
    simp [h]
  | object => exact Nat.le_of_lt (length_skipName_lt h)

/-- A value that was passed over is gone. -/
theorem length_skipScalar_le {byte : UInt8} {bytes rest : Bytes}
    (h : skipScalar byte bytes = .ok rest) : rest.length ≤ bytes.length := by
  unfold skipScalar at h
  split at h
  · exact Nat.le_of_lt (length_skipText_lt h)
  · split at h
    · exact Nat.le_of_lt_succ (length_skipNumber_lt h)
    · split at h
      · exact length_readWord_le h
      · split at h
        · exact length_readWord_le h
        · split at h
          · exact length_readWord_le h
          · contradiction

/-- Passes over the rest of a value whose open frames are given.  If a value is `due`, it
begins next; otherwise one has just ended. -/
def skipWithin (due : Bool) (frames : List Frame) (bytes : Bytes) : Except Fault Bytes :=
  if due then
    match _head : skipBlanks bytes with
    | [] => .error .ended
    | byte :: rest =>
      match Frame.opened? byte with
      | none =>
        match _scalar : skipScalar byte rest with
        | .error fault => .error fault
        | .ok rest => skipWithin false frames rest
      | some frame =>
        match _first : skipBlanks rest with
        | [] => .error .ended
        | next :: after =>
          if next == frame.close then skipWithin false frames after
          else
            match _name : frame.skipName (next :: after) with
            | .error fault => .error fault
            | .ok inner => skipWithin true (frame :: frames) inner
  else
    match frames with
    | [] => .ok bytes
    | frame :: outer =>
      match _head : skipBlanks bytes with
      | [] => .error .ended
      | byte :: rest =>
        if byte == 0x2C then
          match _name : frame.skipName rest with
          | .error fault => .error fault
          | .ok rest => skipWithin true (frame :: outer) rest
        else if byte == frame.close then skipWithin false outer rest
        else .error .malformed
termination_by bytes.length
decreasing_by
  all_goals
    have := length_skipBlanks_le bytes
    simp only [_head, List.length_cons] at this
  · have := length_skipScalar_le _scalar
    omega
  · have := length_skipBlanks_le rest
    simp only [_first, List.length_cons] at this
    omega
  · have := length_skipBlanks_le rest
    have := Frame.length_skipName_le _name
    simp only [_first, List.length_cons] at *
    omega
  · have := Frame.length_skipName_le _name
    omega
  · omega

/-- What was passed over is gone. -/
theorem length_skipWithin_le {due : Bool} {frames : List Frame} {bytes rest : Bytes}
    (h : skipWithin due frames bytes = .ok rest) : rest.length ≤ bytes.length := by
  fun_induction skipWithin due frames bytes with
  | case1 => contradiction
  | case2 => contradiction
  | case3 frames bytes byte tail hhead _ after hscalar ih =>
    have := length_skipBlanks_le bytes
    have := length_skipScalar_le hscalar
    have := ih h
    simp only [hhead, List.length_cons] at *
    omega
  | case4 => contradiction
  | case5 frames bytes byte tail hhead frame _ next after hfirst _ ih =>
    have := length_skipBlanks_le bytes
    have := length_skipBlanks_le tail
    have := ih h
    simp only [hhead, hfirst, List.length_cons] at *
    omega
  | case6 => contradiction
  | case7 frames bytes byte tail hhead frame _ next after hfirst _ inner hname ih =>
    have := length_skipBlanks_le bytes
    have := length_skipBlanks_le tail
    have := Frame.length_skipName_le hname
    have := ih h
    simp only [hhead, hfirst, List.length_cons] at *
    omega
  | case8 =>
    injection h with h
    simp [h]
  | case9 => contradiction
  | case10 => contradiction
  | case11 due bytes _ frame outer byte tail hhead _ inner hname ih =>
    have := length_skipBlanks_le bytes
    have := Frame.length_skipName_le hname
    have := ih h
    simp only [hhead, List.length_cons] at *
    omega
  | case12 due bytes _ frame outer byte tail hhead _ _ ih =>
    have := length_skipBlanks_le bytes
    have := ih h
    simp only [hhead, List.length_cons] at *
    omega
  | case13 => contradiction

/-- Passes over a value. -/
def skipValue (bytes : Bytes) : Except Fault Bytes := skipWithin true [] bytes

/-- A value that was passed over is gone. -/
theorem length_skipValue_le {bytes rest : Bytes} (h : skipValue bytes = .ok rest) :
    rest.length ≤ bytes.length := length_skipWithin_le h

end Json

end EchoBackend
