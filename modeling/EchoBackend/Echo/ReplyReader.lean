/-
# Reading replies

A reply is read from a JSON object with its five members, in any order and among others
that are ignored, or from a list of its five values.  Faults are reported in the order in
which the text is read; what is missing is known only when the object ends.
-/
import EchoBackend.Echo.Reply
import EchoBackend.Json.Skip
import EchoBackend.Json.Value

namespace EchoBackend

namespace Echo

open Json

/-! ## Fields -/

/-- The members of a reply. -/
inductive Field where
  | server
  | port
  | endpoint
  | userId
  | path
  deriving DecidableEq, Repr

namespace Field

/-- The name of a member. -/
def name : Field → String
  | server => "server"
  | port => "port"
  | endpoint => "endpoint"
  | userId => "x_user_id"
  | path => "path"

/-- All members, in order. -/
def all : List Field := [server, port, endpoint, userId, path]

/-- The member of a name. -/
def ofName? (name : List Char) : Option Field := all.find? fun field => field.name.toList == name

/-- A member is found under its name. -/
theorem ofName?_name (field : Field) : ofName? field.name.toList = some field := by
  cases field <;> decide

end Field

/-! ## Drafts -/

/-- The members read so far. -/
structure Draft where
  server : Option String := none
  port : Option UInt16 := none
  endpoint : Option String := none
  userId : Option String := none
  path : Option String := none
  deriving DecidableEq, Repr

namespace Draft

/-- Whether a member was read. -/
def has (draft : Draft) : Field → Bool
  | .server => draft.server.isSome
  | .port => draft.port.isSome
  | .endpoint => draft.endpoint.isSome
  | .userId => draft.userId.isSome
  | .path => draft.path.isSome

/-- The first member, in order, that was not read. -/
def missing? (draft : Draft) : Option Field := Field.all.find? fun field => !draft.has field

/-- The reply that the members make. -/
def toReply (draft : Draft) : Except Fault Reply :=
  match draft with
  | ⟨some server, some port, some endpoint, some userId, some path⟩ =>
    .ok ⟨server, port, endpoint, userId, path⟩
  | draft =>
    .error (.mismatch (.missingField ((draft.missing?.map Field.name).getD "")))

/-- Reads the value of a member. -/
def read (draft : Draft) (field : Field) (bytes : Bytes) : Reading Draft :=
  match field with
  | .server => (readString bytes).onValue fun value => { draft with server := some value }
  | .port => (readPort bytes).onValue fun value => { draft with port := some value }
  | .endpoint => (readString bytes).onValue fun value => { draft with endpoint := some value }
  | .userId => (readString bytes).onValue fun value => { draft with userId := some value }
  | .path => (readString bytes).onValue fun value => { draft with path := some value }

/-- A member that was read is gone from the text. -/
theorem length_read_lt {draft next : Draft} {field : Field} {bytes rest : Bytes}
    (h : draft.read field bytes = .ok (next, rest)) : rest.length < bytes.length := by
  cases field <;> obtain ⟨value, hvalue, -⟩ := Reading.onValue_eq_ok h
  case port => exact length_readPort_lt hvalue
  all_goals exact length_readString_lt hvalue

end Draft

/-! ## Objects -/

/-- Reads the name of a member, after its opening quote, up to the value: the name must not
be that of a member that was read before. -/
def readName (draft : Draft) (bytes : Bytes) : Reading (Option Field) :=
  match readText bytes with
  | .error fault => .error fault
  | .ok (name, rest) =>
    let field := Field.ofName? name
    if field.any draft.has then .error (.mismatch (.duplicateField (String.ofList name)))
    else
      match readByte 0x3A (skipBlanks rest) with
      | .error fault => .error fault
      | .ok rest => .ok (field, rest)

/-- A name that was read is gone from the text. -/
theorem length_readName_lt {draft : Draft} {field : Option Field} {bytes rest : Bytes}
    (h : readName draft bytes = .ok (field, rest)) : rest.length < bytes.length := by
  unfold readName at h
  split at h
  · contradiction
  · rename_i name last hname
    dsimp only at h
    split at h
    · contradiction
    · split at h
      · contradiction
      · rename_i value hcolon
        simp only [Except.ok.injEq, Prod.mk.injEq] at h
        have := length_readTextOnto_lt hname
        have := length_skipBlanks_le last
        have := length_readByte hcolon
        rw [← h.2]
        omega

/-- What follows the comma between two members; before the first there is none. -/
def nextMember (first : Bool) (bytes : Bytes) : Except Fault Bytes :=
  if first then .ok bytes
  else
    match bytes with
    | 0x2C :: rest =>
      match skipBlanks rest with
      | [] => .error .ended
      | byte :: rest => .ok (byte :: rest)
    | _ => .error .malformed

/-- What follows a comma is no longer than the text. -/
theorem length_nextMember_le {first : Bool} {bytes rest : Bytes}
    (h : nextMember first bytes = .ok rest) : rest.length ≤ bytes.length := by
  unfold nextMember at h
  split at h
  · injection h with h
    simp [h]
  · split at h
    · rename_i tail
      have := length_skipBlanks_le tail
      split at h
      · contradiction
      · rename_i byte last hlast
        injection h with h
        rw [← h, ← hlast, List.length_cons]
        omega
    · contradiction

/-- Reads members up to the end of the object. -/
def readMembers (first : Bool) (draft : Draft) (bytes : Bytes) : Reading Draft :=
  match _head : skipBlanks bytes with
  | [] => .error .ended
  | byte :: tail =>
    if byte == 0x7D then .ok (draft, tail)
    else
      match _member : nextMember first (byte :: tail) with
      | .error fault => .error fault
      | .ok [] => .error .ended
      | .ok (mark :: text) =>
        if mark == 0x22 then
          match _name : readName draft text with
          | .error fault => .error fault
          | .ok (none, value) =>
            match _value : skipValue value with
            | .error fault => .error fault
            | .ok rest => readMembers false draft rest
          | .ok (some field, value) =>
            match _value : draft.read field value with
            | .error fault => .error fault
            | .ok (draft, rest) => readMembers false draft rest
        else .error .malformed
termination_by bytes.length
decreasing_by
  all_goals
    have := length_skipBlanks_le bytes
    have := length_nextMember_le _member
    have := length_readName_lt _name
    simp only [_head, List.length_cons] at *
  · have := length_skipValue_le _value
    omega
  · have := Draft.length_read_lt _value
    omega

/-! ## Lists -/

/-- What is expected of the whole text. -/
def expectation : String := "struct EchoResponse"

/-- Finds the beginning of an element of a list, `index` many having been read. -/
def nextElement (index : Nat) (bytes : Bytes) : Except Fault Bytes :=
  match skipBlanks bytes with
  | [] => .error .ended
  | byte :: rest =>
    if byte == 0x5D then
      .error (.mismatch (.invalidLength index (expectation ++ " with 5 elements")))
    else if index = 0 then .ok (byte :: rest)
    else if byte == 0x2C then
      match skipBlanks rest with
      | [] => .error .ended
      | byte :: rest => if byte == 0x5D then .error .malformed else .ok (byte :: rest)
    else .error .malformed

/-- Reads elements as the given members, `index` many having been read. -/
def readElements (draft : Draft) (index : Nat) : List Field → Bytes → Reading Draft
  | [], bytes => .ok (draft, bytes)
  | field :: fields, bytes =>
    match nextElement index bytes with
    | .error fault => .error fault
    | .ok value =>
      match draft.read field value with
      | .error fault => .error fault
      | .ok (draft, rest) => readElements draft (index + 1) fields rest

/-- Reads the end of a list, which must have no further elements. -/
def readListEnd (bytes : Bytes) : Except Fault Bytes := readByte 0x5D (skipBlanks bytes)

/-! ## Replies -/

/-- Reads a reply that begins with a given byte. -/
def readReplyFrom (byte : UInt8) (rest : Bytes) : Reading Reply :=
  if byte == 0x7B then
    match readMembers true {} rest with
    | .error fault => .error fault
    | .ok (draft, rest) => draft.toReply.map (·, rest)
  else if byte == 0x5B then
    match readElements {} 0 Field.all rest with
    | .error fault => .error fault
    | .ok (draft, rest) =>
      match draft.toReply, readListEnd rest with
      | .error fault, _ => .error fault
      | .ok _, .error fault => .error fault
      | .ok reply, .ok rest => .ok (reply, rest)
  else .error (unexpected expectation (byte :: rest))

/-- Reads the reply that a text consists of. -/
def Reply.ofJson (bytes : Bytes) : Except Fault Reply :=
  match skipBlanks bytes with
  | [] => .error .ended
  | byte :: rest =>
    match readReplyFrom byte rest with
    | .error fault => .error fault
    | .ok (reply, rest) => if (skipBlanks rest).isEmpty then .ok reply else .error .malformed

end Echo

end EchoBackend
