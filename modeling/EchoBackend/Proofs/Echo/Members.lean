/-
# Reading members

An object is read member by member: one of the reply's own members fills the draft, any other is
passed over, whatever the order, the blanks between the tokens and the spelling of names and texts.
The main statements are `Member.read`, for one member, and `Object.read`, for all of them.
-/
import EchoBackend.Echo.ReplyReader
import EchoBackend.Proofs.Json.Nesting
import Mathlib.Data.List.ReduceOption

namespace EchoBackend

namespace Echo

open Json

/-! ## Objects -/

/-- What may be written as the value of a member of a reply: its text in any spelling, or the digits
of its port. -/
def Field.Writes (reply : Reply) (bytes : Bytes) : Field → Prop
  | server => Quoted reply.server.toList bytes
  | port => bytes = Utf8.bytes reply.port.toNat.repr
  | endpoint => Quoted reply.endpoint.toList bytes
  | userId => Quoted reply.userId.toList bytes
  | path => Quoted reply.path.toList bytes

/-- A member of an object: one of the reply's own members, or one of another name with any value. -/
inductive Member (reply : Reply) : Option Field → Bytes → Prop
  | own {field : Field} {front value after : Bytes} (hname : Named field.name.toList front)
    (hvalue : field.Writes reply value) (hafter : Blanks after) :
    Member reply (some field) (front ++ (value ++ after))
  | other {name : List Char} {front value after : Bytes}
    (hother : ∀ field : Field, field.name.toList ≠ name) (hname : Named name front)
    (hvalue : IsValue value) (hafter : Blanks after) :
    Member reply none (front ++ (value ++ after))

/-- Members with commas between them, and which members of the reply they are. -/
inductive Members (reply : Reply) : List (Option Field) → Bytes → Prop
  | last {kind : Option Field} {bytes : Bytes} (h : Member reply kind bytes) :
    Members reply [kind] bytes
  | more {kind : Option Field} {kinds : List (Option Field)} {bytes rest : Bytes}
    (h : Member reply kind bytes) (hrest : Members reply kinds rest) :
    Members reply (kind :: kinds) (bytes ++ 0x2C :: rest)

/-- Objects, and which members of the reply they hold, in their order. -/
inductive Object (reply : Reply) : List (Option Field) → Bytes → Prop
  | empty {blanks : Bytes} (h : Blanks blanks) : Object reply [] (0x7B :: (blanks ++ [0x7D]))
  | members {kinds : List (Option Field)} {bytes : Bytes} (h : Members reply kinds bytes) :
    Object reply kinds (0x7B :: (bytes ++ [0x7D]))

variable {reply : Reply} {draft : Draft} {field : Field} {kind : Option Field}
  {kinds : List (Option Field)} {name : List Char} {bytes blanks before front value rest : Bytes}

/-! ## Filling in a draft -/

/-- A draft into which a member of a reply was filled in. -/
def Draft.fill (reply : Reply) (draft : Draft) : Field → Draft
  | .server => { draft with server := some reply.server }
  | .port => { draft with port := some reply.port }
  | .endpoint => { draft with endpoint := some reply.endpoint }
  | .userId => { draft with userId := some reply.userId }
  | .path => { draft with path := some reply.path }

/-- At first no member has been read. -/
theorem Draft.has_empty (field : Field) : Draft.has {} field = false := by
  cases field <;> rfl

/-- What was filled in has been read. -/
theorem Draft.has_fill (reply : Reply) (draft : Draft) (field other : Field) :
    (draft.fill reply field).has other = (draft.has other || other == field) := by
  cases field <;> cases other <;> simp [fill, has]

/-- Filling in a member leaves others to be read. -/
theorem Draft.not_has_fill (draft : Draft) (reply : Reply) {fields : List Field}
    (hfield : field ∉ fields) (h : ∀ other ∈ fields, draft.has other = false) :
    ∀ other ∈ fields, (draft.fill reply field).has other = false := by
  intro other hother
  have hne : other ≠ field := fun heq => hfield (heq ▸ hother)
  rw [has_fill, h other hother, Bool.false_or, beq_false_of_ne hne]

/-! ## Values -/

/-- Blanks in front of the value of a member do not matter. -/
theorem Draft.read_blanks (draft : Draft) (field : Field) (h : Blanks blanks) (rest : Bytes) :
    draft.read field (blanks ++ rest) = draft.read field rest := by
  have hstring : readString (blanks ++ rest) = readString rest := by
    unfold readString
    rw [skipBlanks_append h]
  have hport : readPort (blanks ++ rest) = readPort rest := by
    unfold readPort
    rw [skipBlanks_append h]
  cases field <;> simp only [Draft.read, hstring, hport]

/-- Whatever is written for a member is read as that member. -/
theorem Field.Writes.read (h : field.Writes reply value) (draft : Draft) (hstops : Stops rest) :
    draft.read field (value ++ rest) = .ok (draft.fill reply field, rest) := by
  cases field with
  | port =>
    rw [show value = Utf8.bytes reply.port.toNat.repr from h, Utf8.bytes, Draft.read,
      readPort_repr reply.port hstops]
    rfl
  | server | endpoint | userId | path =>
    rw [Draft.read, readString_quoted h, String.ofList_toList]
    rfl

/-- Values begin neither with a blank nor with the end of a list. -/
theorem Field.Writes.exists_cons (h : field.Writes reply value) :
    ∃ byte tail, value = byte :: tail ∧ isBlank byte = false ∧ (byte == 0x5D) = false := by
  have hquoted {text : List Char} (h : Quoted text value) :
      ∃ byte tail, value = byte :: tail ∧ isBlank byte = false ∧ (byte == 0x5D) = false := by
    obtain ⟨h⟩ := h
    exact ⟨0x22, _, rfl, by decide, by decide⟩
  cases field with
  | port =>
    obtain ⟨byte, tail, hcons, hdigit⟩ := numeral_eq_cons reply.port.toNat
    refine ⟨byte, tail, ?_, isBlank_of_isDigit hdigit, ?_⟩
    · rw [show value = Utf8.bytes reply.port.toNat.repr from h, Utf8.bytes, encode_repr, hcons]
    · rw [beq_eq_false_iff_ne]
      rintro rfl
      contradiction
  | server | endpoint | userId | path => exact hquoted h

/-! ## Members -/

/-- Reading members, without the facts that only its termination needs. -/
theorem readMembers_eq (first : Bool) (draft : Draft) (bytes : Bytes) :
    readMembers first draft bytes =
      match skipBlanks bytes with
      | [] => .error .ended
      | byte :: tail =>
        if byte == 0x7D then .ok (draft, tail)
        else
          match nextMember first (byte :: tail) with
          | .error fault => .error fault
          | .ok [] => .error .ended
          | .ok (mark :: text) =>
            if mark == 0x22 then
              match readName draft text with
              | .error fault => .error fault
              | .ok (none, value) =>
                match skipValue value with
                | .error fault => .error fault
                | .ok rest => readMembers false draft rest
              | .ok (some field, value) =>
                match draft.read field value with
                | .error fault => .error fault
                | .ok (draft, rest) => readMembers false draft rest
            else .error .malformed := by
  rw [readMembers]
  split
  case h_1 hhead => rw [hhead]
  case h_2 hhead =>
    rw [hhead]
    dsimp only
    refine if_congr Iff.rfl rfl ?_
    split
    case h_1 hnext => rw [hnext]
    case h_2 hnext => rw [hnext]
    case h_3 hnext =>
      rw [hnext]
      dsimp only
      refine if_congr Iff.rfl ?_ rfl
      split
      case h_1 hname => rw [hname]
      case h_2 hname =>
        rw [hname]
        dsimp only
        split
        case h_1 hvalue => rw [hvalue]
        case h_2 hvalue => rw [hvalue]
      case h_3 hname =>
        rw [hname]
        dsimp only
        split
        case h_1 hvalue => rw [hvalue]
        case h_2 hvalue => rw [hvalue]

/-- The closing brace ends an object. -/
theorem readMembers_close (first : Bool) (draft : Draft) (rest : Bytes) :
    readMembers first draft (0x7D :: rest) = .ok (draft, rest) := by
  rw [readMembers_eq, skipBlanks_cons _ (by decide)]
  rfl

/-- What stands before a member: nothing before the first one, else a comma. -/
def beforeMember (first : Bool) : Bytes := if first then [] else [0x2C]

/-- A member is found exactly under its own name. -/
theorem Field.ofName?_eq_none (h : ∀ field : Field, field.name.toList ≠ name) :
    Field.ofName? name = none := by
  rw [Field.ofName?, List.find?_eq_none]
  intro field _
  simpa using h field

/-- Blanks between members do not matter. -/
theorem readMembers_blanks (h : Blanks blanks) (first : Bool) (draft : Draft) (rest : Bytes) :
    readMembers first draft (blanks ++ rest) = readMembers first draft rest := by
  rw [readMembers_eq, readMembers_eq, skipBlanks_append h]

/-- Where a quote opens the next name, a member is read. -/
theorem readMembers_quote (first : Bool) (draft : Draft) {text : Bytes}
    (htext : skipBlanks bytes = 0x22 :: text) :
    readMembers first draft (beforeMember first ++ bytes) =
      match readName draft text with
      | .error fault => .error fault
      | .ok (none, value) =>
        match skipValue value with
        | .error fault => .error fault
        | .ok rest => readMembers false draft rest
      | .ok (some field, value) =>
        match draft.read field value with
        | .error fault => .error fault
        | .ok (draft, rest) => readMembers false draft rest := by
  cases first with
  | true =>
    rw [beforeMember, if_pos rfl, List.nil_append, readMembers_eq, htext]
    rfl
  | false =>
    have hnext : nextMember false (0x2C :: bytes) = .ok (0x22 :: text) := by
      rw [nextMember, if_neg Bool.false_ne_true, htext]
    rw [beforeMember, if_neg Bool.false_ne_true, List.singleton_append, readMembers_eq,
      skipBlanks_cons _ (by decide)]
    dsimp only
    rw [if_neg (by decide), hnext]
    rfl

/-- A name that is new is read up to the value. -/
theorem readName_named (h : Named name front) (rest : Bytes) :
    ∃ text blanks, skipBlanks (front ++ rest) = 0x22 :: text ∧ Blanks blanks ∧
      ∀ draft : Draft, (Field.ofName? name).any draft.has = false →
        readName draft text = .ok (Field.ofName? name, blanks ++ rest) := by
  obtain ⟨hbefore, hname, hbetween, hafter⟩ := h
  rename_i before quoted between after
  obtain ⟨text, hquoted, hread⟩ := hname.readText (between ++ 0x3A :: (after ++ rest))
  refine ⟨text, after, ?_, hafter, fun draft hnew => ?_⟩
  · rw [List.append_assoc, skipBlanks_append hbefore, ← skipBlanks_cons text (by decide), ← hquoted]
    simp only [List.append_assoc, List.cons_append]
  · rw [readName, hread]
    dsimp only
    rw [hnew, if_neg Bool.false_ne_true, skipBlanks_append hbetween, skipBlanks_cons _ (by decide),
      readByte, if_pos (by decide)]

/-- **A member is read**: one of the reply's own fills the draft, any other is passed over. -/
theorem Member.read (h : Member reply kind bytes) (first : Bool)
    (hnew : ∀ field ∈ kind, draft.has field = false) (hstops : Stops rest) :
    readMembers first draft (beforeMember first ++ (bytes ++ rest)) =
      readMembers false (kind.elim draft (draft.fill reply)) rest := by
  cases h with
  | @own field front value after hname hvalue hafter =>
    obtain ⟨text, blanks, htext, hblanks, hread⟩ := readName_named hname (value ++ (after ++ rest))
    rw [List.append_assoc, List.append_assoc, readMembers_quote first draft htext, hread draft (by
      rw [Field.ofName?_name, Option.any_some, hnew field rfl]), Field.ofName?_name]
    dsimp only
    rw [Draft.read_blanks draft field hblanks, hvalue.read draft (hafter.stops hstops)]
    exact readMembers_blanks hafter false _ rest
  | @other name front value after hother hname hvalue hafter =>
    obtain ⟨text, blanks, htext, hblanks, hread⟩ := readName_named hname (value ++ (after ++ rest))
    have hnone := Field.ofName?_eq_none hother
    have hskip : skipValue (blanks ++ (value ++ (after ++ rest))) = .ok (after ++ rest) := by
      rw [skipValue, skipWithin_congr (skipBlanks_append hblanks _)]
      exact skipValue_append hvalue (hafter.stops hstops)
    rw [List.append_assoc, List.append_assoc, readMembers_quote first draft htext, hread draft (by
      rw [hnone, Option.any_none]), hnone]
    dsimp only
    rw [hskip]
    exact readMembers_blanks hafter false _ rest

/-- **Members are read one after the other**, in whatever order they stand. -/
theorem Members.read (h : Members reply kinds bytes) (first : Bool)
    (hnodup : kinds.reduceOption.Nodup)
    (hnew : ∀ field ∈ kinds.reduceOption, draft.has field = false) (hstops : Stops rest) :
    readMembers first draft (beforeMember first ++ (bytes ++ rest)) =
      readMembers false (kinds.reduceOption.foldl (Draft.fill reply) draft) rest := by
  induction h generalizing first draft with
  | @last kind bytes h =>
    cases kind with
    | none => exact h.read first (by rintro _ ⟨⟩) hstops
    | some field =>
      refine h.read first ?_ hstops
      rintro _ ⟨⟩
      exact hnew field (List.mem_singleton_self field)
  | @more kind kinds bytes later h _ ih =>
    have hcomma : beforeMember first ++ ((bytes ++ 0x2C :: later) ++ rest) =
        beforeMember first ++ (bytes ++ (beforeMember false ++ (later ++ rest))) := by
      rw [List.append_assoc]
      rfl
    have hstops' : Stops (beforeMember false ++ (later ++ rest)) := stops_comma _
    cases kind with
    | none =>
      rw [hcomma, h.read first (by rintro _ ⟨⟩) hstops']
      exact ih false hnodup hnew
    | some field =>
      rw [List.reduceOption_cons_of_some] at hnodup hnew ⊢
      rw [List.nodup_cons] at hnodup
      rw [List.forall_mem_cons] at hnew
      rw [hcomma, h.read first (by rintro _ ⟨⟩; exact hnew.1) hstops']
      exact ih false hnodup.2 (draft.not_has_fill reply hnodup.1 hnew.2)

/-- **An object is read to its end**, up to what makes a reply of its members. -/
theorem Object.read (h : Object reply kinds bytes) (hnodup : kinds.reduceOption.Nodup)
    (rest : Bytes) :
    ∃ tail, bytes ++ rest = 0x7B :: tail ∧ readMembers true {} tail =
      .ok (kinds.reduceOption.foldl (Draft.fill reply) {}, rest) := by
  cases h with
  | @empty blanks hblanks =>
    refine ⟨blanks ++ ([0x7D] ++ rest), by rw [List.cons_append, List.append_assoc], ?_⟩
    rw [readMembers_blanks hblanks, List.singleton_append, readMembers_close]
    rfl
  | @members kinds bytes hmembers =>
    refine ⟨bytes ++ ([0x7D] ++ rest), by rw [List.cons_append, List.append_assoc], ?_⟩
    have hread := hmembers.read true hnodup (fun field _ => Draft.has_empty field)
      (Frame.object.stops_close rest)
    rw [beforeMember, if_pos rfl, List.nil_append] at hread
    rw [List.singleton_append]
    exact hread.trans (readMembers_close false _ rest)

/-! ## Replies -/

/-- **From an object, the members make the reply.** -/
theorem Reply.ofJson_object {object : Bytes} (hbefore : Blanks before)
    (h : Object reply kinds object) (hnodup : kinds.reduceOption.Nodup) (rest : Bytes) :
    ofJson (before ++ (object ++ rest)) =
      match (kinds.reduceOption.foldl (Draft.fill reply) {}).toReply with
      | .error fault => .error fault
      | .ok reply => if (skipBlanks rest).isEmpty then .ok reply else .error .malformed := by
  obtain ⟨tail, hcons, hread⟩ := h.read hnodup rest
  rw [ofJson, skipBlanks_append hbefore, hcons, skipBlanks_cons _ (by decide)]
  dsimp only
  rw [readReplyFrom, if_pos (by decide), hread]
  dsimp only
  cases (kinds.reduceOption.foldl (Draft.fill reply) {}).toReply <;> rfl

end Echo

end EchoBackend
