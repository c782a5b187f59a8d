/-
# However a reply is arranged

A reply is read from any object with its five members: in any order, among other members of any
depth, with any blanks and in any spelling, and from the list of its five values.  What is missing
is reported by the first missing member, what is repeated by the first repeated one.  The main
statement is `Reply.ofJson_arranged`.
-/
import EchoBackend.Proofs.Echo.Members
import Mathlib.Data.List.Perm.Basic

namespace EchoBackend

namespace Echo

open Json

/-! ## Lists -/

/-- The values of some members of the reply, as elements of a list. -/
inductive Elements (reply : Reply) : List Field → Bytes → Prop
  | last {field : Field} {before value after : Bytes} (hbefore : Blanks before)
    (hvalue : field.Writes reply value) (hafter : Blanks after) :
    Elements reply [field] (before ++ (value ++ after))
  | more {field : Field} {fields : List Field} {before value after rest : Bytes}
    (hbefore : Blanks before) (hvalue : field.Writes reply value) (hafter : Blanks after)
    (hrest : Elements reply fields rest) :
    Elements reply (field :: fields) (before ++ (value ++ (after ++ 0x2C :: rest)))

variable {reply : Reply} {draft : Draft} {field : Field} {fields : List Field}
  {kinds : List (Option Field)} {blanks before quoted value inner after bytes rest : Bytes}

/-! ## What the members make -/

/-- Exactly the members that were filled in have been read. -/
theorem Draft.has_foldl_fill (reply : Reply) (fields : List Field) (draft : Draft) (field : Field) :
    (fields.foldl (Draft.fill reply) draft).has field =
      (draft.has field || decide (field ∈ fields)) := by
  induction fields generalizing draft with
  | nil => simp
  | cons first fields ih =>
    rw [List.foldl_cons, ih, has_fill, Bool.or_assoc, beq_eq_decide, ← Bool.decide_or]
    simp only [List.mem_cons]

/-- Members may be filled in in any order. -/
instance (reply : Reply) : RightCommutative (Draft.fill reply) where
  right_comm draft a b := by cases a <;> cases b <;> rfl

/-- All members, in any order, make the reply. -/
theorem Draft.toReply_of_perm (h : fields.Perm Field.all) :
    (fields.foldl (Draft.fill reply) {}).toReply = .ok reply := by
  rw [h.foldl_eq]
  rfl

/-- A member that was not read is missing. -/
theorem Draft.toReply_of_missing (h : draft.missing? = some field) :
    draft.toReply = .error (.mismatch (.missingField field.name)) := by
  unfold toReply
  split
  · contradiction
  · rw [h]
    rfl

/-- The first member that was not filled in is missing. -/
theorem Draft.toReply_of_find? (h : Field.all.find? (· ∉ fields) = some field) :
    (fields.foldl (Draft.fill reply) {}).toReply =
      .error (.mismatch (.missingField field.name)) := by
  refine toReply_of_missing ?_
  rw [missing?, ← h]
  congr 1
  funext other
  rw [has_foldl_fill, has_empty, Bool.false_or, decide_not]

/-! ## Elements -/

/-- What stands before an element: nothing before the first one, else a comma. -/
def beforeElement (index : Nat) : Bytes := if index = 0 then [] else [0x2C]

/-- An element is found after blanks, and for all but the first after a comma. -/
theorem nextElement_append (index : Nat) {before : Bytes} {byte : UInt8} {tail : Bytes}
    (hblanks : Blanks blanks) (hbefore : Blanks before) (hblank : isBlank byte = false)
    (hclose : (byte == 0x5D) = false) :
    nextElement index (blanks ++ (beforeElement index ++ (before ++ byte :: tail))) =
      .ok (byte :: tail) := by
  rw [nextElement, skipBlanks_append hblanks]
  by_cases hfirst : index = 0
  · rw [beforeElement, if_pos hfirst, List.nil_append, skipBlanks_append hbefore,
      skipBlanks_cons _ hblank]
    dsimp only
    rw [hclose, if_neg Bool.false_ne_true, if_pos hfirst]
  · rw [beforeElement, if_neg hfirst, List.singleton_append, skipBlanks_cons _ (by decide)]
    dsimp only
    rw [if_neg (by decide), if_neg hfirst, if_pos (by decide), skipBlanks_append hbefore,
      skipBlanks_cons _ hblank]
    dsimp only
    rw [hclose, if_neg Bool.false_ne_true]

/-- **An element is read** as the member that is expected there. -/
theorem readElements_cons (h : field.Writes reply value) (hblanks : Blanks blanks)
    (hbefore : Blanks before) (hstops : Stops rest) (draft : Draft) (index : Nat)
    (fields : List Field) :
    readElements draft index (field :: fields)
        (blanks ++ (beforeElement index ++ (before ++ (value ++ rest)))) =
      readElements (draft.fill reply field) (index + 1) fields rest := by
  obtain ⟨byte, tail, hcons, hblank, hclose⟩ := h.exists_cons
  have hread := h.read draft hstops
  rw [hcons, List.cons_append] at hread ⊢
  rw [readElements, nextElement_append index hblanks hbefore hblank hclose]
  dsimp only
  rw [hread]

/-- **Elements are read one after the other**, up to blanks. -/
theorem Elements.read (h : Elements reply fields bytes) (draft : Draft) (index : Nat)
    (hblanks : Blanks blanks) (hstops : Stops rest) :
    ∃ after, Blanks after ∧
      readElements draft index fields (blanks ++ (beforeElement index ++ (bytes ++ rest))) =
        .ok (fields.foldl (Draft.fill reply) draft, after ++ rest) := by
  induction h generalizing draft index blanks with
  | @last field before value after hbefore hvalue hafter =>
    refine ⟨after, hafter, ?_⟩
    rw [List.append_assoc, List.append_assoc,
      readElements_cons hvalue hblanks hbefore (hafter.stops hstops)]
    rfl
  | @more field fields before value after later hbefore hvalue hafter _ ih =>
    obtain ⟨last, hlast, hlater⟩ := ih (draft.fill reply field) (index + 1) hafter
    have hstops' : Stops (after ++ 0x2C :: (later ++ rest)) := hafter.stops (stops_comma _)
    refine ⟨last, hlast, ?_⟩
    rw [List.append_assoc, List.append_assoc, List.append_assoc, List.cons_append,
      readElements_cons hvalue hblanks hbefore hstops']
    exact hlater

/-! ## Replies -/

/-- From a list, the elements make the reply. -/
theorem Reply.ofJson_list {after : Bytes} (hbefore : Blanks before)
    (h : Elements reply Field.all inner) (hafter : Blanks after) :
    ofJson (before ++ (0x5B :: (inner ++ 0x5D :: after))) = .ok reply := by
  have hstops : Stops (0x5D :: after) := Frame.list.stops_close after
  obtain ⟨last, hlast, hread⟩ := h.read {} 0 blanks_nil hstops
  have hend : readListEnd (last ++ 0x5D :: after) = .ok after := by
    rw [readListEnd, skipBlanks_append hlast, skipBlanks_cons _ (by decide)]
    rfl
  rw [beforeElement, if_pos rfl, List.nil_append, List.nil_append] at hread
  rw [ofJson, skipBlanks_append hbefore, skipBlanks_cons _ (by decide)]
  dsimp only
  rw [readReplyFrom, if_neg (by decide), if_pos (by decide), hread]
  dsimp only
  rw [Draft.toReply_of_perm (List.Perm.refl _), hend]
  dsimp only
  rw [hafter.skipBlanks_eq]
  rfl

/-- **A repeated member is reported** as soon as its name has been read. -/
theorem readMembers_repeated (first : Bool) (hblanks : Blanks blanks)
    (hname : Quoted field.name.toList quoted) (hhas : draft.has field = true) (rest : Bytes) :
    readMembers first draft (beforeMember first ++ (blanks ++ (quoted ++ rest))) =
      .error (.mismatch (.duplicateField field.name)) := by
  obtain ⟨text, hquoted, hread⟩ := hname.readText rest
  have htext : skipBlanks (blanks ++ (quoted ++ rest)) = 0x22 :: text := by
    rw [skipBlanks_append hblanks, hquoted, skipBlanks_cons _ (by decide)]
  have hrepeated : readName draft text = .error (.mismatch (.duplicateField field.name)) := by
    rw [readName, hread]
    dsimp only
    rw [Field.ofName?_name, Option.any_some, hhas, if_pos rfl, String.ofList_toList]
  rw [readMembers_quote first draft htext, hrepeated]

/-- A repeated member is reported after any others. -/
theorem Reply.ofJson_repeated (hbefore : Blanks before) (h : Members reply kinds inner)
    (hnodup : kinds.reduceOption.Nodup) (hmem : some field ∈ kinds) (hblanks : Blanks blanks)
    (hname : Quoted field.name.toList quoted) (rest : Bytes) :
    ofJson (before ++ (0x7B :: (inner ++ 0x2C :: (blanks ++ (quoted ++ rest))))) =
      .error (.mismatch (.duplicateField field.name)) := by
  let draft := kinds.reduceOption.foldl (Draft.fill reply) {}
  have hhas : draft.has field = true := by
    rw [Draft.has_foldl_fill, List.reduceOption_mem_iff.mpr hmem |> decide_eq_true, Bool.or_true]
  have hstops : Stops (beforeMember false ++ (blanks ++ (quoted ++ rest))) := stops_comma _
  have hread : readMembers true {} (inner ++ 0x2C :: (blanks ++ (quoted ++ rest))) =
      .error (.mismatch (.duplicateField field.name)) :=
    (h.read true hnodup (fun field _ => Draft.has_empty field) hstops).trans
      (readMembers_repeated false hblanks hname hhas rest)
  rw [ofJson, skipBlanks_append hbefore, skipBlanks_cons _ (by decide)]
  dsimp only
  rw [readReplyFrom, if_pos (by decide), hread]

/-- **A reply does not depend on how it is arranged.**  It is read from every object with its five
members in any order, among members of other names with values of any depth, with blanks between
the tokens and in any spelling, and from the list of its values.  Of missing members the first one
is reported, in the order of declaration; of repeated members the first one that is seen again. -/
theorem Reply.ofJson_arranged (reply : Reply) :
    (∀ before object after kinds, Blanks before → Object reply kinds object → Blanks after →
      kinds.reduceOption.Perm Field.all → ofJson (before ++ (object ++ after)) = .ok reply) ∧
    (∀ before inner after, Blanks before → Elements reply Field.all inner → Blanks after →
      ofJson (before ++ (0x5B :: (inner ++ 0x5D :: after))) = .ok reply) ∧
    (∀ before object rest kinds field, Blanks before → Object reply kinds object →
      kinds.reduceOption.Nodup → Field.all.find? (· ∉ kinds.reduceOption) = some field →
      ofJson (before ++ (object ++ rest)) = .error (.mismatch (.missingField field.name))) ∧
    ∀ before inner kinds field blanks quoted rest, Blanks before → Members reply kinds inner →
      kinds.reduceOption.Nodup → some field ∈ kinds → Blanks blanks →
      Quoted field.name.toList quoted →
      ofJson (before ++ (0x7B :: (inner ++ 0x2C :: (blanks ++ (quoted ++ rest))))) =
        .error (.mismatch (.duplicateField field.name)) := by
  refine ⟨?_, fun _ _ _ => ofJson_list, ?_, ?_⟩
  · intro before object after kinds hbefore hobject hafter hperm
    rw [ofJson_object hbefore hobject (hperm.nodup_iff.mpr (by decide)),
      Draft.toReply_of_perm hperm, hafter.skipBlanks_eq]
    rfl
  · intro before object rest kinds field hbefore hobject hnodup hmissing
    rw [ofJson_object hbefore hobject hnodup, Draft.toReply_of_find? hmissing]
  · intro before inner kinds field blanks quoted rest hbefore hmembers hnodup hmem hblanks hname
    exact ofJson_repeated hbefore hmembers hnodup hmem hblanks hname rest

/-- A reply whose members are scattered, with a character of two escapes, blanks and a list among
them, and as a list; with members left out; and with a member that is seen again. -/
theorem Reply.ofJson_arranged_scattered :
    let reply : Reply := ⟨"a", 1, "/", "", "𝄞"⟩
    let front := "\x7b\"path\" :\"\\uD834\\udd1e\"," ++
      "\"\":[\x7b\x7d, -0.5e+1],\"server\":\"a\""
    ofJson (Utf8.bytes (" " ++ front ++
      ",\"port\":1,\"x_user_id\":\"\",\"endpoint\":\"/\"\x7d ")) = .ok reply ∧
    ofJson (Utf8.bytes "[\"a\",1,\"/\", \"\",\"\\uD834\\udd1e\" ]") = .ok reply ∧
    ofJson (Utf8.bytes (front ++ "\x7d]")) = .error (.mismatch (.missingField "port")) ∧
    ofJson (Utf8.bytes (front ++ ", \"server\"7")) =
      .error (.mismatch (.duplicateField "server")) := by
  intro reply front
  obtain ⟨hobject, hlist, hmissing, hrepeated⟩ := ofJson_arranged reply
  have hnone := blanks_nil
  have hblank : Blanks [0x20] := by decide
  -- the values of the reply
  have hserver : Field.server.Writes reply _ := Quoted.quote reply.server.toList
  have hport : Field.port.Writes reply (Utf8.bytes reply.port.toNat.repr) := rfl
  have hendpoint : Field.endpoint.Writes reply _ := Quoted.quote reply.endpoint.toList
  have huserId : Field.userId.Writes reply _ := Quoted.quote reply.userId.toList
  have hpath : Field.path.Writes reply (0x22 :: ([0x5C :: 0x75 :: (Utf8.bytes "D834" ++
      0x5C :: 0x75 :: Utf8.bytes "dd1e")].flatten ++ [0x22])) := by
    have hhigh : FourDigits (0xD800 + 0x34) (Utf8.bytes "D834") :=
      .cons (by decide) (.cons (by decide) (.cons (by decide) (.cons (by decide) .nil)))
    have hlow : FourDigits (0xDC00 + 0x11E) (Utf8.bytes "dd1e") :=
      .cons (by decide) (.cons (by decide) (.cons (by decide) (.cons (by decide) .nil)))
    have hclef : Spelling '𝄞' _ := .pair (by decide) (by decide) (by decide) hhigh hlow
    rw [Field.Writes, show reply.path.toList = ['𝄞'] by decide]
    exact .spelled (.cons hclef .nil)
  -- a value of another name
  have hnumber : IsNumber ([0x2D] ++ ([0x30] ++ ([0x2E, 0x35] ++ (0x65 :: ([0x2B] ++ [0x31]))))) :=
    .parts (.inr rfl) .zero (.digits (by decide)) (.digits (.inl rfl) (.inr (.inl rfl)) (by decide))
  have hitems : Items .list _ := .more (.list hnone) (.empty .object hnone) hnone
    (.last (.list hblank) (.scalar (.number hnumber)) hnone)
  -- the members
  have hname (name : List Char) {after : Bytes} (hafter : Blanks after) : Named name _ :=
    .quoted hnone (.quote name) hafter hnone
  have hfirst : Member reply (some .path) _ := .own (hname _ hblank) hpath hnone
  have hother : Member reply none _ :=
    .other (by rintro ⟨⟩ <;> decide) (hname [] hnone) (.filled hitems) hnone
  have hown {field : Field} {value : Bytes} (h : field.Writes reply value) :
    Member reply (some field) _ := .own (hname _ hnone) h hnone
  have hshort := Members.more hfirst (.more hother (.last (hown hserver)))
  have hlong := Members.more hfirst (.more hother (.more (hown hserver) (.more (hown hport)
    (.more (hown huserId) (.last (hown hendpoint))))))
  have helements : Elements reply Field.all _ := .more hnone hserver hnone (.more hnone hport hnone
    (.more hnone hendpoint hnone (.more hblank huserId hnone (.last hnone hpath hblank))))
  refine ⟨?_, ?_, ?_, ?_⟩
  · refine Eq.trans (congrArg _ ?_) (hobject _ _ _ _ hblank (.members hlong) hblank (by decide))
    decide
  · refine Eq.trans (congrArg _ ?_) (hlist _ _ _ hnone helements hnone)
    decide
  · refine Eq.trans (congrArg _ ?_)
      (hmissing _ _ [0x5D] _ .port hnone (.members hshort) (by decide) (by decide))
    decide
  · refine Eq.trans (congrArg _ ?_) (hrepeated _ _ _ .server _ _ [0x37] hnone hshort (by decide)
      (by decide) hblank (.quote _))
    decide

end Echo

end EchoBackend
