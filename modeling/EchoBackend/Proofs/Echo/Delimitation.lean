/-
# Texts that show where they end

The JSON text of a reply shows where it ends: every text that is cut short is missed the end of, and
after the whole text nothing but blanks may follow.  The cut may fall anywhere, so it is followed
through the members: those before it are read (`Member.read`), and in the member that is cut the
reader comes to the end of the text (`Member.read_cut`).  The main statement is
`Reply.ofJson_delimited`.
-/
import EchoBackend.Proofs.Echo.Finality
import EchoBackend.Proofs.Echo.RoundTrip

namespace EchoBackend

namespace Json

open Utf8

variable {c : Char} {text : List Char} {value : Nat}
  {blanks bytes digits quoted after cut later : Bytes}

/-! ## Single lines -/

/-- Whether a text has no control characters, so that it is a single line. -/
def OneLine (bytes : Bytes) : Prop := ∀ byte ∈ bytes, 0x20 ≤ byte

instance (bytes : Bytes) : Decidable (OneLine bytes) := List.decidableBAll (0x20 ≤ ·) bytes

/-- Two texts are a single line together exactly if each one is. -/
theorem oneLine_append {front back : Bytes} :
    OneLine (front ++ back) ↔ OneLine front ∧ OneLine back :=
  List.forall_mem_append

/-- Hexadecimal digits are no control characters. -/
theorem le_of_writes {byte : UInt8} (h : Hex.Writes value byte) : 0x20 ≤ byte := by
  have hcontrol : ∀ bits < 0x20, Hex.value? (UInt8.ofNat bits) = none := by decide
  rw [UInt8.le_iff_toNat_le]
  refine Nat.not_lt.mp fun hlt => ?_
  have hnone := hcontrol byte.toNat hlt
  rw [UInt8.ofNat_toNat, h.value?_eq] at hnone
  contradiction

/-- Four hexadecimal digits are on a single line. -/
theorem FourDigits.oneLine (h : FourDigits value digits) : OneLine digits := by
  rw [FourDigits] at h
  generalize [value / 4096, value / 256 % 16, value / 16 % 16, value % 16] = values at h
  induction h with
  | nil => exact List.forall_mem_nil _
  | cons hwrites _ ih => exact List.forall_mem_cons.mpr ⟨le_of_writes hwrites, ih⟩

/-- **Spellings are on a single line**, those of control characters as well. -/
theorem Spelling.oneLine (h : Spelling c bytes) : OneLine bytes := by
  have hnumber : OneLine [0x5C, 0x75] := by decide
  cases h with
  | plain hquote hslash hcontrol =>
    intro byte hbyte
    have hplain := isPlain_of_mem hquote hslash hcontrol byte hbyte
    rw [isPlain, Bool.and_eq_true, decide_eq_true_iff] at hplain
    exact UInt8.le_iff_toNat_le.mpr hplain.2
  | letter h =>
    have hletters : ∀ letter ∈ letters, OneLine [0x5C, letter.1] := by decide
    exact hletters _ h
  | number h => exact oneLine_append.mpr ⟨hnumber, h.oneLine⟩
  | pair _ _ _ hupper hlower =>
    exact oneLine_append.mpr ⟨hnumber, oneLine_append.mpr ⟨hupper.oneLine,
      oneLine_append.mpr ⟨hnumber, hlower.oneLine⟩⟩⟩

/-- Quoted texts are on a single line. -/
theorem Quoted.oneLine (h : Quoted text bytes) : OneLine bytes := by
  have hquote : OneLine [0x22] := by decide
  have hspelled {text : List Char} {pieces : List Bytes} (h : List.Forall₂ Spelling text pieces) :
      OneLine pieces.flatten := by
    induction h with
    | nil => exact List.forall_mem_nil _
    | cons hspelling _ ih => exact oneLine_append.mpr ⟨hspelling.oneLine, ih⟩
  obtain ⟨h⟩ := h
  exact oneLine_append.mpr ⟨hquote, oneLine_append.mpr ⟨hspelled h, hquote⟩⟩

/-- Numerals are on a single line. -/
theorem oneLine_numeral (number : Nat) : OneLine (numeral number) := by
  intro byte hbyte
  have hdigit := isDigit_of_mem_numeral hbyte
  rw [isDigit, Bool.and_eq_true, decide_eq_true_iff] at hdigit
  exact UInt8.le_trans (by decide) hdigit.1

/-! ## Values that are cut -/

/-- A beginning of blanks is blank. -/
theorem Blanks.of_prefix (h : Blanks blanks) (hcut : cut <+: blanks) : Blanks cut :=
  fun byte hbyte => h byte (hcut.subset hbyte)

/-- What a shorter text came to, if the longer one was accepted. -/
theorem Keeps.of_ok {α : Type} {first : Reading α} {value : α} {rest : Bytes}
    (h : Keeps (onRest later) first (.ok (value, rest))) :
    first = .error .ended ∨ ∃ left, first = .ok (value, left) ∧ left ++ later = rest := by
  generalize hsecond : Except.ok (value, rest) = second at h
  cases h with
  | undecided => exact .inl rfl
  | refused => contradiction
  | @accepted read =>
    obtain ⟨rfl, rfl⟩ := Prod.mk.inj (Except.ok.inj hsecond)
    exact .inr ⟨read.2, rfl, rfl⟩

/-- A beginning of two texts ends in the first one or in the second one. -/
theorem prefix_append_cases {front back : Bytes} (h : cut <+: front ++ back) :
    cut <+: front ∨ ∃ left, cut = front ++ left ∧ left <+: back := by
  rcases List.prefix_or_prefix_of_prefix h (List.prefix_append front back) with
    hfront | ⟨left, rfl⟩
  · exact .inl hfront
  · exact .inr ⟨left, rfl, (List.prefix_append_right_inj front).mp h⟩

/-- A numeral is one digit, or that of a tenth of the number and one more digit. -/
theorem numeral_eq (number : Nat) : ∃ byte : UInt8,
    numeral number = if number < 10 then [byte] else numeral (number / 10) ++ [byte] := by
  rw [numeral, Nat.toDigits_eq_if (by decide)]
  by_cases h : number < 10
  · rw [if_pos h]
    exact ⟨_, (if_pos h).symm⟩
  · rw [if_neg h, List.map_append]
    exact ⟨_, (if_neg h).symm⟩

/-- A beginning of a numeral is a numeral. -/
theorem exists_numeral_of_prefix {number : Nat} (hcut : cut <+: numeral number) (hne : cut ≠ []) :
    ∃ shorter ≤ number, cut = numeral shorter := by
  induction number using Nat.strongRecOn with
  | ind number ih =>
    obtain ⟨byte, hnumeral⟩ := numeral_eq number
    by_cases hlt : number < 10
    · rw [if_pos hlt] at hnumeral
      refine ⟨number, Nat.le_refl _, ?_⟩
      rw [hnumeral] at hcut ⊢
      rcases List.prefix_cons_iff.mp hcut with hnil | ⟨left, rfl, hleft⟩
      · exact absurd hnil hne
      · rw [List.prefix_nil.mp hleft]
    · rw [if_neg hlt] at hnumeral
      rw [hnumeral, List.prefix_concat_iff] at hcut
      rcases hcut with hwhole | hcut
      · exact ⟨number, Nat.le_refl _, hwhole.trans hnumeral.symm⟩
      · obtain ⟨shorter, hle, heq⟩ := ih (number / 10) (by omega) hcut
        exact ⟨shorter, by omega, heq⟩

/-- A text that is cut ends too early, unless the cut is behind it. -/
theorem readString_cut (hblanks : Blanks blanks) (hquoted : Quoted text quoted)
    (hafter : Blanks after) (hcut : cut <+: blanks ++ (quoted ++ after)) :
    readString cut = .error .ended ∨
      ∃ read left, readString cut = .ok (read, left) ∧ Blanks left := by
  obtain ⟨later, hlater⟩ := hcut
  obtain ⟨inner, hinner, hread⟩ := hquoted.readText after
  rw [readString]
  cases hhead : skipBlanks cut with
  | nil => exact .inl rfl
  | cons byte rest =>
    -- The cut text begins as the whole one does, and what was read of it stays.
    have hlonger := skipBlanks_append_of_cons hhead later
    rw [hlater, skipBlanks_append hblanks, hinner, skipBlanks_cons _ (by decide)] at hlonger
    obtain ⟨rfl, rfl⟩ := List.cons.inj hlonger
    have hkeeps : Keeps (onRest later) (readText rest) (readText (rest ++ later)) :=
      keeps_readText rest
    rw [hread] at hkeeps
    dsimp only
    rw [if_pos (by decide)]
    rcases hkeeps.of_ok with hended | ⟨left, hleft, rfl⟩
    · rw [hended]
      exact .inl rfl
    · rw [hleft]
      exact .inr ⟨_, _, rfl, hafter.of_prefix (List.prefix_append left later)⟩

/-- Of a port whose numeral is cut a smaller one is read, and nothing is left. -/
theorem readPort_numeral_cut {port : UInt16} (hcut : cut <+: numeral port.toNat) (hne : cut ≠ []) :
    ∃ read, readPort cut = .ok (read, []) := by
  obtain ⟨shorter, hle, rfl⟩ := exists_numeral_of_prefix hcut hne
  have hport : (UInt16.ofNat shorter).toNat = shorter :=
    UInt16.toNat_ofNat_of_lt' (Nat.lt_of_le_of_lt hle port.toNat_lt)
  have hread := readPort_repr (UInt16.ofNat shorter) stops_nil
  rw [hport, encode_repr, List.append_nil] at hread
  exact ⟨_, hread⟩

/-- A port that is cut ends too early, or is read as another one up to the end. -/
theorem readPort_cut (hblanks : Blanks blanks) (port : UInt16) (hafter : Blanks after)
    (hcut : cut <+: blanks ++ (encode port.toNat.repr.toList ++ after)) :
    readPort cut = .error .ended ∨
      ∃ read left, readPort cut = .ok (read, left) ∧ Blanks left := by
  rw [encode_repr] at hcut
  -- The cut is in the blanks, in the numeral, or behind it.
  rcases prefix_append_cases hcut with hcut | ⟨shown, rfl, hshown⟩
  · rw [readPort, (hblanks.of_prefix hcut).skipBlanks_eq]
    exact .inl rfl
  · have hskip : readPort (blanks ++ shown) = readPort shown := by
      rw [readPort, skipBlanks_append hblanks, readPort]
    rw [hskip]
    rcases prefix_append_cases hshown with hshown | ⟨left, rfl, hleft⟩
    · by_cases hne : shown = []
      · rw [hne]
        exact .inl rfl
      · obtain ⟨read, hread⟩ := readPort_numeral_cut hshown hne
        exact .inr ⟨read, [], hread, blanks_nil⟩
    · have hblank := hafter.of_prefix hleft
      have hstops := hblank.stops stops_nil
      rw [List.append_nil] at hstops
      have hread := readPort_repr port hstops
      rw [encode_repr] at hread
      exact .inr ⟨port, left, hread, hblank⟩

end Json

namespace Echo

open Json Utf8

variable {reply : Reply} {draft : Draft} {field : Field} {kinds : List (Option Field)}
  {blanks value after bytes cut : Bytes}

/-! ## Members that are cut -/

/-- The value of a member that is cut ends too early, unless the cut is behind it. -/
theorem Field.Writes.read_cut (h : field.Writes reply value) (draft : Draft)
    (hblanks : Blanks blanks) (hafter : Blanks after) (hcut : cut <+: blanks ++ (value ++ after)) :
    draft.read field cut = .error .ended ∨
      ∃ filled left, draft.read field cut = .ok (filled, left) ∧ Blanks left := by
  cases field with
  | port =>
    rw [show value = encode reply.port.toNat.repr.toList from h] at hcut
    rcases readPort_cut hblanks reply.port hafter hcut with hread | ⟨read, left, hread, hleft⟩
    · exact .inl (by rw [Draft.read, hread]; rfl)
    · exact .inr ⟨_, left, by rw [Draft.read, hread]; rfl, hleft⟩
  | server | endpoint | userId | path =>
    rcases readString_cut hblanks h hafter hcut with hread | ⟨read, left, hread, hleft⟩
    · exact .inl (by rw [Draft.read, hread]; rfl)
    · exact .inr ⟨_, left, by rw [Draft.read, hread]; rfl, hleft⟩

/-- Blanks do not end an object. -/
theorem readMembers_of_blanks (h : Blanks blanks) (first : Bool) (draft : Draft) :
    readMembers first draft blanks = .error .ended := by
  rw [readMembers_eq, h.skipBlanks_eq]

/-- Blanks are no member. -/
theorem readMembers_beforeMember (h : skipBlanks bytes = []) (first : Bool) (draft : Draft) :
    readMembers first draft (beforeMember first ++ bytes) = .error .ended := by
  cases first with
  | true => rw [beforeMember, if_pos rfl, List.nil_append, readMembers_eq, h]
  | false =>
    have hnext : nextMember false (0x2C :: bytes) = .error .ended := by
      rw [nextMember, if_neg Bool.false_ne_true, h]
    rw [beforeMember, if_neg Bool.false_ne_true, List.singleton_append, readMembers_eq,
      skipBlanks_cons _ (by decide)]
    dsimp only
    rw [if_neg (by decide), hnext]

/-- **A member that is cut ends too early**, wherever the cut is. -/
theorem Member.read_cut (h : Member reply (some field) bytes) (first : Bool)
    (hnew : draft.has field = false) (hcut : cut <+: bytes) :
    readMembers first draft (beforeMember first ++ cut) = .error .ended := by
  obtain @⟨_, front, value, after, hname, hvalue, hafter⟩ := h
  obtain ⟨later, hlater⟩ := hcut
  obtain ⟨text, blanks, htext, hblanks, hread⟩ := readName_named hname (value ++ after)
  cases hhead : skipBlanks cut with
  | nil => exact readMembers_beforeMember hhead first draft
  | cons byte rest =>
    have hlonger := skipBlanks_append_of_cons hhead later
    rw [hlater, htext] at hlonger
    obtain ⟨rfl, rfl⟩ := List.cons.inj hlonger
    have hkeeps : Keeps (onRest later) (readName draft rest) (readName draft (rest ++ later)) :=
      keeps_readName draft rest
    rw [hread draft (by rw [Field.ofName?_name, Option.any_some, hnew]), Field.ofName?_name]
      at hkeeps
    rw [readMembers_quote first draft hhead]
    -- The cut is in the name, or the name was read and the cut is in the value.
    rcases hkeeps.of_ok with hended | ⟨left, hleft, hvalues⟩
    · rw [hended]
    · rw [hleft]
      dsimp only
      rcases hvalue.read_cut draft hblanks hafter ⟨later, hvalues⟩ with
        hended | ⟨filled, blank, hfilled, hblank⟩
      · rw [hended]
      · rw [hfilled]
        exact readMembers_of_blanks hblank false filled

/-- **Members that are cut end too early**: those before the cut are read, by induction on them. -/
theorem Members.read_cut (h : Members reply kinds bytes) (first : Bool)
    (hown : none ∉ kinds) (hnodup : kinds.reduceOption.Nodup)
    (hnew : ∀ field ∈ kinds.reduceOption, draft.has field = false) (hcut : cut <+: bytes) :
    readMembers first draft (beforeMember first ++ cut) = .error .ended := by
  induction h generalizing first draft cut with
  | @last kind bytes h =>
    obtain ⟨field, rfl⟩ := Option.ne_none_iff_exists'.mp (List.ne_of_not_mem_cons hown).symm
    exact h.read_cut first (hnew field (List.mem_singleton_self field)) hcut
  | @more kind kinds bytes later h _ ih =>
    obtain ⟨field, rfl⟩ := Option.ne_none_iff_exists'.mp (List.ne_of_not_mem_cons hown).symm
    rw [List.reduceOption_cons_of_some] at hnodup hnew
    rw [List.nodup_cons] at hnodup
    rw [List.forall_mem_cons] at hnew
    rcases prefix_append_cases hcut with hcut | ⟨left, rfl, hleft⟩
    · exact h.read_cut first hnew.1 hcut
    · -- The first member was read, and the cut is right behind it or in the members after it.
      rcases List.prefix_cons_iff.mp hleft with rfl | ⟨inner, rfl, hinner⟩
      · rw [List.append_nil]
        exact h.read_cut first hnew.1 List.prefix_rfl
      · rw [h.read first (by rintro _ ⟨⟩; exact hnew.1) (stops_comma _)]
        exact ih false (List.not_mem_of_not_mem_cons hown) hnodup.2
          (draft.not_has_fill reply hnodup.1 hnew.2) hinner

/-- **An object that is cut ends too early**, if it holds members of the reply only. -/
theorem Object.ofJson_cut (h : Object reply kinds bytes) (hown : none ∉ kinds)
    (hnodup : kinds.reduceOption.Nodup) (hcut : cut <+: bytes) (hne : cut ≠ bytes) :
    Reply.ofJson cut = .error .ended := by
  have hclosed {inner : Bytes} (hcut : cut <+: 0x7B :: (inner ++ [0x7D]))
      (hne : cut ≠ 0x7B :: (inner ++ [0x7D]))
      (hinner : ∀ left, left <+: inner → readMembers true {} left = .error .ended) :
      Reply.ofJson cut = .error .ended := by
    rw [← List.cons_append] at hcut hne
    rcases List.prefix_cons_iff.mp ((List.prefix_concat_iff.mp hcut).resolve_left hne) with
      rfl | ⟨left, rfl, hleft⟩
    · rfl
    · rw [Reply.ofJson, skipBlanks_cons _ (by decide)]
      dsimp only
      rw [readReplyFrom, if_pos (by decide), hinner left hleft]
  cases h with
  | empty hblanks =>
    exact hclosed hcut hne fun left hleft =>
      readMembers_of_blanks (hblanks.of_prefix hleft) true {}
  | members hmembers =>
    exact hclosed hcut hne fun left hleft =>
      hmembers.read_cut true hown hnodup (fun field _ => Draft.has_empty field) hleft

/-! ## Replies -/

/-- What is written for a member is on a single line. -/
theorem Field.Writes.oneLine (h : field.Writes reply value) : OneLine value := by
  cases field with
  | port =>
    rw [show value = encode reply.port.toNat.repr.toList from h, encode_repr]
    exact oneLine_numeral _
  | server | endpoint | userId | path => exact Quoted.oneLine h

/-- **The JSON text of a reply is on a single line.** -/
theorem Reply.oneLine_json (reply : Reply) : OneLine reply.json := by
  have hmember (field : Field) {value : List Char} (h : field.Writes reply (encode value)) :
      OneLine (encode (member field.name value)) := by
    have hcolon : encode (':' :: value) = [0x3A] ++ encode value := rfl
    rw [member, encode_append, hcolon]
    exact oneLine_append.mpr ⟨(Quoted.quote _).oneLine,
      oneLine_append.mpr ⟨by decide, h.oneLine⟩⟩
  have hcomma : OneLine (encode [',']) := by decide
  rw [json, jsonChars, ← List.singleton_append, encode_append, encode_append]
  refine oneLine_append.mpr ⟨by decide, oneLine_append.mpr ⟨?_, by decide⟩⟩
  simp only [members, List.intercalate, List.intersperse, List.flatten_cons, List.flatten_nil,
    encode_append, List.append_nil, oneLine_append]
  exact ⟨hmember .server (.quote _), hcomma, hmember .port rfl, hcomma,
    hmember .endpoint (.quote _), hcomma, hmember .userId (.quote _), hcomma,
    hmember .path (.quote _)⟩

/-- **The JSON text of a reply shows where it ends.**  Wherever it is cut, the end of the text is
missed; after the whole of it only blanks may follow; and no line ends in it. -/
theorem Reply.ofJson_delimited (reply : Reply) :
    (∀ cut, cut <+: reply.json → cut ≠ reply.json → ofJson cut = .error .ended) ∧
      (∀ rest, ofJson (reply.json ++ rest) =
        if Blanks rest then .ok reply else .error .malformed) ∧
      OneLine reply.json := by
  have hown : none ∉ Field.all.map some := by decide
  refine ⟨fun cut => reply.json_object.ofJson_cut hown (by decide), fun rest => ?_,
    reply.oneLine_json⟩
  have hblanks : (skipBlanks rest).isEmpty = true ↔ Blanks rest :=
    List.isEmpty_iff.trans List.dropWhile_eq_nil_iff
  have hread : ofJson (reply.json ++ rest) =
      if (skipBlanks rest).isEmpty then .ok reply else .error .malformed :=
    ofJson_object blanks_nil reply.json_object (by decide) rest
  rw [hread]
  exact if_congr hblanks rfl rfl

/-- The end is missed at work: in a character of two bytes, in the port, and in an escape; and it is
found, before a line end and before a second brace. -/
theorem Reply.ofJson_delimited_accent :
    let reply : Reply := ⟨"é", 9001, "\n", "", "/"⟩
    ofJson (reply.json.take 12) = .error .ended ∧ ofJson (reply.json.take 24) = .error .ended ∧
      ofJson (reply.json.take 40) = .error .ended ∧
      ofJson (reply.json ++ [0x20, 0x0A]) = .ok reply ∧
      ofJson (reply.json ++ [0x7D]) = .error .malformed := by
  intro reply
  obtain ⟨hcut, hrest, -⟩ := ofJson_delimited reply
  exact ⟨hcut _ (List.take_prefix 12 _) (by decide), hcut _ (List.take_prefix 24 _) (by decide),
    hcut _ (List.take_prefix 40 _) (by decide), hrest [0x20, 0x0A], hrest [0x7D]⟩

end Echo

end EchoBackend
