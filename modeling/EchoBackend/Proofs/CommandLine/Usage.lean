/-
# Usage in the messages of rejected command lines

Whoever has a command line rejected is told once how the program is used: by the message, or by a
line that is added to one without usage.  What the user wrote is quoted with its line breaks,
though, and whether a message has a usage is judged by its text.  The main statement is
`Program.usage_once_iff`: which command lines make exactly one line of what is written begin like
usage.
-/
import EchoBackend.Program
import EchoBackend.Proofs.Block.Lines
import EchoBackend.Proofs.Text.Labels

namespace EchoBackend

namespace CommandLine

open Label

/-! ## Lines of usage -/

/-- The word that begins a line of usage. -/
def usageWord : List Char := "Usage:".toList

/-- The lines of a text that begin like usage. -/
def usageLines (text : String) : List (List Char) :=
  (Echo.lines text).filter (usageWord.isPrefixOf ·)

/-- The search for a text within another finds it exactly if it is there. -/
theorem occurs_iff {part text : List Char} : occurs part text = true ↔ part <:+: text := by
  induction text with
  | nil => rw [occurs, List.isEmpty_iff, List.infix_nil]
  | cons c text ih =>
    rw [occurs, Bool.or_eq_true, ih, List.isPrefixOf_iff_prefix, List.infix_cons_iff]

/-- A line feed has no part in the word. -/
theorem newline_not_mem_usageWord : '\n' ∉ usageWord := by decide

/-- A text without the first letter of the word does not have the word. -/
theorem not_infix_of_not_mem {text : List Char} (h : 'U' ∉ text) : ¬ usageWord <:+: text :=
  fun hpart => h (hpart.subset (by decide))

/-- A line feed ends a line. -/
theorem usageLines_append (x y : String) :
    usageLines (x ++ "\n" ++ y) = usageLines x ++ usageLines y := by
  rw [usageLines, Echo.lines_append, List.filter_append]
  rfl

/-- An empty line between two texts is no usage. -/
theorem usageLines_paragraphs (x y : String) :
    usageLines (x ++ "\n\n" ++ y) = usageLines x ++ usageLines y := by
  have hlines : x ++ "\n\n" ++ y = x ++ "\n" ++ ("" ++ "\n" ++ y) := by
    rw [show "\n\n" = "\n" ++ "\n" by rfl]
    simp only [String.empty_append, String.append_assoc]
  have hempty : usageLines "" = [] := rfl
  rw [hlines, usageLines_append, usageLines_append, hempty, List.nil_append]

/-- The lines of a text that begin like usage are its first line, if the text does, and later
ones. -/
theorem length_usageLines (text : String) : (usageLines text).length =
    (if usageWord <+: text.toList then 1 else 0) + laterLines usageWord text.toList := by
  obtain ⟨first, later, htext⟩ := List.exists_cons_of_ne_nil
    (List.splitOn_ne_nil '\n' text.toList)
  rw [usageLines, Echo.lines, ← List.countP_eq_length_filter, laterLines, htext, List.countP_cons,
    List.tail_cons, Nat.add_comm]
  simp only [List.isPrefixOf_iff_prefix, prefix_first_iff newline_not_mem_usageWord htext]

/-- A text without the word has no usage. -/
theorem usageLines_eq_nil {text : String} (h : ¬ usageWord <:+: text.toList) :
    usageLines text = [] := by
  rw [← List.length_eq_zero_iff, length_usageLines,
    laterLines_eq_zero newline_not_mem_usageWord h, if_neg fun hprefix => h hprefix.isInfix]

/-! ## Quotations -/

/-- Texts after which a quotation stands: they end with a mark, and have no part of the word. -/
def Opens (front : String) : Prop :=
  (front.toList.getLast? = some '\'' ∨ front.toList.getLast? = some '-') ∧ 'U' ∉ front.toList

instance (front : String) : Decidable (Opens front) := inferInstanceAs (Decidable (_ ∧ _))

/-- A text after which a quotation stands ends with a character that neither the word nor a line
break has. -/
theorem Opens.exists_mark {front : String} (h : Opens front) : ∃ begun mark,
    front.toList = begun ++ [mark] ∧ mark ∉ usageWord ∧ mark ≠ '\n' ∧ ¬ usageWord <:+: begun := by
  obtain ⟨hlast, hletter⟩ := h
  have hmark : ∃ mark, front.toList.getLast? = some mark ∧ mark ∉ usageWord ∧ mark ≠ '\n' := by
    rcases hlast with hlast | hlast
    · exact ⟨_, hlast, by decide, by decide⟩
    · exact ⟨_, hlast, by decide, by decide⟩
  obtain ⟨mark, hlast, hword, hbreak⟩ := hmark
  obtain ⟨begun, hbegun⟩ := List.getLast?_eq_some_iff.mp hlast
  refine ⟨begun, mark, hbegun, hword, hbreak, not_infix_of_not_mem fun hmem => hletter ?_⟩
  rw [hbegun]
  exact List.mem_append_left _ hmem

/-- Texts that quote another one so many times, and have the word nowhere else. -/
inductive Quotes (written : String) : Nat → String → Prop
  | plain {text : String} (h : ¬ usageWord <:+: text.toList) : Quotes written 0 text
  | quote {count : Nat} {front back : String} (hfront : Opens front)
    (hback : back.toList.head? = some '\'') (h : Quotes written count back) :
    Quotes written (count + 1) (front ++ written ++ back)

namespace Quotes

variable {written text : String} {count : Nat}

/-- What a quotation adds to the lines of a text, and that it is found. -/
theorem quote_cases {front back : String} (hfront : Opens front)
    (hback : back.toList.head? = some '\'') :
    ¬ usageWord <+: (front ++ written ++ back).toList ∧
      laterLines usageWord (front ++ written ++ back).toList =
        laterLines usageWord written.toList + laterLines usageWord back.toList ∧
      (usageWord <:+: (front ++ written ++ back).toList ↔
        usageWord <:+: written.toList ∨ usageWord <:+: back.toList) := by
  obtain ⟨begun, mark, hbegun, hword, hbreak, hnone⟩ := hfront.exists_mark
  obtain ⟨rest, hrest⟩ := List.head?_eq_some_iff.mp hback
  have htext : (front ++ written ++ back).toList =
      begun ++ mark :: (written.toList ++ '\'' :: rest) := by
    rw [String.toList_append, String.toList_append, hbegun, hrest, List.append_assoc,
      List.append_assoc, List.singleton_append]
  have hquote : '\'' ∉ usageWord := by decide
  have hne : usageWord ≠ [] := by decide
  have hlines : laterLines usageWord back.toList = laterLines usageWord rest := by
    rw [hrest, laterLines_cons newline_not_mem_usageWord, if_neg (fun h => by simp at h),
      Nat.zero_add]
  rw [htext]
  refine ⟨?_, ?_, ?_⟩
  · rw [prefix_cut hword]
    exact fun hprefix => hnone hprefix.isInfix
  · rw [laterLines_cut newline_not_mem_usageWord hword hbreak,
      laterLines_cut newline_not_mem_usageWord hquote (by decide), hlines,
      laterLines_eq_zero newline_not_mem_usageWord hnone, Nat.zero_add]
  · rw [infix_cut hword hne, infix_cut hquote hne, or_iff_right hnone, hrest,
      infix_cons_of_not_mem hquote hne]

/-- A text that quotes another does not begin with the word. -/
theorem not_prefix (h : Quotes written count text) : ¬ usageWord <+: text.toList := by
  cases h with
  | plain h => exact fun hprefix => h hprefix.isInfix
  | quote hfront hback => exact (quote_cases hfront hback).1

/-- **Every quotation brings its lines along.** -/
theorem laterLines_eq (h : Quotes written count text) :
    laterLines usageWord text.toList = count * laterLines usageWord written.toList := by
  induction h with
  | plain h => rw [laterLines_eq_zero newline_not_mem_usageWord h, Nat.zero_mul]
  | quote hfront hback _ ih =>
    rw [(quote_cases hfront hback).2.1, ih, Nat.succ_mul, Nat.add_comm]

/-- The word occurs exactly if it is quoted. -/
theorem infix_iff (h : Quotes written count text) :
    usageWord <:+: text.toList ↔ count ≠ 0 ∧ usageWord <:+: written.toList := by
  induction h with
  | plain h => simp [h]
  | quote hfront hback _ ih =>
    rw [(quote_cases hfront hback).2.2, ih, and_iff_right (Nat.succ_ne_zero _)]
    exact or_iff_left_of_imp And.right

/-- A text with one quotation. -/
theorem once {front back : String} (hfront : Opens front) (hback : back.toList.head? = some '\'')
    (hletter : 'U' ∉ back.toList) : Quotes written 1 (front ++ written ++ back) :=
  .quote hfront hback (.plain (not_infix_of_not_mem hletter))

/-- The usage in a text that quotes another is that of the quotations. -/
theorem length_usageLines_eq (h : Quotes written count text) :
    (usageLines text).length = count * laterLines usageWord written.toList := by
  rw [length_usageLines, if_neg h.not_prefix, Nat.zero_add, h.laterLines_eq]

end Quotes

/-! ## Messages -/

/-- The first letter of the word is in no message about ports. -/
theorem not_mem_faultMessage (fault : PortNumber.Fault) : 'U' ∉ fault.message.toList := by
  cases fault with
  | outOfRange number =>
    have hdigits : 'U' ∉ number.natAbs.repr.toList := by
      rw [Nat.toList_repr]
      intro h
      have hdigit := Nat.isDigit_of_mem_toDigits (by decide) (Nat.le_refl 10) h
      exact absurd hdigit (by decide)
    have hsign : 'U' ∉ (if number < 0 then "-" else "").toList := by
      split <;> decide
    have hrest : 'U' ∉ " is not in 1..=65535".toList := by decide
    simp only [PortNumber.Fault.message, String.toList_append, List.mem_append, not_or]
    exact ⟨⟨hsign, hdigits⟩, hrest⟩
  | _ => decide

namespace Rejection

/-- What a message quotes of the command line, as it is shown. -/
def quoted : Rejection → String
  | port written _ | surplus written | letter written | name written _ | flagValue _ written =>
    shown written
  | notText => ""

/-- How often a message quotes it. -/
def quotations : Rejection → Nat
  | notText => 0
  | port .. | surplus _ | flagValue .. => 1
  | letter _ => 3
  | name written _ => if (Flag.similarTo? written).isSome then 1 else 3

/-- How the program is used with an option, if there is one, and a port, which cannot be left out if
one was given. -/
def usageFor (flag : Option Flag) (afterPort : Bool) : String :=
  usageWith ((flag.map fun flag => "--" ++ flag.name).toList ++
    [if afterPort then "<PORT>" else "[PORT]"])

/-- The usage that a message shows. -/
def usage? : Rejection → Option String
  | port .. => none
  | notText | surplus _ | letter _ => some (usageFor none false)
  | name written afterPort => some (usageFor (Flag.similarTo? written) afterPort)
  | flagValue flag _ => some (usageFor (some flag) false)

/-- What follows the complaint and the advice: the usage, if there is one, and the hint. -/
def closing (usage : Option String) : String :=
  "\n\n".intercalate (usage.toList ++ [hint]) ++ "\n"

/-- A value that is no port is quoted once. -/
theorem quotes_port (written : String) (fault : PortNumber.Fault) : Quotes written 1
    ("error: " ++ ("invalid value '" ++ written ++ "' for '[PORT]': " ++ fault.message)) := by
  have htext : "error: " ++ ("invalid value '" ++ written ++ "' for '[PORT]': " ++ fault.message) =
      "error: " ++ "invalid value '" ++ written ++ ("' for '[PORT]': " ++ fault.message) := by
    simp only [String.append_assoc]
  have hback : 'U' ∉ ("' for '[PORT]': " ++ fault.message).toList := by
    rw [String.toList_append, List.mem_append, not_or]
    exact ⟨by decide, not_mem_faultMessage fault⟩
  rw [htext]
  exact .once (by decide) (by rw [String.toList_append]; rfl) hback

/-- A value too many is quoted once. -/
theorem quotes_surplus (written : String) : Quotes written 1 ("error: " ++ unexpected written) := by
  have htext : "error: " ++ unexpected written =
      "error: " ++ "unexpected argument '" ++ written ++ "' found" := by
    unfold unexpected
    simp only [String.append_assoc]
  rw [htext]
  exact .once (by decide) rfl (by decide)

/-- An option that is not understood is quoted in the complaint, and twice in the advice to mark it
as a value. -/
theorem quotes_markTip {dashes : String} (hdashes : dashes = "-" ∨ dashes = "--")
    (written : String) : Quotes written 3
      ("error: " ++ (unexpected (dashes ++ written) ++ "\n\n" ++ markTip (dashes ++ written))) := by
  have htext : "error: " ++ (unexpected (dashes ++ written) ++ "\n\n" ++
      markTip (dashes ++ written)) = "error: " ++ "unexpected argument '" ++ dashes ++ written ++
        ("' found" ++ "\n\n" ++ "  tip: to pass '" ++ dashes ++ written ++
          ("' as a value, use '-- " ++ dashes ++ written ++ "'")) := by
    unfold unexpected markTip
    simp only [String.append_assoc]
  have hlast : Quotes written 1 ("' as a value, use '-- " ++ dashes ++ written ++ "'") := by
    refine .once ?_ rfl (by decide)
    rcases hdashes with rfl | rfl <;> decide
  have hmiddle : Quotes written 2 ("' found" ++ "\n\n" ++ "  tip: to pass '" ++ dashes ++ written ++
      ("' as a value, use '-- " ++ dashes ++ written ++ "'")) := by
    refine .quote ?_ ?_ hlast
    · rcases hdashes with rfl | rfl <;> decide
    · simp only [String.toList_append, List.append_assoc]
      rfl
  rw [htext]
  refine .quote ?_ ?_ hmiddle
  · rcases hdashes with rfl | rfl <;> decide
  · simp only [String.toList_append, List.append_assoc]
    rfl

/-- An option that may be misspelt is quoted once. -/
theorem quotes_similarTip (flag : Flag) (written : String) : Quotes written 1
    ("error: " ++ (unexpected ("--" ++ written) ++ "\n\n" ++ similarTip flag)) := by
  have htext : "error: " ++ (unexpected ("--" ++ written) ++ "\n\n" ++ similarTip flag) =
      "error: " ++ "unexpected argument '" ++ "--" ++ written ++
        ("' found" ++ "\n\n" ++ similarTip flag) := by
    unfold unexpected
    simp only [String.append_assoc]
  rw [htext]
  refine .once (by decide) ?_ ?_
  · cases flag <;> rfl
  · cases flag <;> decide

/-- The value of an option that takes none is quoted once. -/
theorem quotes_flagValue (flag : Flag) (written : String) : Quotes written 1
    ("error: " ++ ("unexpected value '" ++ written ++ "' for '--" ++ flag.name ++
      "' found; no more were expected")) := by
  have htext : "error: " ++ ("unexpected value '" ++ written ++ "' for '--" ++ flag.name ++
      "' found; no more were expected") = "error: " ++ "unexpected value '" ++ written ++
        ("' for '--" ++ flag.name ++ "' found; no more were expected") := by
    simp only [String.append_assoc]
  rw [htext]
  refine .once (by decide) ?_ ?_
  · cases flag <;> rfl
  · cases flag <;> decide

/-- What a message consists of, by the paragraphs in front of its usage. -/
theorem message_of_opening {cause : Rejection} (opening : List String) (hne : opening ≠ [])
    (h : cause.paragraphs = opening ++ cause.usage?.toList) : cause.message =
      "error: " ++ "\n\n".intercalate opening ++ "\n\n" ++ closing cause.usage? := by
  have hclosing : cause.usage?.toList ++ [hint] ≠ [] :=
    List.append_ne_nil_of_right_ne_nil _ (List.cons_ne_nil _ _)
  rw [message, h, List.append_assoc, String.intercalate_append_of_ne_nil hne hclosing, closing]
  simp only [String.append_assoc]

/-- **What a message consists of**: complaint and advice, in which the user is quoted, the usage, if
it shows one, and a hint. -/
theorem message_eq (cause : Rejection) : ∃ opening, Quotes cause.quoted cause.quotations opening ∧
    cause.message = opening ++ "\n\n" ++ closing cause.usage? := by
  cases cause with
  | port written fault =>
    exact ⟨_, quotes_port (shown written) fault,
      message_of_opening [_] (List.cons_ne_nil _ _) rfl⟩
  | notText =>
    exact ⟨"error: " ++ "invalid UTF-8 was detected in one or more arguments", .plain (by decide),
      message_of_opening [_] (List.cons_ne_nil _ _) rfl⟩
  | surplus written =>
    exact ⟨_, quotes_surplus (shown written),
      message_of_opening [unexpected (shown written)] (List.cons_ne_nil _ _) rfl⟩
  | letter written =>
    exact ⟨_, quotes_markTip (Or.inl rfl) (shown written),
      message_of_opening [unexpected ("-" ++ shown written), markTip ("-" ++ shown written)]
        (List.cons_ne_nil _ _) rfl⟩
  | name written afterPort =>
    cases hsimilar : Flag.similarTo? written with
    | some flag =>
      have hcount : (name written afterPort).quotations = 1 := by rw [quotations, hsimilar]; rfl
      have hparagraphs : (name written afterPort).paragraphs =
          [unexpected ("--" ++ shown written), similarTip flag] ++
            (name written afterPort).usage?.toList := by
        rw [paragraphs, usage?, hsimilar]
        rfl
      exact ⟨_, hcount ▸ quotes_similarTip flag (shown written),
        message_of_opening _ (List.cons_ne_nil _ _) hparagraphs⟩
    | none =>
      have hcount : (name written afterPort).quotations = 3 := by rw [quotations, hsimilar]; rfl
      have hparagraphs : (name written afterPort).paragraphs =
          [unexpected ("--" ++ shown written), markTip ("--" ++ shown written)] ++
            (name written afterPort).usage?.toList := by
        rw [paragraphs, usage?, hsimilar]
        rfl
      exact ⟨_, hcount ▸ quotes_markTip (Or.inr rfl) (shown written),
        message_of_opening _ (List.cons_ne_nil _ _) hparagraphs⟩
  | flagValue flag written =>
    exact ⟨_, quotes_flagValue flag (shown written),
      message_of_opening [_] (List.cons_ne_nil _ _) rfl⟩

/-! ## Reports -/

variable {cause : Rejection} {line : String}

/-- The usage is one line. -/
theorem usageLines_usageFor (flag : Option Flag) (afterPort : Bool) :
    usageLines (usageFor flag afterPort) = [(usageFor flag afterPort).toList] := by
  rcases flag with _ | _ | _ <;> cases afterPort <;> decide

/-- The usage of a message is one line. -/
theorem usageLines_usage (h : cause.usage? = some line) : usageLines line = [line.toList] := by
  cases cause with
  | port => contradiction
  | notText => exact Option.some.inj h ▸ usageLines_usageFor none false
  | surplus => exact Option.some.inj h ▸ usageLines_usageFor none false
  | letter => exact Option.some.inj h ▸ usageLines_usageFor none false
  | name written afterPort => exact Option.some.inj h ▸ usageLines_usageFor _ afterPort
  | flagValue flag => exact Option.some.inj h ▸ usageLines_usageFor (some flag) false

/-- A message begins like usage wherever the user is quoted so, and in its own usage. -/
theorem usageLines_message (cause : Rejection) : ∃ forged : List (List Char),
    forged.length = cause.quotations * laterLines usageWord cause.quoted.toList ∧
      usageLines cause.message = forged ++ (cause.usage?.map String.toList).toList := by
  obtain ⟨opening, hquotes, hmessage⟩ := cause.message_eq
  refine ⟨usageLines opening, hquotes.length_usageLines_eq, ?_⟩
  have hhint : usageLines (hint ++ "\n") = [] := by decide
  rw [hmessage, usageLines_paragraphs]
  refine congrArg (usageLines opening ++ ·) ?_
  cases husage : cause.usage? with
  | none => exact hhint
  | some line =>
    have hclosing : closing (some line) = line ++ "\n\n" ++ (hint ++ "\n") := by
      rw [closing, Option.toList_some, List.singleton_append, String.intercalate_cons_cons,
        String.intercalate_singleton, String.append_assoc]
    rw [hclosing, usageLines_paragraphs, usageLines_usage husage, hhint, List.append_nil]
    rfl

/-- A message without usage quotes the user once. -/
theorem quotations_of_none (h : cause.usage? = none) : cause.quotations = 1 := by
  cases cause with
  | port => rfl
  | _ => contradiction

/-- A message that does not quote the user has nothing to quote. -/
theorem quoted_eq_empty (h : cause.quotations = 0) : cause.quoted = "" := by
  cases cause with
  | notText => rfl
  | name written afterPort =>
    rw [quotations] at h
    split at h <;> contradiction
  | _ => contradiction

/-- The word is found in a message without usage exactly if the user wrote it. -/
theorem infix_message_iff (h : cause.usage? = none) :
    usageWord <:+: cause.message.toList ↔ usageWord <:+: cause.quoted.toList := by
  obtain ⟨opening, hquotes, hmessage⟩ := cause.message_eq
  have htext : cause.message.toList =
      opening.toList ++ '\n' :: ("\n" ++ (hint ++ "\n")).toList := by
    rw [hmessage, h, String.toList_append, String.toList_append, List.append_assoc]
    rfl
  have hrest : ¬ usageWord <:+: ("\n" ++ (hint ++ "\n")).toList :=
    not_infix_of_not_mem (by decide)
  rw [htext, infix_cut newline_not_mem_usageWord (by decide), or_iff_left hrest, hquotes.infix_iff,
    quotations_of_none h, and_iff_right Nat.one_ne_zero]

/-- **What is reported with a message that shows its usage**: just that message. -/
theorem usageLines_report_of_some (h : cause.usage? = some line) : ∃ forged : List (List Char),
    forged.length = cause.quotations * laterLines usageWord cause.quoted.toList ∧
      usageLines cause.report = forged ++ [line.toList] := by
  obtain ⟨forged, hlength, husage⟩ := cause.usageLines_message
  rw [h, Option.map_some, Option.toList_some] at husage
  have hfound : usageWord <:+: cause.message.toList := by
    by_contra hnone
    rw [usageLines_eq_nil hnone] at husage
    exact List.append_ne_nil_of_right_ne_nil _ (List.cons_ne_nil _ _) husage.symm
  refine ⟨forged, hlength, ?_⟩
  have hreport : cause.report = cause.message := if_pos (occurs_iff.mpr hfound)
  rw [hreport, husage]

/-- **What is reported with a message that does not show the usage**: the usage is added if the user
did not write the word; if he did, only what he wrote begins like usage. -/
theorem usageLines_report_of_none (h : cause.usage? = none) :
    (¬ usageWord <:+: cause.quoted.toList → usageLines cause.report = [usage.toList]) ∧
    (usageWord <:+: cause.quoted.toList →
      (usageLines cause.report).length = laterLines usageWord cause.quoted.toList) := by
  obtain ⟨forged, hlength, husage⟩ := cause.usageLines_message
  rw [h, Option.map_none, Option.toList_none, List.append_nil] at husage
  constructor
  · intro hnone
    have hmessage := mt (infix_message_iff h).mp hnone
    have hreport : cause.report = cause.message ++ "\n" ++ usage ++ "\n" :=
      if_neg (mt occurs_iff.mp hmessage)
    have hadded : usageLines (usage ++ "\n") = [usage.toList] := by decide
    rw [hreport, String.append_assoc, usageLines_append, usageLines_eq_nil hmessage, hadded,
      List.nil_append]
  · intro hfound
    have hreport : cause.report = cause.message :=
      if_pos (occurs_iff.mpr ((infix_message_iff h).mpr hfound))
    rw [hreport, husage, hlength, quotations_of_none h, Nat.one_mul]

end Rejection

end CommandLine

namespace Program

open CommandLine Label

/-- **When a rejected command line is answered with one line of usage.**  Whatever is held, the
process ends with status 2, prints nothing to the standard output and logs nothing.  If the user did
not write the word that begins a line of usage, one line of what is written to the standard error
begins with it: the usage of the message, or else the one that is added.  In any case just one line
does, if and only if no later line of what is quoted begins with the word; or, in a message without
usage of its own, if the word is not quoted at all or just one later line of what is quoted begins
with it. -/
theorem usage_once_iff (table : PortTable) {arguments : List Bytes} {cause : Rejection}
    (h : CommandLine.read arguments = .error cause) (link : Link) (script : List Trial.Step) :
    ∃ outcome, run table arguments link script = .ok outcome ∧
      outcome.exitCode = some 2 ∧ outcome.output = "" ∧ (∀ asked, outcome.logLines asked = []) ∧
      (¬ usageWord <:+: cause.quoted.toList →
        usageLines outcome.complaints = [(cause.usage?.getD usage).toList]) ∧
      ((usageLines outcome.complaints).length = 1 ↔
        if cause.usage?.isSome then laterLines usageWord cause.quoted.toList = 0
        else ¬ usageWord <:+: cause.quoted.toList ∨
          laterLines usageWord cause.quoted.toList = 1) := by
  have hrun : run table arguments link script =
      .ok { exitCode := some 2, output := "", complaints := cause.report } := by
    rw [run, launch, h]
    rfl
  refine ⟨_, hrun, rfl, rfl, fun asked => rfl, ?_⟩
  dsimp only
  cases husage : cause.usage? with
  | some line =>
    obtain ⟨forged, hlength, hreport⟩ := Rejection.usageLines_report_of_some husage
    refine ⟨fun hnone => ?_, ?_⟩
    · rw [laterLines_eq_zero newline_not_mem_usageWord hnone, Nat.mul_zero,
        List.length_eq_zero_iff] at hlength
      rw [hreport, hlength]
      rfl
    · rw [hreport, List.length_append, List.length_singleton, Nat.add_eq_right, hlength,
        Nat.mul_eq_zero, Option.isSome_some, if_pos rfl]
      refine or_iff_right_of_imp fun hzero => ?_
      rw [Rejection.quoted_eq_empty hzero]
      rfl
  | none =>
    obtain ⟨hadded, hquoted⟩ := Rejection.usageLines_report_of_none husage
    refine ⟨hadded, ?_⟩
    by_cases hfound : usageWord <:+: cause.quoted.toList
    · simp [hquoted hfound, hfound]
    · simp [hadded hfound, hfound]

/-- A port that is out of range is answered with the usage that is added, and an option that is not
understood with that of the message; a value with a line break can take the place of the usage. -/
theorem usage_once_iff_values :
    (∃ outcome, run {} [Utf8.bytes "70000"] .up [] = .ok outcome ∧
      usageLines outcome.complaints = ["Usage: echo-target [PORT]".toList]) ∧
    (∃ outcome, run {} [Utf8.bytes "9001", Utf8.bytes "--verison=1"] .up [] = .ok outcome ∧
      usageLines outcome.complaints = ["Usage: echo-target --version <PORT>".toList]) ∧
    ∃ outcome, run {} [Utf8.bytes "9001\nUsage: 9002"] .up [] = .ok outcome ∧
      (usageLines outcome.complaints).length = 1 := by
  have hrange : CommandLine.read [Utf8.bytes "70000"] =
      .error (.port "70000".toList (.outOfRange 70000)) := by decide
  have hname : CommandLine.read [Utf8.bytes "9001", Utf8.bytes "--verison=1"] =
      .error (.name "verison".toList true) := by decide
  have hbreak : CommandLine.read [Utf8.bytes "9001\nUsage: 9002"] =
      .error (.port "9001\nUsage: 9002".toList .digit) := by decide
  obtain ⟨first, hfirst, -, -, -, hadded, -⟩ := usage_once_iff {} hrange .up []
  obtain ⟨second, hsecond, -, -, -, hshown, -⟩ := usage_once_iff {} hname .up []
  obtain ⟨third, hthird, -, -, -, -, honce⟩ := usage_once_iff {} hbreak .up []
  refine ⟨⟨first, hfirst, hadded ?_⟩, ⟨second, hsecond, hshown ?_⟩, third, hthird, honce.mpr ?_⟩
  · decide
  · decide
  · exact Or.inr (by decide)

/-- **The usage can be missing, and it can be there twice**: a value is taken for a usage if it has
the word, and a value too many if it has a line that begins with the word. -/
theorem usage_missing :
    (∃ outcome, run {} [Utf8.bytes "Usage:"] .up [] = .ok outcome ∧ outcome.exitCode = some 2 ∧
      usageLines outcome.complaints = []) ∧
    ∃ outcome, run {} [Utf8.bytes "9001", Utf8.bytes "a\nUsage: b"] .up [] = .ok outcome ∧
      outcome.exitCode = some 2 ∧ (usageLines outcome.complaints).length = 2 := by
  refine ⟨⟨_, rfl, rfl, ?_⟩, _, rfl, rfl, ?_⟩
  · decide +kernel
  · decide +kernel

end Program

end EchoBackend
