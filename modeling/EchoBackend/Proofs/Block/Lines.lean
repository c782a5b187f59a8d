/-
# The lines of a block

A reader of the diagnostic output splits it at line feeds and looks for lines that begin with a
label.  What stands between the frame of a block may itself have several lines; `lines_framed` and
`lines_labelled` say which lines come of it.
-/
import EchoBackend.Echo.Block
import Mathlib.Data.List.Basic

namespace EchoBackend

namespace Echo

/-- The lines of a text: what stands between its line feeds. -/
def lines (text : String) : List (List Char) := text.toList.splitOn '\n'

/-- What follows a label, on each of the lines that begin with it. -/
def labelled (label : String) (lines : List (List Char)) : List (List Char) :=
  (lines.filter (label.toList.isPrefixOf ·)).map (·.drop label.toList.length)

/-! ## Splitting -/

/-- A text without a line feed is one line. -/
theorem lines_of_not_mem {text : String} (h : '\n' ∉ text.toList) : lines text = [text.toList] :=
  List.splitOn_eq_singleton h

/-- A line feed ends a line. -/
theorem lines_append (x y : String) : lines (x ++ "\n" ++ y) = lines x ++ lines y := by
  rw [lines, String.toList_append, String.toList_append, List.append_assoc]
  exact List.splitOn_append_cons_self _ _

/-- What has no line feed and stands in front of a text stands in front of its first line. -/
theorem splitOn_append_of_not_mem {front : List Char} (h : '\n' ∉ front) (text : List Char) :
    (front ++ text).splitOn '\n' = (text.splitOn '\n').modifyHead (front ++ ·) := by
  induction front with
  | nil => exact (congrFun List.modifyHead_id _).symm
  | cons c front ih =>
    rw [List.mem_cons, not_or] at h
    rw [List.cons_append, List.splitOn_cons_eq_if_modifyHead, if_neg (by simpa using Ne.symm h.1),
      ih h.2, List.modifyHead_modifyHead]
    rfl

/-- The lines of a labelled text are those of the text, the first of them with the label. -/
theorem lines_labelled {label : String} (h : '\n' ∉ label.toList) {text : String}
    {first : List Char} {later : List (List Char)} (htext : lines text = first :: later) :
    lines (label ++ text) = (label.toList ++ first) :: later := by
  rw [lines, String.toList_append, splitOn_append_of_not_mem h, ← lines, htext,
    List.modifyHead_cons]

/-- A text has a line feed exactly if it has more than its first line. -/
theorem not_mem_iff_lines {text : String} {first : List Char} {later : List (List Char)}
    (htext : lines text = first :: later) : '\n' ∉ text.toList ↔ first = text.toList := by
  constructor
  · intro h
    rw [lines_of_not_mem h] at htext
    exact (List.cons.inj htext).1.symm
  · intro h hmem
    -- The lines of a text have no line feed.
    have hline : ['\n'].intercalate (text.toList.splitOn '\n') = text.toList :=
      List.intercalate_splitOn '\n'
    rw [← lines, htext, h, List.intercalate] at hline
    cases later with
    | nil =>
      obtain ⟨before, after, heq⟩ := List.append_of_mem hmem
      rw [lines, heq, List.splitOn_append_cons_self] at htext
      have hlength := congrArg List.length htext
      have hbefore := List.length_pos_iff.mpr (List.splitOn_ne_nil '\n' before)
      have hafter := List.length_pos_iff.mpr (List.splitOn_ne_nil '\n' after)
      rw [List.length_append, List.length_singleton] at hlength
      omega
    | cons second later =>
      have hlength := congrArg List.length hline
      simp only [List.intersperse_cons_cons, List.flatten_cons, List.length_append,
        List.length_singleton] at hlength
      omega

/-! ## Frames -/

/-- The separator is a line of equals signs. -/
theorem toList_separator : separator.toList = List.replicate 60 '=' := String.toList_ofList

/-- The separator is not empty. -/
theorem toList_separator_eq_cons : separator.toList = '=' :: List.replicate 59 '=' := by
  have hcons : List.replicate 60 '=' = '=' :: List.replicate 59 '=' := List.replicate_succ
  rw [toList_separator, hcons]

/-- The lines of texts that each end with a line feed. -/
theorem lines_join (texts : List String) :
    lines (String.join (texts.map (· ++ "\n"))) = texts.flatMap lines ++ [[]] := by
  induction texts with
  | nil => rfl
  | cons text texts ih =>
    rw [List.map_cons, String.join_cons, lines_append, ih, List.flatMap_cons, List.append_assoc]

/-- The lines of a block: an empty one, and between two separators those of its texts; after the
last line feed nothing is left. -/
theorem lines_framed (texts : List String) : lines (framed texts) =
    [] :: separator.toList :: (texts.flatMap lines ++ [separator.toList, []]) := by
  have hseparator : lines separator = [separator.toList] := by
    refine lines_of_not_mem ?_
    rw [toList_separator]
    intro h
    exact absurd (List.eq_of_mem_replicate h) (by decide)
  have hempty : lines "" = [[]] := rfl
  rw [framed, lines_join, List.flatMap_append, List.flatMap_append, List.flatMap_append,
    List.flatMap_singleton, List.flatMap_singleton, hempty, hseparator, List.append_assoc,
    List.append_assoc]
  rfl

/-! ## Labels -/

variable {label : String} {line : List Char} {rest : List (List Char)}

/-- A line in front of others. -/
theorem labelled_cons : labelled label (line :: rest) =
    if label.toList.isPrefixOf line then line.drop label.toList.length :: labelled label rest
    else labelled label rest := by
  unfold labelled
  by_cases h : label.toList.isPrefixOf line <;> simp [h]

/-- Lines after other lines. -/
theorem labelled_append (front : List (List Char)) :
    labelled label (front ++ rest) = labelled label front ++ labelled label rest := by
  rw [labelled, List.filter_append, List.map_append]
  rfl

/-- No line begins with a label that is followed by nothing on any line. -/
theorem labelled_eq_nil_iff :
    labelled label rest = [] ↔ ∀ line ∈ rest, ¬ label.toList <+: line := by
  simp [labelled, List.filter_eq_nil_iff]

end Echo

end EchoBackend
