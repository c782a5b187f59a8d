/-
# Labels in a text

A label is found at the beginning of a line or somewhere in a text, and what stands on either side
of a character that the label has not can be looked at on its own: `prefix_cut`, `infix_cut`,
`laterLines_cut`.
-/
import Mathlib.Data.List.Infix

namespace EchoBackend

namespace Label

variable {label front back text : List Char} {c : Char}

/-! ## Places -/

/-- Whether a text begins with a label is settled in front of any character that the label has
not. -/
theorem prefix_cut (h : c ∉ label) : label <+: front ++ c :: back ↔ label <+: front := by
  constructor
  · intro hprefix
    rcases List.prefix_or_prefix_of_prefix hprefix (List.prefix_append front _) with hshort | hlong
    · exact hshort
    · obtain ⟨rest, rfl⟩ := hlong
      rw [List.prefix_append_right_inj] at hprefix
      cases rest with
      | nil => rw [List.append_nil]
      | cons d rest =>
        obtain ⟨rfl, -⟩ := List.cons_prefix_cons.mp hprefix
        exact absurd (List.mem_append_right front List.mem_cons_self) h
  · exact fun hprefix => hprefix.trans (List.prefix_append _ _)

/-- A character that a label has not is no part of where the label stands. -/
theorem infix_cons_of_not_mem (h : c ∉ label) (hne : label ≠ []) :
    label <:+: c :: back ↔ label <:+: back := by
  have hnone : ¬ label <+: c :: back := by
    intro hprefix
    rw [← List.nil_append (c :: back), prefix_cut h, List.prefix_nil] at hprefix
    exact hne hprefix
  rw [List.infix_cons_iff, or_iff_right hnone]

/-- A label stands on one side of any character that it has not. -/
theorem infix_cut (h : c ∉ label) (hne : label ≠ []) :
    label <:+: front ++ c :: back ↔ label <:+: front ∨ label <:+: back := by
  induction front with
  | nil =>
    have hnone : ¬ label <:+: [] := fun hpart => hne (List.infix_nil.mp hpart)
    rw [List.nil_append, infix_cons_of_not_mem h hne, or_iff_right hnone]
  | cons d front ih =>
    rw [List.cons_append, List.infix_cons_iff, ← List.cons_append, prefix_cut h, ih,
      List.infix_cons_iff, or_assoc]

/-! ## Lines -/

/-- How many lines of a text, its first one left out, begin with a label. -/
def laterLines (label text : List Char) : Nat :=
  (text.splitOn '\n').tail.countP (label.isPrefixOf ·)

/-- A label without a line feed stands in front of a text exactly if it stands in front of the first
line. -/
theorem prefix_first_iff (h : '\n' ∉ label) {first : List Char} {later : List (List Char)}
    (htext : text.splitOn '\n' = first :: later) : label <+: first ↔ label <+: text := by
  have hjoin : ['\n'].intercalate (first :: later) = text := by
    rw [← htext]
    exact List.intercalate_splitOn '\n'
  cases later with
  | nil => rw [← hjoin, List.intercalate_singleton]
  | cons second later =>
    rw [← hjoin, List.intercalate_cons_cons, List.append_assoc, List.singleton_append, prefix_cut h]

/-- A character in front of a text makes a line of its first one if it is a line feed. -/
theorem laterLines_cons (h : '\n' ∉ label) : laterLines label (c :: text) =
    (if c = '\n' ∧ label <+: text then 1 else 0) + laterLines label text := by
  obtain ⟨first, later, htext⟩ := List.exists_cons_of_ne_nil (List.splitOn_ne_nil '\n' text)
  rw [laterLines, laterLines, List.splitOn_cons_eq_if_modifyHead, htext]
  by_cases hc : c = '\n'
  · rw [if_pos (beq_iff_eq.mpr hc), List.tail_cons, List.tail_cons, List.countP_cons, Nat.add_comm]
    simp only [hc, true_and, List.isPrefixOf_iff_prefix, prefix_first_iff h htext]
  · rw [if_neg (by simpa using hc), if_neg (fun hboth => hc hboth.1), Nat.zero_add,
      List.modifyHead_cons, List.tail_cons, List.tail_cons]

/-- Lines are counted on both sides of any character that is neither in the label nor a line
feed. -/
theorem laterLines_cut (h : '\n' ∉ label) (hlabel : c ∉ label) (hc : c ≠ '\n') :
    laterLines label (front ++ c :: back) = laterLines label front + laterLines label back := by
  induction front with
  | nil =>
    have hempty : laterLines label [] = 0 := rfl
    rw [List.nil_append, laterLines_cons h, if_neg (fun hboth => hc hboth.1), hempty]
  | cons d front ih =>
    rw [List.cons_append, laterLines_cons h, laterLines_cons h, ih, ← Nat.add_assoc]
    simp only [prefix_cut hlabel]

/-- A text in which a label does not occur has no line that begins with it. -/
theorem laterLines_eq_zero (h : '\n' ∉ label) (hnone : ¬ label <:+: text) :
    laterLines label text = 0 := by
  induction text with
  | nil => rfl
  | cons c text ih =>
    rw [List.infix_cons_iff, not_or] at hnone
    rw [laterLines_cons h, ih hnone.2, if_neg fun hboth => hnone.2 hboth.2.isInfix]

end Label

end EchoBackend
