/-
# Sorting by a key

Two facts about insertion sort by a numeric key: the first of the least elements comes to the
front (`insertionSort_append_cons`), and leaving elements out commutes with sorting
(`filterMap_insertionSort`).
-/
import Mathlib.Data.List.Sort

namespace EchoBackend

namespace Sorting

variable {α β : Type} {p : α → Nat} {q : β → Nat}

/-- The first of the least elements is sorted to the front. -/
theorem insertionSort_append_cons {a : α} {before after : List α}
    (later : ∀ x ∈ before, p a < p x) (notEarlier : ∀ x ∈ after, p a ≤ p x) :
    (before ++ a :: after).insertionSort (fun x y => p x ≤ p y) =
      a :: (before ++ after).insertionSort (fun x y => p x ≤ p y) := by
  induction before with
  | nil => exact List.insertionSort_cons_of_forall_rel _ notEarlier
  | cons c before ih =>
    have hc : ¬ p c ≤ p a := by
      have := later c List.mem_cons_self
      omega
    have hrest := ih fun x hx => later x (List.mem_cons_of_mem c hx)
    rw [List.cons_append, List.insertionSort_cons, hrest, List.orderedInsert_cons, if_neg hc,
      List.cons_append, List.insertionSort_cons]

/-- An element that is not above any of a list is inserted in front of it. -/
theorem orderedInsert_of_forall_le {b : β} {l : List β} (h : ∀ d ∈ l, q b ≤ q d) :
    l.orderedInsert (fun x y => q x ≤ q y) b = b :: l := by
  cases l with
  | nil => rfl
  | cons d l => rw [List.orderedInsert_cons, if_pos (h d List.mem_cons_self)]

/-! ## Leaving elements out -/

variable {f : α → Option β}

/-- An element that is left out may as well not be inserted. -/
theorem filterMap_orderedInsert_of_none {a : α} (ha : f a = none) (l : List α) :
    (l.orderedInsert (fun x y => p x ≤ p y) a).filterMap f = l.filterMap f := by
  induction l with
  | nil => exact List.filterMap_cons_none ha
  | cons c l ih =>
    rw [List.orderedInsert_cons]
    split
    · exact List.filterMap_cons_none ha
    · rw [List.filterMap_cons, ih, List.filterMap_cons]

/-- An element that is kept is inserted among those that are kept. -/
theorem filterMap_orderedInsert_of_some (hkey : ∀ x y, f x = some y → p x = q y) {a : α} {b : β}
    (ha : f a = some b) (l : List α) (hl : l.Pairwise fun x y => p x ≤ p y) :
    (l.orderedInsert (fun x y => p x ≤ p y) a).filterMap f =
      (l.filterMap f).orderedInsert (fun x y => q x ≤ q y) b := by
  induction l with
  | nil => exact List.filterMap_cons_some ha
  | cons c l ih =>
    have hcl := List.pairwise_cons.mp hl
    rw [List.orderedInsert_cons]
    by_cases hac : p a ≤ p c
    · -- Everything that is kept comes after `c` in the order, so `b` goes to the front.
      rw [if_pos hac, List.filterMap_cons_some ha, orderedInsert_of_forall_le]
      intro d hd
      obtain ⟨x, hx, hxd⟩ := List.mem_filterMap.mp hd
      have hcx : p c ≤ p x := by
        rcases List.mem_cons.mp hx with rfl | hx
        · exact Nat.le_refl _
        · exact hcl.1 x hx
      rw [← hkey a b ha, ← hkey x d hxd]
      exact Nat.le_trans hac hcx
    · rw [if_neg hac, List.filterMap_cons, ih hcl.2, List.filterMap_cons]
      cases hc : f c with
      | none => rfl
      | some d =>
        rw [List.orderedInsert_cons, if_neg]
        rw [← hkey a b ha, ← hkey c d hc]
        exact hac

/-- Sorting and leaving elements out may be done in either order. -/
theorem filterMap_insertionSort (hkey : ∀ x y, f x = some y → p x = q y) (l : List α) :
    (l.insertionSort fun x y => p x ≤ p y).filterMap f =
      (l.filterMap f).insertionSort fun x y => q x ≤ q y := by
  induction l with
  | nil => rfl
  | cons a l ih =>
    rw [List.insertionSort_cons]
    cases ha : f a with
    | none => rw [filterMap_orderedInsert_of_none ha, ih, List.filterMap_cons_none ha]
    | some b =>
      have : Std.Total fun x y : α => p x ≤ p y := ⟨fun x y => Nat.le_total (p x) (p y)⟩
      have : IsTrans α fun x y => p x ≤ p y := ⟨fun x y z => Nat.le_trans⟩
      rw [filterMap_orderedInsert_of_some hkey ha _ (List.pairwise_insertionSort _ l), ih,
        List.filterMap_cons_some ha, List.insertionSort_cons]

end Sorting

end EchoBackend
