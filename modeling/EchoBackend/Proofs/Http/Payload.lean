/-
# Payloads do not depend on how a body is cut

The payload of a body is told by the data that arrive before it fails, as a whole: how they are cut
into pieces, even in the middle of a character, does not matter.  The main statement,
`Body.payload_of_arrival`, gives the payload for every body and every limit; the lemmas before it
take the three ways apart in which a body can have no text to show.
-/
import EchoBackend.Proofs.Http.Reading
import EchoBackend.Proofs.Text.Scanning
import Mathlib.Data.List.TakeWhile
import Mathlib.Logic.Relation

namespace EchoBackend

namespace Http

namespace Body

/-! ## What arrives -/

/-- The data of a body before it fails: all of its data if it does not. -/
def arrived (body : Body) : Bytes := bytes (body.takeWhile fun piece => !piece.isFailure)

/-- One change to how a body is cut: data are split in two, or a piece without data is put in. -/
inductive Recut : Body → Body → Prop
  | split (before : Body) (first second : Bytes) (after : Body) :
      Recut (before ++ .data (first ++ second) :: after)
        (before ++ .data first :: .data second :: after)
  | empty (before after : Body) : Recut (before ++ after) (before ++ .data [] :: after)

variable {limit : Nat} {body other : Body}

/-- Of a body that does not fail everything arrives. -/
theorem arrived_of_intact (h : body.Intact) : body.arrived = body.bytes := by
  have hall : body.takeWhile (fun piece => !piece.isFailure) = body := by
    apply List.takeWhile_eq_self_iff.mpr
    intro piece hpiece
    simp [h piece hpiece]
  rw [arrived, hall]

/-- A body is readable if it does not fail and what arrives keeps within the limit. -/
theorem readable_iff : Readable limit body ↔ body.Intact ∧ body.arrived.length ≤ limit := by
  constructor
  · intro h
    rw [arrived_of_intact h.intact]
    exact ⟨h.intact, h.within⟩
  · rintro ⟨hintact, hwithin⟩
    rw [arrived_of_intact hintact] at hwithin
    exact ⟨hintact, hwithin⟩

/-! ## What is shown -/

/-- A body that is not readable is not shown. -/
theorem payload_of_not_readable (h : ¬ Readable limit body) :
    body.payload limit = some unreadable := by
  obtain ⟨fault, hfault⟩ := exists_fault h
  rw [payload, hfault]
  rfl

/-- A readable body is shown as far as its data are a text. -/
theorem Readable.payload_eq (h : Readable limit body) : body.payload limit =
    if body.bytes = [] then none else some ((Utf8.text? body.bytes).getD unreadable) := by
  rw [payload, h.read_eq]
  cases body.bytes with
  | nil => rfl
  | cons byte data => rw [if_neg (List.cons_ne_nil byte data)]; rfl

/-- Data that are no text are not shown. -/
theorem Readable.payload_of_no_text (h : Readable limit body)
    (htext : ∀ text, body.bytes ≠ Utf8.bytes text) : body.payload limit = some unreadable := by
  have hdecode : Utf8.text? body.bytes = none := by
    rw [Option.eq_none_iff_forall_ne_some]
    intro text hsome
    exact htext text (Utf8.text?_eq_some_iff.mp hsome)
  have hne : body.bytes ≠ [] := htext ""
  rw [h.payload_eq, if_neg hne, hdecode]
  rfl

/-- A text is shown as it is, unless it is empty. -/
theorem Readable.payload_of_text (h : Readable limit body) {text : String}
    (htext : body.bytes = Utf8.bytes text) :
    body.payload limit = if body.bytes = [] then none else some text := by
  rw [h.payload_eq, Utf8.text?_eq_some_iff.mpr htext]
  rfl

/-! ## Other cuts -/

/-- A body with the same data and without a failure either way is shown in the same way. -/
theorem payload_congr (hintact : body.Intact ↔ other.Intact) (hbytes : body.bytes = other.bytes) :
    body.payload limit = other.payload limit := by
  by_cases h : Readable limit body
  · have hother : Readable limit other := ⟨hintact.mp h.intact, hbytes ▸ h.within⟩
    rw [h.payload_eq, hother.payload_eq, hbytes]
  · have hother : ¬ Readable limit other := by
      intro hread
      exact h ⟨hintact.mpr hread.intact, hbytes ▸ hread.within⟩
    rw [payload_of_not_readable h, payload_of_not_readable hother]

/-- One change to the cuts does not change what is shown. -/
theorem Recut.payload_eq (h : Recut body other) : body.payload limit = other.payload limit := by
  cases h with
  | split before first second after =>
    apply payload_congr
    · simp
    · simp
  | empty before after =>
    apply payload_congr
    · simp
    · simp

/-- No change to the cuts changes what is shown. -/
theorem payload_eq_of_recut (h : Relation.EqvGen Recut body other) :
    body.payload limit = other.payload limit := by
  induction h with
  | rel body other hcut => exact hcut.payload_eq
  | refl body => rfl
  | symm body other _ ih => exact ih.symm
  | trans body between other _ _ ihfirst ihsecond => exact ihfirst.trans ihsecond

/-! ## The payload of a body -/

/-- **The payload is told by what arrives.**  The first two clauses give it for every body and
limit; the others say that the cuts do not matter, that data are shown up to the very limit, that
an empty body passes even the limit 0, and that a greater limit does not change what is shown. -/
theorem payload_of_arrival (body : Body) (limit : Nat) :
    ((¬ body.Intact ∨ limit < body.arrived.length ∨ ∀ text, body.arrived ≠ Utf8.bytes text) →
        body.payload limit = some unreadable) ∧
      (∀ text, body.Intact → body.arrived.length ≤ limit → body.arrived = Utf8.bytes text →
        body.payload limit = if body.arrived = [] then none else some text) ∧
      (∀ other, Relation.EqvGen Recut body other → body.payload limit = other.payload limit) ∧
      (∀ text, body.Intact → body.arrived = Utf8.bytes text → body.arrived.length = limit →
        body.payload limit = if body.arrived = [] then none else some text) ∧
      (body.Intact → body.arrived = [] → body.payload 0 = none) ∧
      (∀ text greater, body.Intact → body.arrived = Utf8.bytes text →
        body.payload limit ≠ some unreadable → limit ≤ greater →
          body.payload greater = body.payload limit) := by
  have hshown : ∀ limit text, body.Intact → body.arrived.length ≤ limit →
      body.arrived = Utf8.bytes text →
      body.payload limit = if body.arrived = [] then none else some text := by
    intro limit text hintact hwithin htext
    have hreadable := readable_iff.mpr ⟨hintact, hwithin⟩
    rw [arrived_of_intact hintact] at htext ⊢
    exact hreadable.payload_of_text htext
  refine ⟨?_, hshown limit, fun _ => payload_eq_of_recut, ?_, ?_, ?_⟩
  · intro h
    by_cases hreadable : Readable limit body
    · obtain ⟨hintact, hwithin⟩ := readable_iff.mp hreadable
      rcases h with hfails | hover | htext
      · exact absurd hintact hfails
      · omega
      · rw [arrived_of_intact hintact] at htext
        exact hreadable.payload_of_no_text htext
    · exact payload_of_not_readable hreadable
  · intro text hintact htext hlimit
    exact hshown limit text hintact (Nat.le_of_eq hlimit) htext
  · intro hintact hempty
    have hpayload := hshown 0 "" hintact (by rw [hempty]; exact Nat.le_refl 0) hempty
    rw [hpayload, if_pos hempty]
  · intro text greater hintact htext hpayload hle
    -- What was shown kept within the limit.
    have hreadable : Readable limit body := by
      by_contra hnot
      exact hpayload (payload_of_not_readable hnot)
    have hwithin := (readable_iff.mp hreadable).2
    rw [hshown limit text hintact hwithin htext, hshown greater text hintact (by omega) htext]

/-- Cuts at work: a letter that is cut in the middle is shown with the limit 2 and with any greater
one, as if it had come in one piece; with the limit 1 there is too much. -/
theorem payload_of_arrival_letter :
    let cut : Body := [.delay 5, .data [0xC3], .data [], .data [0xA9]]
    let whole : Body := [.delay 5, .data [0xC3, 0xA9]]
    cut.Intact ∧ cut.arrived = Utf8.bytes "é" ∧ cut.payload 2 = some "é" ∧
      cut.payload 3 = some "é" ∧ whole.payload 2 = some "é" ∧ cut.payload 1 = some unreadable := by
  intro cut whole
  have hintact : cut.Intact := by simp [cut, Intact, Piece.isFailure]
  have htext : cut.arrived = Utf8.bytes "é" := by decide
  have hcut : Relation.EqvGen Recut whole cut :=
    .trans _ _ _ (.rel _ _ (.split [.delay 5] [0xC3] [0xA9] []))
      (.rel _ _ (.empty [.delay 5, .data [0xC3]] [.data [0xA9]]))
  obtain ⟨-, -, -, hexact, -, hgreater⟩ := payload_of_arrival cut 2
  obtain ⟨-, -, hrecut, -⟩ := payload_of_arrival whole 2
  obtain ⟨hunreadable, -⟩ := payload_of_arrival cut 1
  have htwo : cut.payload 2 = some "é" := hexact "é" hintact htext rfl
  have hthree : cut.payload 3 = some "é" := by
    rw [← htwo]
    exact hgreater "é" 3 hintact htext (by rw [htwo]; decide) (by decide)
  have hwhole : whole.payload 2 = some "é" := (hrecut cut hcut).trans htwo
  exact ⟨hintact, htext, htwo, hthree, hwhole, hunreadable (Or.inr (Or.inl (by decide)))⟩

end Body

end Http

end EchoBackend
