/-
# Values of any depth are passed over

A value is passed over from its first byte to its last, however deep it is nested, by induction over
the grammar: a value leaves the frames that are open as they were, and the items of a frame close
it.  The main statement is `skipValue_append`.
-/
import EchoBackend.Proofs.Json.Acceptance

namespace EchoBackend

namespace Json

variable {bytes blanks rest text front items after inner : Bytes} {byte next : UInt8}
  {frame : Frame} {frames : List Frame}

/-! ## Steps -/

/-- The byte that opens a frame is told apart. -/
theorem Frame.opened?_opening (frame : Frame) : Frame.opened? frame.opening = some frame := by
  cases frame <;> decide

/-- Brackets and commas are no blanks and prolong no number. -/
theorem Frame.marks (frame : Frame) : isBlank frame.opening = false ∧
    isBlank frame.close = false ∧ (frame.close == 0x2C) = false ∧ frame.opening ≠ 0x5D := by
  cases frame <;> decide

/-- Passing over a value that is due, without the facts that only termination needs. -/
theorem skipWithin_due (frames : List Frame) (bytes : Bytes) :
    skipWithin true frames bytes =
      match skipBlanks bytes with
      | [] => .error .ended
      | byte :: rest =>
        match Frame.opened? byte with
        | none =>
          match skipScalar byte rest with
          | .error fault => .error fault
          | .ok rest => skipWithin false frames rest
        | some frame =>
          match skipBlanks rest with
          | [] => .error .ended
          | next :: after =>
            if next == frame.close then skipWithin false frames after
            else
              match frame.skipName (next :: after) with
              | .error fault => .error fault
              | .ok inner => skipWithin true (frame :: frames) inner := by
  rw [skipWithin.eq_def, if_pos rfl]
  split
  case h_1 hhead => rw [hhead]
  case h_2 byte tail hhead =>
    rw [hhead]
    dsimp only
    cases hopened : Frame.opened? byte with
    | none =>
      dsimp only
      split
      case h_1 hscalar => rw [hscalar]
      case h_2 hscalar => rw [hscalar]
    | some frame =>
      dsimp only
      split
      case h_1 hfirst => rw [hfirst]
      case h_2 hfirst =>
        rw [hfirst]
        dsimp only
        refine if_congr Iff.rfl rfl ?_
        split
        case h_1 hname => rw [hname]
        case h_2 hname => rw [hname]

/-- After a value, without the facts that only termination needs. -/
theorem skipWithin_ended (frame : Frame) (frames : List Frame) (bytes : Bytes) :
    skipWithin false (frame :: frames) bytes =
      match skipBlanks bytes with
      | [] => .error .ended
      | byte :: rest =>
        if byte == 0x2C then
          match frame.skipName rest with
          | .error fault => .error fault
          | .ok rest => skipWithin true (frame :: frames) rest
        else if byte == frame.close then skipWithin false frames rest
        else .error .malformed := by
  rw [skipWithin.eq_def, if_neg Bool.false_ne_true]
  dsimp only
  split
  case h_1 hhead => rw [hhead]
  case h_2 hhead =>
    rw [hhead]
    dsimp only
    refine if_congr Iff.rfl ?_ rfl
    split
    case h_1 hname => rw [hname]
    case h_2 hname => rw [hname]

/-- Blanks in front of a value that is due do not matter. -/
theorem skipWithin_congr {other : Bytes} (h : skipBlanks bytes = skipBlanks other) :
    skipWithin true frames bytes = skipWithin true frames other := by
  rw [skipWithin_due, skipWithin_due, h]

/-- A value that is neither a list nor an object. -/
theorem skipWithin_scalar (h : IsScalar bytes) (frames : List Frame) (hstops : Stops rest) :
    skipWithin true frames (bytes ++ rest) = skipWithin false frames rest := by
  obtain ⟨byte, tail, heq, hblank, hopened, -, hskip⟩ := h.skipScalar hstops
  rw [heq, skipWithin_due, skipBlanks_cons _ hblank]
  dsimp only
  rw [hopened]
  dsimp only
  rw [hskip]

/-- A list or an object with nothing in it. -/
theorem skipWithin_empty (frame : Frame) (h : Blanks blanks) (frames : List Frame) (rest : Bytes) :
    skipWithin true frames (frame.opening :: (blanks ++ frame.close :: rest)) =
      skipWithin false frames rest := by
  obtain ⟨hopening, hclose, -, -⟩ := frame.marks
  rw [skipWithin_due, skipBlanks_cons _ hopening]
  dsimp only
  rw [frame.opened?_opening]
  dsimp only
  rw [skipBlanks_append h, skipBlanks_cons _ hclose]
  dsimp only
  rw [if_pos (beq_self_eq_true _)]

/-- A list or an object that is not closed at once. -/
theorem skipWithin_open (hfirst : skipBlanks text = next :: after) (hclose : next ≠ frame.close)
    (hname : frame.skipName (next :: after) = .ok inner) (frames : List Frame) :
    skipWithin true frames (frame.opening :: text) = skipWithin true (frame :: frames) inner := by
  rw [skipWithin_due, skipBlanks_cons _ frame.marks.1]
  dsimp only
  rw [frame.opened?_opening]
  dsimp only
  rw [hfirst]
  dsimp only
  rw [if_neg (by simpa using hclose), hname]

/-- A comma after a value. -/
theorem skipWithin_comma (h : Blanks blanks) (hname : frame.skipName text = .ok inner)
    (frames : List Frame) : skipWithin false (frame :: frames) (blanks ++ 0x2C :: text) =
      skipWithin true (frame :: frames) inner := by
  rw [skipWithin_ended, skipBlanks_append h, skipBlanks_cons _ (by decide)]
  dsimp only
  rw [if_pos (by decide), hname]

/-- The end of a list or an object. -/
theorem skipWithin_close (frame : Frame) (h : Blanks blanks) (frames : List Frame) (rest : Bytes) :
    skipWithin false (frame :: frames) (blanks ++ frame.close :: rest) =
      skipWithin false frames rest := by
  obtain ⟨-, hclose, hcomma, -⟩ := frame.marks
  rw [skipWithin_ended, skipBlanks_append h, skipBlanks_cons _ hclose]
  dsimp only
  rw [hcomma, if_neg Bool.false_ne_true, if_pos (beq_self_eq_true _)]

/-! ## In front of a value -/

/-- What stands in front of a value is passed over, up to blanks. -/
theorem Front.skipName (h : Front frame front)
    (htext : skipBlanks text = skipBlanks (front ++ rest)) :
    ∃ inner, frame.skipName text = .ok inner ∧ skipBlanks inner = skipBlanks rest := by
  cases h with
  | list hbefore => exact ⟨text, rfl, by rw [htext, skipBlanks_append hbefore]⟩
  | @object before name between after hbefore hname hbetween hafter =>
    refine ⟨after ++ rest, ?_, skipBlanks_append hafter rest⟩
    obtain ⟨quoted, hquoted, hskip⟩ := hname.skipText (between ++ 0x3A :: (after ++ rest))
    have htext' : skipBlanks text = 0x22 :: quoted := by
      rw [htext, List.append_assoc, skipBlanks_append hbefore, ← skipBlanks_cons quoted (by decide),
        ← hquoted]
      simp only [List.append_assoc, List.cons_append]
    rw [Frame.skipName, Json.skipName, htext']
    dsimp only
    rw [if_pos (by decide), hskip]
    dsimp only
    rw [skipBlanks_append hbetween, skipBlanks_cons _ (by decide), readByte, if_pos (by decide)]

/-- A value begins neither with a blank nor with the end of a list. -/
theorem IsValue.exists_cons (h : IsValue bytes) :
    ∃ byte tail, bytes = byte :: tail ∧ isBlank byte = false ∧ byte ≠ 0x5D := by
  cases h with
  | scalar h =>
    obtain ⟨byte, tail, heq, hblank, -, hclose, -⟩ := h.skipScalar stops_nil
    rw [List.append_nil] at heq
    exact ⟨byte, tail, heq, hblank, hclose⟩
  | empty frame => exact ⟨frame.opening, _, rfl, frame.marks.1, frame.marks.2.2.2⟩
  | @filled frame => exact ⟨frame.opening, _, rfl, frame.marks.1, frame.marks.2.2.2⟩

/-- What stands in front of a value does not close the frame. -/
theorem Front.exists_cons (h : Front frame front) {value : Bytes} (hvalue : IsValue value)
    (rest : Bytes) :
    ∃ byte tail, skipBlanks (front ++ (value ++ rest)) = byte :: tail ∧ byte ≠ frame.close := by
  cases h with
  | list hbefore =>
    obtain ⟨byte, tail, rfl, hblank, hclose⟩ := hvalue.exists_cons
    exact ⟨byte, tail ++ rest, by rw [skipBlanks_append hbefore, List.cons_append,
      skipBlanks_cons _ hblank], hclose⟩
  | @object before name between after hbefore hname hbetween hafter =>
    obtain ⟨quoted, hquoted, -⟩ := hname.skipText ((between ++ 0x3A :: after) ++ (value ++ rest))
    refine ⟨0x22, quoted, ?_, by decide⟩
    rw [List.append_assoc, skipBlanks_append hbefore, List.append_assoc, hquoted,
      skipBlanks_cons _ (by decide)]

/-- The items of a frame do not begin with its end. -/
theorem Items.exists_cons (h : Items frame items) (rest : Bytes) :
    ∃ byte tail, skipBlanks (items ++ rest) = byte :: tail ∧ byte ≠ frame.close := by
  cases h with
  | last hfront hvalue hafter =>
    rw [List.append_assoc, List.append_assoc]
    exact hfront.exists_cons hvalue _
  | more hfront hvalue hafter _ =>
    rw [List.append_assoc, List.append_assoc]
    exact hfront.exists_cons hvalue _

/-! ## Values -/

/-- A comma prolongs no number. -/
theorem stops_comma (rest : Bytes) : Stops (0x2C :: rest) := by
  rintro _ ⟨⟩
  decide

/-- The end of a frame prolongs no number. -/
theorem Frame.stops_close (frame : Frame) (rest : Bytes) : Stops (frame.close :: rest) := by
  rintro _ ⟨⟩
  cases frame <;> decide

/-- Whether bytes are passed over as a value, the frames that are open staying open. -/
def Passes (bytes : Bytes) : Prop :=
  ∀ (frames : List Frame) (rest : Bytes), Stops rest →
    skipWithin true frames (bytes ++ rest) = skipWithin false frames rest

/-- Whether bytes are passed over as the items of a frame, which is closed after them; what is read
may begin with other blanks. -/
def Closes (frame : Frame) (items : Bytes) : Prop :=
  ∀ (frames : List Frame) (rest text : Bytes),
    skipBlanks text = skipBlanks (items ++ frame.close :: rest) →
      ∃ inner, frame.skipName text = .ok inner ∧
        skipWithin true (frame :: frames) inner = skipWithin false frames rest

/-- A list or an object passes if its items close it. -/
theorem passes_filled (hitems : Items frame items) (h : Closes frame items) :
    Passes (frame.opening :: (items ++ [frame.close])) := by
  intro frames rest _
  obtain ⟨byte, tail, hfirst, hclose⟩ := hitems.exists_cons (frame.close :: rest)
  obtain ⟨inner, hname, hskip⟩ := h frames rest (byte :: tail) (by
    rw [← hfirst, skipBlanks_skipBlanks])
  rw [List.cons_append, List.append_assoc, List.singleton_append,
    skipWithin_open hfirst hclose hname, hskip]

variable {value : Bytes}

/-- The last item closes the frame. -/
theorem closes_last (hfront : Front frame front) (hvalue : Passes value) (hafter : Blanks after) :
    Closes frame (front ++ (value ++ after)) := by
  intro frames rest text htext
  rw [List.append_assoc, List.append_assoc] at htext
  obtain ⟨inner, hname, hinner⟩ := hfront.skipName htext
  refine ⟨inner, hname, ?_⟩
  rw [skipWithin_congr hinner, hvalue _ _ (hafter.stops (frame.stops_close rest)),
    skipWithin_close frame hafter]

/-- An item in front of others that close the frame. -/
theorem closes_more (hfront : Front frame front) (hvalue : Passes value) (hafter : Blanks after)
    (hrest : Closes frame items) : Closes frame (front ++ (value ++ (after ++ 0x2C :: items))) := by
  intro frames rest text htext
  rw [List.append_assoc, List.append_assoc, List.append_assoc, List.cons_append] at htext
  obtain ⟨inner, hname, hinner⟩ := hfront.skipName htext
  obtain ⟨later, hnext, hskip⟩ := hrest frames rest _ rfl
  refine ⟨inner, hname, ?_⟩
  rw [skipWithin_congr hinner, hvalue _ _ (hafter.stops (stops_comma _)),
    skipWithin_comma hafter hnext, hskip]

mutual

/-- **A value of any depth is passed over.** -/
theorem IsValue.passes {bytes : Bytes} : IsValue bytes → Passes bytes
  | .scalar h => fun frames _ hstops => skipWithin_scalar h frames hstops
  | .empty frame h => fun frames rest _ => by
    rw [List.cons_append, List.append_assoc]
    exact skipWithin_empty frame h frames rest
  | .filled h => passes_filled h h.closes

/-- Items of any depth are passed over. -/
theorem Items.closes {frame : Frame} {items : Bytes} : Items frame items → Closes frame items
  | .last hfront hvalue hafter => closes_last hfront hvalue.passes hafter
  | .more hfront hvalue hafter hrest => closes_more hfront hvalue.passes hafter hrest.closes

end

/-- **A value is passed over to its last byte**, whatever follows that does not prolong a number. -/
theorem skipValue_append (h : IsValue bytes) (hstops : Stops rest) :
    skipValue (bytes ++ rest) = .ok rest := by
  rw [skipValue, h.passes [] rest hstops, skipWithin.eq_def, if_neg Bool.false_ne_true]

end Json

end EchoBackend
