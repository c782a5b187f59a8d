/-
# Bodies as they are written

How a body is read in its framing: exactly its payload is data, and the reader is done with the last
byte of the body and no earlier (`passes_body`).  `Passes` says which of the bytes on the way from one
reader to another are data.
-/
import EchoBackend.Proofs.Wire.Framing
import EchoBackend.Wire.BodyReader

namespace EchoBackend

namespace Wire

open Http

namespace BodyReader

/-- A reader goes through bytes, some of which are data, and comes to another one. -/
inductive Passes : BodyReader → Bytes → Bytes → BodyReader → Prop
  | nil (reader : BodyReader) : Passes reader [] [] reader
  | data {reader next last : BodyReader} {byte : UInt8} {bytes payload : Bytes}
    (hstep : reader.step byte = .data next) (hrest : Passes next bytes payload last) :
    Passes reader (byte :: bytes) (byte :: payload) last
  | delimiter {reader next last : BodyReader} {byte : UInt8} {bytes payload : Bytes}
    (hstep : reader.step byte = .delimiter next) (hrest : Passes next bytes payload last) :
    Passes reader (byte :: bytes) payload last

variable {reader next last : BodyReader} {byte : UInt8} {xs ys bytes payload more : Bytes}

/-- Going through two portions. -/
theorem Passes.append (hx : Passes reader xs payload next) (hy : Passes next ys more last) :
    Passes reader (xs ++ ys) (payload ++ more) last := by
  induction hx with
  | nil => exact hy
  | data hstep _ ih => exact .data hstep (ih hy)
  | delimiter hstep _ ih => exact .delimiter hstep (ih hy)

/-- A byte that delimits where no data can come. -/
theorem step_of_delimit? (hdata : reader.afterData? = none)
    (h : reader.delimit? byte = some next) : reader.step byte = .delimiter next := by
  rw [step, hdata]
  dsimp only
  rw [h]

/-- A reader that is done takes no byte. -/
theorem step_of_isDone (h : reader.isDone = true) : reader.step byte = .broken := by
  cases reader with
  | counted left =>
    cases left with
    | zero => rfl
    | succ left => contradiction
  | done => rfl
  | _ => contradiction

/-! ## Counted bodies -/

/-- A counted body is data throughout. -/
theorem passes_counted (bytes : Bytes) :
    Passes (.counted bytes.length) bytes bytes (.counted 0) := by
  induction bytes with
  | nil => exact .nil _
  | cons byte bytes ih => exact .data rfl ih

/-! ## Sizes -/

/-- A digit is added to a size. -/
theorem addDigit?_of_value? {read : Nat} {digit : UInt8} (h : Hex.value? byte = some digit) :
    addDigit? read byte = some (size (16 * read + digit.toNat)) := by
  rw [addDigit?, h]
  rfl

/-- After a size a digit is added to it. -/
theorem delimit?_size {read : Nat} {digit : UInt8} (h : Hex.value? byte = some digit) :
    (size read).delimit? byte = addDigit? read byte := by
  have hne (other : UInt8) (hother : Hex.value? other = none) : ¬ byte = other := by
    rintro rfl
    rw [hother] at h
    contradiction
  have hblank : isBlank byte = false := by
    rw [isBlank, beq_eq_false_iff_ne.mpr (hne 0x20 rfl), beq_eq_false_iff_ne.mpr (hne 0x09 rfl)]
    rfl
  rw [delimit?, hblank, beq_eq_false_iff_ne.mpr (hne 0x3B rfl),
    beq_eq_false_iff_ne.mpr (hne carriageReturn rfl)]
  rfl

/-- Digits are added one by one. -/
theorem passes_digits {digits : Bytes} {read number : Nat}
    (h : digits.foldlM (fun number byte =>
      ((Hex.value? byte).map UInt8.toNat).map fun digit => 16 * number + digit) read = some number) :
    Passes (size read) digits [] (size number) := by
  induction digits generalizing read with
  | nil =>
    obtain rfl := Option.some.inj h
    exact .nil _
  | cons byte digits ih =>
    rw [List.foldlM_cons] at h
    obtain ⟨longer, hlonger, hrest⟩ := Option.bind_eq_some_iff.mp h
    obtain ⟨value, hvalue, rfl⟩ := Option.map_eq_some_iff.mp hlonger
    obtain ⟨digit, hdigit, rfl⟩ := Option.map_eq_some_iff.mp hvalue
    have hadd := @addDigit?_of_value? byte read digit hdigit
    exact .delimiter (step_of_delimit? rfl ((delimit?_size hdigit).trans hadd)) (ih hrest)

/-- The parameters of a chunk are passed over up to the end of the line. -/
theorem passes_parameters {read : Nat} {parameters : Bytes}
    (h : parameters.all (fun byte => byte != carriageReturn && byte != lineFeed) = true) :
    Passes (extension read) (parameters ++ lineBreak) [] (ofSize read) := by
  induction parameters with
  | nil => exact .delimiter rfl (.delimiter rfl (.nil _))
  | cons byte parameters ih =>
    rw [List.all_cons, Bool.and_eq_true, Bool.and_eq_true, bne_iff_ne, bne_iff_ne] at h
    refine .delimiter (step_of_delimit? rfl ?_) (ih h.2)
    rw [delimit?, beq_eq_false_iff_ne.mpr h.1.1, beq_eq_false_iff_ne.mpr h.1.2]
    rfl

/-- What follows a size is passed over up to the end of the line.  The induction is on the blanks, after
the first of which the reader takes no more digits. -/
theorem passes_extension {digits extension : Bytes} {read : Nat}
    (h : (SizeLine.mk digits extension).isExtended = true)
    (hreader : reader = size read ∨ reader = sizeBlank read) :
    Passes reader (extension ++ lineBreak) [] (ofSize read) := by
  induction extension generalizing reader with
  | nil => rcases hreader with rfl | rfl <;> exact .delimiter rfl (.delimiter rfl (.nil _))
  | cons byte extension ih =>
    cases hblank : isBlank byte with
    | true =>
      have hrest : (SizeLine.mk digits extension).isExtended = true := by
        rw [SizeLine.isExtended, List.dropWhile_cons_of_pos hblank] at h
        exact h
      refine .delimiter (step_of_delimit? ?_ ?_) (ih hrest (.inr rfl))
      · rcases hreader with rfl | rfl <;> rfl
      · rcases hreader with rfl | rfl <;> exact if_pos hblank
    | false =>
      have hneg : ¬ isBlank byte = true := by rw [hblank]; decide
      rw [SizeLine.isExtended, List.dropWhile_cons_of_neg hneg, Bool.and_eq_true, beq_iff_eq] at h
      obtain ⟨rfl, hparameters⟩ := h
      refine .delimiter (step_of_delimit? ?_ ?_) (passes_parameters hparameters)
      · rcases hreader with rfl | rfl <;> rfl
      · rcases hreader with rfl | rfl <;> rfl

/-- **The line before a chunk gives its size.** -/
theorem passes_line {line : SizeLine} {count : Nat} (hsize : line.size? = some count)
    (hextended : line.isExtended = true) :
    Passes chunk line.bytes [] (ofSize count) := by
  rcases line with ⟨digits, extension⟩
  rw [SizeLine.size?, number?] at hsize
  split at hsize
  case isTrue => contradiction
  case isFalse hempty =>
    -- The first digit is read like any other one, only that one is due.
    have hdigits : Passes chunk digits [] (size count) := by
      have hpasses := passes_digits hsize
      cases hpasses with
      | nil => exact absurd rfl hempty
      | @delimiter _ next _ byte rest _ hstep hrest =>
        refine .delimiter ?_ hrest
        rw [List.foldlM_cons] at hsize
        obtain ⟨longer, hlonger, -⟩ := Option.bind_eq_some_iff.mp hsize
        obtain ⟨value, hvalue, -⟩ := Option.map_eq_some_iff.mp hlonger
        obtain ⟨digit, hdigit, -⟩ := Option.map_eq_some_iff.mp hvalue
        rw [step] at hstep ⊢
        dsimp only [afterData?] at hstep ⊢
        rw [delimit?_size hdigit] at hstep
        exact hstep
    rw [SizeLine.bytes, List.append_assoc]
    exact hdigits.append (passes_extension hextended (.inl rfl))

/-! ## Chunks -/

/-- The data of a chunk. -/
theorem passes_data (first : UInt8) (rest : Bytes) :
    Passes (.data (first :: rest).length) (first :: rest) (first :: rest) dataEnd := by
  induction rest generalizing first with
  | nil => exact .data rfl (.nil _)
  | cons byte rest ih => exact .data rfl (ih byte)

/-- **A chunk is passed with its data.** -/
theorem passes_chunk {written : Chunk} (h : written.isWellFormed = true) :
    Passes chunk written.bytes written.data chunk := by
  rw [Chunk.isWellFormed, Bool.and_eq_true, Bool.and_eq_true, Bool.not_eq_true', beq_iff_eq,
    List.isEmpty_eq_false_iff] at h
  obtain ⟨⟨hne, hline⟩, hextended⟩ := h
  have hhead := passes_line hline hextended
  rcases written with ⟨line, data⟩
  obtain ⟨first, rest, rfl⟩ := List.exists_cons_of_ne_nil hne
  have hend : Passes dataEnd lineBreak [] chunk := .delimiter rfl (.delimiter rfl (.nil _))
  have hall := (hhead.append (passes_data first rest)).append hend
  rwa [List.append_nil] at hall

/-- Chunks are passed one after the other. -/
theorem passes_chunks {chunks : List Chunk} (h : chunks.all Chunk.isWellFormed = true) :
    Passes chunk (chunks.flatMap Chunk.bytes) (chunks.flatMap Chunk.data) chunk := by
  induction chunks with
  | nil => exact .nil _
  | cons first chunks ih =>
    rw [List.all_cons, Bool.and_eq_true] at h
    exact (passes_chunk h.1).append (ih h.2)

/-! ## The end of a chunked body -/

/-- A line after the last chunk is passed over. -/
theorem passes_trailerLine (h : carriageReturn ∉ bytes) :
    Passes trailerLine (bytes ++ lineBreak) [] trailer := by
  induction bytes with
  | nil => exact .delimiter rfl (.delimiter rfl (.nil _))
  | cons byte bytes ih =>
    rw [List.mem_cons, not_or] at h
    refine .delimiter (step_of_delimit? rfl ?_) (ih h.2)
    exact if_neg (by simpa using Ne.symm h.1)

/-- Nothing in a well-formed field ends its line. -/
theorem carriageReturn_not_mem {field : WrittenField} (h : field.isWellFormed = true) :
    carriageReturn ∉ field.name ++ [colon] ++ field.before ++ field.value ++ field.after := by
  simp only [WrittenField.isWellFormed, Bool.and_eq_true] at h
  obtain ⟨⟨⟨⟨⟨hname, hvalue⟩, hbefore⟩, hafter⟩, -⟩, -⟩ := h
  have hnot {kind : UInt8 → Bool} {bytes : Bytes} (hall : bytes.all kind = true)
      (hkind : kind carriageReturn = false) : carriageReturn ∉ bytes := fun hmem =>
    Bool.false_ne_true (hkind.symm.trans (List.all_eq_true.mp hall _ hmem))
  simp only [List.mem_append, not_or]
  exact ⟨⟨⟨⟨hnot (Bool.and_eq_true_iff.mp hname).2 rfl, by decide⟩, hnot hbefore rfl⟩,
    hnot hvalue rfl⟩, hnot hafter rfl⟩

/-- A further field is passed over. -/
theorem passes_trailer {field : WrittenField} (h : field.isWellFormed = true) :
    Passes trailer field.bytes [] trailer := by
  have hline := carriageReturn_not_mem h
  simp only [WrittenField.isWellFormed, Bool.and_eq_true] at h
  obtain ⟨⟨⟨⟨⟨hname, -⟩, -⟩, -⟩, -⟩, -⟩ := h
  obtain ⟨first, rest, hfirst, -, -⟩ := HeadReader.exists_cons_of_isToken hname
  rw [hfirst] at hline
  simp only [List.cons_append, List.mem_cons, not_or] at hline
  rw [WrittenField.bytes, hfirst]
  refine .delimiter (step_of_delimit? rfl ?_) (passes_trailerLine hline.2)
  exact if_neg (by simpa using Ne.symm hline.1)

/-- Further fields are passed over one after the other. -/
theorem passes_trailers {trailers : List WrittenField}
    (h : trailers.all WrittenField.isWellFormed = true) :
    Passes trailer (trailers.flatMap WrittenField.bytes) [] trailer := by
  induction trailers with
  | nil => exact .nil _
  | cons field trailers ih =>
    rw [List.all_cons, Bool.and_eq_true] at h
    exact (passes_trailer h.1).append (ih h.2)

/-! ## Whole bodies -/

/-- **A written body is read with exactly its payload as data**, and the reader is done at its end. -/
theorem passes_body {body : WrittenBody} (h : body.isWellFormed = true) :
    ∃ last, last.isDone = true ∧ Passes (ofFraming body.framing) body.bytes body.payload last := by
  cases body with
  | absent => exact ⟨counted 0, rfl, .nil _⟩
  | counted bytes => exact ⟨counted 0, rfl, passes_counted bytes⟩
  | chunked chunks last trailers =>
    simp only [WrittenBody.isWellFormed, Bool.and_eq_true, beq_iff_eq] at h
    obtain ⟨⟨⟨hchunks, hlast⟩, hextended⟩, htrailers⟩ := h
    have hend : Passes trailer lineBreak [] done := .delimiter rfl (.delimiter rfl (.nil _))
    have hall := (((passes_chunks hchunks).append
      (passes_line hlast hextended)).append (passes_trailers htrailers)).append hend
    rw [List.append_nil, List.append_nil, List.append_nil] at hall
    exact ⟨done, rfl, hall⟩

end BodyReader

end Wire

end EchoBackend
