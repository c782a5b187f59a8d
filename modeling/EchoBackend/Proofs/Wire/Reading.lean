/-
# Reading what is written

The reader takes well-formed requests apart as they are framed (`Reader.frames_parts`): of each it
reads the head, the bytes of the body and the end, and then it is back at the beginning of a head
(`Reader.yields_bytes`).
-/
import EchoBackend.Proofs.Wire.Bodies
import EchoBackend.Wire.Reader

namespace EchoBackend

namespace Wire

namespace Reader

/-- What comes of bytes: the reader after them, and the parts that were read, piece by piece. -/
structure Yields (reader : Reader) (bytes : Bytes) (next : Reader) (pieces : List Part) : Prop where
  next : (reader.steps bytes).1 = next
  pieces : (reader.steps bytes).2.flatMap Part.pieces = pieces

variable {reader next last : Reader} {byte : UInt8} {bytes more payload : Bytes}
  {pieces others : List Part}

/-- Nothing comes of nothing. -/
theorem yields_nil (reader : Reader) : reader.Yields [] reader [] := ⟨rfl, rfl⟩

/-- A byte and the bytes after it. -/
theorem Yields.cons (h : (reader.step byte).1.Yields bytes last pieces) :
    reader.Yields (byte :: bytes) last ((reader.step byte).2.flatMap Part.pieces ++ pieces) :=
  ⟨h.next, by rw [← h.pieces, ← List.flatMap_append]; rfl⟩

/-- Two portions. -/
theorem Yields.append (h : reader.Yields bytes next pieces)
    (hmore : next.Yields more last others) :
    reader.Yields (bytes ++ more) last (pieces ++ others) := by
  induction bytes generalizing reader pieces with
  | nil =>
    obtain rfl : reader = next := h.next
    obtain rfl : [] = pieces := h.pieces
    exact hmore
  | cons byte bytes ih =>
    have hbytes : (reader.step byte).1.Yields bytes next
        (((reader.step byte).1.steps bytes).2.flatMap Part.pieces) := ⟨h.next, rfl⟩
    have hrest := ih hbytes
    have hpieces : pieces = (reader.step byte).2.flatMap Part.pieces ++
        ((reader.step byte).1.steps bytes).2.flatMap Part.pieces := by
      rw [← h.pieces, ← List.flatMap_append]
      rfl
    rw [hpieces, List.append_assoc]
    exact hrest.cons

/-! ## Heads -/

/-- No part of a request is read while its head arrives. -/
theorem yields_reads {reader next : HeadReader} (h : reader.Reads bytes next) :
    (head reader).Yields bytes (head next) [] := by
  induction h with
  | nil => exact yields_nil _
  | @cons reader next last byte bytes hstep _ ih =>
    have hread : (head reader).step byte =
        (head next, if isFresh reader && !isFresh next then [.beginning] else []) := by
      rw [step, hstep]
    have hall : (head reader).Yields (byte :: bytes) (head last)
        (((head reader).step byte).2.flatMap Part.pieces ++ []) :=
      .cons (by rw [hread]; exact ih)
    rw [hread] at hall
    split at hall <;> exact hall

/-! ## Bodies -/

/-- A reader that goes on through bytes is not done. -/
theorem isDone_of_step {reader : BodyReader} (h : reader.step byte ≠ .broken) :
    reader.isDone = false := by
  rw [← Bool.not_eq_true]
  exact fun hdone => h (BodyReader.step_of_isDone hdone)

/-- Goes on with a body through bytes; the end of the body may have been read before them. -/
theorem yields_passes {reader last : BodyReader} (h : reader.Passes bytes payload last)
    (hlast : last.isDone = true) : ∃ pieces, (goOn reader).1.Yields bytes (head .start) pieces ∧
      (goOn reader).2.flatMap Part.pieces ++ pieces = (Part.data payload).pieces ++ [.last] := by
  induction h with
  | nil reader =>
    rw [goOn, if_pos hlast]
    exact ⟨[], yields_nil _, rfl⟩
  | @data reader next _ byte bytes payload hstep _ ih =>
    obtain ⟨pieces, hrest, hall⟩ := ih hlast
    have hread : (body reader).step byte = ((goOn next).1, .data [byte] :: (goOn next).2) := by
      rw [step, hstep]
    rw [goOn, isDone_of_step (by rw [hstep]; nofun), if_neg Bool.false_ne_true]
    refine ⟨_, .cons (by rw [hread]; exact hrest), ?_⟩
    rw [hread]
    exact congrArg (Part.data [byte] :: ·) hall
  | @delimiter reader next _ byte bytes payload hstep _ ih =>
    obtain ⟨pieces, hrest, hall⟩ := ih hlast
    have hread : (body reader).step byte = goOn next := by rw [step, hstep]
    rw [goOn, isDone_of_step (by rw [hstep]; nofun), if_neg Bool.false_ne_true]
    refine ⟨_, .cons (by rw [hread]; exact hrest), ?_⟩
    rw [hread]
    exact hall

/-! ## Requests -/

/-- **A well-formed request is read as it is framed.** -/
theorem yields_bytes {written : WrittenRequest} {request : Http.Request}
    (h : written.WellFormed request) :
    (head .start).Yields written.bytes (head .start) written.spelled := by
  obtain ⟨last, hlast, hpasses⟩ := BodyReader.passes_body h.body
  obtain ⟨pieces, hbody, hpieces⟩ := yields_passes hpasses hlast
  have hread : (head (.lastReturn written.read.line written.read.fields.reverse)).step lineFeed =
      ((goOn (.ofFraming written.body.framing)).1,
        .head { request with body := [] } :: (goOn (.ofFraming written.body.framing)).2) := by
    have hcomplete : (HeadReader.lastReturn written.read.line written.read.fields.reverse).step
        lineFeed = .complete written.read := by
      rw [HeadReader.step, List.reverse_reverse]
      rfl
    rw [step, hcomplete]
    simp only [finish, opens_read h]
  have hspelled : written.spelled =
      .head { request with body := [] } :: ((Part.data written.body.payload).pieces ++ [.last]) := by
    rw [WrittenRequest.spelled, h.parts]
    rfl
  -- All bytes but the last of the head lead to the empty line, and the last one completes the head.
  have hhead : written.bytes =
      (written.line ++ written.fields.flatMap WrittenField.bytes ++ [carriageReturn]) ++
        (lineFeed :: written.body.bytes) := by
    simp [WrittenRequest.bytes, WrittenRequest.head, lineBreak]
  have hrest : (head (.lastReturn written.read.line written.read.fields.reverse)).Yields
      (lineFeed :: written.body.bytes) (head .start)
      ((Part.head { request with body := [] } :: (goOn (.ofFraming written.body.framing)).2).flatMap
        Part.pieces ++ pieces) := by
    have hcons := @Yields.cons (head (.lastReturn written.read.line written.read.fields.reverse)) _
      lineFeed written.body.bytes pieces (by rw [hread]; exact hbody)
    rwa [hread] at hcons
  rw [hhead, hspelled, ← hpieces]
  exact (yields_reads (HeadReader.reads_head h)).append hrest

/-- **The reader takes well-formed requests apart as they are framed.** -/
theorem frames_parts {requests : List WrittenRequest}
    (hrequests : ∀ written ∈ requests, ∃ request, written.WellFormed request) :
    Frames parts requests := by
  have hyields : (head .start).Yields (requests.flatMap WrittenRequest.bytes) (head .start)
      (requests.flatMap WrittenRequest.spelled) := by
    induction requests with
    | nil => exact yields_nil _
    | cons written requests ih =>
      rw [List.forall_mem_cons] at hrequests
      obtain ⟨⟨request, hwritten⟩, hrest⟩ := hrequests
      exact (yields_bytes hwritten).append (ih hrest)
  exact hyields.pieces

end Reader

end Wire

end EchoBackend
