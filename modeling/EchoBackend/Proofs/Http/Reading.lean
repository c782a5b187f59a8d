/-
# Where the reading of a body halts

A body is read piece by piece, until it fails, until there is more than the limit, or to its end.
`Body.Halts` says after which pieces that is, without the steps of the reading.  The main
statements, `Body.read_eq_ok_iff` and `Body.Halts.wait_eq`, say what is read and how long it takes:
all of the data of a body that is readable, and all the pauses before the reading halts.  It makes no
difference whether data come at once or in portions (`Body.readOnto_of_add_ok`).
-/
import EchoBackend.Http.Body
import Mathlib.Data.List.Basic

namespace EchoBackend

namespace Http

/-! ## Bodies as a whole -/

/-- The data of a piece. -/
def Piece.bytes : Piece → Bytes
  | .data bytes => bytes
  | _ => []

@[simp] theorem Piece.bytes_data (bytes : Bytes) : (Piece.data bytes).bytes = bytes := rfl

@[simp] theorem Piece.bytes_delay (milliseconds : Nat) : (Piece.delay milliseconds).bytes = [] := rfl

/-- Whether a body fails at a piece. -/
def Piece.isFailure : Piece → Bool
  | .failure _ => true
  | _ => false

@[simp] theorem Piece.isFailure_data (bytes : Bytes) : (Piece.data bytes).isFailure = false := rfl

@[simp] theorem Piece.isFailure_failure (message : String) :
    (Piece.failure message).isFailure = true := rfl

namespace Body

/-- The data of a body, put together. -/
def bytes (body : Body) : Bytes := body.flatMap Piece.bytes

/-- The pauses of a body, in milliseconds, added up. -/
def pauses : Body → Nat
  | [] => 0
  | piece :: body => piece.wait + pauses body

/-- A body that does not fail. -/
def Intact (body : Body) : Prop := ∀ piece ∈ body, piece.isFailure = false

/-- A body that does not fail and keeps within the limit. -/
structure Readable (limit : Nat) (body : Body) : Prop where
  intact : body.Intact
  within : body.bytes.length ≤ limit

/-- The pieces of a body after which its reading halts. -/
inductive Halts (limit : Nat) : Body → Body → Prop
  /-- The body is at its end. -/
  | done {body : Body} (readable : Readable limit body) : Halts limit body body
  /-- The body fails. -/
  | failed {before after : Body} {message : String} (readable : Readable limit before) :
      Halts limit (before ++ .failure message :: after) before
  /-- The next data are more than the limit allows. -/
  | exceeded {before after : Body} {more : Bytes} (readable : Readable limit before)
      (excess : limit < before.bytes.length + more.length) :
      Halts limit (before ++ .data more :: after) before

variable {limit : Nat} {body before after : Body} {piece : Piece}

@[simp] theorem bytes_nil : bytes [] = [] := rfl

@[simp] theorem bytes_cons : bytes (piece :: body) = piece.bytes ++ bytes body :=
  List.flatMap_cons

@[simp] theorem bytes_append : bytes (before ++ after) = bytes before ++ bytes after :=
  List.flatMap_append

@[simp] theorem pauses_cons : pauses (piece :: body) = piece.wait + pauses body := rfl

/-- A body does not fail if no piece of it fails. -/
@[simp] theorem intact_cons_iff : Intact (piece :: body) ↔ piece.isFailure = false ∧ Intact body :=
  List.forall_mem_cons

/-- A body does not fail if neither part of it fails. -/
@[simp] theorem intact_append_iff : Intact (before ++ after) ↔ Intact before ∧ Intact after :=
  List.forall_mem_append

/-- A body without pieces is readable. -/
theorem readable_nil (limit : Nat) : Readable limit [] :=
  ⟨fun _ h => absurd h List.not_mem_nil, Nat.zero_le limit⟩

/-- What is readable is readable as far as one looks. -/
theorem Readable.of_append (h : Readable limit (before ++ after)) : Readable limit before := by
  refine ⟨(intact_append_iff.mp h.intact).1, ?_⟩
  have hwithin := h.within
  rw [bytes_append, List.length_append] at hwithin
  omega

/-- A readable body stays so with one more piece that does not fail, if the data still keep within
the limit. -/
theorem Readable.concat (h : Readable limit before) (hpiece : piece.isFailure = false)
    (hwithin : before.bytes.length + piece.bytes.length ≤ limit) :
    Readable limit (before ++ [piece]) := by
  constructor
  · apply intact_append_iff.mpr
    refine ⟨h.intact, ?_⟩
    rintro other hother
    obtain rfl := List.mem_singleton.mp hother
    exact hpiece
  · simpa using hwithin

/-- **Every reading halts somewhere.** -/
theorem exists_halts (limit : Nat) (body : Body) : ∃ before, Halts limit body before := by
  -- The induction is on what is left; what was passed is readable.
  have hleft : ∀ passed : Body, Readable limit passed →
      ∃ before, Halts limit (passed ++ body) before := by
    induction body with
    | nil =>
      intro passed hpassed
      rw [List.append_nil]
      exact ⟨passed, .done hpassed⟩
    | cons piece body ih =>
      intro passed hpassed
      cases piece with
      | data more =>
        rcases Nat.lt_or_ge limit (bytes passed ++ more).length with hover | hwithin
        · rw [List.length_append] at hover
          exact ⟨passed, .exceeded hpassed hover⟩
        · rw [List.length_append] at hwithin
          rw [List.append_cons]
          exact ih _ (hpassed.concat rfl hwithin)
      | delay milliseconds =>
        rw [List.append_cons]
        exact ih _ (hpassed.concat rfl hpassed.within)
      | failure message => exact ⟨passed, .failed hpassed⟩
  exact hleft [] (readable_nil limit)

end Body

/-! ## One piece -/

/-- What was gathered is all the data of the pieces that were passed. -/
structure Gathered.Holds (gathered : Gathered) (passed : Body) : Prop where
  bytes : gathered.bytes = passed.bytes
  size : gathered.size = passed.bytes.length

/-- At the beginning nothing was passed. -/
theorem Gathered.holds_nil : Gathered.Holds {} [] := ⟨rfl, rfl⟩

/-- **A piece is taken in** if what was passed stays readable with it. -/
theorem Gathered.Holds.add {limit : Nat} {gathered : Gathered} {passed : Body} {piece : Piece}
    (h : gathered.Holds passed) (hreadable : Body.Readable limit (passed ++ [piece])) :
    ∃ next, gathered.add limit piece = .ok next ∧ next.Holds (passed ++ [piece]) := by
  cases piece with
  | data more =>
    have hwithin : gathered.size + more.length ≤ limit := by
      have hsize := hreadable.within
      rw [Body.bytes_append, List.length_append, ← h.size] at hsize
      simpa using hsize
    refine ⟨⟨more :: gathered.pieces, gathered.size + more.length⟩, ?_, ?_, ?_⟩
    · rw [Gathered.add, if_neg (by omega)]
    · have hbytes := h.bytes
      rw [Gathered.bytes] at hbytes
      simp [Gathered.bytes, hbytes]
    · simp [h.size]
  | delay milliseconds => exact ⟨gathered, rfl, by simpa using h.bytes, by simpa using h.size⟩
  | failure message =>
    have hpiece := hreadable.intact (.failure message) (by simp)
    contradiction

/-- Data are refused if there is more than the limit with them. -/
theorem Gathered.Holds.add_over {limit : Nat} {gathered : Gathered} {passed : Body} {more : Bytes}
    (h : gathered.Holds passed) (hover : limit < passed.bytes.length + more.length) :
    gathered.add limit (.data more) = .error .tooLong := by
  rw [Gathered.add, if_pos (by rw [h.size]; exact hover)]

/-! ## Many pieces -/

namespace Body

variable {limit : Nat} {body before after : Body}

/-- **Readable pieces are passed.**  The reading goes on after them with all their data, and has
waited for all their pauses. -/
theorem passes {gathered : Gathered} {passed : Body} (hholds : gathered.Holds passed)
    (h : Readable limit (passed ++ before)) (after : Body) :
    ∃ next : Gathered, next.Holds (passed ++ before) ∧
      readOnto limit gathered (before ++ after) = readOnto limit next after ∧
      waitOnto limit gathered (before ++ after) = pauses before + waitOnto limit next after := by
  induction before generalizing gathered passed with
  | nil =>
    rw [List.append_nil]
    exact ⟨gathered, hholds, rfl, (Nat.zero_add _).symm⟩
  | cons piece before ih =>
    rw [List.append_cons] at h ⊢
    obtain ⟨next, hadd, hnext⟩ := hholds.add h.of_append
    obtain ⟨last, hlast, hread, hwait⟩ := ih hnext h
    refine ⟨last, hlast, ?_, ?_⟩
    · rw [List.cons_append, readOnto, hadd]
      exact hread
    · rw [List.cons_append, waitOnto, hadd, pauses_cons, Nat.add_assoc, ← hwait]

/-- The state of the reading after readable pieces. -/
theorem Readable.passes (h : Readable limit before) (after : Body) :
    ∃ next : Gathered, next.Holds before ∧
      read limit (before ++ after) = readOnto limit next after ∧
      wait limit (before ++ after) = pauses before + waitOnto limit next after :=
  Body.passes Gathered.holds_nil h after

/-- **All of a readable body is read.** -/
theorem Readable.read_eq (h : Readable limit body) : body.read limit = .ok body.bytes := by
  obtain ⟨next, hnext, hread, -⟩ := h.passes []
  rw [List.append_nil] at hread
  rw [hread, readOnto, hnext.bytes]

/-- **What a reading comes to** where it halts. -/
theorem Halts.read_cases (h : Halts limit body before) :
    (body = before ∧ Readable limit body) ∨
      ¬ Readable limit body ∧ ∃ fault, body.read limit = .error fault := by
  cases h with
  | done readable => exact Or.inl ⟨rfl, readable⟩
  | failed readable =>
    obtain ⟨next, -, hread, -⟩ := readable.passes (.failure _ :: _)
    refine Or.inr ⟨fun hbody => ?_, _, hread⟩
    have hintact := hbody.intact
    simp at hintact
  | exceeded readable excess =>
    obtain ⟨next, hnext, hread, -⟩ := readable.passes (.data _ :: _)
    refine Or.inr ⟨fun hbody => ?_, .tooLong, ?_⟩
    · have hwithin := hbody.within
      simp only [bytes_append, bytes_cons, Piece.bytes_data, List.length_append] at hwithin
      omega
    · rw [hread, readOnto, hnext.add_over excess]

/-- **A body is read exactly if it is readable**, and then all of its data are. -/
theorem read_eq_ok_iff {data : Bytes} :
    body.read limit = .ok data ↔ Readable limit body ∧ body.bytes = data := by
  constructor
  · intro h
    obtain ⟨before, hhalts⟩ := exists_halts limit body
    rcases hhalts.read_cases with ⟨-, hreadable⟩ | ⟨-, fault, hfault⟩
    · rw [hreadable.read_eq] at h
      exact ⟨hreadable, Except.ok.inj h⟩
    · rw [h] at hfault
      contradiction
  · rintro ⟨hreadable, rfl⟩
    exact hreadable.read_eq

/-- A body that is not readable is not read. -/
theorem exists_fault (h : ¬ Readable limit body) : ∃ fault, body.read limit = .error fault := by
  cases hread : body.read limit with
  | error fault => exact ⟨fault, rfl⟩
  | ok data => exact absurd (read_eq_ok_iff.mp hread).1 h

/-- **Reading waits for all the pauses before it halts**, and for no other. -/
theorem Halts.wait_eq (h : Halts limit body before) : body.wait limit = before.pauses := by
  cases h with
  | done readable =>
    obtain ⟨next, -, -, hwait⟩ := readable.passes []
    rw [List.append_nil] at hwait
    rw [hwait, waitOnto, Nat.add_zero]
  | failed readable =>
    obtain ⟨next, -, -, hwait⟩ := readable.passes (.failure _ :: _)
    rw [hwait, waitOnto, Gathered.add, Nat.add_zero]
  | exceeded readable excess =>
    obtain ⟨next, hnext, -, hwait⟩ := readable.passes (.data _ :: _)
    rw [hwait, waitOnto, hnext.add_over excess, Nat.add_zero]

/-! ## Data in portions -/

section Portions

variable {gathered more : Gathered} {bytes payload : Bytes} {fault : BodyFault}

/-- Reading one more piece of data. -/
theorem readOnto_data (limit : Nat) (gathered : Gathered) (bytes : Bytes) :
    readOnto limit gathered [.data bytes] =
      if gathered.size + bytes.length > limit then .error .tooLong
      else .ok (gathered.bytes ++ bytes) := by
  rw [readOnto, Gathered.add]
  by_cases hlong : gathered.size + bytes.length > limit
  · rw [if_pos hlong, if_pos hlong]
  · rw [if_neg hlong, if_neg hlong]
    show Except.ok _ = _
    rw [Gathered.bytes, Gathered.bytes, List.reverse_cons, List.flatten_append,
      List.flatten_singleton]

/-- What exceeds the limit does so whatever follows. -/
theorem readOnto_of_add_error (h : gathered.add limit (.data bytes) = .error fault)
    (payload : Bytes) : readOnto limit gathered [.data (bytes ++ payload)] = .error fault := by
  rw [Gathered.add] at h
  split at h
  case isFalse => contradiction
  case isTrue hlong =>
    obtain rfl := Except.error.inj h
    rw [readOnto_data, List.length_append, if_pos (by omega)]

/-- What was gathered need not be read again. -/
theorem readOnto_of_add_ok (h : gathered.add limit (.data bytes) = .ok more)
    (payload : Bytes) : more.size ≤ limit ∧ readOnto limit more [.data payload] =
      readOnto limit gathered [.data (bytes ++ payload)] := by
  rw [Gathered.add] at h
  split at h
  case isTrue => contradiction
  case isFalse hshort =>
    obtain rfl := Except.ok.inj h
    refine ⟨Nat.not_lt.mp hshort, ?_⟩
    rw [readOnto_data, readOnto_data, List.length_append, Nat.add_assoc, Gathered.bytes,
      List.reverse_cons, List.flatten_append, List.flatten_singleton, List.append_assoc,
      ← Gathered.bytes]

end Portions

end Body

end Http

end EchoBackend
