/-
# Heads as they are written

How the reading machine goes through a written head: it gathers the method and the target, the fields
one after the other, and is complete at the line feed of the empty line (`reads_head`).
-/
import EchoBackend.Proofs.Http.Fields
import EchoBackend.Wire.Written
import Mathlib.Data.List.Basic

namespace EchoBackend

namespace Wire

open Http

namespace HeadReader

/-- A reader goes on through bytes and comes to another one. -/
inductive Reads : HeadReader → Bytes → HeadReader → Prop
  | nil (reader : HeadReader) : Reads reader [] reader
  | cons {reader next last : HeadReader} {byte : UInt8} {bytes : Bytes}
    (hstep : reader.step byte = .reading next) (hrest : Reads next bytes last) :
    Reads reader (byte :: bytes) last

variable {reader next last : HeadReader} {byte : UInt8} {xs ys : Bytes} {line : RequestLine}
  {fields : List (Bytes × Bytes)}

/-- Reading one byte. -/
theorem Reads.single (hstep : reader.step byte = .reading next) : Reads reader [byte] next :=
  .cons hstep (.nil next)

/-- Reading two portions. -/
theorem Reads.append (hx : Reads reader xs next) (hy : Reads next ys last) :
    Reads reader (xs ++ ys) last := by
  induction hx with
  | nil => exact hy
  | cons hstep _ ih => exact .cons hstep (ih hy)

/-- Bytes of one kind are gathered, newest first. -/
theorem reads_gather {gather : Bytes → HeadReader} {kind : UInt8 → Bool}
    (hstep : ∀ read byte, kind byte = true →
      (gather read).step byte = .reading (gather (byte :: read)))
    (bytes : Bytes) (hbytes : bytes.all kind = true) (read : Bytes) :
    Reads (gather read) bytes (gather (bytes.reverse ++ read)) := by
  induction bytes generalizing read with
  | nil => exact .nil _
  | cons byte bytes ih =>
    rw [List.all_cons, Bool.and_eq_true] at hbytes
    rw [List.reverse_cons, List.append_assoc]
    exact .cons (hstep read byte hbytes.1) (ih hbytes.2 (byte :: read))

/-! ## The request line -/

/-- Token bytes are none of those that end a token. -/
theorem ne_of_isTokenByte {other : UInt8} (h : isTokenByte byte = true)
    (hother : isTokenByte other = false) : (byte == other) = false := by
  rw [beq_eq_false_iff_ne]
  rintro rfl
  exact Bool.false_ne_true (hother.symm.trans h)

/-- A token is a first byte and bytes after it. -/
theorem exists_cons_of_isToken {token : Bytes} (h : isToken token = true) :
    ∃ first rest, token = first :: rest ∧ isTokenByte first = true ∧
      rest.all isTokenByte = true := by
  cases token with
  | nil => exact absurd h (by decide)
  | cons first rest =>
    rw [isToken, Bool.and_eq_true, List.all_cons, Bool.and_eq_true] at h
    exact ⟨first, rest, rfl, h.2.1, h.2.2⟩

/-- The method is read up to the space after it. -/
theorem reads_method {method : Bytes} (h : isToken method = true) :
    Reads .start (method ++ [space]) (.target method []) := by
  obtain ⟨first, rest, rfl, hfirst, hrest⟩ := exists_cons_of_isToken h
  have hstart : HeadReader.start.step first = .reading (.method [first]) := by
    rw [step, stepStart, ne_of_isTokenByte hfirst (by decide),
      ne_of_isTokenByte hfirst (by decide), goOn, hfirst]
    rfl
  have hgather := @reads_gather .method isTokenByte (fun read byte hbyte => by
    rw [step, ne_of_isTokenByte hbyte (by decide), goOn, hbyte]
    rfl) rest hrest [first]
  have hspace : (HeadReader.method (rest.reverse ++ [first])).step space =
      .reading (.target (first :: rest) []) := by
    rw [step, ← List.reverse_cons, List.reverse_reverse]
    rfl
  exact (Reads.cons hstart hgather).append (.single hspace)

/-- The target is read up to the space after it. -/
theorem reads_target {method target : Bytes} (hne : target ≠ [])
    (h : target.all isTargetByte = true) :
    Reads (.target method []) (target ++ [space]) (.version ⟨method, target⟩ []) := by
  have hgather := @reads_gather (.target method) isTargetByte (fun read byte hbyte => by
    have hspace : (byte == space) = false := by
      rw [beq_eq_false_iff_ne]
      rintro rfl
      exact absurd hbyte (by decide)
    rw [step, hspace, goOn, hbyte]
    rfl) target h []
  rw [List.append_nil] at hgather
  refine hgather.append (.single ?_)
  have hfull : (!target.reverse.isEmpty) = true := by
    rw [Bool.not_eq_true', List.isEmpty_eq_false_iff]
    exact List.reverse_ne_nil_iff.mpr hne
  rw [step, goOn, hfull, List.reverse_reverse]
  rfl

/-- The version is read as it is spelled. -/
theorem reads_version (line : RequestLine) : Reads (.version line []) protocol (.lineEnd line) := by
  show Reads _ [0x48, 0x54, 0x54, 0x50, 0x2F, 0x31, 0x2E, 0x31] _
  iterate 8 refine .cons rfl ?_
  exact .nil _

/-- **The request line is read to its end.** -/
theorem reads_line {written : WrittenRequest} (hmethod : isToken written.method = true)
    (hne : written.target ≠ []) (htarget : written.target.all isTargetByte = true) :
    Reads .start written.line (.field ⟨written.method, written.target⟩ []) := by
  have hbreak : Reads (.lineEnd ⟨written.method, written.target⟩) lineBreak
      (.field ⟨written.method, written.target⟩ []) := .cons rfl (.single rfl)
  have hall := (((reads_method hmethod).append (reads_target hne htarget)).append
    (reads_version _)).append hbreak
  rw [WrittenRequest.line]
  rwa [← List.append_assoc] at hall

/-! ## Fields -/

/-- The name of a field is read up to the colon. -/
theorem reads_name {name : Bytes} (h : isToken name = true) :
    Reads (.field line fields) (name ++ [colon]) (.value line fields name []) := by
  obtain ⟨first, rest, rfl, hfirst, hrest⟩ := exists_cons_of_isToken h
  have hstart : (HeadReader.field line fields).step first = .reading (.name line fields [first]) := by
    rw [step, stepField, ne_of_isTokenByte hfirst (by decide),
      ne_of_isTokenByte hfirst (by decide), goOn, hfirst]
    rfl
  have hgather := @reads_gather (.name line fields) isTokenByte (fun read byte hbyte => by
    rw [step, ne_of_isTokenByte hbyte (by decide), goOn, hbyte]
    rfl) rest hrest [first]
  have hcolon : (HeadReader.name line fields (rest.reverse ++ [first])).step colon =
      .reading (.value line fields (first :: rest) []) := by
    rw [step, ← List.reverse_cons, List.reverse_reverse]
    rfl
  exact (Reads.cons hstart hgather).append (.single hcolon)

/-- Value bytes do not end a line. -/
theorem ne_of_isValueByte (h : isValueByte byte = true) :
    (byte == carriageReturn) = false ∧ (byte == lineFeed) = false := by
  rw [beq_eq_false_iff_ne, beq_eq_false_iff_ne]
  constructor <;> rintro rfl <;> exact absurd h (by decide)

/-- Blanks may stand in a value. -/
theorem isValueByte_of_isBlank (h : isBlank byte = true) : isValueByte byte = true := by
  rw [isBlank, Bool.or_eq_true, beq_iff_eq, beq_iff_eq] at h
  rcases h with rfl | rfl <;> decide

/-- A byte of a value is gathered unless it is a blank before it. -/
theorem step_value {name read : Bytes} (h : isValueByte byte = true)
    (hgathers : isBlank byte = false ∨ read ≠ []) :
    (HeadReader.value line fields name read).step byte =
      .reading (.value line fields name (byte :: read)) := by
  have hskips : (isBlank byte && read.isEmpty) = false := by
    rw [Bool.and_eq_false_iff, List.isEmpty_eq_false_iff]
    exact hgathers
  obtain ⟨hreturn, hfeed⟩ := ne_of_isValueByte h
  rw [step, stepValue, hreturn, hfeed, hskips, goOn, h]
  rfl

/-- Blanks before a value are passed over. -/
theorem reads_blanks {name blanks : Bytes} (h : blanks.all isBlank = true) :
    Reads (.value line fields name []) blanks (.value line fields name []) := by
  induction blanks with
  | nil => exact .nil _
  | cons blank blanks ih =>
    rw [List.all_cons, Bool.and_eq_true] at h
    refine .cons ?_ (ih h.2)
    obtain ⟨hreturn, hfeed⟩ := ne_of_isValueByte (isValueByte_of_isBlank h.1)
    rw [step, stepValue, hreturn, hfeed, h.1]
    rfl

/-- A value that does not begin with a blank is gathered with the blanks after it. -/
theorem reads_value {name value after : Bytes} (hvalue : isValue value = true)
    (hfirst : value.head?.any isBlank = false) (hafter : after.all isBlank = true) :
    Reads (.value line fields name []) (value ++ after)
      (.value line fields name (if value = [] then [] else (value ++ after).reverse)) := by
  cases value with
  | nil => exact reads_blanks hafter
  | cons first rest =>
    -- Once a byte was gathered, blanks are gathered like any other byte.
    rw [isValue, List.all_cons, Bool.and_eq_true] at hvalue
    have hall : (rest ++ after).all isValueByte = true := by
      rw [List.all_append, Bool.and_eq_true]
      refine ⟨hvalue.2, List.all_eq_true.mpr fun byte hbyte => ?_⟩
      exact isValueByte_of_isBlank (List.all_eq_true.mp hafter byte hbyte)
    have hgather := @reads_gather (fun read => .value line fields name (read ++ [first])) isValueByte
      (fun read byte hbyte => step_value hbyte (.inr (by simp))) (rest ++ after) hall []
    rw [if_neg (List.cons_ne_nil first rest), List.cons_append, List.reverse_cons]
    rw [List.append_nil] at hgather
    exact .cons (step_value hvalue.1 (.inl hfirst)) hgather

/-- What was gathered of a value is the value again once the blanks at its end are dropped. -/
theorem trimmedValue_gathered {value after : Bytes} (hlast : value.getLast?.any isBlank = false)
    (hafter : after.all isBlank = true) :
    trimmedValue (if value = [] then [] else (value ++ after).reverse) = value := by
  split
  case isTrue hempty =>
    rw [hempty]
    rfl
  case isFalse =>
    -- The newest bytes are the blanks after the value; the byte before them is none.
    have hblank : ∀ byte ∈ after.reverse, isBlank byte = true := fun byte hbyte =>
      List.all_eq_true.mp hafter byte (List.mem_reverse.mp hbyte)
    rw [trimmedValue, List.reverse_append, List.dropWhile_append_of_pos hblank,
      List.reverse_eq_iff]
    rw [← List.head?_reverse] at hlast
    cases hread : value.reverse with
    | nil => rfl
    | cons newest read =>
      rw [hread] at hlast
      exact List.dropWhile_cons_of_neg (by rw [show isBlank newest = false from hlast]; decide)

/-- **A written field is read as what it says.** -/
theorem reads_field {field : WrittenField} (h : field.isWellFormed = true) :
    Reads (.field line fields) field.bytes (.field line (field.pair :: fields)) := by
  simp only [WrittenField.isWellFormed, Bool.and_eq_true, Bool.not_eq_true'] at h
  obtain ⟨⟨⟨⟨⟨hname, hvalue⟩, hbefore⟩, hafter⟩, hfirst⟩, hlast⟩ := h
  have hread := ((reads_name hname).append (reads_blanks hbefore)).append
    (@reads_value line fields field.name _ _ hvalue hfirst hafter)
  have hbreak (read : Bytes) : Reads (.value line fields field.name read) lineBreak
      (.field line ((field.name, trimmedValue read) :: fields)) := .cons rfl (.single rfl)
  have hall := hread.append (hbreak _)
  rw [trimmedValue_gathered hlast hafter] at hall
  rw [WrittenField.bytes]
  rwa [← List.append_assoc] at hall

/-- **Written fields are read one after the other.** -/
theorem reads_fields (written : List WrittenField)
    (h : ∀ field ∈ written, field.isWellFormed = true) :
    Reads (.field line fields) (written.flatMap WrittenField.bytes)
      (.field line ((written.map WrittenField.pair).reverse ++ fields)) := by
  induction written generalizing fields with
  | nil => exact .nil _
  | cons field written ih =>
    rw [List.forall_mem_cons] at h
    have hfirst := @reads_field line fields field h.1
    have hrest := @ih (field.pair :: fields) h.2
    rw [List.flatMap_cons, List.map_cons, List.reverse_cons, List.append_assoc]
    exact hfirst.append hrest

end HeadReader

/-! ## Whole heads -/

/-- The head of a request, as it is read. -/
def WrittenRequest.read (written : WrittenRequest) : Head :=
  ⟨⟨written.method, written.target⟩, written.fields.map WrittenField.pair⟩

/-- **A written head is read up to its last line feed.** -/
theorem HeadReader.reads_head {written : WrittenRequest} {request : Request}
    (h : written.WellFormed request) :
    Reads .start (written.line ++ written.fields.flatMap WrittenField.bytes ++ [carriageReturn])
      (.lastReturn written.read.line written.read.fields.reverse) := by
  obtain ⟨hmethod, huri, -, -⟩ := Request.ofParts_eq_ok_iff.mp h.parts
  have htoken : isToken written.method = true := by
    have hbytes : request.method.bytes = written.method := Method.ofBytes?_eq_some_iff.mp hmethod
    rw [← hbytes]
    exact request.method.isToken
  have hne : written.target ≠ [] := by
    intro hempty
    rw [WrittenRequest.parts, hempty] at huri
    contradiction
  have hfields := @reads_fields written.read.line [] written.fields h.fields
  rw [List.append_nil] at hfields
  exact ((reads_line htoken hne h.target).append hfields).append (.single rfl)

end Wire

end EchoBackend
