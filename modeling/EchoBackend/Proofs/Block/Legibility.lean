/-
# Legible blocks

A block is legible if a reader who goes by labels and separators finds in it just what the record
says.  The method and the user never get in the way; an endpoint does as soon as it has a line feed,
a payload only if one of its later lines looks like a line of the frame.  The main statement is
`RequestRecord.legible_block_iff`.
-/
import EchoBackend.Proofs.Block.Lines

namespace EchoBackend

namespace Echo

/-- The labels of the lines that report a request. -/
def labels : List String := ["Server: ", "Method: ", "Endpoint: ", "X-User-Id: ", "Payload: "]

/-- What holds of all labels. -/
theorem forall_labels_iff {p : String → Prop} : (∀ label ∈ labels, p label) ↔
    p "Server: " ∧ p "Method: " ∧ p "Endpoint: " ∧ p "X-User-Id: " ∧ p "Payload: " := by
  simp [labels]

/-- Whether a line looks like one that belongs to the frame of a block. -/
def Imitates (line : List Char) : Prop :=
  line = separator.toList ∨ ∃ label ∈ labels, label.toList <+: line

instance (line : List Char) : Decidable (Imitates line) :=
  inferInstanceAs (Decidable (_ ∨ ∃ label ∈ labels, label.toList <+: line))

/-- Lines that do not belong to a frame look like none of it. -/
theorem forall_not_imitates_iff {rest : List (List Char)} : (∀ line ∈ rest, ¬ Imitates line) ↔
    rest.count separator.toList = 0 ∧ ∀ label ∈ labels, labelled label rest = [] := by
  rw [List.count_eq_zero]
  constructor
  · intro h
    refine ⟨fun hmem => h _ hmem (Or.inl rfl), fun label hlabel => ?_⟩
    rw [labelled_eq_nil_iff]
    exact fun line hline hprefix => h line hline (Or.inr ⟨label, hlabel, hprefix⟩)
  · rintro ⟨hseparator, hlabels⟩ line hline (rfl | ⟨label, hlabel, hprefix⟩)
    · exact hseparator hline
    · exact labelled_eq_nil_iff.mp (hlabels label hlabel) line hline hprefix

namespace RequestRecord

/-- What a block says about the instance. -/
def serverValue (record : RequestRecord) : String :=
  record.identity.label ++ " (listening on port " ++ record.port.toNat.repr ++ ")"

/-- A text in which a reader finds what a record says: two separators; the server, the method, the
endpoint and the user, each on one line and nowhere else; and a payload exactly if there is one. -/
structure Legible (record : RequestRecord) (text : String) : Prop where
  separators : (lines text).count separator.toList = 2
  server : labelled "Server: " (lines text) = [record.serverValue.toList]
  method : labelled "Method: " (lines text) = [record.method.text.toList]
  endpoint : labelled "Endpoint: " (lines text) = [record.endpoint.toList]
  userId : labelled "X-User-Id: " (lines text) = [record.userId.toList]
  payload : (labelled "Payload: " (lines text)).length = if record.payload.isSome then 1 else 0

/-- The lines of the payload after its first one. -/
def laterLines (record : RequestRecord) : List (List Char) :=
  match record.payload with
  | none => []
  | some payload => (lines payload).tail

variable {record : RequestRecord}

/-! ## The lines of a block -/

/-- A line feed is no byte of a method. -/
theorem newline_not_mem_method (method : Http.Method) : '\n' ∉ method.text.toList := by
  rw [Http.Method.text, Http.asciiText, String.toList_ofList]
  intro h
  obtain ⟨byte, hbyte, hchar⟩ := List.mem_map.mp h
  have htoken : Http.isTokenByte byte = true := by
    have hall := (Bool.and_eq_true_iff.mp method.isToken).2
    exact List.all_eq_true.mp hall byte hbyte
  have hvalue : byte.toNat = 10 := by
    have hvalid : byte.toNat.isValidChar := Or.inl (Nat.lt_trans byte.toNat_lt (by decide))
    have hnat := congrArg Char.toNat hchar
    rwa [Char.ofNat, dif_pos hvalid] at hnat
  rw [← UInt8.ofNat_toNat (x := byte), hvalue] at htoken
  exact absurd htoken (by decide)

/-- A line feed is no digit. -/
theorem newline_not_mem_repr (number : Nat) : '\n' ∉ number.repr.toList := by
  rw [Nat.toList_repr]
  intro h
  have hdigit := Nat.isDigit_of_mem_toDigits (by decide) (Nat.le_refl 10) h
  exact absurd hdigit (by decide)

/-- The payload has no line of its own, or one that is followed by its later lines. -/
theorem lines_payloadLines (hpayload : record.payload ≠ some "") :
    (record.payload.isSome = false ∧ record.laterLines = [] ∧
        record.payloadLines.flatMap lines = []) ∨
      (record.payload.isSome = true ∧ ∃ first, record.payloadLines.flatMap lines =
        ("Payload: ".toList ++ first) :: record.laterLines) := by
  unfold laterLines payloadLines
  cases hcase : record.payload with
  | none => exact Or.inl ⟨rfl, rfl, rfl⟩
  | some payload =>
    right
    have hne : payload.isEmpty = false := by
      rw [Bool.eq_false_iff]
      intro hempty
      exact hpayload (hcase.trans (congrArg some (String.isEmpty_iff.mp hempty)))
    obtain ⟨first, later, hlines⟩ := List.exists_cons_of_ne_nil
      (List.splitOn_ne_nil '\n' payload.toList)
    refine ⟨rfl, first, ?_⟩
    dsimp only
    rw [hne, if_neg Bool.false_ne_true, List.flatMap_singleton,
      lines_labelled (by decide) hlines, lines, hlines, List.tail_cons]

/-- **The lines of a block.**  What the client sends adds lines after that of the endpoint and after
that of the payload, and nowhere else. -/
theorem lines_block (hlabel : '\n' ∉ record.identity.label.toList)
    (huser : '\n' ∉ record.userId.toList) {first : List Char} {later : List (List Char)}
    (hendpoint : lines record.endpoint = first :: later) :
    lines record.block = [] :: separator.toList ::
      ("Server: ".toList ++ record.serverValue.toList) ::
      ("Method: ".toList ++ record.method.text.toList) ::
      ("Endpoint: ".toList ++ first) :: (later ++
        ("X-User-Id: ".toList ++ record.userId.toList) ::
          (record.payloadLines.flatMap lines ++ [separator.toList, []])) := by
  have hserver : lines ("Server: " ++ record.identity.label ++ " (listening on port " ++
      record.port.toNat.repr ++ ")") = ["Server: ".toList ++ record.serverValue.toList] := by
    have htext : "Server: " ++ record.identity.label ++ " (listening on port " ++
        record.port.toNat.repr ++ ")" = "Server: " ++ record.serverValue := by
      simp only [serverValue, String.append_assoc]
    have hvalue : '\n' ∉ record.serverValue.toList := by
      have hport := newline_not_mem_repr record.port.toNat
      simp only [serverValue, String.toList_append, List.mem_append, not_or]
      exact ⟨⟨⟨hlabel, by decide⟩, hport⟩, by decide⟩
    rw [htext, lines_labelled (by decide) (lines_of_not_mem hvalue)]
  have hmethod := lines_labelled (by decide : '\n' ∉ "Method: ".toList)
    (lines_of_not_mem (newline_not_mem_method record.method))
  have hpath := lines_labelled (by decide : '\n' ∉ "Endpoint: ".toList) hendpoint
  have huserId := lines_labelled (by decide : '\n' ∉ "X-User-Id: ".toList)
    (lines_of_not_mem huser)
  rw [block, lines_framed, List.flatMap_append, List.flatMap_cons, List.flatMap_cons,
    List.flatMap_cons, List.flatMap_singleton, hserver, hmethod, hpath, huserId]
  simp only [List.nil_append, List.cons_append, List.append_assoc]

/-! ## Legibility -/

/-- What a reader finds in a block, if the endpoint and the payload have the given lines. -/
theorem found_block (hlabel : '\n' ∉ record.identity.label.toList)
    (huser : '\n' ∉ record.userId.toList) {first : List Char} {later payload : List (List Char)}
    (hendpoint : lines record.endpoint = first :: later)
    (hpayload : record.payloadLines.flatMap lines = payload) :
    (lines record.block).count separator.toList =
        2 + later.count separator.toList + payload.count separator.toList ∧
      labelled "Server: " (lines record.block) = record.serverValue.toList ::
        (labelled "Server: " later ++ labelled "Server: " payload) ∧
      labelled "Method: " (lines record.block) = record.method.text.toList ::
        (labelled "Method: " later ++ labelled "Method: " payload) ∧
      labelled "Endpoint: " (lines record.block) = first ::
        (labelled "Endpoint: " later ++ labelled "Endpoint: " payload) ∧
      labelled "X-User-Id: " (lines record.block) = labelled "X-User-Id: " later ++
        record.userId.toList :: labelled "X-User-Id: " payload ∧
      labelled "Payload: " (lines record.block) =
        labelled "Payload: " later ++ labelled "Payload: " payload := by
  rw [lines_block hlabel huser hendpoint, hpayload]
  refine ⟨?_, ?_, ?_, ?_, ?_, ?_⟩
  · simp [toList_separator_eq_cons]
    omega
  all_goals
    simp only [labelled_cons, labelled_append]
    simp [toList_separator_eq_cons, labelled]

/-- What a reader finds in the lines of the payload: its first line, and what its later lines
imitate. -/
theorem found_payload (hpayload : record.payload ≠ some "") {payload : List (List Char)}
    (hlines : record.payloadLines.flatMap lines = payload) :
    payload.count separator.toList = record.laterLines.count separator.toList ∧
      (∀ label ∈ labels, label ≠ "Payload: " →
        labelled label payload = labelled label record.laterLines) ∧
      (labelled "Payload: " payload).length =
        (if record.payload.isSome then 1 else 0) +
          (labelled "Payload: " record.laterLines).length := by
  rcases lines_payloadLines hpayload with ⟨hnone, hlater, hempty⟩ | ⟨hsome, first, hcons⟩
  · rw [← hlines, hempty, hlater, hnone]
    exact ⟨rfl, fun _ _ _ => rfl, rfl⟩
  · rw [← hlines, hcons, hsome]
    refine ⟨?_, ?_, ?_⟩
    · simp [toList_separator_eq_cons]
    · rw [forall_labels_iff]
      simp [labelled_cons]
    · simp [labelled_cons, Nat.add_comm]

/-- **When a block is legible.**  If neither the name of the instance nor the user has a line feed,
the block of a record is legible exactly if the endpoint has none either and no later line of
the payload looks like a line of the frame. -/
theorem legible_block_iff (hlabel : '\n' ∉ record.identity.label.toList)
    (huser : '\n' ∉ record.userId.toList) (hpayload : record.payload ≠ some "") :
    record.Legible record.block ↔
      '\n' ∉ record.endpoint.toList ∧ ∀ line ∈ record.laterLines, ¬ Imitates line := by
  obtain ⟨first, later, hendpoint⟩ := List.exists_cons_of_ne_nil
    (List.splitOn_ne_nil '\n' record.endpoint.toList)
  obtain ⟨hcount, hserver, hmethod, hpath, huserId, hbody⟩ := found_block hlabel huser hendpoint rfl
  obtain ⟨hlaterCount, hlater, hlaterBody⟩ := found_payload hpayload rfl
  rw [hlaterCount] at hcount
  rw [hlater "Server: " (by decide) (by decide)] at hserver
  rw [hlater "Method: " (by decide) (by decide)] at hmethod
  rw [hlater "Endpoint: " (by decide) (by decide)] at hpath
  rw [hlater "X-User-Id: " (by decide) (by decide)] at huserId
  rw [not_mem_iff_lines hendpoint, forall_not_imitates_iff, forall_labels_iff]
  constructor
  · intro h
    -- Each label is used up by the line of the record, so nothing is left for the payload.
    have hs := hserver.symm.trans h.server
    have hm := hmethod.symm.trans h.method
    have he := hpath.symm.trans h.endpoint
    have hu := congrArg List.length (huserId.symm.trans h.userId)
    have hb := congrArg List.length hbody
    have hc := hcount.symm.trans h.separators
    have hp := h.payload
    simp only [List.cons.injEq, List.append_eq_nil_iff] at hs hm he
    simp only [List.length_append, List.length_cons, List.length_nil] at hu hb
    have huNone : labelled "X-User-Id: " record.laterLines = [] :=
      List.length_eq_zero_iff.mp (by omega)
    have hbNone : labelled "Payload: " record.laterLines = [] :=
      List.length_eq_zero_iff.mp (by omega)
    exact ⟨he.1, by omega, hs.2.2, hm.2.2, he.2.2, huNone, hbNone⟩
  · rintro ⟨hfirst, hnone, hs, hm, he, hu, hb⟩
    -- An endpoint of one line adds no further lines.
    have hline := lines_of_not_mem ((not_mem_iff_lines hendpoint).mpr hfirst)
    obtain rfl : later = [] := (List.cons.inj (hendpoint.symm.trans hline)).2
    constructor
    case separators => rw [hcount, hnone]; rfl
    case server => rw [hserver, hs]; rfl
    case method => rw [hmethod, hm]; rfl
    case endpoint => rw [hpath, he, hfirst]; rfl
    case userId => rw [huserId, hu]; rfl
    case payload => rw [hbody, List.length_append, hlaterBody, hb]; simp [labelled]

end RequestRecord

end Echo

end EchoBackend
