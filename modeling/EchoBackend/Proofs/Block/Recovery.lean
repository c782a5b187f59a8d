/-
# Reading a block back

A block has no escapes and gives no lengths, yet its record can be read back from it: the endpoint
and the user end at the first line feed, and the payload is all that stands between its label and
the last separator, whatever it imitates.  The main statement is
`RequestRecord.block_determines`.
-/
import EchoBackend.Proofs.Block.Legibility
import EchoBackend.Proofs.Startup.Picking
import EchoBackend.Proofs.Text.Controls
import EchoBackend.Proofs.Text.Decoding

namespace EchoBackend

/-! ## Methods -/

namespace Http

/-- Tokens are made of bytes of ASCII. -/
theorem lt_of_isTokenByte {byte : UInt8} (h : isTokenByte byte = true) : byte.toNat < 0x80 := by
  have hall : ∀ bits < 256, isTokenByte (UInt8.ofNat bits) = true → bits < 0x80 := by
    decide +kernel
  have hbyte := hall byte.toNat byte.toNat_lt
  rw [UInt8.ofNat_toNat] at hbyte
  exact hbyte h

/-- The spelling of a method has its bytes. -/
theorem Method.encode_text (method : Method) : Utf8.encode method.text.toList = method.bytes := by
  have hascii : ∀ byte ∈ method.bytes, byte.toNat < 0x80 := fun byte hbyte =>
    lt_of_isTokenByte (List.all_eq_true.mp (Bool.and_eq_true_iff.mp method.isToken).2 byte hbyte)
  have hvalue (byte : UInt8) : (Char.ofNat byte.toNat).toNat = byte.toNat := by
    have hvalid : byte.toNat.isValidChar := Or.inl (Nat.lt_trans byte.toNat_lt (by decide))
    rw [Utf8.toNat_ofNat, if_pos hvalid]
  have hchars : ∀ c ∈ method.bytes.map (fun byte => Char.ofNat byte.toNat), c.toNat < 0x80 := by
    intro c hc
    obtain ⟨byte, hbyte, rfl⟩ := List.mem_map.mp hc
    rw [hvalue]
    exact hascii byte hbyte
  rw [text, asciiText, String.toList_ofList, Utf8.encode_of_ascii hchars, List.map_map]
  simp only [Function.comp_def, hvalue, UInt8.ofNat_toNat, List.map_id']

end Http

namespace Echo

open Http

namespace RequestRecord

/-! ## Reading -/

/-- Reads the line of the server: its name up to the first blank, and its port. -/
def readServer? (line : List Char) : Option (Identity × UInt16) := do
  let value ← line.dropPrefix? "Server: ".toList
  let port ← (value.dropWhile (· != ' ')).dropPrefix? " (listening on port ".toList
  pure (⟨String.ofList (value.takeWhile (· != ' '))⟩,
    UInt16.ofNat (Nat.ofDigitChars 10 (port.takeWhile Char.isDigit) 0))

/-- Reads the payload from its lines; without lines there is none. -/
def readPayload? : List (List Char) → Option (Option String)
  | [] => some none
  | first :: later =>
    (['\n'].intercalate (first :: later)).dropPrefix? "Payload: ".toList |>.map
      fun payload => some (String.ofList payload)

/-- Reads the record from a block. -/
def ofBlock? (block : String) : Option RequestRecord :=
  match lines block with
  | _ :: _ :: server :: method :: endpoint :: userId :: rest => do
    let (identity, port) ← readServer? server
    let method ← Method.ofBytes? (Utf8.encode (← method.dropPrefix? "Method: ".toList))
    let endpoint ← endpoint.dropPrefix? "Endpoint: ".toList
    let userId ← userId.dropPrefix? "X-User-Id: ".toList
    let payload ← readPayload? (← rest.dropSuffix? [separator.toList, []])
    pure ⟨identity, port, method, String.ofList endpoint, String.ofList userId, payload⟩
  | _ => none

/-- The record with an empty payload taken for none. -/
def withoutEmptyPayload (record : RequestRecord) : RequestRecord :=
  { record with payload := record.payload.filter (!·.isEmpty) }

/-- Whether a record can be read back: the instance goes by the name of some port, and neither the
endpoint nor the user has a line feed. -/
structure Recoverable (record : RequestRecord) : Prop where
  identity : ∃ port, record.identity = Identity.ofPort port
  endpoint : '\n' ∉ record.endpoint.toList
  userId : '\n' ∉ record.userId.toList

variable {record : RequestRecord}

/-- What is in front is dropped. -/
theorem dropPrefix?_append (label value : List Char) :
    (label ++ value).dropPrefix? label = some value :=
  List.dropPrefix?_append_of_beq value (beq_self_eq_true label)

/-- The line of the server is read back. -/
theorem readServer?_line (hlabel : ' ' ∉ record.identity.label.toList) :
    readServer? ("Server: ".toList ++ record.serverValue.toList) =
      some (record.identity, record.port) := by
  let digits := record.port.toNat.repr.toList
  have hvalue : record.serverValue.toList =
      record.identity.label.toList ++ (" (listening on port ".toList ++ (digits ++ [')'])) := by
    simp only [serverValue, String.toList_append, List.append_assoc]
    rfl
  have hlabel' : ∀ c ∈ record.identity.label.toList, (c != ' ') = true := by
    intro c hc
    rw [bne_iff_ne]
    rintro rfl
    exact hlabel hc
  have hdigits : ∀ c ∈ digits, c.isDigit = true := by
    intro c hc
    rw [show digits = Nat.toDigits 10 record.port.toNat from Nat.toList_repr] at hc
    exact Nat.isDigit_of_mem_toDigits (by decide) (Nat.le_refl 10) hc
  have hname : record.serverValue.toList.takeWhile (· != ' ') = record.identity.label.toList := by
    rw [hvalue, List.takeWhile_append_of_pos hlabel']
    exact List.append_nil _
  have hrest : record.serverValue.toList.dropWhile (· != ' ') =
      " (listening on port ".toList ++ (digits ++ [')']) := by
    rw [hvalue, List.dropWhile_append_of_pos hlabel']
    rfl
  have hport : (digits ++ [')']).takeWhile Char.isDigit = digits := by
    rw [List.takeWhile_append_of_pos hdigits]
    exact List.append_nil _
  rw [readServer?, dropPrefix?_append, Option.bind_eq_bind, Option.bind_some, hrest,
    dropPrefix?_append, Option.bind_some, hname, hport, Identity.value_repr,
    String.ofList_toList, UInt16.ofNat_toNat]
  rfl

/-- The payload is read back from its lines. -/
theorem readPayload?_lines (record : RequestRecord) :
    readPayload? (record.payloadLines.flatMap lines) = some record.withoutEmptyPayload.payload := by
  unfold payloadLines withoutEmptyPayload
  cases record.payload with
  | none => rfl
  | some payload =>
    dsimp only
    cases hempty : payload.isEmpty with
    | true => simp [readPayload?, Option.filter, hempty]
    | false =>
      obtain ⟨first, later, hlines⟩ := List.exists_cons_of_ne_nil
        (List.splitOn_ne_nil '\n' ("Payload: " ++ payload).toList)
      have htext : ['\n'].intercalate (first :: later) = "Payload: ".toList ++ payload.toList := by
        rw [← hlines, List.intercalate_splitOn, String.toList_append]
      rw [if_neg Bool.false_ne_true, List.flatMap_singleton, lines, hlines, readPayload?, htext,
        dropPrefix?_append]
      simp [Option.filter, hempty]

/-- **A record is read back from its block**, whatever the payload holds. -/
theorem ofBlock?_block (h : record.Recoverable) :
    ofBlock? record.block = some record.withoutEmptyPayload := by
  obtain ⟨port, hport⟩ := h.identity
  have hname {c : Char} (hletter : c ∉ "api-b".toList) (hdigit : c.isDigit = false) :
      c ∉ record.identity.label.toList := by
    rw [hport]
    intro hmem
    rcases Identity.mem_label hmem with hmem | hmem
    · exact hletter hmem
    · rw [hdigit] at hmem
      contradiction
  have hlines := lines_block (hname (by decide) (by decide)) h.userId (lines_of_not_mem h.endpoint)
  have hmethod : Method.ofBytes? (Utf8.encode record.method.text.toList) = some record.method := by
    rw [Method.encode_text, Method.ofBytes?_eq_some_iff]
  have hframe : (record.payloadLines.flatMap lines ++ [separator.toList, []]).dropSuffix?
      [separator.toList, []] = some (record.payloadLines.flatMap lines) :=
    List.dropSuffix?_eq_some_iff.mpr ⟨_, rfl, beq_self_eq_true _⟩
  rw [ofBlock?, hlines]
  dsimp only
  rw [List.nil_append]
  dsimp only
  rw [readServer?_line (hname (by decide) (by decide)), dropPrefix?_append, dropPrefix?_append,
    dropPrefix?_append, hframe]
  simp only [Option.bind_eq_bind, Option.bind_some, hmethod, readPayload?_lines,
    String.ofList_toList]
  rfl

/-- **A block determines what it records.**  From the block of any record whose endpoint and user
have no line feed, the identity, the port, the method, the endpoint, the user and the payload are
read back, an empty payload as none; so two such records with the same block are the same. -/
theorem block_determines :
    (∀ record : RequestRecord, record.Recoverable →
      ofBlock? record.block = some record.withoutEmptyPayload) ∧
    ∀ x y : RequestRecord, x.Recoverable → y.Recoverable → x.block = y.block →
      x.withoutEmptyPayload = y.withoutEmptyPayload := by
  refine ⟨fun record h => ofBlock?_block h, fun x y hx hy heq => ?_⟩
  have hread := ofBlock?_block hx
  rw [heq, ofBlock?_block hy, Option.some.injEq] at hread
  exact hread.symm

/-- A payload that imitates the end of its own block and a second one is read back, and an empty
payload cannot be told from none. -/
theorem block_determines_imitated :
    let imitation := "\n" ++ separator ++ "\n\n" ++ separator ++ "\nPayload: y"
    let record : RequestRecord :=
      ⟨Identity.ofPort 9002, 80, Method.post, "/a\rb", "Payload: ", some imitation⟩
    let empty := { record with payload := some "" }
    let none := { record with payload := none }
    (record.Recoverable ∧ empty.Recoverable ∧ none.Recoverable ∧ empty.block = none.block) ∧
      ofBlock? record.block = some record ∧
      empty.withoutEmptyPayload = none.withoutEmptyPayload := by
  intro imitation record empty none
  have hrecord : record.Recoverable := ⟨⟨9002, rfl⟩, by decide, by decide⟩
  have hempty : empty.Recoverable := ⟨⟨9002, rfl⟩, by decide, by decide⟩
  have hnone : none.Recoverable := ⟨⟨9002, rfl⟩, by decide, by decide⟩
  obtain ⟨hread, hsame⟩ := block_determines
  exact ⟨⟨hrecord, hempty, hnone, rfl⟩, (hread record hrecord).trans (by decide +kernel),
    hsame empty none hempty hnone rfl⟩

end RequestRecord

end Echo

end EchoBackend
