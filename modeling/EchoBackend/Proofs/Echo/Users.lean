/-
# Users, whatever the headers hold

The user of a request is read from the first header of that name, in whatever letter case the name
is written, and of its value only what is no text is replaced.  `first?_ofPairs_eq_some_iff` says
which value counts, `userId_first` what is read of it.
-/
import EchoBackend.Echo.Incoming
import EchoBackend.Proofs.Http.Fields
import EchoBackend.Proofs.Text.Subparts
import Mathlib.Data.List.Forall2

namespace EchoBackend

namespace Http

/-! ## Letter case -/

/-- Whether bytes are the same, or the two cases of one letter. -/
def SameLetter (x y : UInt8) : Prop :=
  x = y ∨ isLetterByte x = true ∧ isLetterByte y = true ∧
    (x.toNat + 0x20 = y.toNat ∨ y.toNat + 0x20 = x.toNat)

/-- Whether names are the same, letter case apart. -/
def SameName (name other : Bytes) : Prop := List.Forall₂ SameLetter name other

/-- The lower case of a byte, as a number. -/
theorem toNat_lowerByte (byte : UInt8) : (lowerByte byte).toNat =
    if 0x41 ≤ byte.toNat ∧ byte.toNat ≤ 0x5A then byte.toNat + 0x20 else byte.toNat := by
  have hlt := byte.toNat_lt
  simp only [lowerByte, Bool.and_eq_true, decide_eq_true_eq, UInt8.le_iff_toNat_le]
  change (if 0x41 ≤ byte.toNat ∧ byte.toNat ≤ 0x5A then _ else _ : UInt8).toNat = _
  split
  case isTrue h =>
    rw [UInt8.toNat_add]
    change (byte.toNat + 0x20) % 256 = _
    omega
  case isFalse => rfl

/-- A letter, by its number. -/
theorem isLetterByte_iff (byte : UInt8) : isLetterByte byte = true ↔
    0x41 ≤ byte.toNat ∧ byte.toNat ≤ 0x5A ∨ 0x61 ≤ byte.toNat ∧ byte.toNat ≤ 0x7A := by
  simp only [isLetterByte, Bool.or_eq_true, Bool.and_eq_true, decide_eq_true_eq,
    UInt8.le_iff_toNat_le]
  rfl

/-- Bytes have the same lower case exactly if they are the same letter or the same byte. -/
theorem lowerByte_eq_iff {x y : UInt8} : lowerByte x = lowerByte y ↔ SameLetter x y := by
  unfold SameLetter
  rw [← UInt8.toNat_inj, ← UInt8.toNat_inj (a := x), toNat_lowerByte, toNat_lowerByte,
    isLetterByte_iff, isLetterByte_iff]
  split <;> split <;> omega

/-- Names have the same lower case exactly if they are the same, letter case apart. -/
theorem map_lowerByte_eq_iff {name other : Bytes} :
    name.map lowerByte = other.map lowerByte ↔ SameName name other := by
  rw [SameName, ← List.forall₂_eq_eq_eq, List.forall₂_map_left_iff, List.forall₂_map_right_iff]
  simp only [lowerByte_eq_iff]

end Http

namespace Echo

open Http Utf8

variable {pairs : List (Bytes × Bytes)} {headers : Headers} {value : Bytes}

/-! ## The header that counts -/

/-- Whether a name is that of the header which names the user. -/
def NamesUser (name : Bytes) : Prop := SameName name (bytes "x-user-id")

/-- The value of the first of the headers that name the user. -/
def FirstUser (pairs : List (Bytes × Bytes)) (value : Bytes) : Prop :=
  ∃ before name after, pairs = before ++ (name, value) :: after ∧ NamesUser name ∧
    ∀ pair ∈ before, ¬ NamesUser pair.1

/-- The header of a name and a value has the name of the user's header exactly if they name the
user. -/
theorem name_ofPair_iff (pair : Bytes × Bytes) :
    ((Header.ofPair pair).name == userIdHeader) = true ↔ NamesUser pair.1 := by
  have hlower : userIdHeader = (bytes "x-user-id").map lowerByte := by decide
  rw [beq_iff_eq, Header.ofPair, hlower, map_lowerByte_eq_iff, NamesUser]

/-- **No user is named** exactly if no header has the name. -/
theorem first?_ofPairs_eq_none_iff (h : Headers.ofPairs pairs = .ok headers) :
    headers.first? userIdHeader = none ↔ ∀ pair ∈ pairs, ¬ NamesUser pair.1 := by
  obtain ⟨-, rfl⟩ := Headers.ofPairs_eq_ok_iff.mp h
  rw [Headers.first?, Option.map_eq_none_iff, List.find?_eq_none, List.forall_mem_map]
  simp only [name_ofPair_iff]

/-- **The first header of the name counts.** -/
theorem first?_ofPairs_eq_some_iff (h : Headers.ofPairs pairs = .ok headers) :
    headers.first? userIdHeader = some value ↔ FirstUser pairs value := by
  obtain ⟨-, rfl⟩ := Headers.ofPairs_eq_ok_iff.mp h
  rw [Headers.first?, List.find?_map, Option.map_map, Option.map_eq_some_iff]
  simp only [List.find?_eq_some_iff_append, Function.comp_apply, Bool.not_eq_true',
    Bool.eq_false_iff, ne_eq, name_ofPair_iff]
  constructor
  · rintro ⟨⟨name, value⟩, ⟨hname, before, after, rfl, hbefore⟩, rfl⟩
    exact ⟨before, name, after, rfl, hname, hbefore⟩
  · rintro ⟨before, name, after, rfl, hname, hbefore⟩
    exact ⟨(name, value), ⟨hname, before, after, rfl, hbefore⟩, rfl⟩

/-! ## What is read of it -/

/-- Decoding is cut in front of any byte that continues no character. -/
theorem lossyText_append {front back : Bytes}
    (h : ∀ byte ∈ back.head?, isContinuation byte = false) :
    lossyText (front ++ back) = lossyText front ++ lossyText back := by
  rw [lossyText, lossyText, lossyText, ← String.ofList_append]
  cases back with
  | nil => rw [List.append_nil, lossy, lossy, scan_nil, List.map_nil, List.append_nil]
  | cons byte back => rw [lossy_append front (h byte rfl)]

/-- A low character that is no part of values is no part of users. -/
theorem not_mem_userId {c : Char} (hlow : IsLow c)
    (hc : isValueByte (UInt8.ofNat c.toNat) = false)
    (hvalues : ∀ header ∈ headers, isValue header.value = true) {text : String}
    (htext : userId headers = some text) : c ∉ text.toList := by
  obtain ⟨value, hvalue, rfl⟩ := Option.map_eq_some_iff.mp htext
  obtain ⟨header, hfind, rfl⟩ := Option.map_eq_some_iff.mp hvalue
  rw [lossyText, String.toList_ofList]
  intro hmem
  have hbyte := List.all_eq_true.mp (hvalues header (List.mem_of_find?_eq_some hfind)) _
    (mem_of_mem_lossy hmem hlow)
  rw [hc] at hbyte
  contradiction

/-- **The user is read exactly.**  None is named exactly if no header has the name, in any letter
case; otherwise the first one that has it counts, whatever stands around it.  A text is taken as it
is, also an empty one.  Of other values, characters are kept and each maximal subpart that is no
character becomes one replacement character, so that a value can be cut in front of any byte that
continues no character.  No line breaks are read. -/
theorem userId_first (h : Headers.ofPairs pairs = .ok headers) :
    (userId headers = none ↔ ∀ pair ∈ pairs, ¬ NamesUser pair.1) ∧
    (∀ value, FirstUser pairs value →
      (∀ text, value = bytes text → userId headers = some text) ∧
      (∃ items, (∀ split, Splits value split ↔ split = items) ∧
        userId headers = some (String.ofList (items.map (·.getD replacement)))) ∧
      ∀ front back, value = front ++ back →
        (∀ byte ∈ back.head?, isContinuation byte = false) →
        ∃ before after, userId [⟨userIdHeader, front⟩] = some before ∧
          userId [⟨userIdHeader, back⟩] = some after ∧ userId headers = some (before ++ after)) ∧
    (∀ text, userId headers = some text → '\n' ∉ text.toList ∧ '\r' ∉ text.toList) ∧
    ∀ method path body limit, (Incoming.extract method path headers body limit).userIdOrNone =
      (userId headers).getD "NOT_SET" := by
  refine ⟨?_, fun value hfirst => ?_, fun text htext => ?_, fun method path body limit => rfl⟩
  · rw [userId, Option.map_eq_none_iff, first?_ofPairs_eq_none_iff h]
  · have hread : userId headers = some (lossyText value) := by
      rw [userId, (first?_ofPairs_eq_some_iff h).mpr hfirst, Option.map_some]
    refine ⟨?_, ⟨scan value, fun split => splits_iff, hread⟩, ?_⟩
    · rintro text rfl
      rw [hread, lossyText, bytes, lossy_encode, String.ofList_toList]
    · rintro front back rfl hcut
      exact ⟨lossyText front, lossyText back, rfl, rfl, by rw [hread, lossyText_append hcut]⟩
  · have hvalues := Headers.isValue_of_ofPairs h
    exact ⟨not_mem_userId (by rw [IsLow]; decide) (by decide) hvalues htext,
      not_mem_userId (by rw [IsLow]; decide) (by decide) hvalues htext⟩

/-- A value that breaks off in a character, after another header and before an empty value under the
same name; and an empty value on its own. -/
theorem userId_first_broken :
    let pairs : List (Bytes × Bytes) := [(bytes "Accept", bytes "x"),
      (bytes "X-USER-Id", [0x75, 0xE2, 0x82, 0xC3, 0xA9]), (bytes "x-user-id", [])]
    let headers := pairs.map Header.ofPair
    Headers.ofPairs pairs = .ok headers ∧ FirstUser pairs [0x75, 0xE2, 0x82, 0xC3, 0xA9] ∧
      userId headers = some "u\uFFFDé" ∧
      userId [⟨userIdHeader, []⟩] = some "" := by
  intro pairs headers
  have hheaders : Headers.ofPairs pairs = .ok headers := by decide
  have hfirst : FirstUser pairs [0x75, 0xE2, 0x82, 0xC3, 0xA9] :=
    (first?_ofPairs_eq_some_iff hheaders).mp (by decide)
  obtain ⟨-, -, hcut⟩ := (userId_first hheaders).2.1 _ hfirst
  have hlead : isContinuation 0xC3 = false := by decide
  obtain ⟨before, after, hbefore, hafter, hread⟩ :=
    hcut [0x75, 0xE2, 0x82] [0xC3, 0xA9] rfl fun byte hbyte => Option.some.inj hbyte ▸ hlead
  have hfront : userId [⟨userIdHeader, [0x75, 0xE2, 0x82]⟩] = some "u\uFFFD" := by decide
  have hback : userId [⟨userIdHeader, [0xC3, 0xA9]⟩] = some "é" := by decide
  obtain rfl := Option.some.inj (hbefore.symm.trans hfront)
  obtain rfl := Option.some.inj (hafter.symm.trans hback)
  have hempty : Headers.ofPairs [(bytes "X-User-ID", [])] = .ok [⟨userIdHeader, []⟩] := by decide
  obtain ⟨htext, -, -⟩ := (userId_first hempty).2.1 []
    ((first?_ofPairs_eq_some_iff hempty).mp (by decide))
  exact ⟨hheaders, hfirst, hread, htext "" rfl⟩

end Echo

end EchoBackend
