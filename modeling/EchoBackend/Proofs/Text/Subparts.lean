/-
# What lossy decoding replaces

Bytes that are not UTF-8 fall into characters and maximal subparts: where no character begins, the
longest run of bytes that could still have begun one, or else a single byte.  The decoding machine
finds just these, `splits_iff`, and carries nothing over a byte that continues no character,
`scan_append`.
-/
import EchoBackend.Proofs.Text.Scanning
import Mathlib.Data.List.Induction

namespace EchoBackend

namespace Utf8

/-! ## Maximal subparts -/

/-- Whether some character begins with the given bytes. -/
def Begins (bytes : Bytes) : Prop := ∃ c, bytes <+: String.utf8EncodeChar c

/-- A maximal subpart in front of other bytes: no character begins where it stands, it is a single
byte or could have begun a character, and no longer run of bytes could have. -/
structure Subpart (part rest : Bytes) : Prop where
  ne_nil : part ≠ []
  unreadable : ∀ c, ¬ String.utf8EncodeChar c <+: part ++ rest
  short : part.length = 1 ∨ Begins part
  maximal : ∀ longer, longer <+: part ++ rest → part.length < longer.length → ¬ Begins longer

/-- The ways to split bytes into characters and maximal subparts. -/
inductive Splits : Bytes → List (Option Char) → Prop
  | nil : Splits [] []
  | char {c : Char} {rest : Bytes} {items : List (Option Char)} (h : Splits rest items) :
    Splits (String.utf8EncodeChar c ++ rest) (some c :: items)
  | subpart {part rest : Bytes} {items : List (Option Char)} (hpart : Subpart part rest)
    (h : Splits rest items) : Splits (part ++ rest) (none :: items)

variable {bytes begun part rest other : Bytes} {byte : UInt8} {pending : Pending}
  {items : List (Option Char)}

/-- The same bytes have one maximal subpart at most. -/
theorem Subpart.unique {last : Bytes} (hpart : Subpart part rest) (hother : Subpart other last)
    (heq : part ++ rest = other ++ last) : part = other ∧ rest = last := by
  have hlength {one two after behind : Bytes} (hone : Subpart one after) (htwo : Subpart two behind)
      (heq : one ++ after = two ++ behind) : ¬ one.length < two.length := by
    intro hlt
    have hpos := List.length_pos_iff.mpr hone.ne_nil
    have hbegins := htwo.short.resolve_left (by omega)
    exact hone.maximal two (heq ▸ List.prefix_append two behind) hlt hbegins
  have hle := hlength hpart hother heq
  have hge := hlength hother hpart heq.symm
  exact List.append_inj heq (by omega)

/-! ## Characters under way -/

/-- The machine after bytes that have begun a character. -/
theorem Begun.foldl (h : Begun begun pending) :
    begun.foldl Decoder.step {} = ⟨[], some pending⟩ := by
  induction h with
  | lead h => exact Decoder.step_lead [] h
  | @more begun pending bits hbegun hneeded hbits ih =>
    rw [List.foldl_append, ih, List.foldl_cons, List.foldl_nil,
      Decoder.step_continuation [] pending hbits.1 hbits.2.1 hbits.2.2, if_neg hneeded]

/-- Some byte may come next. -/
theorem Begun.allows_low (h : Begun begun pending) :
    pending.Allows (pending.low.toNat - 0x80) := by
  have hrange := h.range
  have hle : pending.low.toNat ≤ pending.high.toNat := by
    cases h with
    | lead h =>
      rcases lead?_cases h with ⟨_, _, _, _, rfl⟩ | ⟨_, _, _, rfl⟩ | ⟨_, _, _, rfl⟩
      · exact (by decide : 0x80 ≤ 0xBF)
      all_goals
        dsimp only
        split <;> split <;> first | decide | omega
    | more => exact (by decide : 0x80 ≤ 0xBF)
  exact ⟨by omega, by omega, by omega⟩

/-- Bytes that have begun a character can be completed. -/
theorem Begun.begins (h : Begun begun pending) : Begins begun := by
  have hcomplete (count : Nat) {begun : Bytes} {pending : Pending} (h : Begun begun pending)
      (hcount : pending.needed = count + 1) : Begins begun := by
    induction count generalizing begun pending with
    | zero => exact ⟨_, _, (h.encode hcount h.allows_low).symm⟩
    | succ count ih =>
      obtain ⟨c, hprefix⟩ := ih (h.more (by omega) h.allows_low)
        (by dsimp only; omega)
      exact ⟨c, (List.prefix_append begun _).trans hprefix⟩
  exact hcomplete (pending.needed - 1) h (by have := h.needed_bounds; omega)

/-- What is read first as unreadable begins no character. -/
theorem not_begins_of_foldl (decoder : Decoder)
    (h : bytes.foldl Decoder.step {} = decoder.onto [none]) : ¬ Begins bytes := by
  rintro ⟨c, rest, heq⟩
  have hscan : scan (String.utf8EncodeChar c) = [some c] := by
    rw [scan, Decoder.foldl_step_char]
    rfl
  rw [scan, ← heq, List.foldl_append, h, Decoder.finish_foldl_broken] at hscan
  exact absurd (List.cons.inj hscan).1 (Option.some_ne_none _).symm

/-- A byte that is not in the range that is asked for breaks off what is under way. -/
theorem Decoder.step_broken (read : List (Option Char))
    (hbyte : within pending.low pending.high byte = false) :
    step ⟨read, some pending⟩ byte = (begin {} byte).onto (none :: read) := by
  rw [step]
  dsimp only
  rw [hbyte, if_neg Bool.false_ne_true]
  exact begin_onto (none :: read) {} byte

/-- No character begins where something unreadable is read. -/
theorem unreadable_of_scan (h : scan bytes = none :: items) (c : Char) :
    ¬ String.utf8EncodeChar c <+: bytes := by
  rintro ⟨rest, heq⟩
  rw [scan_eq_some_cons_iff.mpr ⟨rest, heq.symm, rfl⟩] at h
  exact absurd (List.cons.inj h).1 (Option.some_ne_none c)

/-- Bytes that begin a character, up to one that does not go on with it. -/
theorem Begun.subpart (h : Begun begun pending)
    (hbroken : ∀ byte ∈ rest.head?, within pending.low pending.high byte = false)
    (hscan : scan (begun ++ rest) = none :: items) : Subpart begun rest where
  ne_nil := by
    rintro rfl
    cases h.foldl
  unreadable := unreadable_of_scan hscan
  short := Or.inr h.begins
  maximal := by
    rintro longer ⟨last, heq⟩ hlt ⟨c, hbegins⟩
    cases rest with
    | nil =>
      have hlength := congrArg List.length heq
      simp only [List.length_append, List.length_nil] at hlength
      omega
    | cons byte rest =>
      -- The longer run has the byte that breaks off the character.
      have hshort : begun ++ [byte] <+: begun ++ byte :: rest :=
        ⟨rest, by rw [List.append_assoc, List.singleton_append]⟩
      have hnext : begun ++ [byte] <+: longer := by
        refine List.prefix_of_prefix_length_le hshort ⟨last, heq⟩ ?_
        rw [List.length_append, List.length_singleton]
        exact hlt
      refine not_begins_of_foldl (Decoder.begin {} byte) ?_ ⟨c, hnext.trans hbegins⟩
      rw [List.foldl_append, h.foldl, List.foldl_cons, List.foldl_nil,
        Decoder.step_broken [] (hbroken byte rfl)]

/-- A byte that begins no character is a maximal subpart on its own. -/
theorem subpart_singleton (hbyte : Decoder.step {} byte = Decoder.onto [none] {})
    (hscan : scan (byte :: rest) = none :: items) : Subpart [byte] rest where
  ne_nil := List.cons_ne_nil _ _
  unreadable := unreadable_of_scan hscan
  short := Or.inl rfl
  maximal := by
    rintro longer ⟨last, heq⟩ hlt ⟨c, hbegins⟩
    have hfirst : [byte] <+: longer :=
      List.prefix_of_prefix_length_le ⟨rest, rfl⟩ ⟨last, heq⟩ (Nat.le_of_lt hlt)
    have hnot : ¬ Begins [byte] := not_begins_of_foldl {} hbyte
    exact hnot ⟨c, hfirst.trans hbegins⟩

/-! ## Splitting -/

/-- What is read as unreadable after some bytes of a character is a maximal subpart with these
bytes in front. -/
theorem exists_subpart_of_begun (hbegun : Begun begun pending)
    (hscan : scan (begun ++ bytes) = none :: items) :
    ∃ part rest, begun ++ bytes = part ++ rest ∧ Subpart part rest ∧ scan rest = items := by
  induction bytes generalizing begun pending with
  | nil =>
    refine ⟨begun, [], rfl, hbegun.subpart (by rintro _ ⟨⟩) hscan, ?_⟩
    rw [List.append_nil, scan, hbegun.foldl] at hscan
    exact (List.cons.inj hscan).2
  | cons byte bytes ih =>
    cases hwithin : within pending.low pending.high byte with
    | false =>
      refine ⟨begun, byte :: bytes, rfl, hbegun.subpart (by rintro _ ⟨⟩; exact hwithin) hscan, ?_⟩
      rw [scan, List.foldl_append, hbegun.foldl, List.foldl_cons, Decoder.step_broken [] hwithin,
        Decoder.finish_foldl_broken] at hscan
      exact (List.cons.inj hscan).2
    | true =>
      obtain ⟨bits, hbits, rfl, -⟩ := hbegun.exists_allows hwithin
      by_cases hneeded : pending.needed = 1
      · -- A character was completed, so it would have been read first.
        refine absurd ?_ (unreadable_of_scan hscan (Char.ofNat (pending.bits * 64 + bits)))
        exact ⟨bytes, by rw [hbegun.encode hneeded hbits, List.append_assoc, List.singleton_append]⟩
      · have happend : begun ++ UInt8.ofNat (bits + 0x80) :: bytes =
            begun ++ [UInt8.ofNat (bits + 0x80)] ++ bytes := by
          rw [List.append_assoc, List.singleton_append]
        rw [happend] at hscan ⊢
        exact ih (hbegun.more hneeded hbits) hscan

/-- **The first unreadable item.**  Bytes are read as unreadable first exactly if they begin with a
maximal subpart; the others are read on their own. -/
theorem scan_eq_none_cons_iff : scan bytes = none :: items ↔
    ∃ part rest, bytes = part ++ rest ∧ Subpart part rest ∧ scan rest = items := by
  have hexists {items : List (Option Char)} (hscan : scan bytes = none :: items) :
      ∃ part rest, bytes = part ++ rest ∧ Subpart part rest ∧ scan rest = items := by
    cases bytes with
    | nil => contradiction
    | cons byte bytes =>
      by_cases hascii : byte < 0x80
      · have hstep : Decoder.step {} byte = ⟨[some (Char.ofNat byte.toNat)], none⟩ := by
          rw [Decoder.step, Decoder.begin, if_pos hascii]
        rw [scan, List.foldl_cons, hstep, Decoder.finish_foldl_item] at hscan
        exact absurd (List.cons.inj hscan).1 (Option.some_ne_none _)
      · cases hlead : lead? byte with
        | none =>
          have hstep : Decoder.step {} byte = Decoder.onto [none] {} := by
            rw [Decoder.step, Decoder.begin, if_neg hascii]
            dsimp only
            rw [hlead]
            rfl
          refine ⟨[byte], bytes, rfl, subpart_singleton hstep hscan, ?_⟩
          rw [scan, List.foldl_cons, hstep, Decoder.finish_foldl_broken] at hscan
          exact (List.cons.inj hscan).2
        | some pending =>
          have hbegun : Begun [byte] pending := .lead hlead
          exact exists_subpart_of_begun hbegun hscan
  refine ⟨hexists, ?_⟩
  rintro ⟨part, rest, rfl, hpart, rfl⟩
  cases hscan : scan (part ++ rest) with
  | nil =>
    rw [scan_eq_nil_iff] at hscan
    exact absurd (List.append_eq_nil_iff.mp hscan).1 hpart.ne_nil
  | cons item items =>
    cases item with
    | some c =>
      obtain ⟨last, heq, -⟩ := scan_eq_some_cons_iff.mp hscan
      exact absurd ⟨last, heq.symm⟩ (hpart.unreadable c)
    | none =>
      obtain ⟨other, last, heq, hother, rfl⟩ := hexists hscan
      rw [(hpart.unique hother heq).2]

/-- **The machine splits bytes into characters and maximal subparts**, in the only way there is. -/
theorem splits_iff : Splits bytes items ↔ items = scan bytes := by
  constructor
  · intro h
    induction h with
    | nil => rfl
    | char _ ih => exact (scan_eq_some_cons_iff.mpr ⟨_, rfl, ih.symm⟩).symm
    | subpart hpart _ ih => exact (scan_eq_none_cons_iff.mpr ⟨_, _, rfl, hpart, ih.symm⟩).symm
  · intro h
    induction items generalizing bytes with
    | nil =>
      rw [scan_eq_nil_iff.mp h.symm]
      exact .nil
    | cons item items ih =>
      cases item with
      | some c =>
        obtain ⟨rest, rfl, hrest⟩ := scan_eq_some_cons_iff.mp h.symm
        exact .char (ih hrest.symm)
      | none =>
        obtain ⟨part, rest, rfl, hpart, hrest⟩ := scan_eq_none_cons_iff.mp h.symm
        exact .subpart hpart (ih hrest.symm)

/-! ## Cutting -/

/-- What is under way after some bytes was begun by some of them. -/
theorem exists_begun (bytes : Bytes) :
    ∀ pending ∈ (bytes.foldl Decoder.step {}).pending, ∃ begun, Begun begun pending := by
  have hbegin (decoder : Decoder) (byte : UInt8) :
      ∀ pending ∈ (decoder.begin byte).pending, ∃ begun, Begun begun pending := by
    unfold Decoder.begin
    split
    · rintro _ ⟨⟩
    · split
      case h_1 pending hlead =>
        rintro _ ⟨⟩
        exact ⟨_, .lead hlead⟩
      case h_2 => rintro _ ⟨⟩
  induction bytes using List.reverseRecOn with
  | nil => rintro _ ⟨⟩
  | append_singleton bytes byte ih =>
    rw [List.foldl_append, List.foldl_cons, List.foldl_nil]
    generalize bytes.foldl Decoder.step {} = decoder at ih
    rcases decoder with ⟨read, pending⟩
    cases pending with
    | none => exact hbegin ⟨read, none⟩ byte
    | some pending =>
      obtain ⟨begun, hbegun⟩ := ih pending rfl
      cases hwithin : within pending.low pending.high byte with
      | false =>
        rw [Decoder.step]
        dsimp only
        rw [hwithin]
        exact hbegin ⟨none :: read, none⟩ byte
      | true =>
        obtain ⟨bits, hbits, rfl, -⟩ := hbegun.exists_allows hwithin
        rw [Decoder.step_continuation read pending hbits.1 hbits.2.1 hbits.2.2]
        split
        · rintro _ ⟨⟩
        · rename_i hneeded
          rintro _ ⟨⟩
          exact ⟨_, hbegun.more hneeded hbits⟩

/-- **Scanning is cut at any byte that continues no character**: what stands before it is scanned on
its own, even if it breaks off in the middle of a character. -/
theorem scan_append (front : Bytes) (h : isContinuation byte = false) (rest : Bytes) :
    scan (front ++ byte :: rest) = scan front ++ scan (byte :: rest) := by
  have hbegun := exists_begun front
  rw [scan, scan, scan, List.foldl_append, List.foldl_cons, List.foldl_cons]
  generalize front.foldl Decoder.step {} = decoder at hbegun
  rcases decoder with ⟨read, pending⟩
  cases pending with
  | none =>
    have hstep : Decoder.step ⟨read, none⟩ byte = (Decoder.step {} byte).onto read :=
      Decoder.step_onto read {} byte
    rw [hstep, Decoder.finish_foldl_onto]
    rfl
  | some pending =>
    obtain ⟨begun, hpending⟩ := hbegun pending rfl
    have hwithin : within pending.low pending.high byte = false := by
      obtain ⟨hlow, hhigh⟩ := hpending.range
      simp only [isContinuation, within, Bool.and_eq_false_iff, decide_eq_false_iff_not,
        UInt8.le_iff_toNat_le, Nat.not_le] at h ⊢
      rcases h with h | h
      · exact Or.inl (Nat.lt_of_lt_of_le h hlow)
      · exact Or.inr (Nat.lt_of_le_of_lt hhigh h)
    rw [Decoder.step_broken read hwithin, Decoder.finish_foldl_onto]
    rfl

/-- Lossy decoding is cut in the same places. -/
theorem lossy_append (front : Bytes) (h : isContinuation byte = false) (rest : Bytes) :
    lossy (front ++ byte :: rest) = lossy front ++ lossy (byte :: rest) := by
  rw [lossy, scan_append front h, List.map_append, lossy, lossy]

/-- Lossy decoding leaves what was encoded as it is. -/
theorem lossy_encode (text : List Char) : lossy (encode text) = text := by
  rw [lossy, scan_encode, List.map_map]
  exact List.map_id text

/-- A character of ASCII is read as itself, and what follows it is read on its own. -/
theorem lossy_cons_ascii {c : Char} (h : c.toNat < 0x80) (rest : Bytes) :
    lossy (UInt8.ofNat c.toNat :: rest) = c :: lossy rest := by
  rw [lossy, lossy, scan_eq_some_cons_iff.mpr ⟨rest, by rw [utf8EncodeChar_of_ascii h]; rfl, rfl⟩]
  rfl

end Utf8

end EchoBackend
