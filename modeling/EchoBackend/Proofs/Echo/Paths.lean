/-
# Paths, however they are written

A client may write each character of a path as it is or escaped, and what an instance sees is the
same, `pathSegment_written`.  Whatever bytes a client sends, the path is decoded segment by segment,
nothing but escapes and unreadable bytes is replaced, and the result is a text,
`pathSegment_segmentwise`.
-/
import EchoBackend.Echo.Incoming
import EchoBackend.Proofs.Text.Escapes
import EchoBackend.Proofs.Text.Subparts
import Mathlib.Data.List.Infix

namespace EchoBackend

namespace Echo

open Percent Utf8

variable {a b : Bytes} {c : Char}

/-! ## Slashes -/

/-- A path without its leading slash. -/
def withoutSlash : Bytes → Bytes
  | 0x2F :: rest => rest
  | path => path

/-- What is seen of a path. -/
theorem pathSegment_eq (path : Bytes) :
    pathSegment path = lossyText (decode (withoutSlash path)) := rfl

/-- Without a leading slash, the path is what it is. -/
theorem withoutSlash_cons {byte : UInt8} (h : byte ≠ 0x2F) (rest : Bytes) :
    withoutSlash (byte :: rest) = byte :: rest := by
  unfold withoutSlash
  split
  case h_1 heq => exact absurd (List.cons.inj heq).1 h
  case h_2 => rfl

/-- A path ends with what is left of it. -/
theorem withoutSlash_suffix (path : Bytes) : withoutSlash path <:+ path := by
  unfold withoutSlash
  split
  · exact List.suffix_cons _ _
  · exact List.suffix_refl _

/-- A text without its leading slash is a text. -/
theorem exists_withoutSlash (text : List Char) :
    ∃ rest, withoutSlash (encode text) = encode rest := by
  cases text with
  | nil => exact ⟨[], rfl⟩
  | cons c text =>
    by_cases hc : c = '/'
    · subst hc
      exact ⟨text, rfl⟩
    · obtain ⟨byte, rest, hcons⟩ :=
        List.exists_cons_of_ne_nil (String.utf8EncodeChar_ne_nil (c := c))
      have hne := ne_of_mem_utf8EncodeChar hc (by decide) byte (hcons ▸ List.mem_cons_self)
      refine ⟨c :: text, ?_⟩
      rw [encode_cons, hcons, List.cons_append, withoutSlash_cons hne]

/-! ## Spellings -/

/-- **However a path is written, the same is seen of it.**  Each character stands as it is, unless it
is the percent sign, or has all of its bytes escaped, in any letter case.  Only the leading slash is
dropped, an escaped slash is a slash like any other, and an escaped percent sign begins no
escape. -/
theorem pathSegment_written {text : String} {written : List Bytes}
    (h : List.Forall₂ Percent.Writes text.toList written) :
    pathSegment (0x2F :: written.flatten) = text ∧
      endpointFor (pathSegment (0x2F :: written.flatten)) = "/" ++ text ∧
      pathSegment (0x2F :: 0x2F :: written.flatten) = "/" ++ text ∧
      (∀ slash, Escapes 0x2F slash →
        pathSegment (0x2F :: (slash ++ written.flatten)) = "/" ++ text) ∧
      ∀ percent, Escapes 0x25 percent →
        pathSegment (0x2F :: (percent ++ written.flatten)) = "%" ++ text := by
  have hseen {text : List Char} {written : List Bytes}
      (h : List.Forall₂ Percent.Writes text written) :
      pathSegment (0x2F :: written.flatten) = String.ofList text := by
    rw [pathSegment_eq, withoutSlash, decode_flatten h, lossyText, lossy_encode]
  have hescaped {c : Char} {escape : Bytes} (hone : String.utf8EncodeChar c = [UInt8.ofNat c.toNat])
      (hescape : Escapes (UInt8.ofNat c.toNat) escape) : Percent.Writes c escape := by
    have hwrites : Percent.Writes c [escape].flatten :=
      .escaped (hone.symm ▸ List.Forall₂.cons hescape .nil)
    simpa using hwrites
  have htext : pathSegment (0x2F :: written.flatten) = text := by
    rw [hseen h, String.ofList_toList]
  have hfront (c : Char) : String.ofList (c :: text.toList) = String.singleton c ++ text := by
    rw [← String.toList_inj]
    simp
  refine ⟨htext, by rw [htext, endpointFor], ?_, fun slash hslash => ?_, fun percent hpercent => ?_⟩
  · exact (hseen (.cons (.plain (by decide : '/' ≠ '%')) h)).trans (hfront '/')
  · exact (hseen (.cons (hescaped (c := '/') (by decide) hslash) h)).trans (hfront '/')
  · exact (hseen (.cons (hescaped (c := '%') (by decide) hpercent) h)).trans (hfront '%')

/-- A path with a slash, a percent sign that is followed by digits, and a character of two bytes. -/
theorem pathSegment_written_mixed :
    List.Forall₂ Percent.Writes "/%4é".toList [[0x2F], bytes "%25", [0x34], bytes "%C3%a9"] ∧
      pathSegment (bytes "//%254%C3%a9") = "/%4é" ∧
      pathSegment (bytes "/%2f/%254%C3%a9") = "//%4é" := by
  have hescape (high low : UInt8) {byte : UInt8}
      (h : Hex.Writes (byte.toNat / 16) high ∧ Hex.Writes (byte.toNat % 16) low) :
      Escapes byte [0x25, high, low] := .digits h.1 h.2
  have hpercent : Percent.Writes '%' [[0x25, 0x32, 0x35]].flatten :=
    .escaped (.cons (hescape 0x32 0x35 (by decide)) .nil)
  have hletter : Percent.Writes 'é' [[0x25, 0x43, 0x33], [0x25, 0x61, 0x39]].flatten :=
    .escaped (.cons (hescape 0x43 0x33 (by decide)) (.cons (hescape 0x61 0x39 (by decide)) .nil))
  have hwritten : List.Forall₂ Percent.Writes "/%4é".toList
      [[0x2F], bytes "%25", [0x34], bytes "%C3%a9"] :=
    .cons (.plain (by decide : '/' ≠ '%')) (.cons hpercent
      (.cons (.plain (by decide : '4' ≠ '%')) (.cons hletter .nil)))
  obtain ⟨hseen, -, -, hslash, -⟩ := pathSegment_written hwritten
  exact ⟨hwritten, hseen, hslash _ (hescape 0x32 0x66 (by decide))⟩

/-! ## Segments -/

/-- A path is cut at any character of ASCII that is no digit and begins no escape. -/
theorem pathSegment_cut (hascii : c.toNat < 0x80) (hdigit : ¬ Hex.IsDigit (UInt8.ofNat c.toNat))
    (hescape : ¬ BeginsEscape (UInt8.ofNat c.toNat :: b)) :
    pathSegment (0x2F :: (a ++ UInt8.ofNat c.toNat :: b)) =
      pathSegment (0x2F :: a) ++ String.singleton c ++ pathSegment (0x2F :: b) := by
  have hnone : isContinuation (UInt8.ofNat c.toNat) = false := by
    have hvalue : (UInt8.ofNat c.toNat).toNat = c.toNat :=
      UInt8.toNat_ofNat_of_lt' (Nat.lt_trans hascii (by decide))
    rw [isContinuation, within, Bool.and_eq_false_iff, decide_eq_false_iff_not,
      UInt8.le_iff_toNat_le, hvalue]
    exact Or.inl (Nat.not_le.mpr hascii)
  simp only [pathSegment_eq, withoutSlash]
  rw [decode_append hdigit, decode_cons hescape, lossyText, lossy_append _ hnone,
    lossy_cons_ascii hascii, ← String.toList_inj]
  simp [lossyText]

/-- **Paths are decoded segment by segment, whatever they hold.**  A slash cuts a path even after
a broken escape or a broken character.  A percent sign that begins no escape stays.  What is seen
is always a text, and the path itself if it has no escapes.  Of the decoded bytes, characters are
kept and each maximal subpart that is no character becomes one replacement character. -/
theorem pathSegment_segmentwise :
    (∀ a b : Bytes, pathSegment (0x2F :: (a ++ 0x2F :: b)) =
      pathSegment (0x2F :: a) ++ "/" ++ pathSegment (0x2F :: b)) ∧
    (∀ a b : Bytes, ¬ BeginsEscape (0x25 :: b) → pathSegment (0x2F :: (a ++ 0x25 :: b)) =
      pathSegment (0x2F :: a) ++ "%" ++ pathSegment (0x2F :: b)) ∧
    (∀ path : Bytes, text? (bytes (pathSegment path)) = some (pathSegment path)) ∧
    (∀ text : String, ¬ HasEscape (bytes text) →
      bytes (pathSegment (bytes text)) = withoutSlash (bytes text)) ∧
    ∀ path : Bytes, ∃ items,
      (∀ split, Splits (decode (withoutSlash path)) split ↔ split = items) ∧
        pathSegment path = String.ofList (items.map (·.getD replacement)) := by
  refine ⟨fun a b => ?_, fun a b h => ?_, fun path => text?_eq_some_iff.mpr rfl, fun text h => ?_,
    fun path => ⟨_, fun _ => splits_iff, rfl⟩⟩
  · exact pathSegment_cut (c := '/') (by decide) (by decide) (not_beginsEscape_of_ne (by decide))
  · exact pathSegment_cut (c := '%') (by decide) (by decide) h
  · obtain ⟨rest, hrest⟩ : ∃ rest, withoutSlash (bytes text) = encode rest :=
      exists_withoutSlash text.toList
    have hnone : ¬ HasEscape (withoutSlash (bytes text)) := by
      rintro ⟨tail, htail, hbegins⟩
      rw [List.mem_tails] at htail
      exact h ⟨tail, (List.mem_tails _ _).mpr (htail.trans (withoutSlash_suffix _)), hbegins⟩
    rw [pathSegment_eq, decode_eq_self hnone, hrest, lossyText, lossy_encode, bytes,
      String.toList_ofList]

/-- A path whose first segment breaks off in a character and whose second one has a percent sign
that begins no escape. -/
theorem pathSegment_segmentwise_broken :
    ¬ BeginsEscape (bytes "%4/é") ∧ ¬ HasEscape (bytes "/é%4") ∧
      pathSegment (bytes "/%E2%82/x%4/é") = "\uFFFD/x%4/é" ∧
      bytes (pathSegment (bytes "/é%4")) = bytes "é%4" := by
  obtain ⟨hslash, hpercent, -, hplain, -⟩ := pathSegment_segmentwise
  have hnone : ¬ HasEscape (bytes "/é%4") := by decide +kernel
  have hstays : ¬ BeginsEscape (bytes "%4/é") := by decide
  refine ⟨hstays, hnone, ?_, hplain "/é%4" hnone⟩
  have hcut := hslash (bytes "%E2%82") (bytes "x%4/é")
  rw [show 0x2F :: bytes "x%4/é" = 0x2F :: (bytes "x" ++ 0x25 :: bytes "4/é") by decide,
    hpercent (bytes "x") (bytes "4/é") hstays] at hcut
  refine Eq.trans hcut ?_
  decide +kernel

end Echo

end EchoBackend
