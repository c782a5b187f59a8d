/-
# What a written head announces

The fields of a well-formed request announce the framing of the body that follows: a list of lengths
that all agree is one length, and of several codings the last counts.  So what the head opens is the
request with exactly this body (`opens_read`).
-/
import EchoBackend.Proofs.Wire.Heads

namespace EchoBackend

namespace Wire

open Http

/-! ## Numbers -/

/-- Digits that are read one by one spell a number exactly if all of them are digits. -/
theorem foldlM_digits_eq_some_iff {base : Nat} {digit? : UInt8 → Option Nat} {digits : Bytes}
    {read number : Nat} :
    digits.foldlM (fun number byte => (digit? byte).map fun digit => base * number + digit) read =
        some number ↔
      (∀ byte ∈ digits, (digit? byte).isSome) ∧
        digits.foldl (fun number byte => base * number + (digit? byte).getD 0) read = number := by
  induction digits generalizing read with
  | nil => simp
  | cons byte digits ih =>
    rw [List.foldlM_cons, List.forall_mem_cons, List.foldl_cons]
    cases digit? byte with
    | none => simp
    | some digit => simpa using ih

/-- A length that is written in digits is read. -/
theorem readLength?_of_length? {value : Bytes} {length : Nat}
    (h : WrittenBody.length? value = some length) :
    readLength? value = some length := by
  rw [WrittenBody.length?, number?] at h
  split at h
  case isTrue => contradiction
  case isFalse hempty =>
    obtain ⟨hdigits, hnumber⟩ := foldlM_digits_eq_some_iff.mp h
    have hall : value.all isDigitByte = true := by
      refine List.all_eq_true.mpr fun byte hbyte => ?_
      by_contra hdigit
      have hsome := hdigits byte hbyte
      rw [if_neg hdigit] at hsome
      contradiction
    have hfold : value.foldl (fun number byte => 10 * number + (byte.toNat - 0x30)) 0 = length := by
      rw [← hnumber]
      refine List.foldl_ext _ _ _ fun number byte hbyte => ?_
      rw [if_pos (List.all_eq_true.mp hall byte hbyte)]
      rfl
    rw [readLength?, hfold, Bool.eq_false_iff.mpr hempty, hall]
    rfl

/-! ## Headers -/

namespace Coding

variable {coding : Coding} {headers : Headers} {length : Nat}

/-- **Lengths that agree are one length**: it counts if there is no coding. -/
theorem foldlM_read_of_lengths (hcodings : headers.all transferEncoding = [])
    (hlengths : ∀ value ∈ headers.all contentLength, readLength? value = some length)
    (hchunked : coding.chunked = none)
    (hlength : coding.length = none ∨ coding.length = some length) :
    headers.foldlM Coding.read coding =
      .ok (if headers.all contentLength = [] then coding else ⟨none, some length⟩) := by
  induction headers generalizing coding with
  | nil => rfl
  | cons header headers ih =>
    rw [Headers.all_cons] at hcodings hlengths
    have hcoding : (header.name == transferEncoding) = false := by
      rw [← Bool.not_eq_true]
      intro hname
      rw [if_pos hname] at hcodings
      contradiction
    rw [if_neg (by rw [hcoding]; decide)] at hcodings
    rw [List.foldlM_cons, Coding.read, hcoding, Headers.all_cons]
    cases hname : header.name == contentLength with
    | false =>
      rw [hname] at hlengths
      exact ih hcodings hlengths hchunked hlength
    | true =>
      rw [hname, if_pos rfl, List.forall_mem_cons] at hlengths
      -- From here on the length is known, and nothing that follows contradicts it.
      have hrest := @ih ⟨none, some length⟩ hcodings hlengths.2 rfl (.inr rfl)
      rw [ite_self] at hrest
      obtain ⟨chunked, known⟩ := coding
      obtain rfl : chunked = none := hchunked
      rw [if_pos rfl, if_neg (List.cons_ne_nil _ _)]
      rcases hlength with hnone | hsome
      · obtain rfl : known = none := hnone
        simp only [hlengths.1]
        exact hrest
      · obtain rfl : known = some length := hsome
        simp only [hlengths.1]
        exact hrest

/-- **The last coding counts**, if there is no length. -/
theorem foldlM_read_of_codings (hlengths : headers.all contentLength = []) :
    headers.foldlM Coding.read coding =
      .ok { coding with
        chunked := match (headers.all transferEncoding).getLast? with
          | none => coding.chunked
          | some value => some ((words value).getLast? == some (Utf8.bytes "chunked")) } := by
  induction headers generalizing coding with
  | nil => rfl
  | cons header headers ih =>
    rw [Headers.all_cons] at hlengths
    have hlength : (header.name == contentLength) = false := by
      rw [← Bool.not_eq_true]
      intro hname
      rw [if_pos hname] at hlengths
      contradiction
    rw [if_neg (by rw [hlength]; decide)] at hlengths
    rw [List.foldlM_cons, Coding.read, hlength, Headers.all_cons]
    cases hname : header.name == transferEncoding with
    | false => exact ih hlengths
    | true =>
      -- A later coding takes the place of this one.
      refine (ih hlengths).trans ?_
      rw [if_pos rfl, List.getLast?_cons]
      cases (Headers.all headers transferEncoding).getLast? <;> rfl

end Coding

/-! ## Heads -/

/-- How a body is framed. -/
def WrittenBody.framing : WrittenBody → Framing
  | absent => .counted 0
  | counted bytes => .counted bytes.length
  | chunked _ _ _ => .chunked

/-- **Headers that announce a body give its framing.** -/
theorem ofHeaders_of_announced {body : WrittenBody} {headers : Headers}
    (h : body.isAnnounced headers = true) : Framing.ofHeaders headers = .ok body.framing := by
  rw [Framing.ofHeaders]
  cases body with
  | absent =>
    rw [WrittenBody.isAnnounced, Bool.and_eq_true, List.isEmpty_iff, List.isEmpty_iff] at h
    rw [Coding.foldlM_read_of_codings h.1, h.2]
    rfl
  | counted bytes =>
    simp only [WrittenBody.isAnnounced, Bool.and_eq_true, Bool.not_eq_true', List.isEmpty_iff,
      List.isEmpty_eq_false_iff, List.all_eq_true, beq_iff_eq] at h
    obtain ⟨⟨hsome, hlengths⟩, hcodings⟩ := h
    rw [Coding.foldlM_read_of_lengths hcodings
      (fun value hvalue => readLength?_of_length? (hlengths value hvalue)) rfl (.inl rfl),
      if_neg hsome]
    rfl
  | chunked chunks last trailers =>
    rw [WrittenBody.isAnnounced, Bool.and_eq_true, List.isEmpty_iff, beq_iff_eq] at h
    obtain ⟨value, hlast, hword⟩ := Option.bind_eq_some_iff.mp h.2
    rw [Coding.foldlM_read_of_codings h.1, hlast]
    simp only [hword, beq_self_eq_true]
    rfl

/-- **The head of a request opens it with the body that is written.** -/
theorem opens_read {written : WrittenRequest} {request : Request}
    (h : written.WellFormed request) :
    written.read.opens = .ok ({ request with body := [] }, written.body.framing) := by
  obtain ⟨hmethod, huri, hheaders, -⟩ := Request.ofParts_eq_ok_iff.mp h.parts
  have hparts : Request.ofParts written.method written.target
      (written.fields.map WrittenField.pair) [] = .ok { request with body := [] } :=
    Request.ofParts_eq_ok_iff.mpr ⟨hmethod, huri, hheaders, rfl⟩
  have hframing := ofHeaders_of_announced h.announced
  simp only [Head.opens, WrittenRequest.read, hparts, hframing]
  rfl

end Wire

end EchoBackend
