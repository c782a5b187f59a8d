/-
# Identifiers as they are written

Every identifier that is made is written as the form of version 4 says (`Uuid4.isWritten_bytes`),
place by place, and an answer that carries an identifier carries just this one
(`Response.identifiers_eq`).
-/
import EchoBackend.Http.Response
import EchoBackend.Proofs.Text.Decoding

namespace EchoBackend

namespace Http

open Utf8

namespace Uuid4

/-! ## Places -/

variable {place : Nat} {front back : Bytes}

/-- Whether bytes may stand at the places from a given one on. -/
def Fits (place : Nat) (bytes : Bytes) : Prop :=
  ((bytes.zipIdx place).all fun (byte, place) => allowedAt place byte) = true

instance (place : Nat) (bytes : Bytes) : Decidable (Fits place bytes) :=
  inferInstanceAs (Decidable (_ = true))

/-- Of two texts the second one begins where the first one ends. -/
theorem fits_append :
    Fits place (front ++ back) ↔ Fits place front ∧ Fits (place + front.length) back := by
  rw [Fits, List.zipIdx_append, List.all_append, Bool.and_eq_true]
  rfl

/-- The places of hyphens, of the version and of the variant. -/
def marks : List Nat := [8, 13, 14, 18, 19, 23]

/-- At all other places there are digits. -/
theorem allowedAt_of_not_mem (h : place ∉ marks) (byte : UInt8) :
    allowedAt place byte = isHexDigit byte := by
  simp only [marks, List.mem_cons, List.not_mem_nil, or_false, not_or] at h
  simp only [allowedAt, h, decide_false, Bool.or_false, Bool.false_eq_true, if_false]

/-! ## Digits -/

/-- A digit is one byte. -/
theorem encode_digit {value : Nat} (h : value < 16) :
    encode [Hex.digit value] = [UInt8.ofNat (Hex.digit value).toNat] := by
  have hascii : ∀ value < 16, (Hex.digit value).toNat < 0x80 := by decide
  rw [encode_cons, utf8EncodeChar_of_ascii (hascii value h), encode_nil, List.append_nil]

/-- As many bytes are written as digits were asked for. -/
theorem length_encode_digits (value count : Nat) :
    (encode (Hex.digits value count)).length = count := by
  induction count generalizing value with
  | zero => rfl
  | succ count ih =>
    rw [Hex.digits, encode_append, List.length_append, ih, encode_digit (Nat.mod_lt _ (by decide)),
      List.length_singleton]

/-- Digits may stand at places that are not marked. -/
theorem fits_digits (value : Nat) {count : Nat} (h : ∀ offset < count, place + offset ∉ marks) :
    Fits place (encode (Hex.digits value count)) := by
  have hdigit : ∀ value < 16, isHexDigit (UInt8.ofNat (Hex.digit value).toNat) = true := by decide
  induction count generalizing value with
  | zero => rfl
  | succ count ih =>
    have hlast : value % 16 < 16 := Nat.mod_lt _ (by decide)
    rw [Hex.digits, encode_append, fits_append, length_encode_digits, encode_digit hlast]
    refine ⟨ih _ fun offset hoffset => h offset (Nat.lt_succ_of_lt hoffset), ?_⟩
    show (allowedAt (place + count) _ && true) = true
    rw [allowedAt_of_not_mem (h count (Nat.lt_succ_self count)), hdigit _ hlast, Bool.and_true]

/-- **Whatever the random bits, the written form is recognised.** -/
theorem isWritten_bytes (id : Uuid4) : isWritten id.bytes = true := by
  have hhyphen : encode ['-'] = [0x2D] := rfl
  have hversion : encode ['4'] = [0x34] := rfl
  have hvariant : ∀ value < 4, Fits 19 (encode [Hex.digit (8 + value)]) := by decide
  have hlast : (id.low.toNat >>> 60) % 4 < 4 := Nat.mod_lt _ (by decide)
  have hlength : (encode [Hex.digit (8 + (id.low.toNat >>> 60) % 4)]).length = 1 := by
    rw [encode_digit (by omega), List.length_singleton]
  have hwhole : (id.bytes.length == 36) = true := by
    simp only [bytes, encode_append, List.length_append, length_encode_digits, hhyphen, hversion,
      hlength, List.length_singleton, Nat.reduceAdd, beq_self_eq_true]
  have hfits : Fits 0 id.bytes := by
    simp only [bytes, encode_append, fits_append, List.length_append, length_encode_digits,
      hhyphen, hversion, hlength, List.length_singleton, Nat.zero_add, Nat.reduceAdd, and_assoc]
    exact ⟨fits_digits _ (by decide), by decide, fits_digits _ (by decide), by decide,
      by decide, fits_digits _ (by decide), by decide, hvariant _ hlast,
      fits_digits _ (by decide), by decide, fits_digits _ (by decide)⟩
  rw [isWritten, Bool.and_eq_true]
  exact ⟨hwhole, hfits⟩

end Uuid4

/-! ## Identifiers of answers -/

/-- The identifiers that an answer carries among its header fields. -/
def Response.identifiers (fresh : Uuid4) (response : Response) : List Bytes :=
  ((response.fields fresh).filter fun field => field.1 == "x-request-id").map Prod.snd

/-- No other field of an answer has the name of the identifier. -/
theorem Response.identifiers_eq (fresh : Uuid4) (response : Response) :
    response.identifiers fresh = (response.requestId.map (·.value fresh)).toList := by
  have htype : ("content-type" == "x-request-id") = false := by decide
  have hlength : ("content-length" == "x-request-id") = false := by decide
  rw [identifiers, fields, List.filter_append, List.filter_append]
  cases response.contentType <;> cases response.contentLength <;> cases response.requestId <;>
    simp [htype, hlength]

end Http

end EchoBackend
