/-
# Numbers and values that were decided stay decided

A number does not show where it ends, and a number that breaks off may be a fault.  So here the
longer text must not go on with bytes that could belong to a number (`Foreign`).  With this, what
was made of a value stays what it was.  The main statements are `keeps_readString`, `keeps_readPort`
and, for values of any depth, `keeps_skipValue`.
-/
import EchoBackend.Proofs.Json.Finality
import EchoBackend.Proofs.Json.Nesting

namespace EchoBackend

namespace Json

variable {bytes rest later : Bytes} {early : Fault}

/-! ## Numbers -/

/-- Whether bytes cannot belong to a number that breaks off before them. -/
def Foreign (later : Bytes) : Prop :=
  ∀ byte ∈ later.head?, isDigit byte = false ∧ byte ∉ [0x2B, 0x2D, 0x2E, 0x45, 0x65]

instance (later : Bytes) : Decidable (Foreign later) :=
  later.head?.decidableForallMem

/-- Foreign bytes continue no digits. -/
theorem Foreign.isDigit_head (h : Foreign later) : ∀ byte ∈ later.head?, isDigit byte = false :=
  fun byte hbyte => (h byte hbyte).1

/-- Foreign bytes do not begin with a mark that stands in a number. -/
theorem Foreign.head_ne (h : Foreign later) {mark : UInt8}
    (hmark : mark ∈ [0x2B, 0x2D, 0x2E, 0x45, 0x65]) : ∀ byte ∈ later.head?, byte ≠ mark := by
  rintro byte hbyte rfl
  exact (h byte hbyte).2 hmark

/-- Foreign bytes prolong no number. -/
theorem Foreign.stops (h : Foreign later) : Stops later := fun byte hbyte =>
  ⟨h.isDigit_head byte hbyte, h.head_ne (by decide) byte hbyte, h.head_ne (by decide) byte hbyte,
    h.head_ne (by decide) byte hbyte⟩

/-- Foreign bytes leave the digits before them as they are. -/
theorem Foreign.digits_append (h : Foreign later) (bytes : Bytes) :
    digitsOf (bytes ++ later) = digitsOf bytes ∧
      afterDigits (bytes ++ later) = afterDigits bytes ++ later := by
  rw [digitsOf, digitsOf, afterDigits, afterDigits]
  induction bytes with
  | nil =>
    cases later with
    | nil => exact ⟨rfl, rfl⟩
    | cons byte later => simp [h.isDigit_head byte rfl]
  | cons byte bytes ih =>
    rw [List.cons_append]
    cases hdigit : isDigit byte <;> simp [hdigit, ih.1, ih.2]

/-- What foreign bytes come to where digits are due: too early an end, or no digits. -/
theorem Foreign.readDigits (h : Foreign later) (early : Fault) :
    Json.readDigits early later = .error early ∨
      Json.readDigits early later = .error .malformed := by
  cases later with
  | nil => exact .inl rfl
  | cons byte later =>
    rw [Json.readDigits, if_neg (by simp [h.isDigit_head byte rfl])]
    exact .inr rfl

/-- Whether a fault may stand for a number that breaks off. -/
def BreaksOff (early : Fault) : Prop := early = .ended ∨ early = .malformed

/-- Reading digits. -/
theorem keeps_readDigits (hearly : BreaksOff early) (hlater : Foreign later) (bytes : Bytes) :
    Keeps (onRest later) (readDigits early bytes) (readDigits early (bytes ++ later)) := by
  cases bytes with
  | nil =>
    rcases hearly with rfl | rfl
    · exact .undecided
    · have hread : readDigits .malformed later = .error .malformed :=
        (hlater.readDigits .malformed).elim id id
      rw [List.nil_append, hread]
      exact .refused
  | cons byte rest =>
    obtain ⟨hdigits, hafter⟩ := hlater.digits_append (byte :: rest)
    rw [List.cons_append] at hdigits hafter ⊢
    rw [readDigits, readDigits, hdigits, hafter]
    exact .ite (fun _ => .accepted) fun _ => .refused

/-- Only a zero in front of more digits is told apart. -/
theorem readWhole_of_ne (early : Fault) (h : ∀ byte ∈ bytes.head?, byte ≠ 0x30) :
    readWhole early bytes = readDigits early bytes := by
  unfold readWhole
  split
  case h_1 => exact absurd rfl (h 0x30 rfl)
  case h_2 => rfl

/-- Reading an integer part. -/
theorem keeps_readWhole (hearly : BreaksOff early) (hlater : Foreign later) (bytes : Bytes) :
    Keeps (onRest later) (readWhole early bytes) (readWhole early (bytes ++ later)) := by
  -- without a zero in front, these are just digits
  have hplain {bytes : Bytes} (hbytes : ∀ byte ∈ bytes.head?, byte ≠ 0x30)
      (hlonger : ∀ byte ∈ (bytes ++ later).head?, byte ≠ 0x30) :
      Keeps (onRest later) (readWhole early bytes) (readWhole early (bytes ++ later)) := by
    rw [readWhole_of_ne early hbytes, readWhole_of_ne early hlonger]
    exact keeps_readDigits hearly hlater bytes
  cases bytes with
  | nil =>
    refine hplain (by rintro _ ⟨⟩) ?_
    rintro byte hbyte rfl
    exact absurd (hlater.isDigit_head 0x30 hbyte) (by decide)
  | cons byte rest =>
    by_cases hzero : byte = 0x30
    · subst hzero
      cases rest with
      | nil =>
        have hread := IsWhole.zero.readWhole early hlater.isDigit_head
        rw [hread]
        exact .accepted
      | cons next rest => exact .ite (fun _ => .refused) fun _ => .accepted
    · exact hplain (by rintro _ ⟨⟩; exact hzero) (by rintro _ ⟨⟩; exact hzero)

/-- Reading a fraction. -/
theorem keeps_readFraction (hearly : BreaksOff early) (hlater : Foreign later) (bytes : Bytes) :
    Keeps (onRest later) (readFraction early bytes) (readFraction early (bytes ++ later)) := by
  cases bytes with
  | nil =>
    rw [List.nil_append, readFraction_none early (hlater.head_ne (by decide))]
    exact .accepted
  | cons byte rest =>
    by_cases hpoint : byte = 0x2E
    · subst hpoint
      exact keeps_readDigits hearly hlater rest
    · have hbyte (rest : Bytes) : ∀ first ∈ (byte :: rest).head?, first ≠ 0x2E := by
        rintro _ ⟨⟩
        exact hpoint
      rw [List.cons_append, readFraction_none early (hbyte rest),
        readFraction_none early (hbyte (rest ++ later))]
      exact .accepted

/-- Without a sign, an exponent is positive. -/
theorem exponentSign_of_ne (hplus : ∀ byte ∈ bytes.head?, byte ≠ 0x2B)
    (hminus : ∀ byte ∈ bytes.head?, byte ≠ 0x2D) : exponentSign bytes = (false, bytes) := by
  unfold exponentSign
  split
  case h_1 => exact absurd rfl (hplus 0x2B rfl)
  case h_2 => exact absurd rfl (hminus 0x2D rfl)
  case h_3 => rfl

/-- Without a sign, a number is positive. -/
theorem numberSign_of_ne (hminus : ∀ byte ∈ bytes.head?, byte ≠ 0x2D) :
    numberSign bytes = (false, bytes) := by
  unfold numberSign
  split
  case h_1 => exact absurd rfl (hminus 0x2D rfl)
  case h_2 => rfl

/-- The sign of an exponent does not change. -/
theorem Foreign.exponentSign_append (h : Foreign later) (bytes : Bytes) :
    exponentSign (bytes ++ later) = onRest later (exponentSign bytes) := by
  cases bytes with
  | nil => exact exponentSign_of_ne (h.head_ne (by decide)) (h.head_ne (by decide))
  | cons byte rest =>
    by_cases hplus : byte = 0x2B
    · subst hplus
      rfl
    by_cases hminus : byte = 0x2D
    · subst hminus
      rfl
    rw [List.cons_append, exponentSign_of_ne, exponentSign_of_ne]
    · rfl
    all_goals
      rintro _ ⟨⟩
      assumption

/-- The sign of a number does not change. -/
theorem Foreign.numberSign_append (h : Foreign later) (bytes : Bytes) :
    numberSign (bytes ++ later) = onRest later (numberSign bytes) := by
  cases bytes with
  | nil => exact numberSign_of_ne (h.head_ne (by decide))
  | cons byte rest =>
    by_cases hminus : byte = 0x2D
    · subst hminus
      rfl
    rw [List.cons_append, numberSign_of_ne, numberSign_of_ne]
    · rfl
    all_goals
      rintro _ ⟨⟩
      assumption

/-- Reading an exponent. -/
theorem keeps_readExponent (hearly : BreaksOff early) (hlater : Foreign later) (bytes : Bytes) :
    Keeps (onRest later) (readExponent early bytes) (readExponent early (bytes ++ later)) := by
  cases bytes with
  | nil =>
    rw [List.nil_append, hlater.stops.readExponent early]
    exact .accepted
  | cons mark rest =>
    rw [List.cons_append, readExponent, readExponent, hlater.exponentSign_append]
    refine .ite (fun _ => ?_) fun _ => .accepted
    exact (keeps_readDigits hearly hlater (exponentSign rest).2).elim (fun _ => .undecided)
      (fun _ => .refused) fun _ _ => .accepted

/-- Reading the parts of a number. -/
theorem keeps_readNumberParts (hearly : BreaksOff early) (hlater : Foreign later) (bytes : Bytes) :
    Keeps (onRest later) (readNumberParts early bytes)
      (readNumberParts early (bytes ++ later)) := by
  rw [readNumberParts, readNumberParts, hlater.numberSign_append]
  dsimp only [onRest]
  refine (keeps_readWhole hearly hlater _).elim (fun _ => .undecided) (fun _ => .refused)
    fun read _ => ?_
  obtain ⟨whole, rest⟩ := read
  dsimp only [onRest]
  refine (keeps_readFraction hearly hlater rest).elim (fun _ => .undecided) (fun _ => .refused)
    fun read _ => ?_
  obtain ⟨fraction, rest⟩ := read
  dsimp only [onRest]
  exact (keeps_readExponent hearly hlater rest).elim (fun _ => .undecided) (fun _ => .refused)
    fun _ _ => .accepted

/-- **Reading a number.** -/
theorem keeps_readNumber (hlater : Foreign later) (bytes : Bytes) :
    Keeps (onRest later) (readNumber bytes) (readNumber (bytes ++ later)) := by
  rw [readNumber, readNumber]
  refine (keeps_readNumberParts (.inl rfl) hlater bytes).elim (fun _ => .undecided)
    (fun _ => .refused) fun read _ => ?_
  obtain ⟨parts, rest⟩ := read
  dsimp only [onRest]
  cases parts.value? with
  | none => exact .refused
  | some value => exact .accepted

/-- Passing over a number. -/
theorem keeps_skipNumber (hlater : Foreign later) (bytes : Bytes) :
    Keeps (· ++ later) (skipNumber bytes) (skipNumber (bytes ++ later)) := by
  rw [skipNumber, skipNumber]
  exact (keeps_readNumberParts (.inr rfl) hlater bytes).elim (fun _ => .undecided)
    (fun _ => .refused) fun _ _ => .accepted

/-! ## Values of a known type -/

/-- Naming the value that begins at the head. -/
theorem keeps_foundAt (hlater : Foreign later) (bytes : Bytes) :
    Keeps id (foundAt bytes) (foundAt (bytes ++ later)) := by
  cases bytes with
  | nil => exact .undecided
  | cons byte rest =>
    rw [List.cons_append, foundAt, foundAt]
    refine .ite (fun _ => (keeps_readText rest).map fun _ => rfl) fun _ => ?_
    refine .ite (fun _ => (keeps_readNumber hlater (byte :: rest)).map fun _ => rfl) fun _ => ?_
    refine .ite (fun _ => (keeps_readWord _ rest).map fun _ => rfl) fun _ => ?_
    refine .ite (fun _ => (keeps_readWord _ rest).map fun _ => rfl) fun _ => ?_
    refine .ite (fun _ => (keeps_readWord _ rest).map fun _ => rfl) fun _ => ?_
    exact .ite (fun _ => .accepted) fun _ => .ite (fun _ => .accepted) fun _ => .refused

/-- Reporting a value of the wrong type. -/
theorem keeps_unexpected {α : Type} {extend : α → α} (hlater : Foreign later) (expected : String)
    (bytes : Bytes) : Keeps extend (.error (unexpected expected bytes))
      (.error (unexpected expected (bytes ++ later))) := by
  rw [unexpected, unexpected]
  exact (keeps_foundAt hlater bytes).elim (fun _ => .undecided) (fun _ => .refused)
    fun _ _ => .refused

/-- **Reading a text, with blanks before it.** -/
theorem keeps_readString (hlater : Foreign later) (bytes : Bytes) :
    Keeps (onRest later) (readString bytes) (readString (bytes ++ later)) := by
  rw [readString, readString]
  cases hhead : skipBlanks bytes with
  | nil => exact .undecided
  | cons byte rest =>
    rw [skipBlanks_append_of_cons hhead]
    refine .ite (fun _ => ?_) fun _ => keeps_unexpected hlater _ (byte :: rest)
    exact (keeps_readText rest).elim (fun _ => .undecided) (fun _ => .refused) fun _ _ => .accepted

/-- **Reading a port.** -/
theorem keeps_readPort (hlater : Foreign later) (bytes : Bytes) :
    Keeps (onRest later) (readPort bytes) (readPort (bytes ++ later)) := by
  rw [readPort, readPort]
  cases hhead : skipBlanks bytes with
  | nil => exact .undecided
  | cons byte rest =>
    rw [skipBlanks_append_of_cons hhead]
    refine .ite (fun _ => ?_) fun _ => keeps_unexpected hlater _ (byte :: rest)
    refine (keeps_readNumber hlater (byte :: rest)).elim (fun _ => .undecided) (fun _ => .refused)
      fun read _ => ?_
    obtain ⟨number, last⟩ := read
    cases number with
    | integer value => exact .ite (fun _ => .accepted) fun _ => .refused
    | floating negative magnitude => exact .refused

/-! ## Values of any kind -/

/-- Passing over a value that is neither a list nor an object. -/
theorem keeps_skipScalar (hlater : Foreign later) (byte : UInt8) (rest : Bytes) :
    Keeps (· ++ later) (skipScalar byte rest) (skipScalar byte (rest ++ later)) := by
  rw [skipScalar, skipScalar]
  refine .ite (fun _ => keeps_skipText rest) fun _ => ?_
  refine .ite (fun _ => keeps_skipNumber hlater (byte :: rest)) fun _ => ?_
  refine .ite (fun _ => keeps_readWord _ rest) fun _ => ?_
  refine .ite (fun _ => keeps_readWord _ rest) fun _ => ?_
  exact .ite (fun _ => keeps_readWord _ rest) fun _ => .refused

/-- Passing over what is left of a value. -/
theorem keeps_skipWithin (hlater : Foreign later) (due : Bool) (frames : List Frame)
    (bytes : Bytes) : Keeps (· ++ later) (skipWithin due frames bytes)
      (skipWithin due frames (bytes ++ later)) := by
  -- The induction is on the length of the text: every step leaves less of it.
  induction hlength : bytes.length using Nat.strongRecOn generalizing due frames bytes with
  | ind length ih =>
    subst hlength
    have hblanks := length_skipBlanks_le bytes
    cases due with
    | true =>
      rw [skipWithin_due, skipWithin_due]
      cases hhead : skipBlanks bytes with
      | nil => exact .undecided
      | cons byte rest =>
        rw [skipBlanks_append_of_cons hhead]
        rw [hhead, List.length_cons] at hblanks
        dsimp only
        cases Frame.opened? byte with
        | none =>
          refine (keeps_skipScalar hlater byte rest).elim (fun _ => .undecided) (fun _ => .refused)
            fun left hscalar => ?_
          have := length_skipScalar_le hscalar
          exact ih _ (by omega) _ _ _ rfl
        | some frame =>
          have hinner := length_skipBlanks_le rest
          dsimp only
          cases hfirst : skipBlanks rest with
          | nil => exact .undecided
          | cons next after =>
            rw [skipBlanks_append_of_cons hfirst]
            rw [hfirst, List.length_cons] at hinner
            refine .ite (fun _ => ih _ (by omega) _ _ _ rfl) fun _ => ?_
            refine (frame.keeps_skipName (next :: after)).elim (fun _ => .undecided)
              (fun _ => .refused) fun inner hname => ?_
            have := Frame.length_skipName_le hname
            rw [List.length_cons] at this
            exact ih _ (by omega) _ _ _ rfl
    | false =>
      cases frames with
      | nil =>
        rw [skipWithin.eq_def, skipWithin.eq_def]
        exact .accepted
      | cons frame outer =>
        rw [skipWithin_ended, skipWithin_ended]
        cases hhead : skipBlanks bytes with
        | nil => exact .undecided
        | cons byte rest =>
          rw [skipBlanks_append_of_cons hhead]
          rw [hhead, List.length_cons] at hblanks
          refine .ite (fun _ => ?_) fun _ =>
            .ite (fun _ => ih _ (by omega) _ _ _ rfl) fun _ => .refused
          refine (frame.keeps_skipName rest).elim (fun _ => .undecided) (fun _ => .refused)
            fun inner hname => ?_
          have := Frame.length_skipName_le hname
          exact ih _ (by omega) _ _ _ rfl

/-- **Passing over a value.** -/
theorem keeps_skipValue (hlater : Foreign later) (bytes : Bytes) :
    Keeps (· ++ later) (skipValue bytes) (skipValue (bytes ++ later)) :=
  keeps_skipWithin hlater true [] bytes

end Json

end EchoBackend
