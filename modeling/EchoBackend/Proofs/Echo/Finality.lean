/-
# Refusals are final

What is wrong with a text is reported where it stands: a value of the wrong type, a repeated member
or malformed text as soon as it was read, and a missing member at the end of the object.  So however
a refused text goes on, it is refused for the same reason.  The main statement is
`Reply.ofJson_final`.
-/
import EchoBackend.Proofs.Echo.Members
import EchoBackend.Proofs.Json.FinalValues

namespace EchoBackend

namespace Echo

open Json

variable {text later : Bytes} {fault : Fault}

/-! ## Members -/

/-- Reading the value of a member. -/
theorem Draft.keeps_read (hlater : Foreign later) (draft : Draft) (field : Field) (bytes : Bytes) :
    Keeps (onRest later) (draft.read field bytes) (draft.read field (bytes ++ later)) := by
  cases field with
  | port => exact (keeps_readPort hlater bytes).onValue _
  | server | endpoint | userId | path => exact (keeps_readString hlater bytes).onValue _

/-- Reading the name of a member. -/
theorem keeps_readName (draft : Draft) (bytes : Bytes) :
    Keeps (onRest later) (readName draft bytes) (readName draft (bytes ++ later)) := by
  rw [readName, readName]
  refine (keeps_readText bytes).elim (fun _ => .undecided) (fun _ => .refused)
    fun read _ => ?_
  obtain ⟨name, rest⟩ := read
  refine .ite (fun _ => .refused) fun _ => ?_
  exact (keeps_readByte_skipBlanks 0x3A rest).elim (fun _ => .undecided) (fun _ => .refused)
    fun _ _ => .accepted

/-- After a member, nothing but a comma leads to the next one. -/
theorem nextMember_of_ne {byte : UInt8} (h : byte ≠ 0x2C) (tail : Bytes) :
    nextMember false (byte :: tail) = .error .malformed := by
  rw [nextMember, if_neg Bool.false_ne_true]
  rintro rest ⟨⟩
  exact h rfl

/-- Going on to the next member. -/
theorem keeps_nextMember (first : Bool) (byte : UInt8) (tail : Bytes) :
    Keeps (· ++ later) (nextMember first (byte :: tail))
      (nextMember first (byte :: (tail ++ later))) := by
  cases first with
  | true => exact .accepted
  | false =>
    by_cases hcomma : byte = 0x2C
    · subst hcomma
      rw [nextMember, nextMember, if_neg Bool.false_ne_true, if_neg Bool.false_ne_true]
      cases hhead : skipBlanks tail with
      | nil => exact .undecided
      | cons next rest =>
        rw [skipBlanks_append_of_cons hhead]
        exact .accepted
    · rw [nextMember_of_ne hcomma, nextMember_of_ne hcomma]
      exact .refused

/-- **Reading members**, by induction on the length of the text. -/
theorem keeps_readMembers (hlater : Foreign later) (first : Bool) (draft : Draft) (bytes : Bytes) :
    Keeps (onRest later) (readMembers first draft bytes)
      (readMembers first draft (bytes ++ later)) := by
  induction hlength : bytes.length using Nat.strongRecOn generalizing first draft bytes with
  | ind length ih =>
    subst hlength
    have hblanks := length_skipBlanks_le bytes
    rw [readMembers_eq, readMembers_eq]
    cases hhead : skipBlanks bytes with
    | nil => exact .undecided
    | cons byte tail =>
      rw [skipBlanks_append_of_cons hhead]
      rw [hhead] at hblanks
      refine .ite (fun _ => .accepted) fun _ => ?_
      refine (keeps_nextMember first byte tail).elim (fun _ => .undecided) (fun _ => .refused)
        fun member hnext => ?_
      have hmember := length_nextMember_le hnext
      -- From here on there is less text: a member was begun, and its value is read or passed over.
      cases member with
      | nil => exact .undecided
      | cons mark text =>
        rw [List.length_cons] at hmember
        refine .ite (fun _ => ?_) fun _ => .refused
        refine (keeps_readName draft text).elim (fun _ => .undecided) (fun _ => .refused)
          fun read hname => ?_
        obtain ⟨field, value⟩ := read
        have hvalue := length_readName_lt hname
        cases field with
        | none =>
          dsimp only [onRest]
          refine (keeps_skipValue hlater value).elim (fun _ => .undecided) (fun _ => .refused)
            fun rest hskip => ?_
          have := length_skipValue_le hskip
          exact ih _ (by omega) _ _ _ rfl
        | some field =>
          dsimp only [onRest]
          refine (draft.keeps_read hlater field value).elim (fun _ => .undecided)
            (fun _ => .refused) fun read hread => ?_
          obtain ⟨filled, rest⟩ := read
          have := Draft.length_read_lt hread
          exact ih _ (by omega) _ _ _ rfl

/-! ## Elements -/

/-- Going on to the next element. -/
theorem keeps_nextElement (index : Nat) (bytes : Bytes) :
    Keeps (· ++ later) (nextElement index bytes) (nextElement index (bytes ++ later)) := by
  rw [nextElement, nextElement]
  cases hhead : skipBlanks bytes with
  | nil => exact .undecided
  | cons byte rest =>
    rw [skipBlanks_append_of_cons hhead]
    refine .ite (fun _ => .refused) fun _ => .ite (fun _ => .accepted) fun _ => ?_
    refine .ite (fun _ => ?_) fun _ => .refused
    cases hnext : skipBlanks rest with
    | nil => exact .undecided
    | cons next after =>
      rw [skipBlanks_append_of_cons hnext]
      exact .ite (fun _ => .refused) fun _ => .accepted

/-- **Reading elements.** -/
theorem keeps_readElements (hlater : Foreign later) (draft : Draft) (index : Nat)
    (fields : List Field) (bytes : Bytes) :
    Keeps (onRest later) (readElements draft index fields bytes)
      (readElements draft index fields (bytes ++ later)) := by
  induction fields generalizing draft index bytes with
  | nil => exact .accepted
  | cons field fields ih =>
    rw [readElements, readElements]
    refine (keeps_nextElement index bytes).elim (fun _ => .undecided) (fun _ => .refused)
      fun value _ => ?_
    dsimp only
    refine (draft.keeps_read hlater field value).elim (fun _ => .undecided) (fun _ => .refused)
      fun read _ => ?_
    obtain ⟨filled, rest⟩ := read
    exact ih filled (index + 1) rest

/-- Reading the end of a list. -/
theorem keeps_readListEnd (bytes : Bytes) :
    Keeps (· ++ later) (readListEnd bytes) (readListEnd (bytes ++ later)) :=
  keeps_readByte_skipBlanks 0x5D bytes

/-! ## Replies -/

/-- Reading a reply, up to what follows it. -/
theorem keeps_readReplyFrom (hlater : Foreign later) (byte : UInt8) (rest : Bytes) :
    Keeps (onRest later) (readReplyFrom byte rest) (readReplyFrom byte (rest ++ later)) := by
  rw [readReplyFrom, readReplyFrom]
  refine .ite (fun _ => ?_) fun _ => .ite (fun _ => ?_) fun _ =>
    keeps_unexpected hlater expectation (byte :: rest)
  · refine (keeps_readMembers hlater true {} rest).elim (fun _ => .undecided) (fun _ => .refused)
      fun read _ => ?_
    obtain ⟨draft, left⟩ := read
    dsimp only [onRest]
    cases draft.toReply with
    | error fault => exact .refused
    | ok reply => exact .accepted
  · refine (keeps_readElements hlater {} 0 Field.all rest).elim (fun _ => .undecided)
      (fun _ => .refused) fun read _ => ?_
    obtain ⟨draft, left⟩ := read
    dsimp only [onRest]
    cases draft.toReply with
    | error fault => exact .refused
    | ok reply =>
      exact (keeps_readListEnd left).elim (fun _ => .undecided) (fun _ => .refused)
        fun _ _ => .accepted

/-- **Refusals are final.**  A text that is refused, for any reason but that it ends too early, is
refused for the same reason however it goes on, as long as what follows could not belong to a number
at its end. -/
theorem Reply.ofJson_final (hfault : ofJson text = .error fault) (hdecided : fault ≠ .ended)
    (hlater : Foreign later) : ofJson (text ++ later) = .error fault := by
  rw [ofJson] at hfault ⊢
  cases hhead : skipBlanks text with
  | nil =>
    rw [hhead] at hfault
    exact absurd (Except.error.inj hfault).symm hdecided
  | cons byte rest =>
    rw [hhead] at hfault
    rw [skipBlanks_append_of_cons hhead]
    dsimp only at hfault ⊢
    revert hfault
    refine (keeps_readReplyFrom hlater byte rest).elim (fun _ hfault => ?_)
      (fun _ hfault => hfault) fun read _ hfault => ?_
    · exact absurd (Except.error.inj hfault).symm hdecided
    · obtain ⟨reply, left⟩ := read
      dsimp only [onRest] at hfault ⊢
      cases hleft : skipBlanks left with
      | nil =>
        rw [hleft] at hfault
        contradiction
      | cons next after =>
        rw [skipBlanks_append_of_cons hleft]
        rw [hleft] at hfault
        exact hfault

/-- Refusals are final at work: a port that is too large, before text that is no JSON, and a number
that breaks off within a value to be ignored, before the end of a list. -/
theorem Reply.ofJson_final_port :
    let text := Utf8.bytes "\x7b\"port\":65536"
    let broken := Utf8.bytes "\x7b\"a\":[-"
    ofJson (text ++ Utf8.bytes ",nul") =
        .error (.mismatch (.invalidValue (.integer 65536) "u16")) ∧
      ofJson (broken ++ Utf8.bytes "]") = .error .malformed := by
  intro text broken
  have hport : ofJson text = .error (.mismatch (.invalidValue (.integer 65536) "u16")) := by
    decide +kernel
  have hbroken : ofJson broken = .error .malformed := by decide +kernel
  exact ⟨ofJson_final hport (by decide) (by decide), ofJson_final hbroken (by decide) (by decide)⟩

end Echo

end EchoBackend
