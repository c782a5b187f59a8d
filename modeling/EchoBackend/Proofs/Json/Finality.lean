/-
# What was decided stays decided

A reader goes through a text once, from its first byte to its last.  So what it makes of a text is
also what it makes of every longer text, unless the text ended too early to tell.  `Keeps` says so
of the results for the two texts, and `Keeps.elim` lets a reader go on from there.  The main
statement is `keeps_readText`: quoted text shows where it ends, so it does not matter how the longer
text goes on.
-/
import EchoBackend.Json.Skip
import Mathlib.Logic.Basic

namespace EchoBackend

namespace Json

/-! ## Keeping a decision -/

/-- How the result for a text and the result for a longer text go together.  If the text ended too
early, any result may come of the longer one; a fault stays the same fault; and a value is accepted
as before, with what the longer text adds to it. -/
inductive Keeps {α : Type} (extend : α → α) : Except Fault α → Except Fault α → Prop
  | undecided {result : Except Fault α} : Keeps extend (.error .ended) result
  | refused {fault : Fault} : Keeps extend (.error fault) (.error fault)
  | accepted {value : α} : Keeps extend (.ok value) (.ok (extend value))

/-- More bytes after what was read. -/
def onRest {α : Type} (later : Bytes) (read : α × Bytes) : α × Bytes := (read.1, read.2 ++ later)

namespace Keeps

variable {α β : Type} {extend : α → α} {further : β → β} {first second : Except Fault α}

/-- Results that go together are read on from in three cases. -/
@[elab_as_elim]
theorem elim {motive : Except Fault α → Except Fault α → Prop} (h : Keeps extend first second)
    (undecided : ∀ result, motive (.error .ended) result)
    (refused : ∀ fault, motive (.error fault) (.error fault))
    (accepted : ∀ value, first = .ok value → motive (.ok value) (.ok (extend value))) :
    motive first second := by
  cases h with
  | undecided => exact undecided _
  | refused => exact refused _
  | accepted => exact accepted _ rfl

/-- A test that comes out the same for both texts. -/
theorem ite {p : Prop} [Decidable p] {one other : Except Fault α}
    (hthen : p → Keeps extend first second) (helse : ¬ p → Keeps extend one other) :
    Keeps extend (if p then first else one) (if p then second else other) := by
  by_cases h : p
  · rw [if_pos h, if_pos h]
    exact hthen h
  · rw [if_neg h, if_neg h]
    exact helse h

/-- A change of the value that does not look at what the longer text adds. -/
theorem map (h : Keeps extend first second) {change : α → β}
    (hchange : ∀ value, change (extend value) = further (change value)) :
    Keeps further (first.map change) (second.map change) := by
  cases h with
  | undecided => exact .undecided
  | refused => exact .refused
  | @accepted value =>
    show Keeps further (.ok (change value)) (.ok (change (extend value)))
    rw [hchange]
    exact .accepted

/-- A change of the value that was read. -/
theorem onValue {later : Bytes} {one other : Reading α} (h : Keeps (onRest later) one other)
    (change : α → β) : Keeps (onRest later) (one.onValue change) (other.onValue change) := by
  cases h with
  | undecided => exact .undecided
  | refused => exact .refused
  | accepted => exact .accepted

end Keeps

variable {bytes rest later : Bytes} {byte : UInt8}

/-! ## Blanks, bytes and words -/

/-- The first byte after blanks does not change. -/
theorem skipBlanks_append_of_cons (h : skipBlanks bytes = byte :: rest) (later : Bytes) :
    skipBlanks (bytes ++ later) = byte :: (rest ++ later) := by
  rw [skipBlanks] at h
  rw [skipBlanks, List.dropWhile_append, h, List.isEmpty_cons, if_neg Bool.false_ne_true,
    List.cons_append]

/-- Reading a given byte. -/
theorem keeps_readByte (expected : UInt8) (bytes : Bytes) :
    Keeps (· ++ later) (readByte expected bytes) (readByte expected (bytes ++ later)) := by
  cases bytes with
  | nil => exact .undecided
  | cons byte rest =>
    rw [List.cons_append, readByte, readByte]
    exact .ite (fun _ => .accepted) fun _ => .refused

/-- Reading a given byte after blanks. -/
theorem keeps_readByte_skipBlanks (expected : UInt8) (bytes : Bytes) :
    Keeps (· ++ later) (readByte expected (skipBlanks bytes))
      (readByte expected (skipBlanks (bytes ++ later))) := by
  cases hhead : skipBlanks bytes with
  | nil => exact .undecided
  | cons byte rest =>
    rw [skipBlanks_append_of_cons hhead]
    exact keeps_readByte expected (byte :: rest)

/-- Reading a word. -/
theorem keeps_readWord (word bytes : Bytes) :
    Keeps (· ++ later) (readWord word bytes) (readWord word (bytes ++ later)) := by
  induction word generalizing bytes with
  | nil => exact .accepted
  | cons expected word ih =>
    cases bytes with
    | nil => exact .undecided
    | cons byte bytes =>
      rw [List.cons_append, readWord, readWord]
      exact .ite (fun _ => ih bytes) fun _ => .refused

/-! ## Texts -/

/-- Reading four digits. -/
theorem keeps_readUnit (bytes : Bytes) :
    Keeps (onRest later) (readUnit bytes) (readUnit (bytes ++ later)) := by
  unfold readUnit
  split
  case h_1 a b c d rest =>
    dsimp only [List.cons_append]
    cases unit? a b c d with
    | none => exact .refused
    | some value => exact .accepted
  case h_2 => exact .undecided

/-- Reading the second half of a character. -/
theorem keeps_readLowSurrogate (high : Nat) (bytes : Bytes) : Keeps (onRest later)
    (readLowSurrogate high bytes) (readLowSurrogate high (bytes ++ later)) := by
  unfold readLowSurrogate
  refine (keeps_readByte 0x5C bytes).elim (fun _ => .undecided) (fun _ => .refused)
    fun bytes _ => ?_
  dsimp only
  refine (keeps_readByte 0x75 bytes).elim (fun _ => .undecided) (fun _ => .refused)
    fun bytes _ => ?_
  dsimp only
  refine (keeps_readUnit bytes).elim (fun _ => .undecided) (fun _ => .refused)
    fun read _ => ?_
  obtain ⟨low, rest⟩ := read
  dsimp only [onRest]
  generalize ofSurrogates high low = c
  exact .ite (fun _ => .accepted) fun _ => .refused

/-- Reading an escape. -/
theorem keeps_readEscape (bytes : Bytes) :
    Keeps (onRest later) (readEscape bytes) (readEscape (bytes ++ later)) := by
  cases bytes with
  | nil => exact .undecided
  | cons kind bytes =>
    rw [List.cons_append, readEscape, readEscape]
    cases shortEscape? kind with
    | some c => exact .accepted
    | none =>
      refine .ite (fun _ => ?_) fun _ => .refused
      refine (keeps_readUnit bytes).elim (fun _ => .undecided) (fun _ => .refused)
        fun read _ => ?_
      obtain ⟨value, rest⟩ := read
      refine .ite (fun _ => .refused) fun _ => .ite (fun _ => ?_) fun _ => .accepted
      exact keeps_readLowSurrogate value rest

/-- Passing over an escape. -/
theorem keeps_skipEscape (bytes : Bytes) :
    Keeps (· ++ later) (skipEscape bytes) (skipEscape (bytes ++ later)) := by
  cases bytes with
  | nil => exact .undecided
  | cons kind bytes =>
    rw [List.cons_append, skipEscape, skipEscape]
    refine .ite (fun _ => .accepted) fun _ => .ite (fun _ => ?_) fun _ => .refused
    exact (keeps_readUnit bytes).elim (fun _ => .undecided) (fun _ => .refused) fun _ _ => .accepted

/-- Closing a text. -/
theorem keeps_closeText (done rest : Bytes) :
    Keeps (onRest later) (closeText done rest) (closeText done (rest ++ later)) := by
  unfold closeText
  cases Utf8.decode? done.reverse with
  | none => exact .refused
  | some text => exact .accepted

/-- Reading a text, without the facts that only its termination needs. -/
theorem readTextOnto_cons (done : Bytes) (byte : UInt8) (rest : Bytes) :
    readTextOnto done (byte :: rest) =
      if byte == 0x22 then closeText done rest
      else if byte == 0x5C then
        match readEscape rest with
        | .error fault => .error fault
        | .ok (c, rest) => readTextOnto ((String.utf8EncodeChar c).reverse ++ done) rest
      else if byte < 0x20 then .error .malformed
      else readTextOnto (byte :: done) rest := by
  rw [readTextOnto]
  refine if_congr Iff.rfl rfl (if_congr Iff.rfl ?_ rfl)
  split
  case h_1 hescape => rw [hescape]
  case h_2 hescape => rw [hescape]

/-- Passing over a text, without the facts that only its termination needs. -/
theorem skipText_cons (byte : UInt8) (rest : Bytes) :
    skipText (byte :: rest) =
      if byte == 0x22 then .ok rest
      else if byte == 0x5C then
        match skipEscape rest with
        | .error fault => .error fault
        | .ok rest => skipText rest
      else if byte < 0x20 then .error .malformed
      else skipText rest := by
  rw [skipText]
  refine if_congr Iff.rfl rfl (if_congr Iff.rfl ?_ rfl)
  split
  case h_1 hescape => rw [hescape]
  case h_2 hescape => rw [hescape]

/-- Reading a text, after what was read of it before. -/
theorem keeps_readTextOnto (done bytes : Bytes) :
    Keeps (onRest later) (readTextOnto done bytes) (readTextOnto done (bytes ++ later)) := by
  induction hlength : bytes.length using Nat.strongRecOn generalizing done bytes with
  | ind length ih =>
    subst hlength
    cases bytes with
    | nil =>
      rw [readTextOnto]
      exact .undecided
    | cons byte rest =>
      rw [List.cons_append, readTextOnto_cons, readTextOnto_cons]
      refine .ite (fun _ => keeps_closeText done rest) fun _ => .ite (fun _ => ?_) fun _ =>
        .ite (fun _ => .refused) fun _ => ih _ (Nat.lt_succ_self _) _ _ rfl
      refine (keeps_readEscape rest).elim (fun _ => .undecided) (fun _ => .refused)
        fun read hescape => ?_
      obtain ⟨c, left⟩ := read
      exact ih _ (Nat.lt_succ_of_lt (length_readEscape_lt hescape)) _ _ rfl

/-- **Reading a text.** -/
theorem keeps_readText (bytes : Bytes) :
    Keeps (onRest later) (readText bytes) (readText (bytes ++ later)) :=
  keeps_readTextOnto [] bytes

/-- Passing over a text. -/
theorem keeps_skipText (bytes : Bytes) :
    Keeps (· ++ later) (skipText bytes) (skipText (bytes ++ later)) := by
  induction hlength : bytes.length using Nat.strongRecOn generalizing bytes with
  | ind length ih =>
    subst hlength
    cases bytes with
    | nil =>
      rw [skipText]
      exact .undecided
    | cons byte rest =>
      rw [List.cons_append, skipText_cons, skipText_cons]
      refine .ite (fun _ => .accepted) fun _ => .ite (fun _ => ?_) fun _ =>
        .ite (fun _ => .refused) fun _ => ih _ (Nat.lt_succ_self _) _ rfl
      refine (keeps_skipEscape rest).elim (fun _ => .undecided) (fun _ => .refused)
        fun left hescape => ?_
      exact ih _ (Nat.lt_succ_of_lt (length_skipEscape_lt hescape)) _ rfl

/-- Passing over the name of a member. -/
theorem keeps_skipName (bytes : Bytes) :
    Keeps (· ++ later) (skipName bytes) (skipName (bytes ++ later)) := by
  unfold skipName
  cases hhead : skipBlanks bytes with
  | nil => exact .undecided
  | cons byte rest =>
    rw [skipBlanks_append_of_cons hhead]
    refine .ite (fun _ => ?_) fun _ => .refused
    refine (keeps_skipText rest).elim (fun _ => .undecided) (fun _ => .refused) fun left _ => ?_
    exact keeps_readByte_skipBlanks 0x3A left

/-- Passing over what stands before a value in a frame. -/
theorem Frame.keeps_skipName (frame : Frame) (bytes : Bytes) :
    Keeps (· ++ later) (frame.skipName bytes) (frame.skipName (bytes ++ later)) := by
  cases frame with
  | list => exact .accepted
  | object => exact Json.keeps_skipName bytes

end Json

end EchoBackend
