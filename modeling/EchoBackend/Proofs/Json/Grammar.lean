/-
# The grammar of JSON

The texts of JSON as relations on bytes, said without any reader: blanks, quoted texts with all
their spellings, numbers, and values of any depth.
-/
import EchoBackend.Json.Skip
import EchoBackend.Proofs.Text.Escapes

namespace EchoBackend

namespace Json

/-! ## Blanks -/

/-- Any number of the bytes that may stand between tokens. -/
def Blanks (bytes : Bytes) : Prop := ∀ byte ∈ bytes, isBlank byte = true

instance (bytes : Bytes) : Decidable (Blanks bytes) :=
  List.decidableBAll (isBlank · = true) bytes

/-! ## Quoted texts -/

/-- The escapes of one letter: the letter and the character. -/
def letters : List (UInt8 × Char) :=
  [(0x22, '"'), (0x5C, '\\'), (0x2F, '/'), (0x62, '\x08'), (0x66, '\x0c'), (0x6E, '\n'),
    (0x72, '\r'), (0x74, '\t')]

/-- Whether bytes are the four hexadecimal digits of a number, in any letter case. -/
def FourDigits (value : Nat) (digits : Bytes) : Prop :=
  List.Forall₂ Hex.Writes [value / 4096, value / 256 % 16, value / 16 % 16, value % 16] digits

/-- The ways to spell a character inside quotes: as it is, by a letter, by its number, or if that
has more than four digits by two numbers. -/
inductive Spelling (c : Char) : Bytes → Prop
  | plain (hquote : c ≠ '"') (hslash : c ≠ '\\') (hcontrol : 0x20 ≤ c.toNat) :
    Spelling c (String.utf8EncodeChar c)
  | letter {mark : UInt8} (h : (mark, c) ∈ letters) : Spelling c [0x5C, mark]
  | number {digits : Bytes} (h : FourDigits c.toNat digits) :
    Spelling c (0x5C :: 0x75 :: digits)
  | pair {high low : Nat} {upper lower : Bytes} (hhigh : high < 0x400) (hlow : low < 0x400)
    (hvalue : c.toNat = 0x10000 + high * 0x400 + low) (hupper : FourDigits (0xD800 + high) upper)
    (hlower : FourDigits (0xDC00 + low) lower) :
    Spelling c (0x5C :: 0x75 :: (upper ++ 0x5C :: 0x75 :: lower))

/-- The ways to write a text in quotes. -/
inductive Quoted (text : List Char) : Bytes → Prop
  | spelled {pieces : List Bytes} (h : List.Forall₂ Spelling text pieces) :
    Quoted text (0x22 :: (pieces.flatten ++ [0x22]))

/-- What a string is made of: spelled characters, and any number of four digits, even if it is only
half of a character. -/
inductive Piece : Bytes → Prop
  | char {c : Char} {bytes : Bytes} (h : Spelling c bytes) : Piece bytes
  | number {value : Nat} {digits : Bytes} (h : FourDigits value digits) :
    Piece (0x5C :: 0x75 :: digits)

/-- Strings, whether or not they stand for a text. -/
inductive IsString : Bytes → Prop
  | pieces {pieces : List Bytes} (h : ∀ piece ∈ pieces, Piece piece) :
    IsString (0x22 :: (pieces.flatten ++ [0x22]))

/-! ## Numbers -/

/-- One digit or more. -/
def Digits (bytes : Bytes) : Prop := bytes ≠ [] ∧ ∀ byte ∈ bytes, isDigit byte = true

instance (bytes : Bytes) : Decidable (Digits bytes) :=
  have := List.decidableBAll (isDigit · = true) bytes
  inferInstanceAs (Decidable (_ ∧ _))

/-- Integer parts: a single zero, or digits that do not begin with zero. -/
inductive IsWhole : Bytes → Prop
  | zero : IsWhole [0x30]
  | digits {bytes : Bytes} (h : Digits bytes) (hfirst : bytes.head? ≠ some 0x30) : IsWhole bytes

/-- Fractions. -/
inductive IsFraction : Bytes → Prop
  | none : IsFraction []
  | digits {bytes : Bytes} (h : Digits bytes) : IsFraction (0x2E :: bytes)

/-- Exponents. -/
inductive IsExponent : Bytes → Prop
  | none : IsExponent []
  | digits {mark : UInt8} {sign bytes : Bytes} (hmark : mark = 0x65 ∨ mark = 0x45)
    (hsign : sign = [] ∨ sign = [0x2B] ∨ sign = [0x2D]) (h : Digits bytes) :
    IsExponent (mark :: (sign ++ bytes))

/-- Numbers. -/
inductive IsNumber : Bytes → Prop
  | parts {sign whole fraction exponent : Bytes} (hsign : sign = [] ∨ sign = [0x2D])
    (hwhole : IsWhole whole) (hfraction : IsFraction fraction) (hexponent : IsExponent exponent) :
    IsNumber (sign ++ (whole ++ (fraction ++ exponent)))

/-! ## Values -/

/-- Values that are neither lists nor objects. -/
inductive IsScalar : Bytes → Prop
  | word {word : String} (h : word ∈ ["null", "true", "false"]) : IsScalar (Utf8.bytes word)
  | number {bytes : Bytes} (h : IsNumber bytes) : IsScalar bytes
  | string {bytes : Bytes} (h : IsString bytes) : IsScalar bytes

/-- The byte that opens a list or an object. -/
def Frame.opening : Frame → UInt8
  | list => 0x5B
  | object => 0x7B

/-- What stands in front of an element of a list or the value of a member: blanks, and for a member
its name and a colon. -/
inductive Front : Frame → Bytes → Prop
  | list {before : Bytes} (hbefore : Blanks before) : Front .list before
  | object {before name between after : Bytes} (hbefore : Blanks before) (hname : IsString name)
    (hbetween : Blanks between) (hafter : Blanks after) :
    Front .object (before ++ (name ++ (between ++ 0x3A :: after)))

mutual

/-- Values. -/
inductive IsValue : Bytes → Prop
  | scalar {bytes : Bytes} (h : IsScalar bytes) : IsValue bytes
  | empty {blanks : Bytes} (frame : Frame) (h : Blanks blanks) :
    IsValue (frame.opening :: (blanks ++ [frame.close]))
  | filled {frame : Frame} {items : Bytes} (h : Items frame items) :
    IsValue (frame.opening :: (items ++ [frame.close]))

/-- The elements of a list or the members of an object, with commas between them. -/
inductive Items : Frame → Bytes → Prop
  | last {frame : Frame} {front value after : Bytes} (hfront : Front frame front)
    (hvalue : IsValue value) (hafter : Blanks after) : Items frame (front ++ (value ++ after))
  | more {frame : Frame} {front value after rest : Bytes} (hfront : Front frame front)
    (hvalue : IsValue value) (hafter : Blanks after) (hrest : Items frame rest) :
    Items frame (front ++ (value ++ (after ++ 0x2C :: rest)))

end

/-- A name of a member with its colon, where the name matters. -/
inductive Named (name : List Char) : Bytes → Prop
  | quoted {before quoted between after : Bytes} (hbefore : Blanks before)
    (hname : Quoted name quoted) (hbetween : Blanks between) (hafter : Blanks after) :
    Named name (before ++ (quoted ++ (between ++ 0x3A :: after)))

end Json

end EchoBackend
