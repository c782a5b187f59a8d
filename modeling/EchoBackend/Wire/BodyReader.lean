/-
# Bodies on a connection

A body is delimited by its length, or it comes in chunks: each begins with a line that gives
its size in hexadecimal digits, and the last one is empty and may be followed by further
fields.  The bytes are read one by one; some of them are data, the others delimit it.
-/
import EchoBackend.Text.Hex
import EchoBackend.Wire.Terms

namespace EchoBackend

namespace Wire

/-- How much of a body has been read. -/
inductive BodyReader where
  /-- So many bytes of data are still to come. -/
  | counted (left : Nat)
  /-- At the beginning of a line that gives a size. -/
  | chunk
  | size (read : Nat)
  /-- At blanks after a size. -/
  | sizeBlank (read : Nat)
  /-- In an extension after a size. -/
  | extension (read : Nat)
  | sizeReturn (read : Nat)
  /-- In a chunk, so many bytes of which are still to come. -/
  | data (left : Nat)
  /-- After the data of a chunk. -/
  | dataEnd
  | dataReturn
  /-- At the beginning of a line after the last chunk. -/
  | trailer
  | trailerLine
  | trailerReturn
  | lastReturn
  /-- Everything was read. -/
  | done
  deriving DecidableEq, Repr

namespace BodyReader

/-- Reading begins. -/
def ofFraming : Framing → BodyReader
  | .counted length => counted length
  | .chunked => chunk

/-- Whether nothing more belongs to the body. -/
def isDone : BodyReader → Bool
  | counted 0 => true
  | done => true
  | _ => false

/-- The reader after the line that gives a size. -/
def ofSize : Nat → BodyReader
  | 0 => trailer
  | count + 1 => data (count + 1)

/-- Adds a digit to a size. -/
def addDigit? (read : Nat) (byte : UInt8) : Option BodyReader :=
  (Hex.value? byte).map fun digit => size (16 * read + digit.toNat)

/-- Reads a byte that delimits data: nothing comes of one that is out of place. -/
def delimit? (reader : BodyReader) (byte : UInt8) : Option BodyReader :=
  match reader with
  | chunk => addDigit? 0 byte
  | size read =>
    if isBlank byte then some (sizeBlank read)
    else if byte == 0x3B then some (extension read)
    else if byte == carriageReturn then some (sizeReturn read)
    else addDigit? read byte
  | sizeBlank read =>
    if isBlank byte then some (sizeBlank read)
    else if byte == 0x3B then some (extension read)
    else if byte == carriageReturn then some (sizeReturn read)
    else none
  | extension read =>
    if byte == carriageReturn then some (sizeReturn read)
    else if byte == lineFeed then none
    else some (extension read)
  | sizeReturn read => if byte == lineFeed then some (ofSize read) else none
  | dataEnd => if byte == carriageReturn then some dataReturn else none
  | dataReturn => if byte == lineFeed then some chunk else none
  | trailer => if byte == carriageReturn then some lastReturn else some trailerLine
  | trailerLine => if byte == carriageReturn then some trailerReturn else some trailerLine
  | trailerReturn => if byte == lineFeed then some trailer else none
  | lastReturn => if byte == lineFeed then some done else none
  | counted _ => none
  | data _ => none
  | done => none

/-- The reader after a byte of data, if a byte of data comes next. -/
def afterData? : BodyReader → Option BodyReader
  | counted (left + 1) => some (counted left)
  | data (left + 2) => some (data (left + 1))
  | data _ => some dataEnd
  | _ => none

/-- What a byte leads to. -/
inductive Progress where
  /-- The byte is data. -/
  | data (reader : BodyReader)
  /-- The byte delimits data. -/
  | delimiter (reader : BodyReader)
  /-- The byte is out of place. -/
  | broken
  deriving DecidableEq, Repr

/-- Reads a byte. -/
def step (reader : BodyReader) (byte : UInt8) : Progress :=
  match reader.afterData? with
  | some next => .data next
  | none =>
    match reader.delimit? byte with
    | some next => .delimiter next
    | none => .broken

end BodyReader

end Wire

end EchoBackend
