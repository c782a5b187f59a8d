/-
# Message heads

A request on a connection begins with its head: a request line and header fields, each on a
line of its own, and an empty line.  A line ends with a line feed, before which a carriage
return may stand.  The head is read byte by byte, so it does not matter in which portions it
arrives.
-/
import EchoBackend.Wire.Part

namespace EchoBackend

namespace Wire

open Http

/-! ## Heads -/

/-- The spelling of the version of the protocol. -/
def protocol : Bytes := Utf8.bytes "HTTP/1.1"

/-- The first line of a request, without the version. -/
structure RequestLine where
  method : Bytes
  target : Bytes
  deriving DecidableEq, Repr

/-- The head of a request, as it is written; the values have no blanks around them. -/
structure Head where
  line : RequestLine
  fields : List (Bytes × Bytes)
  deriving DecidableEq, Repr

/-! ## Bytes -/

/-- The carriage return. -/
def carriageReturn : UInt8 := 0x0D

/-- The line feed. -/
def lineFeed : UInt8 := 0x0A

/-- The space. -/
def space : UInt8 := 0x20

/-- The colon. -/
def colon : UInt8 := 0x3A

/-- The blanks that may stand around a value. -/
def isBlank (byte : UInt8) : Bool := byte == 0x20 || byte == 0x09

/-- The bytes of which a target is made. -/
def isTargetByte (byte : UInt8) : Bool := 0x20 < byte && byte != 0x7F

/-- The value that was read, newest byte first, without the blanks at its end. -/
def trimmedValue (read : Bytes) : Bytes := (read.dropWhile isBlank).reverse

/-! ## The reading machine -/

/-- How much of a head has been read.  Parts under way are held newest byte first, fields
newest first. -/
inductive HeadReader where
  /-- Nothing but empty lines. -/
  | start
  /-- A carriage return before the request line. -/
  | startReturn
  | method (read : Bytes)
  | target (method read : Bytes)
  | version (line : RequestLine) (read : Bytes)
  /-- The whole request line, but not its end. -/
  | lineEnd (line : RequestLine)
  | lineReturn (line : RequestLine)
  /-- The beginning of a line after the request line. -/
  | field (line : RequestLine) (fields : List (Bytes × Bytes))
  /-- The carriage return of the empty line. -/
  | lastReturn (line : RequestLine) (fields : List (Bytes × Bytes))
  | name (line : RequestLine) (fields : List (Bytes × Bytes)) (read : Bytes)
  | value (line : RequestLine) (fields : List (Bytes × Bytes)) (name read : Bytes)
  | valueReturn (line : RequestLine) (fields : List (Bytes × Bytes)) (name read : Bytes)
  deriving DecidableEq, Repr

namespace HeadReader

/-- What a byte leads to. -/
inductive Progress where
  | reading (reader : HeadReader)
  | complete (head : Head)
  | refused (cause : Refusal)
  deriving DecidableEq, Repr

/-- Goes on reading if a condition holds. -/
def goOn (condition : Bool) (reader : HeadReader) : Progress :=
  if condition then .reading reader else .refused .malformed

/-- Reads a byte before the request line. -/
def stepStart (byte : UInt8) : Progress :=
  if byte == carriageReturn then .reading .startReturn
  else if byte == lineFeed then .reading .start
  else goOn (isTokenByte byte) (.method [byte])

/-- Reads a byte of the version. -/
def stepVersion (line : RequestLine) (read : Bytes) (byte : UInt8) : Progress :=
  let read := byte :: read
  if read.reverse == protocol then .reading (.lineEnd line)
  else goOn (read.reverse.isPrefixOf protocol) (.version line read)

/-- Reads a byte at the beginning of a line after the request line. -/
def stepField (line : RequestLine) (fields : List (Bytes × Bytes)) (byte : UInt8) : Progress :=
  if byte == carriageReturn then .reading (.lastReturn line fields)
  else if byte == lineFeed then .complete ⟨line, fields.reverse⟩
  else goOn (isTokenByte byte) (.name line fields [byte])

/-- Reads a byte of a value; blanks before it are passed over. -/
def stepValue (line : RequestLine) (fields : List (Bytes × Bytes)) (name read : Bytes)
    (byte : UInt8) : Progress :=
  if byte == carriageReturn then .reading (.valueReturn line fields name read)
  else if byte == lineFeed then .reading (.field line ((name, trimmedValue read) :: fields))
  else if isBlank byte && read.isEmpty then .reading (.value line fields name [])
  else goOn (isValueByte byte) (.value line fields name (byte :: read))

/-- Reads a byte. -/
def step (reader : HeadReader) (byte : UInt8) : Progress :=
  match reader with
  | start => stepStart byte
  | startReturn => goOn (byte == lineFeed) start
  | method read =>
    if byte == space then .reading (target read.reverse [])
    else goOn (isTokenByte byte) (method (byte :: read))
  | target m read =>
    if byte == space then goOn (!read.isEmpty) (version ⟨m, read.reverse⟩ [])
    else goOn (isTargetByte byte) (target m (byte :: read))
  | version line read => stepVersion line read byte
  | lineEnd line =>
    if byte == carriageReturn then .reading (lineReturn line)
    else goOn (byte == lineFeed) (field line [])
  | lineReturn line => goOn (byte == lineFeed) (field line [])
  | field line fields => stepField line fields byte
  | lastReturn line fields =>
    if byte == lineFeed then .complete ⟨line, fields.reverse⟩ else .refused .malformed
  | name line fields read =>
    if byte == colon then .reading (value line fields read.reverse [])
    else goOn (isTokenByte byte) (name line fields (byte :: read))
  | value line fields n read => stepValue line fields n read byte
  | valueReturn line fields n read =>
    goOn (byte == lineFeed) (field line ((n, trimmedValue read) :: fields))

end HeadReader

end Wire

end EchoBackend
