/-
# Log events

An event has a level, the part of the program that it comes from, a message and named
values.  It is written on one line, in this order.
-/
import EchoBackend.Log.Level

namespace EchoBackend

namespace Log

/-- A named value of an event, as it is written. -/
structure Field where
  name : String
  value : String
  deriving DecidableEq, Repr

/-- Something that happened. -/
structure Event where
  level : Level
  /-- The part of the program that the event comes from. -/
  target : String
  message : String
  fields : List Field := []
  deriving DecidableEq, Repr

namespace Event

/-- The names of all that an event carries, its message among them. -/
def names (event : Event) : List String := "message" :: event.fields.map Field.name

/-- The line of an event, after its time. -/
def line (event : Event) : String :=
  " ".intercalate
    ([event.level.name, event.target ++ ":", event.message] ++
      event.fields.map fun field => field.name ++ "=" ++ field.value)

end Event

end Log

end EchoBackend
