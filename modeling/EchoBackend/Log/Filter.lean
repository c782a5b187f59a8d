/-
# Log filters

A filter is a list of directives, separated by commas.  Of the directives that are for an
event the most specific one decides; an event that none is for is not written.  Without any
directive errors are written and nothing else.
-/
import EchoBackend.Log.Directive

namespace EchoBackend

namespace Log

/-- The directives that are in force, in the order in which they were given. -/
structure Filter where
  directives : List Directive
  deriving DecidableEq, Repr

namespace Filter

/-! ## Meaning -/

/-- The most specific of several directives; of equally specific ones the last. -/
def decisive? : List Directive → Option Directive
  | [] => none
  | directive :: rest =>
    match decisive? rest with
    | none => some directive
    | some other => if other.yieldsTo directive then some directive else some other

/-- Whether an event is written. -/
def admits (filter : Filter) (event : Event) : Bool :=
  match decisive? (filter.directives.filter (·.covers event)) with
  | some directive => directive.verbosity.admits event.level
  | none => false

/-- The lines that are written for some events. -/
def lines (filter : Filter) (events : List Event) : List String :=
  (events.filter filter.admits).map Event.line

/-! ## Spelling -/

/-- The filter without any directive. -/
def errorsOnly : Filter := ⟨[{ verbosity := .downTo .error }]⟩

/-- Reads a filter; one bad directive spoils it. -/
def ofString? (text : String) : Option Filter :=
  let pieces := (text.toList.splitOn ',').filter (!·.isEmpty)
  match pieces.mapM Directive.ofChars? with
  | none => none
  | some [] => some errorsOnly
  | some directives => some ⟨directives⟩

/-- Chooses the filter: the one asked for if it can be read, else the fallback, of which
the bad directives are left out. -/
def choose (asked : Option String) (fallback : String) : Filter :=
  match asked.bind ofString? with
  | some filter => filter
  | none =>
    let pieces := (fallback.toList.splitOn ',').filter (!·.isEmpty)
    match pieces.filterMap Directive.ofChars? with
    | [] => errorsOnly
    | directives => ⟨directives⟩

end Filter

end Log

end EchoBackend
