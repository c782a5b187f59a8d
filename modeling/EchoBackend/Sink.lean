/-
# Diagnostic sinks

A sink collects the diagnostic blocks of an instance in the order in which they are
written.  Read as one text, the blocks are separated by line feeds; printed to standard
output, each block is followed by one.
-/
namespace EchoBackend

/-- The blocks written so far, oldest first. -/
structure Sink where
  blocks : List String := []
  deriving DecidableEq, Repr, Inhabited

namespace Sink

/-- Writes a block. -/
def emit (sink : Sink) (block : String) : Sink := ⟨sink.blocks ++ [block]⟩

/-- All blocks as one text. -/
def contents (sink : Sink) : String := "\n".intercalate sink.blocks

/-- The blocks as they stand on standard output. -/
def printed (sink : Sink) : String := String.join (sink.blocks.map (· ++ "\n"))

/-- Writing adds one block at the end. -/
@[simp] theorem blocks_emit (sink : Sink) (block : String) :
    (sink.emit block).blocks = sink.blocks ++ [block] := rfl

end Sink

end EchoBackend
