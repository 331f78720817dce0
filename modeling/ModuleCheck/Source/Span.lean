namespace ModuleCheck

/-!
Stretches of source text.  Offsets count bytes from the start of a file.
-/

/-- A stretch of bytes of one file, from `start` up to but not including `stop`.  A span whose
`stop` does not lie after its `start` covers nothing. -/
structure Span where
  start : Nat
  stop : Nat
  file : String
deriving DecidableEq

namespace Span

/-- The span of a node that stands in no file. -/
def null : Span := ⟨0, 0, "<null>"⟩

/-- The number of bytes covered, zero for a span that ends before it starts. -/
def length (s : Span) : Nat := s.stop - s.start

def isEmpty (s : Span) : Bool := s.length == 0

/-- Whether the span begins where the null span does, in the same file. -/
def startsNull (s : Span) : Bool := s.start == null.start && s.file == null.file

end Span

end ModuleCheck
