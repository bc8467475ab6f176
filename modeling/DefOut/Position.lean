import DefOut.Bytes

set_option autoImplicit false

/-!
Places in a text: a position is a line, a column and a byte offset; a range runs from one
position up to another one that is no longer part of it.
-/
namespace DefOut

/-- A place in a text. Lines and columns count from one, bytes from zero. -/
structure Position where
  line : Int
  column : Int
  byte : Int
  deriving DecidableEq, Repr, Inhabited

def Position.start : Position := ⟨1, 1, 0⟩

structure Range where
  file : Bytes
  first : Position
  last : Position
  deriving DecidableEq, Repr, Inhabited

namespace Range

def isEmpty (r : Range) : Bool :=
  r.first.byte == r.last.byte

/-- `FILE:L,C1-C2` within one line, `FILE:L1,C1-L2,C2` over several. -/
def render (r : Range) : Bytes :=
  let start := r.file ++ ":" ++ Bytes.ofInt r.first.line ++ "," ++ Bytes.ofInt r.first.column
  if r.first.line = r.last.line then start ++ "-" ++ Bytes.ofInt r.last.column
  else start ++ "-" ++ Bytes.ofInt r.last.line ++ "," ++ Bytes.ofInt r.last.column

def between (a b : Range) : Range :=
  ⟨a.file, a.first, b.last⟩

def atStart (r : Range) : Range :=
  ⟨r.file, r.first, r.first⟩

end Range
end DefOut
