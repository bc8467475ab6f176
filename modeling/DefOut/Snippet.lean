import DefOut.Diagnostic
import DefOut.Text.Grapheme

set_option autoImplicit false

/-!
Diagnostics shown with the line of the text they are about. A line ends at a line feed; a
carriage return at its end is not part of it. A text that ends with a line feed has no empty
last line.
-/
namespace DefOut

structure TextLine where
  text : Bytes
  ending : Bytes
  deriving DecidableEq, Repr

def TextLine.ofPiece (piece lineFeed : Bytes) : TextLine :=
  if piece.endsWith [0x0D] then ⟨piece.dropLast, 0x0D :: lineFeed⟩ else ⟨piece, lineFeed⟩

def TextLine.ofPieces : List Bytes → List TextLine
  | [] => []
  | [last] => if last.isEmpty then [] else [.ofPiece last []]
  | piece :: rest => .ofPiece piece [0x0A] :: ofPieces rest

def textLines (source : Bytes) : List TextLine :=
  TextLine.ofPieces (Bytes.splitOn 0x0A source)

def clustersBefore (size : Nat) : List Bytes → List Bytes
  | [] => []
  | cluster :: rest =>
    if size = 0 then [] else cluster :: clustersBefore (size - cluster.length) rest

/-- The lines with their places, the first of them at `start`. A line is read together with what
ends it, so a cluster that starts in the line may take in bytes of the ending. A carriage return
in the middle of a line moves the line count on. -/
def placeLines (file : Bytes) (start : Position) : List TextLine → List (Range × Bytes)
  | [] => []
  | line :: rest =>
    let clusters := Text.clusters (line.text ++ line.ending)
    let last := (clustersBefore line.text.length clusters).foldl (Text.stepOver .anyReturn) start
    (⟨file, start, last⟩, line.text) ::
      placeLines file (clusters.foldl (Text.stepOver .anyReturn) start) rest

def placedLines (file source : Bytes) : List (Range × Bytes) :=
  placeLines file .start (textLines source)

def sourceLine (file source : Bytes) (line : Int) : Option Range :=
  ((placedLines file source).find? fun l => l.1.first.line == line).map Prod.fst

namespace Range

def holds (r : Range) (offset : Int) : Bool :=
  decide (r.first.byte ≤ offset ∧ offset < r.last.byte)

/-- Whether two ranges touch; an empty range touches nothing. -/
def overlaps (r s : Range) : Bool :=
  r.file == s.file && !r.isEmpty && !s.isEmpty &&
    (r.holds s.first.byte || r.holds s.last.byte || s.holds r.first.byte || s.holds r.last.byte)

def visible (r : Range) : Range :=
  if r.isEmpty then
    { r with last := { r.last with column := r.last.column + 1, byte := r.last.byte + 1 } }
  else r

def meets (r s : Range) : Bool :=
  decide (max r.first.byte s.first.byte < min r.last.byte s.last.byte)

def slice (r : Range) (source : Bytes) : Bytes :=
  (source.take r.last.byte.toNat).drop r.first.byte.toNat

end Range

def padLine (n : Int) : Bytes :=
  let digits := Bytes.ofInt n
  List.replicate (4 - digits.length) 0x20 ++ digits

/-- The lines of a text that a range touches, each with its number. A line that holds bytes of
the range is shown as far as its place goes. -/
def snippet (source : Bytes) (r : Range) : List Bytes :=
  ((placedLines r.file source).filter fun l => l.1.overlaps r.visible).map fun l =>
    padLine l.1.first.line ++ ": "
      ++ (if l.1.meets r.visible then l.1.slice source else l.2) ++ "\n"

/-- A diagnostic about `subject` as text, in the pieces in which it is written. The lines of the
source are shown when there is one. -/
def Diagnostic.explain (d : Diagnostic) (subject : Range) (source : Option Bytes) : List Bytes :=
  let place : Bytes :=
    "  on " ++ subject.file ++ " line " ++ Bytes.ofInt subject.first.line ++ ":\n"
  let shown : List Bytes :=
    match source with
    | none => [place ++ "  (source code not available)\n\n"]
    | some text => place :: snippet text subject ++ [Bytes.ofString "\n"]
  let detail : List Bytes := if d.detail.isEmpty then [] else [d.detail ++ "\n\n"]
  ("Error: " ++ d.summary ++ "\n\n") :: shown ++ detail

end DefOut
