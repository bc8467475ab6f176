import DefOut.Position
import DefOut.Text.GraphemeClass

set_option autoImplicit false

/-!
Grapheme clusters: what a reader takes for one character. Columns in texts are counted in
them, and a position moves over a text cluster by cluster (`Position.advance`).
-/
namespace DefOut.Text

inductive ClusterState where
  | alone
  /-- Only a line feed is added. -/
  | afterReturn
  /-- Whatever could start a cluster of its own is added. -/
  | prepended
  | leading
  /-- Leading consonants and an open syllable, which only a vowel goes on with. -/
  | leadingSyllable
  | openSyllable
  | vowel
  | trailing
  | halfFlag
  /-- Marks and joiners are added, and after a joiner a pictograph. -/
  | gluing
  /-- The same, right after a joiner. -/
  | glued
  | plain
  deriving DecidableEq, Repr

namespace ClusterState

def start : GraphemeClass → ClusterState
  | .carriageReturn => afterReturn
  | .lineFeed | .control => alone
  | .prepended => prepended
  | .hangulL => leading
  | .hangulLV => openSyllable
  | .hangulV => vowel
  | .hangulT | .hangulLVT => trailing
  | .regional => halfFlag
  | .pictograph => gluing
  | .extend | .brokenExtend | .joiner | .other => plain

def extended? : GraphemeClass → Option ClusterState
  | .extend | .brokenExtend => some gluing
  | .joiner => some glued
  | _ => none

/-- The state after a character that goes on with the cluster; `none` if a new one starts. -/
def next? : ClusterState → GraphemeClass → Option ClusterState
  | alone, _ => none
  | afterReturn, .lineFeed => some alone
  | afterReturn, _ => none
  | prepended, .carriageReturn | prepended, .lineFeed | prepended, .control
  | prepended, .brokenExtend => none
  | prepended, c => some (start c)
  | leading, .hangulL => some leading
  | leading, .hangulLV => some leadingSyllable
  | leading, .hangulV | leadingSyllable, .hangulV | openSyllable, .hangulV
  | vowel, .hangulV => some vowel
  | leading, .hangulLVT | openSyllable, .hangulT | vowel, .hangulT
  | trailing, .hangulT => some trailing
  | halfFlag, .regional => some gluing
  | glued, .pictograph => some gluing
  | plain, .extend | plain, .brokenExtend | plain, .joiner => some plain
  | plain, _ => none
  | _, c => extended? c

end ClusterState

def clusterStart (c : UInt8) (s : Bytes) : GraphemeClass × Nat :=
  match graphemeAt c s with
  | (.brokenExtend, _) => (.control, 1)
  | found => found

def clustersFrom (cluster : Bytes) (state : ClusterState) : Bytes → List Bytes
  | [] => [cluster]
  | c :: s =>
    let (k, size) := graphemeAt c s
    match state.next? k with
    | some state => clustersFrom (cluster ++ (c :: s).take size) state (s.drop (size - 1))
    | none =>
      let (k, size) := clusterStart c s
      cluster :: clustersFrom ((c :: s).take size) (.start k) (s.drop (size - 1))
termination_by s => s.length
decreasing_by all_goals simp only [List.length_drop, List.length_cons]; omega

def clusters : Bytes → List Bytes
  | [] => []
  | c :: s =>
    let (k, size) := clusterStart c s
    clustersFrom ((c :: s).take size) (.start k) (s.drop (size - 1))

/-- Which clusters end a line: a line feed alone or after a carriage return does; a carriage
return alone does where a text is only read line by line. -/
inductive LineEnd where
  | lineFeed
  | anyReturn
  deriving DecidableEq, Repr

def LineEnd.matches (e : LineEnd) (cluster : Bytes) : Bool :=
  match e with
  | .lineFeed => cluster == [0x0A] || cluster == [0x0D, 0x0A]
  | .anyReturn => cluster.head? == some 0x0A || cluster.head? == some 0x0D

def stepOver (e : LineEnd) (p : Position) (cluster : Bytes) : Position :=
  if e.matches cluster then ⟨p.line + 1, 1, p.byte + cluster.length⟩
  else ⟨p.line, p.column + 1, p.byte + cluster.length⟩

end DefOut.Text

namespace DefOut

def Position.advance (p : Position) (e : Text.LineEnd) (s : Bytes) : Position :=
  (Text.clusters s).foldl (Text.stepOver e) p

end DefOut
