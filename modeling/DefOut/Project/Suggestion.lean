import DefOut.Text.Quoted

set_option autoImplicit false

/-!
Names that someone may have meant: a known name is suggested for an unknown one when at most
two characters have to be added, removed or replaced.
-/
namespace DefOut.Project

/-- One row of the distance table: the distances of every beginning of `b` to a beginning of
the first text that ends with `x`. `corner` and `row` belong to the beginning before it, and
`left` is the distance just computed. -/
def distanceRow {α : Type} [BEq α] (x : α) : (b : List α) → (row : List Nat) →
    (corner left : Nat) → List Nat
  | y :: b, above :: row, corner, left =>
    let d := min (min (above + 1) (left + 1)) (if x == y then corner else corner + 1)
    d :: distanceRow x b row above d
  | _, _, _, _ => []

/-- The distances of every non-empty beginning of `b` to `a`, starting from those to the empty
text; `done` counts the items of the first text so far. -/
def distances {α : Type} [BEq α] (b : List α) : List α → (done : Nat) → List Nat → List Nat
  | [], _, row => row
  | x :: a, done, row => distances b a (done + 1) (distanceRow x b row done (done + 1))

/-- The fewest insertions, deletions and replacements that make `b` out of `a`. -/
def editDistance {α : Type} [BEq α] (a b : List α) : Nat :=
  ((distances b a 0 ((List.range b.length).map (· + 1))).getLast?).getD a.length

def closeName? (given : Bytes) (known : List Bytes) : Option Bytes :=
  let points (s : Bytes) : List Nat := (Text.symbols s).map fun x => x.code.getD 0xFFFD
  known.find? fun name => editDistance (points given) (points name) < 3

def didYouMean (given : Bytes) (known : List Bytes) : Bytes :=
  match closeName? given known with
  | some name => " Did you mean " ++ Text.quoted name ++ "?"
  | none => []

end DefOut.Project
