set_option autoImplicit false

/-!
Sets of characters, given by their numbers and kept as the sorted points at which membership
changes. The number of a character is its code point, unless a set says otherwise.
-/
namespace DefOut.Text

/-- A set of numbers: `edges` lists, in increasing order, the first point inside,
the first point after it that is outside again, and so on. -/
structure CharSet where
  edges : Array Nat

/-- Whether a point is inside when the edges listed are still to be passed. Every edge at or
below the point changes the answer; the first one above it leaves it as it is. -/
def CharSet.insideAfter (c : Nat) (inside : Bool) : List Nat → Bool
  | [] => inside
  | e :: rest => if e ≤ c then insideAfter c (!inside) rest else inside

def CharSet.contains (s : CharSet) (c : Nat) : Bool :=
  CharSet.insideAfter c false s.edges.toList

end DefOut.Text
