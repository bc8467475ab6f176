set_option autoImplicit false

/-!
Binary numbers with a bounded count of significant bits. An operation computes its result
exactly and then rounds it to the wider precision of its operands, ties to even. Zero and
infinity have a sign; an operation without a value, such as zero times infinity, has no result.
-/
namespace DefOut

/-- How large a number is, leaving its sign out: `mantissa · 2 ^ exponent`, or beyond all
numbers. -/
inductive Magnitude where
  | finite (mantissa : Nat) (exponent : Int)
  | infinite
  deriving DecidableEq, Repr

/-- A signed number that keeps at most `precision` significant bits. -/
structure Number where
  negative : Bool
  magnitude : Magnitude
  precision : Nat
  deriving DecidableEq, Repr

def bitLength (n : Nat) : Nat :=
  if n = 0 then 0 else n.log2 + 1

def neededBits (n : Nat) : Nat :=
  if h : n = 0 then 0
  else if n % 2 = 0 then neededBits (n / 2)
  else bitLength n
termination_by n
decreasing_by exact Nat.div_lt_self (Nat.pos_of_ne_zero h) (by decide)

namespace Magnitude

def zero : Magnitude := finite 0 0

def isZero : Magnitude → Bool
  | finite m _ => m == 0
  | infinite => false

/-- The magnitudes that can be held have a binary exponent of 32 bits: what is larger is
infinite, and what is smaller is zero. -/
def bounded (mantissa : Nat) (exponent : Int) : Magnitude :=
  if mantissa = 0 then zero
  else
    let top := exponent + bitLength mantissa
    if 0x80000000 ≤ top then infinite
    else if top < -0x80000000 then zero
    else finite mantissa exponent

/-- The nearest magnitude with at most `precision` bits, of two equally near ones the even one.
`more` says that the true value lies a little above `mantissa · 2 ^ exponent`; there must be
more than `precision` bits in that case. -/
def round (precision mantissa : Nat) (exponent : Int) (more : Bool) : Magnitude :=
  let length := bitLength mantissa
  if length ≤ precision then bounded mantissa exponent
  else
    let excess := length - precision
    let kept := mantissa >>> excess
    let lost := mantissa % (1 <<< excess)
    let half := 1 <<< (excess - 1)
    let up := decide (half < lost) || (lost == half && (more || kept % 2 == 1))
    bounded (if up then kept + 1 else kept) (exponent + excess)

def compare : Magnitude → Magnitude → Ordering
  | infinite, infinite => .eq
  | infinite, finite _ _ => .gt
  | finite _ _, infinite => .lt
  | finite m e, finite n f =>
    let low := min e f
    Ord.compare (m <<< (e - low).toNat) (n <<< (f - low).toNat)

end Magnitude

namespace Number

def readPrecision : Nat := 512

def countPrecision : Nat := 64

def ofNat (n : Nat) : Number :=
  ⟨false, .finite n 0, countPrecision⟩

def isZero (x : Number) : Bool :=
  x.magnitude.isZero

def neg (x : Number) : Number :=
  { x with negative := !x.negative }

def atPrecision (precision : Nat) (x : Number) : Number :=
  match x.magnitude with
  | .infinite => { x with precision }
  | .finite m e => ⟨x.negative, .round precision m e false, precision⟩

def widest (x y : Number) : Nat :=
  max x.precision y.precision

/-- The sum. Two infinities of opposite sign have none; an exact sum of zero is positive unless
both operands are negative zeros. -/
def add (x y : Number) : Option Number :=
  let p := widest x y
  match x.magnitude, y.magnitude with
  | .infinite, .infinite => if x.negative = y.negative then some (x.atPrecision p) else none
  | .infinite, _ => some (x.atPrecision p)
  | _, .infinite => some (y.atPrecision p)
  | .finite m e, .finite n f =>
    if m = 0 ∧ n = 0 then some ⟨x.negative && y.negative, .zero, p⟩
    else
      let low := min e f
      let a : Int := m <<< (e - low).toNat
      let b : Int := n <<< (f - low).toNat
      let sum := (if x.negative then -a else a) + (if y.negative then -b else b)
      some ⟨decide (sum < 0), .round p sum.natAbs low false, p⟩

def sub (x y : Number) : Option Number :=
  x.add y.neg

def mulAt (p : Nat) (x y : Number) : Option Number :=
  let negative := x.negative != y.negative
  match x.magnitude, y.magnitude with
  | .infinite, .infinite => some ⟨negative, .infinite, p⟩
  | .infinite, .finite n _ => if n = 0 then none else some ⟨negative, .infinite, p⟩
  | .finite m _, .infinite => if m = 0 then none else some ⟨negative, .infinite, p⟩
  | .finite m e, .finite n f => some ⟨negative, .round p (m * n) (e + f) false, p⟩

/-- The product. It has as many bits as it needs, up to `readPrecision`, and at least those of
its operands. -/
def mul (x y : Number) : Option Number :=
  (mulAt readPrecision x y).map fun z =>
    match z.magnitude with
    | .finite m e =>
      let p := max (widest x y) (neededBits m)
      ⟨z.negative, .round p m e false, p⟩
    | .infinite => { z with precision := widest x y }

def quotient (precision m : Nat) (e : Int) (n : Nat) (f : Int) : Magnitude :=
  if m = 0 then .zero
  else
    let shift := precision + 2 + bitLength n
    let scaled := m <<< shift
    .round precision (scaled / n) (e - f - shift) (scaled % n != 0)

/-- The quotient rounded to `p` bits. Anything but zero divided by zero is infinite; zero by
zero and infinity by infinity have no quotient. -/
def divAt (p : Nat) (x y : Number) : Option Number :=
  let negative := x.negative != y.negative
  match x.magnitude, y.magnitude with
  | .infinite, .infinite => none
  | .infinite, .finite _ _ => some ⟨negative, .infinite, p⟩
  | .finite _ _, .infinite => some ⟨negative, .zero, p⟩
  | .finite m e, .finite n f =>
    if n = 0 then (if m = 0 then none else some ⟨negative, .infinite, p⟩)
    else some ⟨negative, quotient p m e n f, p⟩

def div (x y : Number) : Option Number :=
  divAt (widest x y) x y

def truncate? (x : Number) : Option Int :=
  match x.magnitude with
  | .infinite => none
  | .finite m e =>
    let n : Int := if 0 ≤ e then m <<< e.toNat else m >>> (-e).toNat
    some (if x.negative then -n else n)

def integer? (x : Number) : Option Int :=
  match x.magnitude with
  | .infinite => none
  | .finite m e =>
    if 0 ≤ e ∨ m % (1 <<< (-e).toNat) = 0 then x.truncate? else none

def ofIntAt (p : Nat) (n : Int) : Number :=
  ⟨decide (n < 0), .round p n.natAbs 0 false, p⟩

/-- What is left of `x` after `y` has been taken from it a whole number of times, so that it
has the sign of `x`. Nothing can be taken from a number zero times over: the remainder by zero
is the number itself. -/
def mod (x y : Number) : Option Number :=
  if y.isZero then some x
  else do
    let times ← (← x.div y).truncate?
    x.sub (← mulAt x.precision y (ofIntAt x.precision times))

def compare (x y : Number) : Ordering :=
  if x.isZero && y.isZero then .eq
  else
    match x.negative, y.negative with
    | false, true => .gt
    | true, false => .lt
    | false, false => x.magnitude.compare y.magnitude
    | true, true => y.magnitude.compare x.magnitude

def same (x y : Number) : Bool :=
  x.compare y == .eq

end Number
end DefOut
