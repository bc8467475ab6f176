import DefOut.Ascii
import DefOut.Bytes
import DefOut.Number

set_option autoImplicit false

/-!
Numbers as decimal text. A number is written with the fewest digits that single it out among
the numbers of its precision (`Decimal.shortest`), always in positional notation; a text is
read exactly and then rounded once (`Number.read?`).
-/
namespace DefOut

/-- The decimal fraction `0.d₁d₂… · 10 ^ point`, without zeros at its end. -/
structure Decimal where
  digits : List Nat
  point : Int
  deriving DecidableEq, Repr

namespace Decimal

def digitsOf (n : Nat) : List Nat :=
  if n = 0 then [] else (Nat.toDigits 10 n).map fun c => c.toNat - 0x30

def trim (digits : List Nat) : List Nat :=
  (digits.reverse.dropWhile (· == 0)).reverse

def ofBinary (mantissa : Nat) (exponent : Int) : Decimal :=
  if 0 ≤ exponent then
    let digits := digitsOf (mantissa <<< exponent.toNat)
    ⟨trim digits, digits.length⟩
  else
    let places := (-exponent).toNat
    let digits := digitsOf (mantissa * Nat.pow 5 places)
    ⟨trim digits, digits.length - places⟩

def cut (kept : List Nat) (point : Int) : Decimal :=
  ⟨(kept.dropWhile (· == 0)).reverse, point⟩

def raise (kept : List Nat) (point : Int) : Decimal :=
  match kept.dropWhile (· == 9) with
  | [] => ⟨[1], point + 1⟩
  | d :: rest => ⟨((d + 1) :: rest).reverse, point⟩

/-- Whether the digits in `lost` make up at least half a unit of the place before them, whose
digit is `last`; exactly half a unit counts when `last` is odd. -/
def roundsUp (last : Nat) : List Nat → Bool
  | [] => false
  | [5] => last % 2 == 1
  | d :: _ => decide (5 ≤ d)

/-- The first place at which the digits can be cut or raised without leaving the interval
between two bounds. `lower` and `upper` are the digits of the bounds from the current place on;
`closed` says that the bounds belong to the interval. -/
def shortestFrom (closed : Bool) (point : Int) (kept : List Nat) :
    (lower upper digits : List Nat) → Decimal
  | _, _, [] => ⟨kept.reverse, point⟩
  | lower, upper, d :: rest =>
    let l := lower.headD 0
    let u := upper.headD 0
    let down := l != d || (closed && lower.length == 1)
    let up := d != u && (closed || decide (d + 1 < u) || decide (1 < upper.length))
    let whole : Decimal := ⟨(d :: kept).reverse, point⟩
    if rest.isEmpty && (down || up) then whole
    else if down && up then
      if roundsUp d rest then raise (d :: kept) point else cut (d :: kept) point
    else if down then cut (d :: kept) point
    else if up then raise (d :: kept) point
    else shortestFrom closed point (d :: kept) lower.tail upper.tail rest

/-- The fewest digits that lie nearer to `mantissa · 2 ^ exponent` than to any other number
with `precision` bits. Half a unit of the last bit away on either side lie the bounds, which
belong to the number when its last bit is zero. -/
def shortest (precision mantissa : Nat) (exponent : Int) : Decimal :=
  if mantissa = 0 then ⟨[], 0⟩
  else
    let length := bitLength mantissa
    let shift : Int := (precision : Int) + 1 - length
    let m := if 0 ≤ shift then mantissa <<< shift.toNat else mantissa >>> (-shift).toNat
    let e := exponent - shift
    let exact := ofBinary mantissa exponent
    shortestFrom (m / 2 % 2 == 0) exact.point []
      (ofBinary (m - 1) e).digits (ofBinary (m + 1) e).digits exact.digits

def digitText (d : Nat) : UInt8 :=
  (0x30 + d).toUInt8

def render (d : Decimal) : Bytes :=
  if 0 < d.point then
    let places := d.point.toNat
    let whole := d.digits.take places
    let fraction := d.digits.drop places
    whole.map digitText ++ List.replicate (places - whole.length) Ascii.zero
      ++ (if fraction.isEmpty then [] else Ascii.dot :: fraction.map digitText)
  else
    Ascii.zero :: (if d.digits.isEmpty then []
      else Ascii.dot :: List.replicate (-d.point).toNat Ascii.zero ++ d.digits.map digitText)

end Decimal

namespace Number

def text (x : Number) : Bytes :=
  match x.magnitude with
  | .infinite => if x.negative then "-Inf" else "+Inf"
  | .finite m e =>
    (if x.negative then [Ascii.minus] else []) ++ (Decimal.shortest x.precision m e).render

/-- A power of five, multiplied up by squaring: `power` holds what is done, `factor` is the
current square and `n` what is left of the exponent. -/
def powerOfFive (power factor : Number) (n : Nat) : Option Number :=
  if h : n = 0 then some power
  else do
    let power ← if n % 2 = 1 then mulAt power.precision power factor else some power
    powerOfFive power (← mulAt factor.precision factor factor) (n / 2)
termination_by n
decreasing_by exact Nat.div_lt_self (Nat.pos_of_ne_zero h) (by decide)

/-- `5 ^ n` in the precision `p`, squared up in 64 bits more. -/
def fiveTo (p n : Nat) : Option Number :=
  if n ≤ 27 then some ⟨false, .finite (Nat.pow 5 n) 0, p⟩
  else
    powerOfFive ⟨false, .finite (Nat.pow 5 27) 0, p⟩ ⟨false, .finite 5 0, p + 64⟩ (n - 27)

def natOfDigits (digits : Bytes) : Nat :=
  digits.foldl (fun n c => n * 10 + (c.toNat - 0x30)) 0

def readSign : Bytes → Bool × Bytes
  | Ascii.minus :: s => (true, s)
  | Ascii.plus :: s => (false, s)
  | s => (false, s)

/-- The digits of a mantissa, how many of them follow a point, and the rest of the text. There
has to be a digit on one side of the point. -/
def readMantissa? (s : Bytes) : Option (Nat × Nat × Bytes) :=
  let whole := s.takeWhile Ascii.isDigit
  let (fraction, rest) :=
    match s.dropWhile Ascii.isDigit with
    | Ascii.dot :: s => (s.takeWhile Ascii.isDigit, s.dropWhile Ascii.isDigit)
    | s => ([], s)
  if whole.isEmpty && fraction.isEmpty then none
  else some (natOfDigits (whole ++ fraction), fraction.length, rest)

/-- The exponent that makes up a whole text, and whether its base is ten; the base of the other
spelling is two. An empty text is the exponent zero. -/
def readExponent? : Bytes → Option (Bool × Int)
  | [] => some (true, 0)
  | mark :: s =>
    let (negative, digits) := readSign s
    let n : Int := natOfDigits digits
    let n := if negative then -n else n
    if digits.isEmpty || !digits.all Ascii.isDigit ||
        n < -0x8000000000000000 || 0x8000000000000000 ≤ n then none
    else if Ascii.lower mark = 0x65 then some (true, n)
    else if Ascii.lower mark = 0x70 then some (false, n)
    else none

/-- `digits · 10 ^ tens · 2 ^ twos`, rounded once if the power of five that it takes is exact.
Exponents that need more than 32 bits are refused. -/
def scale? (negative : Bool) (digits : Nat) (tens twos : Int) : Option Number :=
  let top := (bitLength digits : Int) + tens + twos
  if digits = 0 then some ⟨negative, .zero, readPrecision⟩
  else if top < -0x80000000 || 0x80000000 ≤ top then none
  else if tens = 0 then some ⟨negative, .round readPrecision digits twos false, readPrecision⟩
  else do
    let power ← fiveTo (readPrecision + 64) tens.natAbs
    let exact : Number := ⟨negative, .finite digits (tens + twos), readPrecision⟩
    if tens < 0 then divAt readPrecision exact power else mulAt readPrecision exact power

def read? (s : Bytes) : Option Number :=
  let (negative, rest) := readSign s
  if rest = "Inf" ∨ rest = "inf" then some ⟨negative, .infinite, readPrecision⟩
  else do
    let (digits, places, rest) ← readMantissa? rest
    let (ten, exponent) ← readExponent? rest
    if ten then scale? negative digits (exponent - places) 0
    else scale? negative digits (-places) exponent

end Number
end DefOut
