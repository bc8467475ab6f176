import DefOut.Text.Decomposition
import DefOut.Text.Utf8

set_option autoImplicit false

/-!
The composed normal form of texts (Unicode normalization form C): texts that look the same and
mean the same become the same bytes. A text is taken apart as far as possible, marks on the
same letter are put in the order of their combining classes, and everything is put together
again as far as possible. This is done for each letter with its marks; when a letter has more
marks than a reader should have to keep in mind, a joiner is put between them. Stray bytes stay
as they are and combine with nothing.
-/
namespace DefOut.Text

def classIn (c : Nat) : List Nat → Nat
  | first :: last :: cls :: rest =>
    if first ≤ c ∧ c ≤ last then cls else classIn c rest
  | _ => 0

def combiningClass (c : Nat) : Nat :=
  if c < 0x300 then 0 else classIn c combiningTable.toList

def singleIn (c : Nat) : List Nat → Option Nat
  | point :: other :: rest => if point = c then some other else singleIn c rest
  | _ => none

def pairIn (c : Nat) : List Nat → Option (Nat × Nat)
  | point :: a :: b :: rest => if point = c then some (a, b) else pairIn c rest
  | _ => none

def lowBits (c : Nat) : Nat :=
  c % 0x10000

/-- The point that is written as `a` and `b`, in a table of pairs. Only the low bits of the
points are compared. -/
def composedIn (a b : Nat) : List Nat → Option Nat
  | point :: x :: y :: rest =>
    if lowBits x = lowBits a ∧ lowBits y = lowBits b then some point else composedIn a b rest
  | _ => none

def isSecondIn (c : Nat) : List Nat → Bool
  | _ :: _ :: y :: rest => y == c || isSecondIn c rest
  | _ => false

/-- The letters of a Hangul syllable: a leading consonant, a vowel and, unless it would be the
base of the trailing consonants, a trailing consonant. -/
def hangulLetters (c : Nat) : List Nat :=
  let s := c - 0xAC00
  let t := 0x11A7 + s % 28
  [0x1100 + s / 588, 0x1161 + s % 588 / 28] ++ (if t = 0x11A7 then [] else [t])

/-- The Hangul syllable of a consonant and a vowel, or of a syllable and a trailing consonant. -/
def hangulComposed (a b : Nat) : Option Nat :=
  if 0x1100 ≤ a ∧ a < 0x1113 ∧ 0x1161 ≤ b ∧ b < 0x1176 then
    some (0xAC00 + ((a - 0x1100) * 21 + (b - 0x1161)) * 28)
  else if 0xAC00 ≤ a ∧ a < 0xD7A4 ∧ (a - 0xAC00) % 28 = 0 ∧ 0x11A7 < b ∧ b < 0x11C3 then
    some (a + (b - 0x11A7))
  else none

/-- The code points that `c` is made of. A decomposition can be taken apart further at its
first point; four steps reach the end of every one. -/
def decompose : Nat → Nat → List Nat
  | 0, c => [c]
  | depth + 1, c =>
    if c < 0xC0 then [c]
    else if 0xAC00 ≤ c ∧ c < 0xD7A4 then hangulLetters c
    else
      match pairIn c composedTable.toList with
      | some (a, b) => decompose depth a ++ [b]
      | none =>
        match singleIn c singleTable.toList with
        | some other => decompose depth other
        | none =>
          match pairIn c excludedTable.toList with
          | some (a, b) => decompose depth a ++ decompose depth b
          | none => [c]

def combinesBackward (c : Nat) : Bool :=
  decide (0x1161 ≤ c ∧ c < 0x1176) || decide (0x11A7 ≤ c ∧ c < 0x11C3)
    || (decide (0x300 ≤ c) && isSecondIn c composedTable.toList)

/-- Whether a point that is not taken apart further belongs to the letter before it. -/
def isAttached (c : Nat) : Bool :=
  combiningClass c != 0 || combinesBackward c

def similarIn (c : Nat) : List Nat → Option (Nat × Nat)
  | first :: last :: trailing :: leading :: rest =>
    if first ≤ c ∧ c ≤ last then some (trailing, leading) else similarIn c rest
  | _ => none

def markCounts (c : Nat) : Nat × Nat :=
  match similarIn c similarTable.toList with
  | some counts => counts
  | none =>
    let points := decompose 4 c
    ((points.reverse.takeWhile isAttached).length, (points.takeWhile isAttached).length)

namespace Symbol

def ofCode (c : Nat) : Symbol :=
  ⟨some c, encode c⟩

def trailing (x : Symbol) : Nat :=
  match x.code with
  | some c => if c < 0xA8 then 0 else (markCounts c).1
  | none => 0

/-- How many marks a symbol has at its start: none if it does not belong to the one before
it. -/
def leading (x : Symbol) : Nat :=
  match x.code with
  | some c => if c < 0x300 then 0 else (markCounts c).2
  | none => 0

def parts (x : Symbol) : List Symbol :=
  match x.code with
  | some c => (decompose 4 c).map ofCode
  | none => [x]

end Symbol

def maxMarks : Nat := 30

/-- What is put between marks that are too many. -/
def markJoiner : Symbol := .ofCode 0x34F

/-- The segments of symbols, a letter with its marks each. `segment` is the one being read, last
symbol first, and `count` the number of its marks. -/
def segmentsFrom (count : Nat) (segment : List Symbol) : List Symbol → List (List Symbol)
  | [] => [segment.reverse]
  | x :: rest =>
    if x.leading = 0 then segment.reverse :: segmentsFrom x.trailing [x] rest
    else if count + x.leading > maxMarks then
      (markJoiner :: segment).reverse :: segmentsFrom x.trailing [x] rest
    else segmentsFrom (count + x.leading) (x :: segment) rest

def segments : List Symbol → List (List Symbol)
  | [] => []
  | x :: rest => segmentsFrom x.trailing [x] rest

structure Mark where
  symbol : Symbol
  order : Nat := 0
  deriving DecidableEq, Repr

def Mark.ofSymbol (x : Symbol) : Mark :=
  ⟨x, (x.code.map combiningClass).getD 0⟩

/-- Put a mark behind those of the same or a lower class at the end of `marks`, which is
reversed. A point of class zero is passed by nothing. -/
def insertMark (m : Mark) : List Mark → List Mark
  | [] => [m]
  | last :: rest =>
    if m.order ≠ 0 ∧ m.order < last.order then last :: insertMark m rest
    else m :: last :: rest

def reorder (symbols : List Symbol) : List Mark :=
  (symbols.foldl (fun marks x => insertMark (.ofSymbol x) marks) []).reverse

def recomposeHangul (done : List Mark) : List Mark → List Mark
  | [] => done.reverse
  | m :: rest =>
    match done with
    | [] => recomposeHangul [m] rest
    | last :: before =>
      let joined := do hangulComposed (← last.symbol.code) (← m.symbol.code)
      match joined with
      | some c => recomposeHangul (⟨.ofCode c, 0⟩ :: before) rest
      | none => recomposeHangul (m :: done) rest

def Mark.isHangulLetter (m : Mark) : Bool :=
  m.symbol.code.any fun c => decide (0x1100 ≤ c ∧ c < 0x1200)

def Mark.isJoining (m : Mark) : Bool :=
  m.symbol.code.any combinesBackward

def Mark.joined? (base m : Mark) : Option Mark := do
  let c ← composedIn (← base.symbol.code) (← m.symbol.code) composedTable.toList
  return ⟨.ofCode c, 0⟩

/-- A segment being put together, every list with the last symbol first. -/
structure Assembly where
  before : List Mark := []
  base : Mark
  kept : List Mark := []

namespace Assembly

def all (a : Assembly) : List Mark :=
  a.kept ++ a.base :: a.before

/-- If the last symbol is one of class zero, the next mark goes there. -/
def rebased (a : Assembly) : Assembly :=
  match a.kept with
  | last :: rest =>
    if last.order = 0 then { before := rest ++ a.base :: a.before, base := last } else a
  | [] => a

def keep (a : Assembly) (m : Mark) : Assembly :=
  { a with kept := m :: a.kept }

/-- Put a mark on the base. It reaches the base over marks of lower classes only. -/
def join (a : Assembly) (m : Mark) : Assembly :=
  let reaches := a.kept.head?.all fun last => decide (last.order < m.order)
  match (if reaches then a.base.joined? m else none) with
  | some base => { a with base }
  | none => a.keep m

end Assembly

/-- Put a segment together from left to right. From the first Hangul letter after its start on,
only Hangul is put together. -/
def recompose (a : Assembly) : List Mark → List Mark
  | [] => a.all.reverse
  | m :: rest =>
    if m.isHangulLetter then recomposeHangul a.all (m :: rest)
    else recompose (if m.isJoining then a.rebased.join m else a.keep m) rest

def composedSegment (segment : List Symbol) : Bytes :=
  match reorder (segment.flatMap Symbol.parts) with
  | [] => []
  | base :: rest => (recompose { base } rest).flatMap fun m => m.symbol.raw

/-- The normal form of a text. ASCII is in normal form already. -/
def composed (s : Bytes) : Bytes :=
  if s.all (· < 0x80) then s else (segments (symbols s)).flatMap composedSegment

end DefOut.Text
