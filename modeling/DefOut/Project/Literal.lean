import DefOut.Diagnostic
import DefOut.Project.Scan
import DefOut.Text.Quoted

set_option autoImplicit false

/-!
What the text of a literal token stands for. A doubled sign before a brace stands for the sign
and the brace; between quotes a backslash starts an escape.
-/
namespace DefOut.Project

def isHexDigit (c : UInt8) : Bool :=
  Ascii.isDigit c || decide (0x61 ≤ Ascii.lower c ∧ Ascii.lower c ≤ 0x66)

def hexValue (c : UInt8) : Nat :=
  if Ascii.isDigit c then c.toNat - 0x30 else (Ascii.lower c).toNat - 0x57

def escapeSize (s : Bytes) : Nat :=
  match s with
  | [] => 1
  | 0x75 :: s => 2 + ((s.take 4).takeWhile isHexDigit).length
  | 0x55 :: s => 2 + ((s.take 8).takeWhile isHexDigit).length
  | s => 1 + (Text.characterSize? s).getD 0

def startsSlice (quoted : Bool) (c : UInt8) : Bool :=
  (quoted && c = Ascii.backslash) || c = Ascii.dollar || c = Ascii.percent || isLineEnd c

/-- The size of the slice that starts with `c`: an escape, two equal signs with a brace after
them, another sign, a line end, or as much as needs no attention. -/
def sliceSize (quoted : Bool) (c : UInt8) (s : Bytes) : Nat :=
  if quoted && c = Ascii.backslash then escapeSize s
  else if c = Ascii.dollar ∨ c = Ascii.percent then
    if s.take 2 = [c, Ascii.openBrace] then 3 else 1
  else if isLineEnd c then (lineEndSize? (c :: s)).getD 1
  else 1 + (s.takeWhile fun d => !startsSlice quoted d).length

def slices (quoted : Bool) : Bytes → List Bytes
  | [] => []
  | c :: s =>
    let size := sliceSize quoted c s
    (c :: s).take (max 1 size) :: slices quoted (s.drop (size - 1))
termination_by s => s.length
decreasing_by simp only [List.length_drop, List.length_cons]; omega

def hexNumber (digits : Bytes) : Nat :=
  digits.foldl (fun n c => n * 16 + hexValue c) 0

def fourOrMoreHex (n : Nat) : Bytes :=
  Text.hexDigits (max 4 (Nat.toDigits 16 n).length) n

def isScalar (n : Nat) : Bool :=
  decide (n < 0xD800 ∨ (0xDFFF < n ∧ n ≤ 0x10FFFF))

/-- What an escape stands for, or why it is none; in that case also what is put in its place. -/
def escapeText (slice : Bytes) : Bytes × Option Bytes :=
  match slice.tail with
  | [] => (slice, some "Backslash must be followed by an escape sequence selector character.")
  | c :: digits =>
    if c = 0x6E then ([Ascii.newline], none)
    else if c = 0x72 then ([Ascii.carriageReturn], none)
    else if c = 0x74 then ([Ascii.tab], none)
    else if c = Ascii.quote ∨ c = Ascii.backslash then ([c], none)
    else if c = 0x75 ∨ c = 0x55 then
      if c = 0x75 ∧ digits.length ≠ 4 then
        (slice, some "The \\u escape sequence must be followed by four hexadecimal digits.")
      else if c = 0x55 ∧ digits.length ≠ 8 then
        (slice, some "The \\U escape sequence must be followed by eight hexadecimal digits.")
      else
        let n := hexNumber digits
        if isScalar n then (Text.encode n, none)
        else (slice, some ("Cannot encode character U+" ++ fourOrMoreHex n ++ " in UTF-8."))
    else
      (c :: digits,
        some ("The symbol " ++ Text.quoted (c :: digits)
          ++ " is not a valid escape sequence selector."))

def sliceText (quoted : Bool) (slice : Bytes) : Bytes × Option Bytes :=
  match slice with
  | Ascii.backslash :: _ => if quoted then escapeText slice else (slice, none)
  | [Ascii.dollar, Ascii.dollar, Ascii.openBrace] => ([Ascii.dollar, Ascii.openBrace], none)
  | [Ascii.percent, Ascii.percent, Ascii.openBrace] => ([Ascii.percent, Ascii.openBrace], none)
  | _ => (slice, none)

def slicesText (file : Bytes) (quoted : Bool) : Position → List Bytes → Bytes × List Diagnostic
  | _, [] => ([], [])
  | p, slice :: rest =>
    let q := p.advance .anyReturn slice
    let (text, fault) := sliceText quoted slice
    let (more, faults) := slicesText file quoted q rest
    (text ++ more,
      (fault.toList.map fun detail => ⟨"Invalid escape sequence", detail, some ⟨file, p, q⟩⟩)
        ++ faults)

def Token.literalText (t : Token) : Bytes × List Diagnostic :=
  let quoted := t.kind = .quotedText
  slicesText t.range.file quoted t.range.first (slices quoted t.text)

end DefOut.Project
