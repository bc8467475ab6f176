import DefOut.Text.Utf8

set_option autoImplicit false

/-!
White space: the characters with the Unicode property of that name, and texts without the
white space at one of their ends.
-/
namespace DefOut.Text

def isSpace (c : Nat) : Bool :=
  decide ((0x09 ≤ c ∧ c ≤ 0x0D) ∨ c = 0x20 ∨ c = 0x85 ∨ c = 0xA0 ∨ c = 0x1680
    ∨ (0x2000 ≤ c ∧ c ≤ 0x200A) ∨ c = 0x2028 ∨ c = 0x2029 ∨ c = 0x202F ∨ c = 0x205F
    ∨ c = 0x3000)

def Symbol.isSpace (x : Symbol) : Bool :=
  match x.code with
  | some c => Text.isSpace c
  | none => false

def trimStart (s : Bytes) : Bytes :=
  ((symbols s).dropWhile Symbol.isSpace).flatMap Symbol.raw

def trimEnd (s : Bytes) : Bytes :=
  (((symbols s).reverse.dropWhile Symbol.isSpace).reverse).flatMap Symbol.raw

def trimBoth (s : Bytes) : Bytes :=
  trimEnd (trimStart s)

end DefOut.Text
