import DefOut.Text.Printable
import DefOut.Text.Utf8

set_option autoImplicit false

/-!
Text between double quotes, in the two spellings that messages and logs use. `quoted` shows
printable characters as themselves and everything else by an escape, stray bytes included, so
it is always printable; `jsonQuoted` escapes only what a JSON string has to escape.
-/
namespace DefOut.Text

def hexDigits : Nat → Nat → Bytes
  | 0, _ => []
  | width + 1, n =>
    hexDigits width (n / 16) ++
      (if n % 16 < 10 then [(0x30 + n % 16).toUInt8] else [(0x57 + n % 16).toUInt8])

def controlLetter? : Nat → Option UInt8
  | 0x07 => some 0x61
  | 0x08 => some 0x62
  | 0x09 => some 0x74
  | 0x0A => some 0x6E
  | 0x0B => some 0x76
  | 0x0C => some 0x66
  | 0x0D => some 0x72
  | _ => none

def quotedSymbol (x : Symbol) : Bytes :=
  match x.code with
  | none => x.raw.flatMap fun b => "\\x" ++ hexDigits 2 b.toNat
  | some c =>
    if c = 0x22 ∨ c = 0x5C then 0x5C :: x.raw
    else if isPrintable c then x.raw
    else
      match controlLetter? c with
      | some letter => [0x5C, letter]
      | none =>
        if c < 0x20 ∨ c = 0x7F then "\\x" ++ hexDigits 2 c
        else if c < 0x10000 then "\\u" ++ hexDigits 4 c
        else "\\U" ++ hexDigits 8 c

def quoted (s : Bytes) : Bytes :=
  "\"" ++ (symbols s).flatMap quotedSymbol ++ "\""

/-- One symbol inside a JSON string. A stray byte is written as the replacement character. -/
def jsonSymbol (x : Symbol) : Bytes :=
  match x.code with
  | none => "\\ufffd"
  | some c =>
    if c = 0x22 ∨ c = 0x5C then 0x5C :: x.raw
    else if c = 0x08 then "\\b"
    else if c = 0x09 then "\\t"
    else if c = 0x0A then "\\n"
    else if c = 0x0C then "\\f"
    else if c = 0x0D then "\\r"
    else if c < 0x20 then "\\u" ++ hexDigits 4 c
    else if c = 0x2028 ∨ c = 0x2029 then "\\u" ++ hexDigits 4 c
    else x.raw

def jsonQuoted (s : Bytes) : Bytes :=
  "\"" ++ (symbols s).flatMap jsonSymbol ++ "\""

end DefOut.Text
