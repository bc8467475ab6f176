set_option autoImplicit false

/-!
Names for the ASCII bytes that have a meaning in one of the formats read or written here.
-/
namespace DefOut.Ascii

@[match_pattern] abbrev tab : UInt8 := 0x09
@[match_pattern] abbrev newline : UInt8 := 0x0A
@[match_pattern] abbrev carriageReturn : UInt8 := 0x0D
@[match_pattern] abbrev space : UInt8 := 0x20
@[match_pattern] abbrev bang : UInt8 := 0x21
@[match_pattern] abbrev quote : UInt8 := 0x22
@[match_pattern] abbrev hash : UInt8 := 0x23
@[match_pattern] abbrev dollar : UInt8 := 0x24
@[match_pattern] abbrev percent : UInt8 := 0x25
@[match_pattern] abbrev ampersand : UInt8 := 0x26
@[match_pattern] abbrev apostrophe : UInt8 := 0x27
@[match_pattern] abbrev openParen : UInt8 := 0x28
@[match_pattern] abbrev closeParen : UInt8 := 0x29
@[match_pattern] abbrev star : UInt8 := 0x2A
@[match_pattern] abbrev plus : UInt8 := 0x2B
@[match_pattern] abbrev comma : UInt8 := 0x2C
@[match_pattern] abbrev minus : UInt8 := 0x2D
@[match_pattern] abbrev dot : UInt8 := 0x2E
@[match_pattern] abbrev slash : UInt8 := 0x2F
@[match_pattern] abbrev zero : UInt8 := 0x30
@[match_pattern] abbrev colon : UInt8 := 0x3A
@[match_pattern] abbrev semicolon : UInt8 := 0x3B
@[match_pattern] abbrev less : UInt8 := 0x3C
@[match_pattern] abbrev equals : UInt8 := 0x3D
@[match_pattern] abbrev greater : UInt8 := 0x3E
@[match_pattern] abbrev question : UInt8 := 0x3F
@[match_pattern] abbrev openBracket : UInt8 := 0x5B
@[match_pattern] abbrev backslash : UInt8 := 0x5C
@[match_pattern] abbrev closeBracket : UInt8 := 0x5D
@[match_pattern] abbrev caret : UInt8 := 0x5E
@[match_pattern] abbrev underscore : UInt8 := 0x5F
@[match_pattern] abbrev backtick : UInt8 := 0x60
@[match_pattern] abbrev openBrace : UInt8 := 0x7B
@[match_pattern] abbrev pipe : UInt8 := 0x7C
@[match_pattern] abbrev closeBrace : UInt8 := 0x7D
@[match_pattern] abbrev tilde : UInt8 := 0x7E

def isDigit (c : UInt8) : Bool :=
  decide (0x30 ≤ c ∧ c ≤ 0x39)

def isLetter (c : UInt8) : Bool :=
  decide ((0x41 ≤ c ∧ c ≤ 0x5A) ∨ (0x61 ≤ c ∧ c ≤ 0x7A))

theorem isDigit_iff (c : UInt8) : isDigit c = true ↔ 0x30 ≤ c ∧ c ≤ 0x39 :=
  decide_eq_true_iff

theorem isLetter_iff (c : UInt8) :
    isLetter c = true ↔ (0x41 ≤ c ∧ c ≤ 0x5A) ∨ (0x61 ≤ c ∧ c ≤ 0x7A) :=
  decide_eq_true_iff

def lower (c : UInt8) : UInt8 :=
  if 0x41 ≤ c ∧ c ≤ 0x5A then c + 0x20 else c

end DefOut.Ascii
