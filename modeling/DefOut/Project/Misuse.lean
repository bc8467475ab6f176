import DefOut.Diagnostic
import DefOut.Project.Token

set_option autoImplicit false

/-!
Tokens that are never right: operators and signs of other languages, characters without a
meaning, broken encoding and line ends between quotes. They are reported whatever stands around
them, in the order of the file, and most of them only a few times.
-/
namespace DefOut.Project

structure MisuseCount where
  bitwise : Nat := 0
  backtick : Nat := 0
  apostrophe : Nat := 0
  semicolon : Nat := 0
  encoding : Nat := 0

def bitwiseHint : TokenKind → Bytes
  | .bitAnd => " Did you mean boolean AND (\"&&\")?"
  | .bitOr => " Did you mean boolean OR (\"&&\")?"
  | .bitNot => " Did you mean boolean NOT (\"!\")?"
  | _ => []

def invalidDetail (text : Bytes) : Bytes :=
  if text = "“" ∨ text = "”" then
    "\"Curly quotes\" are not valid here. These can sometimes be inadvertently introduced when sharing code via documents or discussion forums. It might help to replace the character with a \"straight quote\"."
  else "This character is not used within the language."

/-- What is wrong with a token, and the count after it. Of a pair of backticks or apostrophes
only the first one is reported, and of such pairs only the first two. -/
def Token.misuse (n : MisuseCount) (t : Token) : Option Diagnostic × MisuseCount :=
  let report (summary detail : Bytes) : Option Diagnostic := some ⟨summary, detail, some t.range⟩
  match t.kind with
  | .bitAnd | .bitOr | .bitNot | .bitXor =>
    if n.bitwise < 4 then
      (report "Unsupported operator"
        ("Bitwise operators are not supported." ++ bitwiseHint t.kind),
        { n with bitwise := n.bitwise + 1 })
    else (none, n)
  | .backtick =>
    (if n.backtick % 2 = 0 then
      report "Invalid character"
        "The \"`\" character is not valid. To create a multi-line string, use the \"heredoc\" syntax, like \"<<EOT\"."
    else none,
      { n with backtick := min 3 (n.backtick + 1) })
  | .apostrophe =>
    (if n.apostrophe % 2 = 0 then
      report "Invalid character"
        "Single quotes are not valid. Use double quotes (\") to enclose strings."
    else none,
      { n with apostrophe := min 3 (n.apostrophe + 1) })
  | .semicolon =>
    if n.semicolon = 0 then
      (report "Invalid character"
        "The \";\" character is not valid. Use newlines to separate arguments and blocks, and commas to separate items in collection values.",
        { n with semicolon := 1 })
    else (none, n)
  | .badEncoding =>
    if n.encoding = 0 then
      (report "Invalid character encoding"
        "All input files must be UTF-8 encoded. Ensure that UTF-8 encoding is selected in your editor.",
        { n with encoding := 1 })
    else (none, n)
  | .quotedNewline =>
    (report "Invalid multi-line string"
      "Quoted strings may not be split over multiple lines. To produce a multi-line string, either use the \\n escape to represent a newline character or use the \"heredoc\" multi-line template syntax.",
      n)
  | .invalid => (report "Invalid character" (invalidDetail t.text), n)
  | _ => (none, n)

def misusesFrom (n : MisuseCount) : List Token → List Diagnostic
  | [] => []
  | t :: rest =>
    let (fault, n) := t.misuse n
    fault.toList ++ misusesFrom n rest

def misuses (tokens : List Token) : List Diagnostic :=
  misusesFrom {} tokens

end DefOut.Project
