import DefOut.Position

set_option autoImplicit false

/-!
The tokens of project files.
-/
namespace DefOut.Project

inductive TokenKind where
  | openBrace
  | closeBrace
  | openBracket
  | closeBracket
  | openParen
  | closeParen
  | openQuote
  | closeQuote
  /-- The first line of a text block, up to and including its line end. -/
  | openHeredoc
  | closeHeredoc
  | star
  | slash
  | plus
  | minus
  | percent
  | equal
  | sameAs
  | notSame
  | less
  | lessEqual
  | greater
  | greaterEqual
  | both
  | either
  | bang
  | dot
  | comma
  | colon
  | doubleColon
  | ellipsis
  | fatArrow
  | question
  | interpolation
  | directive
  | sequenceEnd
  /-- Text between quotes, in which a backslash escapes. -/
  | quotedText
  /-- Text of a text block, in which a backslash is itself. -/
  | plainText
  | number
  | identifier
  | comment
  | newline
  | endOfFile
  | bitAnd
  | bitOr
  | bitNot
  | bitXor
  | backtick
  | apostrophe
  | semicolon
  | quotedNewline
  | invalid
  | badEncoding
  deriving DecidableEq, Repr

structure Token where
  kind : TokenKind
  text : Bytes
  range : Range
  deriving DecidableEq, Repr

/-- The token that closes what a token opens, and the other way round. A sequence end is taken
for the end of an interpolation. -/
def TokenKind.opposite? : TokenKind → Option TokenKind
  | openBrace => some closeBrace
  | openBracket => some closeBracket
  | openParen => some closeParen
  | openQuote => some closeQuote
  | openHeredoc => some closeHeredoc
  | closeBrace => some openBrace
  | closeBracket => some openBracket
  | closeParen => some openParen
  | closeQuote => some openQuote
  | closeHeredoc => some openHeredoc
  | interpolation => some sequenceEnd
  | directive => some sequenceEnd
  | sequenceEnd => some interpolation
  | _ => none

end DefOut.Project
