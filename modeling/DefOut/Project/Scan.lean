import DefOut.Ascii
import DefOut.Project.Token
import DefOut.Text.Grapheme
import DefOut.Text.Identifier
import DefOut.Text.Space

set_option autoImplicit false

/-!
Cutting a project file into tokens. What a byte means depends on where it stands: in code,
between quotes or in a text block; these places nest, because a text can hold interpolated code
and code can hold texts. Within a place the longest rule wins. Every byte belongs to a token or
to the blanks between tokens, and the last token is always the end of the file.
-/
namespace DefOut.Project

inductive Place where
  /-- Code, with the number of braces open in it; `nested` says that it stands in a text. -/
  | code (braces : Nat) (nested : Bool)
  | quoted
  /-- A text block up to the line that holds only `marker`; `lineStart` says that a line
  starts here. -/
  | heredoc (marker : Bytes) (lineStart : Bool)
  deriving DecidableEq, Repr

structure Piece where
  kind : Option TokenKind
  size : Nat
  deriving DecidableEq, Repr

/-- How many bytes continue a number: digits, points and exponents, but no point at the end. -/
def numberSize : Bytes → Nat
  | [] => 0
  | c :: s =>
    if Ascii.isDigit c then 1 + numberSize s
    else if c = Ascii.dot then
      match numberSize s with
      | 0 => 0
      | n + 1 => n + 2
    else if Ascii.lower c = 0x65 then
      match s with
      | d :: s =>
        if Ascii.isDigit d then 2 + numberSize s
        else if d = Ascii.plus ∨ d = Ascii.minus then
          match s with
          | e :: s => if Ascii.isDigit e then 3 + numberSize s else 0
          | [] => 0
        else 0
      | [] => 0
    else 0

/-- How many bytes continue an identifier, of which `skip` more belong to the current
character. -/
def identifierSize : Nat → Bytes → Nat
  | _, [] => 0
  | skip + 1, _ :: s => 1 + identifierSize skip s
  | 0, c :: s =>
    if c = Ascii.minus then 1 + identifierSize 0 s
    else
      match Text.identifierContinue.formSize? c s with
      | some size => 1 + identifierSize (size - 1) s
      | none => 0

def identifier? : Bytes → Option Nat
  | [] => none
  | c :: s =>
    if c = Ascii.underscore then some (1 + identifierSize 0 s)
    else
      (Text.identifierStart.formSize? c s).map fun size => 1 + identifierSize (size - 1) s

def lineSize : Bytes → Nat
  | [] => 0
  | Ascii.newline :: _ => 1
  | _ :: s => 1 + lineSize s

def bracketedSize? : Bytes → Option Nat
  | [] => none
  | c :: s =>
    if c = Ascii.star ∧ s.head? = some Ascii.slash then some 2
    else (bracketedSize? s).map (· + 1)

def lineEndSize? : Bytes → Option Nat
  | Ascii.newline :: _ => some 1
  | Ascii.carriageReturn :: Ascii.newline :: _ => some 2
  | _ => none

/-- The first line of a text block, without the two angle brackets: its size and the marker
that ends the block. -/
def heredocStart? (s : Bytes) : Option (Nat × Bytes) :=
  let (dash, s) := match s with
    | Ascii.minus :: s => (1, s)
    | s => (0, s)
  match identifier? s with
  | none => none
  | some size => (lineEndSize? (s.drop size)).map fun e => (dash + size + e, s.take size)

def symbolKind? (c : UInt8) : Option TokenKind :=
  if c = Ascii.openBracket then some .openBracket
  else if c = Ascii.closeBracket then some .closeBracket
  else if c = Ascii.openParen then some .openParen
  else if c = Ascii.closeParen then some .closeParen
  else if c = Ascii.star then some .star
  else if c = Ascii.slash then some .slash
  else if c = Ascii.plus then some .plus
  else if c = Ascii.minus then some .minus
  else if c = Ascii.percent then some .percent
  else if c = Ascii.equals then some .equal
  else if c = Ascii.less then some .less
  else if c = Ascii.greater then some .greater
  else if c = Ascii.bang then some .bang
  else if c = Ascii.dot then some .dot
  else if c = Ascii.comma then some .comma
  else if c = Ascii.colon then some .colon
  else if c = Ascii.question then some .question
  else if c = Ascii.ampersand then some .bitAnd
  else if c = Ascii.pipe then some .bitOr
  else if c = Ascii.tilde then some .bitNot
  else if c = Ascii.caret then some .bitXor
  else if c = Ascii.backtick then some .backtick
  else if c = Ascii.apostrophe then some .apostrophe
  else if c = Ascii.semicolon then some .semicolon
  else none

def operator? : Bytes → Option Piece
  | Ascii.equals :: Ascii.equals :: _ => some ⟨some .sameAs, 2⟩
  | Ascii.equals :: Ascii.greater :: _ => some ⟨some .fatArrow, 2⟩
  | Ascii.bang :: Ascii.equals :: _ => some ⟨some .notSame, 2⟩
  | Ascii.greater :: Ascii.equals :: _ => some ⟨some .greaterEqual, 2⟩
  | Ascii.less :: Ascii.equals :: _ => some ⟨some .lessEqual, 2⟩
  | Ascii.ampersand :: Ascii.ampersand :: _ => some ⟨some .both, 2⟩
  | Ascii.pipe :: Ascii.pipe :: _ => some ⟨some .either, 2⟩
  | Ascii.colon :: Ascii.colon :: _ => some ⟨some .doubleColon, 2⟩
  | Ascii.dot :: Ascii.dot :: Ascii.dot :: _ => some ⟨some .ellipsis, 3⟩
  | _ => none

def comment? : Bytes → Option Piece
  | Ascii.hash :: s => some ⟨some .comment, 1 + lineSize s⟩
  | Ascii.slash :: Ascii.slash :: s => some ⟨some .comment, 2 + lineSize s⟩
  | Ascii.slash :: Ascii.star :: s =>
    (bracketedSize? s).map fun n => ⟨some .comment, 2 + n⟩
  | _ => none

def isBlank (c : UInt8) : Bool :=
  c = Ascii.space || c = Ascii.tab

def codePiece (c : UInt8) (s : Bytes) : Piece :=
  let all := c :: s
  if isBlank c then ⟨none, 1 + (s.takeWhile isBlank).length⟩
  else if Ascii.isDigit c then ⟨some .number, 1 + numberSize s⟩
  else
    match comment? all with
    | some p => p
    | none =>
      match operator? all with
      | some p => p
      | none =>
        match lineEndSize? all with
        | some n => ⟨some .newline, n⟩
        | none =>
          match symbolKind? c with
          | some k => ⟨some k, 1⟩
          | none =>
            match identifier? all with
            | some n => ⟨some .identifier, n⟩
            | none =>
              match Text.characterSize? all with
              | some n => ⟨some .invalid, n⟩
              | none => ⟨some .badEncoding, 1⟩

def sequenceStart? : Bytes → Option Piece
  | c :: Ascii.openBrace :: s =>
    let size := if s.head? = some Ascii.tilde then 3 else 2
    if c = Ascii.dollar then some ⟨some .interpolation, size⟩
    else if c = Ascii.percent then some ⟨some .directive, size⟩
    else none
  | _ => none

/-- The size of a sign that could start a sequence but does not: doubled it stands for the
start of a sequence, and before anything but a brace it stands for itself. -/
def loneSign? : Bytes → Option Nat
  | c :: d :: s =>
    if c ≠ Ascii.dollar ∧ c ≠ Ascii.percent then none
    else if d = Ascii.openBrace then none
    else if d = c ∧ s.head? = some Ascii.openBrace then
      some (if s.tail.head? = some Ascii.tilde then 4 else 3)
    else some 1
  | _ => none

def isLineEnd (c : UInt8) : Bool :=
  c = Ascii.newline || c = Ascii.carriageReturn

/-- How many bytes of quoted text there are before the next sign, quote, line end or broken
character, of which `skip` belong to the current character. -/
def quotedSize : Nat → Bytes → Nat
  | _, [] => 0
  | skip + 1, _ :: s => 1 + quotedSize skip s
  | 0, c :: s =>
    if c = Ascii.backslash then
      match s with
      | [] => 0
      | d :: _ =>
        if isLineEnd d then 0
        else
          match Text.characterSize? s with
          | some n => 1 + quotedSize n s
          | none => 0
    else if c = Ascii.dollar ∨ c = Ascii.percent ∨ c = Ascii.quote ∨ isLineEnd c then 0
    else
      match Text.characterSize? (c :: s) with
      | some n => 1 + quotedSize (n - 1) s
      | none => 0

inductive PlainState where
  | ready
  /-- This many more bytes belong to the current character. -/
  | inCharacter (more : Nat)
  /-- The byte before is a sign, and the next one does not make it start a sequence. -/
  | afterSign
  deriving DecidableEq, Repr

inductive RunEnd where
  | lineEnd (size : Nat)
  | beforeLineEnd
  | midline
  deriving DecidableEq, Repr

def isLeadByte (c : UInt8) : Bool :=
  decide (0xC0 ≤ c ∧ c ≤ 0xF7)

/-- How many bytes of a text block belong together, and what stops them. A sign that starts no
sequence makes a pair with the byte after it, whatever that is. A sign right after a pair stands
for a pair of its own, and a line end or a longer character right after a pair stands apart from
it; a broken character there is not even taken for the second half of the pair. -/
def plainRun : PlainState → Bytes → Nat × RunEnd
  | _, [] => (0, .midline)
  | .inCharacter 0, c :: s | .ready, c :: s =>
    if c = Ascii.dollar ∨ c = Ascii.percent then
      if s.head? = some Ascii.openBrace then (0, .midline)
      else more (plainRun .afterSign s)
    else
      match lineEndSize? (c :: s) with
      | some e => (0, .lineEnd e)
      | none =>
        if c = Ascii.carriageReturn then (0, .midline)
        else
          match Text.characterSize? (c :: s) with
          | some n => more (plainRun (.inCharacter (n - 1)) s)
          | none => (0, .midline)
  | .inCharacter (n + 1), _ :: s => more (plainRun (.inCharacter n) s)
  | .afterSign, _ :: s =>
    match s with
    | [] => (0, .midline)
    | d :: _ =>
      if d = Ascii.dollar ∨ d = Ascii.percent then more (plainRun .afterSign s)
      else if d = Ascii.newline then (1, .beforeLineEnd)
      else if d = Ascii.carriageReturn ∨ isLeadByte d then (1, .midline)
      else if d < 0x80 then more (plainRun .ready s)
      else (0, .midline)
where
  more (run : Nat × RunEnd) : Nat × RunEnd := (1 + run.1, run.2)

def quotedPiece (c : UInt8) (s : Bytes) : Piece :=
  let all := c :: s
  match loneSign? all with
  | some n => ⟨some .quotedText, n⟩
  | none =>
    if isLineEnd c then ⟨some .quotedNewline, (all.takeWhile isLineEnd).length⟩
    else
      match quotedSize 0 all with
      | n + 1 => ⟨some .quotedText, n + 1⟩
      | 0 =>
        match Text.characterSize? all with
        | some n => ⟨some .invalid, n⟩
        | none => ⟨some .badEncoding, 1⟩

/-- The next pieces of the input `c :: s` in a place, and the places after them; `outer` are
the places around it. -/
def nextPieces (place : Place) (outer : List Place) (c : UInt8) (s : Bytes) :
    List Piece × List Place :=
  let all := c :: s
  match place with
  | .code braces nested =>
    if c = Ascii.openBrace then ([⟨some .openBrace, 1⟩], .code (braces + 1) nested :: outer)
    else if c = Ascii.closeBrace then
      if nested && braces == 0 then ([⟨some .sequenceEnd, 1⟩], outer)
      else ([⟨some .closeBrace, 1⟩], .code (braces - 1) nested :: outer)
    else if c = Ascii.tilde ∧ s.head? = some Ascii.closeBrace then
      if nested && braces == 0 then ([⟨some .sequenceEnd, 2⟩], outer)
      else ([⟨some .sequenceEnd, 2⟩], .code (braces - 1) nested :: outer)
    else if c = Ascii.quote then ([⟨some .openQuote, 1⟩], .quoted :: place :: outer)
    else
      match (if c = Ascii.less ∧ s.head? = some Ascii.less then heredocStart? s.tail else none) with
      | some (size, marker) =>
        ([⟨some .openHeredoc, 2 + size⟩], .heredoc marker true :: place :: outer)
      | none => ([codePiece c s], place :: outer)
  | .quoted =>
    if c = Ascii.quote then ([⟨some .closeQuote, 1⟩], outer)
    else
      match sequenceStart? all with
      | some p => ([p], .code 0 true :: place :: outer)
      | none => ([quotedPiece c s], place :: outer)
  | .heredoc marker lineStart =>
    match sequenceStart? all with
    | some p => ([p], .code 0 true :: .heredoc marker false :: outer)
    | none =>
      let (size, finish) := plainRun .ready all
      match finish with
      | .lineEnd e =>
        if lineStart ∧ Text.trimBoth (all.take size) = marker then
          ([⟨some .closeHeredoc, size⟩, ⟨some .newline, e⟩], outer)
        else ([⟨some .plainText, size + e⟩], .heredoc marker true :: outer)
      | .beforeLineEnd => ([⟨some .plainText, size⟩], .heredoc marker true :: outer)
      | .midline =>
        if 0 < size then ([⟨some .plainText, size⟩], .heredoc marker false :: outer)
        else if (Text.characterSize? all).isNone then ([⟨some .badEncoding, 1⟩], place :: outer)
        else ([⟨some .invalid, all.length⟩], place :: outer)

/-- The tokens of some pieces of a text that starts at a position, and the position after
them. Blanks move it on by their bytes, tokens by their characters. -/
def cutPieces (file : Bytes) : Position → Bytes → List Piece → List Token × Position
  | p, _, [] => ([], p)
  | p, s, piece :: rest =>
    match piece.kind with
    | none =>
      cutPieces file ⟨p.line, p.column + piece.size, p.byte + piece.size⟩ (s.drop piece.size) rest
    | some kind =>
      let text := s.take piece.size
      let q := p.advance .lineFeed text
      let (tokens, last) := cutPieces file q (s.drop piece.size) rest
      (⟨kind, text, ⟨file, p, q⟩⟩ :: tokens, last)

/-- The tokens of the text that starts at a position, in the places given innermost first.
Outside of all places stands code. -/
def scanFrom (file : Bytes) (p : Position) (places : List Place) : Bytes → List Token
  | [] => [⟨.endOfFile, [], ⟨file, p, p⟩⟩]
  | c :: s =>
    let (place, outer) := match places with
      | [] => (Place.code 0 false, [])
      | place :: outer => (place, outer)
    let (pieces, places) := nextPieces place outer c s
    let size := pieces.foldr (fun piece n => piece.size + n) 0
    let (tokens, q) := cutPieces file p (c :: s) pieces
    tokens ++ scanFrom file q places (s.drop (size - 1))
termination_by s => s.length
decreasing_by simp only [List.length_drop, List.length_cons]; omega

/-- The tokens of a project file. A byte order mark at its start is passed over. -/
def scan (file content : Bytes) : List Token :=
  match content with
  | 0xEF :: 0xBB :: 0xBF :: s => scanFrom file ⟨1, 1, 3⟩ [] s
  | s => scanFrom file .start [] s

end DefOut.Project
