import DefOut.Ascii
import DefOut.Diagnostic
import DefOut.Project.Token

set_option autoImplicit false

/-!
Reading tokens one after the other. Comments are passed over, except that one which runs up to
a line end counts as that line end; line ends are passed over where they have no meaning. After
a fault the reader skips to a place from which it can go on, and from then on it reports only
faults that are not likely to be consequences of the first one.
-/
namespace DefOut.Project

structure Reader where
  rest : List Token
  /-- The end of the file, which can be read any number of times. -/
  finish : Token
  last : Option Range := none
  /-- Whether line ends have a meaning, for each bracket that is open, innermost first. -/
  lineEnds : List Bool := []
  recovering : Bool := false
  /-- The faults, latest first. -/
  faults : List Diagnostic := []

abbrev Reading := StateM Reader

def nextToken? (lineEnds : Bool) : List Token → Option (Token × List Token)
  | [] => none
  | t :: rest =>
    if t.kind = .comment then
      if lineEnds && t.text.getLast? = some Ascii.newline then
        some ({ t with kind := .newline, text := [Ascii.newline] }, rest)
      else nextToken? lineEnds rest
    else if t.kind = .newline && !lineEnds then nextToken? lineEnds rest
    else some (t, rest)

def Reader.next (r : Reader) : Token × Reader :=
  match nextToken? (r.lineEnds.headD true) r.rest with
  | some (t, rest) => (t, { r with rest, last := some t.range })
  | none => (r.finish, { r with rest := [], last := some r.finish.range })

namespace Reading

def peek : Reading Token := do
  return (← get).next.1

def read : Reading Token :=
  modifyGet fun r => r.next

def peekKind : Reading TokenKind := do
  return (← peek).kind

def atWord (word : Bytes) : Reading Bool := do
  let t ← peek
  return t.kind = .identifier && t.text == word

/-- Where the last token stood, or where the first one will. -/
def lastRange : Reading Range := do
  match (← get).last with
  | some r => return r
  | none => return (← peek).range

def recovering : Reading Bool := do
  return (← get).recovering

def startRecovery : Reading Unit :=
  modify fun r => { r with recovering := true }

def reportAll (faults : List Diagnostic) : Reading Unit :=
  modify fun r => { r with faults := faults.reverse ++ r.faults }

def report (summary detail : Bytes) (range : Range) : Reading Unit :=
  reportAll [⟨summary, detail, some range⟩]

def reportFirst (summary detail : Bytes) (range : Range) : Reading Unit := do
  unless ← recovering do report summary detail range

def watching {α : Type} (step : Reading α) : Reading (α × Bool) := do
  let before := (← get).faults.length
  let a ← step
  return (a, decide (before < (← get).faults.length))

/-- Do something, and tell whether it went wrong so that the place it ended at means nothing. -/
def checking {α : Type} (step : Reading α) : Reading (α × Bool) := do
  let (a, faulty) ← watching step
  return (a, faulty && (← recovering))

def collecting {α : Type} (step : Reading α) : Reading (α × List Diagnostic) := do
  let before := (← get).faults
  modify fun r => { r with faults := [] }
  let a ← step
  let found := (← get).faults.reverse
  modify fun r => { r with faults := before }
  return (a, found)

def withLineEnds {α : Type} (meaning : Bool) (step : Reading α) : Reading α := do
  modify fun r => { r with lineEnds := meaning :: r.lineEnds }
  let a ← step
  modify fun r => { r with lineEnds := r.lineEnds.tail }
  return a

/-- As many steps as a loop can take that takes a token in every round. -/
def rounds : Reading Nat := do
  return (← get).rest.length + 2

/-- Take tokens up to the one that closes the current bracket. `nested` counts the brackets of
the same kind opened on the way. -/
def skipPast (close : TokenKind) : Nat → (nested : Nat) → Reading Token
  | 0, _ => read
  | n + 1, nested => do
    let t ← read
    let kind := if close = .sequenceEnd ∧ t.kind = .directive then .interpolation else t.kind
    if close.opposite? = some kind then skipPast close n (nested + 1)
    else if kind = close then
      if nested = 0 then return t else skipPast close n (nested - 1)
    else if kind = .endOfFile then return t
    else skipPast close n nested

/-- Skip to behind the token that closes the current bracket, or to the end of the file, and
give the last token taken. -/
def recover (close : TokenKind) : Reading Token := do
  startRecovery
  skipPast close (← rounds) 0

def skipTo (kind : TokenKind) : Nat → Reading Unit
  | 0 => return
  | n + 1 => do
    let t ← read
    if t.kind = kind ∨ t.kind = .endOfFile then return else skipTo kind n

def recoverOver (start : TokenKind) : Reading Unit := do
  skipTo start (← rounds)
  let _ ← recover (start.opposite?.getD .endOfFile)

/-- Close the innermost bracket that satisfies `p`, and with it all that are inside. -/
def closeUntil (p : TokenKind → Bool) (opened : List TokenKind) : List TokenKind :=
  (opened.dropWhile fun k => !p k).tail

/-- Take tokens up to a line end outside of all brackets in `opened`, innermost first. -/
def skipItem : Nat → (opened : List TokenKind) → Reading Unit
  | 0, _ => return
  | n + 1, opened => do
    let t ← read
    match t.kind with
    | .newline => if opened.isEmpty then return else skipItem n opened
    | .endOfFile => return
    | .openBrace | .openBracket | .openParen | .openQuote | .openHeredoc | .interpolation
    | .directive => skipItem n (t.kind :: opened)
    | .closeBrace | .closeBracket | .closeParen | .closeQuote | .closeHeredoc =>
      skipItem n (closeUntil (fun k => t.kind.opposite? = some k) opened)
    | .sequenceEnd =>
      skipItem n (closeUntil (fun k => k = .interpolation || k = .directive) opened)
    | _ => skipItem n opened

def recoverAfterItem : Reading Unit := do
  startRecovery
  skipItem (← rounds) []

end Reading
end DefOut.Project
