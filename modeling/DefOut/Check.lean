import DefOut.Rejection
import DefOut.Symbols

set_option autoImplicit false

/-!
Checking a lexeme text. Every logical line must have one of three shapes; only when all lines
have one are the variables looked up among the declared names. `check` gives the first
violation, `isValid` whether there is none.
-/
namespace DefOut

/-- Whether tokens hold at least one operand and one more operand than operators. The assign
lexeme counts as an operator where the table says so; other tokens are passed over. -/
def isOperation (t : Table) (tokens : List Bytes) : Bool :=
  let operators := tokens.countP t.isOperator
  let operands := tokens.countP fun token => !t.isOperator token && (t.classify token).isOperand
  decide (0 < operands ∧ operators + 1 = operands)

/-- The rule that a line with these words breaks, if any. A declare lexeme anywhere makes the
line a declaration, else an assign lexeme makes it an assignment, else an output lexeme makes
it an output statement. -/
def shapeFault? (t : Table) (words : List Bytes) : Option RejectionKind :=
  let kinds := words.map t.classify
  if kinds.contains .declare then
    if kinds = [.declare, .name, .assign, .number] then none
    else some .malformedDeclaration
  else if kinds.contains .assign then
    if kinds.head? = some .name ∧ isOperation t words then none
    else some .malformedAssignment
  else if kinds.contains .output then
    if kinds.head? = some .output ∧ isOperation t words then none
    else some .malformedOutput
  else some .unrecognizedLine

/-- The place of the byte `n` of a line. Columns count symbols. -/
def LogicalLine.position (l : LogicalLine) (n : Nat) : Position :=
  ⟨l.number, 1 + Text.symbolCount (l.text.take n), l.offset + n⟩

def LogicalLine.reject (l : LogicalLine) (kind : RejectionKind) (start : Nat) (text : Bytes) :
    Rejection where
  line := l.number
  kind := kind
  text := text
  first := l.position start
  last := l.position (start + text.length)

def shapeRejection? (t : Table) (l : LogicalLine) : Option Rejection :=
  (shapeFault? t l.words).map fun kind => l.reject kind 0 l.text

def undeclaredFrom? (t : Table) (declared : SymbolTable) (l : LogicalLine) :
    Nat → List Bytes → Option Rejection
  | _, [] => none
  | start, word :: rest =>
    if t.classify word = .name ∧ !declared.declares word then
      some (l.reject .undeclaredVariable start word)
    else undeclaredFrom? t declared l (start + word.length + 1) rest

def check (t : Table) (lexemes : Bytes) : Option Rejection :=
  let lines := logicalLines lexemes
  match lines.findSome? (shapeRejection? t) with
  | some r => some r
  | none =>
    let declared := declaredNames lexemes
    lines.findSome? fun l => undeclaredFrom? t declared l 0 l.words

def isValid (t : Table) (lexemes : Bytes) : Bool :=
  (check t lexemes).isNone

end DefOut
