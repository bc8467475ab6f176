import DefOut.Ascii
import DefOut.Text.Quoted

set_option autoImplicit false

/-!
Language tables. A table says how keywords of the source are written as lexemes, how lexemes
are written in the generated code, and which tokens are operators. `Table.ofParts` accepts a
table only when the keyword substitution can be undone: no two keywords share a lexeme, and
nothing is empty.
-/
namespace DefOut

/-- The lexemes with a fixed meaning. The lexer never produces `endOutput` or `power`; they
occur in the targets only. -/
def Lexeme.declare : Bytes := "#"

@[inherit_doc Lexeme.declare]
def Lexeme.assign : Bytes := "="

@[inherit_doc Lexeme.declare]
def Lexeme.output : Bytes := ">"

@[inherit_doc Lexeme.declare]
def Lexeme.endOutput : Bytes := "|"

@[inherit_doc Lexeme.declare]
def Lexeme.power : Bytes := "^"

def Lexeme.separator : UInt8 := Ascii.semicolon

structure Mapping where
  source : Bytes
  target : Bytes
  deriving DecidableEq, Repr

inductive TableError where
  | emptySide (m : Mapping)
  | repeatedKeyword (keyword : Bytes)
  | sharedLexeme (lexeme first second : Bytes)
  | emptyTarget (target : Bytes)
  | repeatedTarget (lexeme : Bytes)
  deriving DecidableEq, Repr

def TableError.message : TableError → Bytes
  | emptySide m =>
    "keyword mapping " ++ Text.quoted m.source ++ " -> " ++ Text.quoted m.target
      ++ " has an empty side"
  | repeatedKeyword keyword => "keyword " ++ Text.quoted keyword ++ " is mapped more than once"
  | sharedLexeme lexeme first second =>
    "lexeme " ++ Text.quoted lexeme ++ " is shared by keywords " ++ Text.quoted first
      ++ " and " ++ Text.quoted second
  | emptyTarget target => "target mapping for " ++ Text.quoted target ++ " has an empty lexeme"
  | repeatedTarget lexeme => "lexeme " ++ Text.quoted lexeme ++ " has more than one target"

structure Table where
  keywords : List Mapping
  targets : List Mapping
  operators : List Bytes
  deriving DecidableEq, Repr

namespace Table

/-- The rule that keyword `m` breaks after the keywords in `seen`, the first of them when it
breaks several. -/
def keywordFault? (seen : List Mapping) (m : Mapping) : Option TableError :=
  if m.source = [] ∨ m.target = [] then some (.emptySide m)
  else if seen.any (fun k => k.source == m.source) then some (.repeatedKeyword m.source)
  else
    (seen.find? fun k => k.target == m.target).map fun k =>
      .sharedLexeme m.target k.source m.source

def targetFault? (seen : List Mapping) (m : Mapping) : Option TableError :=
  if m.source = [] then some (.emptyTarget m.target)
  else if seen.any (fun k => k.source == m.source) then some (.repeatedTarget m.source)
  else none

def firstFault? (fault? : List Mapping → Mapping → Option TableError) :
    List Mapping → List Mapping → Option TableError
  | _, [] => none
  | seen, m :: rest =>
    match fault? seen m with
    | some e => some e
    | none => firstFault? fault? (seen ++ [m]) rest

def distinctSorted (texts : List Bytes) : List Bytes :=
  (Bytes.sort texts).eraseReps

/-- The table with these parts, or the first fault: keywords are judged before targets. -/
def ofParts (keywords targets : List Mapping) (operators : List Bytes) :
    Except TableError Table :=
  match firstFault? keywordFault? [] keywords with
  | some e => .error e
  | none =>
    match firstFault? targetFault? [] targets with
    | some e => .error e
    | none => .ok ⟨keywords, targets, distinctSorted operators⟩

def standard : Table where
  keywords := [
    ⟨"def", Lexeme.declare⟩,
    ⟨"=", Lexeme.assign⟩,
    ⟨"\n", [Lexeme.separator]⟩,
    ⟨"out", Lexeme.output⟩]
  targets := [
    ⟨Lexeme.declare, "Number"⟩,
    ⟨Lexeme.assign, "="⟩,
    ⟨[Lexeme.separator], ";\n\t"⟩,
    ⟨Lexeme.output, "cout <<"⟩,
    ⟨Lexeme.endOutput, "<< endl"⟩,
    ⟨Lexeme.power, "%"⟩]
  operators := ["*", "+", "-", "/", Lexeme.assign, Lexeme.power]

/-- Whether a token is an operator. The assign lexeme may be one too. -/
def isOperator (t : Table) (token : Bytes) : Bool :=
  t.operators.contains token

theorem isOperator_iff (t : Table) (token : Bytes) :
    t.isOperator token = true ↔ token ∈ t.operators :=
  List.contains_iff_mem

end Table

inductive TokenKind where
  | other
  | declare
  | assign
  | output
  | operator
  | name
  | number
  deriving DecidableEq, Repr

namespace TokenKind

def label : TokenKind → Bytes
  | other => "other"
  | declare => "declare"
  | assign => "assign"
  | output => "output"
  | operator => "operator"
  | name => "variable"
  | number => "number"

def isOperand : TokenKind → Bool
  | name => true
  | number => true
  | _ => false

end TokenKind

def isVariableName (token : Bytes) : Bool :=
  !token.isEmpty && token.all Ascii.isLetter

theorem isVariableName_iff (token : Bytes) : isVariableName token = true ↔
    token ≠ [] ∧ ∀ c ∈ token, (0x41 ≤ c ∧ c ≤ 0x5A) ∨ (0x61 ≤ c ∧ c ≤ 0x7A) := by
  simp [isVariableName, Ascii.isLetter_iff]

def isNumber (token : Bytes) : Bool :=
  !token.isEmpty && token.all Ascii.isDigit

theorem isNumber_iff (token : Bytes) :
    isNumber token = true ↔ token ≠ [] ∧ ∀ c ∈ token, 0x30 ≤ c ∧ c ≤ 0x39 := by
  simp [isNumber, Ascii.isDigit_iff]

/-- The class of a token. The fixed lexemes come first, so the assign lexeme never has the class
`operator`, although it may count as one. -/
def Table.classify (t : Table) (token : Bytes) : TokenKind :=
  if token = Lexeme.declare then .declare
  else if token = Lexeme.assign then .assign
  else if token = Lexeme.output then .output
  else if t.isOperator token then .operator
  else if isVariableName token then .name
  else if isNumber token then .number
  else .other

end DefOut
