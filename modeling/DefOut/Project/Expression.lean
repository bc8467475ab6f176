import DefOut.Position
import DefOut.Project.Value

set_option autoImplicit false

/-!
The expressions of project files. Every expression knows the range it was read from, because
faults are reported at the part of an expression that causes them.
-/
namespace DefOut.Project

inductive Step where
  | member (name : Bytes) (range : Range)
  | index (key : Value) (range : Range)
  deriving Repr

inductive UnaryOperator where
  | negate
  | not
  deriving DecidableEq, Repr

inductive BinaryOperator where
  | or
  | and
  | equal
  | notEqual
  | greater
  | greaterEqual
  | less
  | lessEqual
  | add
  | subtract
  | multiply
  | divide
  | modulo
  deriving DecidableEq, Repr

structure LoopNames where
  key : Option Bytes
  value : Bytes
  deriving DecidableEq, Repr

mutual

inductive Expression where
  | literal (value : Value) (range : Range)
  | reference (name : Bytes) (nameRange : Range) (steps : List Step) (range : Range)
  | path (source : Expression) (steps : List Step) (range : Range)
  | index (collection key : Expression) (bracket range : Range)
  /-- `each`, evaluated for every part of the source in turn as the current item. -/
  | splat (source each : Expression) (range : Range)
  /-- The current item of the innermost splat. -/
  | item (range : Range)
  | call (name : Bytes) (arguments : List Expression) (range : Range)
  | unary (operator : UnaryOperator) (operand : Expression) (range : Range)
  | binary (operator : BinaryOperator) (left right : Expression) (range : Range)
  | conditional (condition yes no : Expression) (range : Range)
  | tuple (items : List Expression) (range : Range)
  | object (items : List ObjectItem) (range : Range)
  | tupleFor (names : LoopNames) (collection value : Expression)
    (condition : Option Expression) (range : Range)
  /-- An object with one attribute for every element of a collection; with `grouped`, elements
  of the same key are gathered in a tuple. -/
  | objectFor (names : LoopNames) (collection key value : Expression)
    (condition : Option Expression) (grouped : Bool) (range : Range)
  | template (parts : List Expression) (range : Range)
  /-- A text that consists of one interpolation: the value of its expression, whatever its
  kind. -/
  | wrapped (inner : Expression) (range : Range)
  | joined (inner : Expression)
  | parenthesized (inner : Expression) (range : Range)

/-- An attribute of an object expression. A bare name as a key stands for itself unless it is
`computed`, that is, written in parentheses. -/
inductive ObjectItem where
  | mk (computed : Bool) (key value : Expression)

end

namespace Expression

def range : Expression → Range
  | literal _ r | reference _ _ _ r | path _ _ r | index _ _ _ r | splat _ _ r | item r
  | call _ _ r | unary _ _ r | binary _ _ _ r | conditional _ _ _ r | tuple _ r | object _ r
  | tupleFor _ _ _ _ r | objectFor _ _ _ _ _ _ r | template _ r | wrapped _ r
  | parenthesized _ r => r
  | joined e => e.range

def missing (r : Range) : Expression :=
  literal .nothing r

def extend (e : Expression) (step : Step) (stepRange : Range) : Expression :=
  match e with
  | reference name nameRange steps r =>
    reference name nameRange (steps ++ [step]) (r.between stepRange)
  | path source steps r => path source (steps ++ [step]) (r.between stepRange)
  | e => path e [step] (e.range.between stepRange)

def bareName? : Expression → Option Bytes
  | reference name _ [] _ => some name
  | literal (.null _) _ => some "null"
  | literal (.bool b) _ => some (Bytes.ofBool b)
  | _ => none

def constantKey? : Expression → Option Value
  | literal v _ => some v
  | template [literal (.string s) _] _ => some (.string s)
  | _ => none

end Expression
end DefOut.Project
