import DefOut.Diagnostic
import DefOut.Project.Expression
import DefOut.Text.Grapheme
import DefOut.Text.Space

set_option autoImplicit false

/-!
Texts with interpolated expressions and directives. The parts of a text are first read one by
one; here common indentation is taken from them (`dedent`), neighbouring literals become one
(`meld`), and directives are matched with their ends (`assemble`).
-/
namespace DefOut.Project

inductive Closer where
  | otherwise
  | endIf
  | endFor
  deriving DecidableEq, Repr

def Closer.label : Closer → Bytes
  | otherwise => "else"
  | endIf => "endif"
  | endFor => "endfor"

inductive Part where
  | literal (text : Bytes) (range : Range)
  | interpolation (inner : Expression)
  | ifStart (condition : Expression) (range : Range)
  | forStart (names : LoopNames) (collection : Expression) (range : Range)
  | closer (which : Closer) (range : Range)

namespace Part

def endsLine : Part → Bool
  | literal text _ => text.getLast? = some Ascii.newline
  | _ => false

def indentation (text : Bytes) : Nat :=
  (Text.clusters (text.take (text.length - (Text.trimStart text).length))).length

def isBlankLine (text : Bytes) : Bool :=
  (Text.trimStart text).isEmpty && text.getLast? = some Ascii.newline

/-- The smallest indentation of the lines that start in `parts`; empty lines do not count.
`lineStart` says that a line starts here. -/
def commonIndentation (lineStart : Bool) : List Part → Option Nat
  | [] => none
  | p :: rest =>
    let here := if !lineStart then none else
      match p with
      | literal text _ => if isBlankLine text then none else some (indentation text)
      | _ => some 0
    match here, commonIndentation p.endsLine rest with
    | some m, some n => some (min m n)
    | some m, none => some m
    | none, n => n

def outdent (n : Nat) (lineStart : Bool) : List Part → List Part
  | [] => []
  | p :: rest =>
    (match p with
      | literal text r =>
        if lineStart && !isBlankLine text then literal ((Text.clusters text).drop n).flatten r
        else p
      | p => p) :: outdent n p.endsLine rest

def dedent (parts : List Part) : List Part :=
  match commonIndentation true parts with
  | some n => outdent n true parts
  | none => parts

def meld : List Part → List Part
  | [] => []
  | p :: rest =>
    match p, meld rest with
    | literal a r, literal b s :: rest => literal (a ++ b) (r.between s) :: rest
    | p, rest => p :: rest

end Part

structure Assembly where
  rest : List Part
  faults : List Diagnostic := []

abbrev Assembling := StateM Assembly

namespace Assembling

def report (summary detail : Bytes) (range : Range) : Assembling Unit :=
  modify fun a => { a with faults := ⟨summary, detail, some range⟩ :: a.faults }

def take : Assembling (Option Part) :=
  modifyGet fun a => (a.rest.head?, { a with rest := a.rest.tail })

/-- A text of some parts; without any it is an empty text at the given place. -/
def textOf (parts : List Expression) (place : Range) : Expression :=
  match parts with
  | [] => .template [.literal (.string []) place] place
  | first :: rest =>
    .template parts (first.range.between ((first :: rest).getLast (by simp)).range)

/-- The rest of an `if` directive. `yes` and `no` are the parts of its two branches so far,
last first. -/
def ifRest (element : Assembling Expression) (condition : Expression) (start finish : Range) :
    Nat → (inElse : Bool) → (yes no : List Expression) → Assembling Expression
  | 0, _, _, _ => return .missing finish
  | n + 1, inElse, yes, no => do
    match (← get).rest.head? with
    | none =>
      report "Unexpected end of template"
        ("The if directive at " ++ start.render
          ++ " is missing its corresponding endif directive.") finish
      return .missing finish
    | some (.closer which r) =>
      let _ ← take
      match which, inElse with
      | .otherwise, false => ifRest element condition start finish n true yes no
      | .otherwise, true =>
        report "Unexpected else directive"
          ("Already in the else clause for the if started at " ++ start.render ++ ".") r
        return .missing r
      | .endIf, _ =>
        let afterStart : Range := ⟨start.file, start.last, start.last⟩
        return .conditional condition (textOf yes.reverse afterStart)
          (textOf no.reverse r.atStart) (start.between r)
      | .endFor, _ =>
        report "Unexpected endfor directive"
          ("Expecting an endif directive for the if started at " ++ start.render ++ ".") r
        return .missing r
    | some _ =>
      let e ← element
      if inElse then ifRest element condition start finish n inElse yes (e :: no)
      else ifRest element condition start finish n inElse (e :: yes) no

def forRest (element : Assembling Expression) (names : LoopNames) (collection : Expression)
    (start finish : Range) : Nat → (content : List Expression) → Assembling Expression
  | 0, _ => return .missing finish
  | n + 1, content => do
    match (← get).rest.head? with
    | none =>
      report "Unexpected end of template"
        ("The for directive at " ++ start.render
          ++ " is missing its corresponding endfor directive.") finish
      return .missing finish
    | some (.closer which r) =>
      let _ ← take
      match which with
      | .otherwise =>
        report "Unexpected else directive" "An else clause is not expected for a for directive." r
        return .missing r
      | .endFor =>
        let afterStart : Range := ⟨start.file, start.last, start.last⟩
        return .joined (.tupleFor names collection (textOf content.reverse afterStart) none
          (start.between r))
      | .endIf =>
        report "Unexpected endif directive"
          ("Expecting an endfor directive corresponding to the for directive at "
            ++ start.render ++ ".") r
        return .missing r
    | some _ => forRest element names collection start finish n ((← element) :: content)

/-- The next expression of a text that ends at `finish`. The first argument bounds how deeply
directives are nested. -/
def element (finish : Range) : Nat → Assembling Expression
  | 0 => return .missing finish
  | depth + 1 => do
    let inner := element finish depth
    let rounds := (← get).rest.length + 1
    match ← take with
    | none =>
      report "Unexpected end of template"
        "The control directives within this template are unbalanced." finish
      return .missing finish
    | some (.literal text r) => return .literal (.ofText text) r
    | some (.interpolation e) => return e
    | some (.ifStart condition r) => ifRest inner condition r finish rounds false [] []
    | some (.forStart names collection r) => forRest inner names collection r finish rounds []
    | some (.closer which r) =>
      report ("Unexpected " ++ which.label ++ " directive")
        "The control directives within this template are unbalanced." r
      return .missing r

def elements (finish : Range) (depth : Nat) : Nat → Assembling (List Expression)
  | 0 => return []
  | n + 1 => do
    if (← get).rest.isEmpty then return []
    let e ← element finish depth
    return e :: (← elements finish depth n)

end Assembling

def assemble (parts : List Part) (finish : Range) : List Expression × List Diagnostic :=
  let rounds := parts.length + 1
  let (expressions, a) := (Assembling.elements finish rounds rounds).run { rest := parts }
  (expressions, a.faults.reverse)

end DefOut.Project
