import DefOut.Project.Declaration
import DefOut.Project.Evaluation

set_option autoImplicit false

/-!
Local values: the arguments of all `locals` blocks of a project together. Every name is given
once, and no local value can refer to another, so the order in which they are looked at does
not matter to the values.
-/
namespace DefOut.Project

inductive LocalsError where
  | nestedBlock (file type : Bytes) (range : Range)
  | duplicate (name : Bytes) (range first : Range)
  | evaluation (name : Bytes) (faults : List Diagnostic)
  deriving DecidableEq, Repr

def LocalsError.message : LocalsError → Bytes
  | nestedBlock file type range =>
    "failed to read locals in " ++ file ++ ": "
      ++ Diagnostic.message
        ⟨"Unexpected " ++ Text.quoted type ++ " block", "Blocks are not allowed here.", some range⟩
  | duplicate name range first =>
    Diagnostic.message ⟨"Duplicate local value",
      "Local " ++ Text.quoted name ++ " was already defined at " ++ first.render ++ ".",
      some range⟩
  | evaluation name faults =>
    "failed to evaluate local " ++ Text.quoted name ++ ": " ++ Diagnostic.messageAll faults

/-- How an expression becomes a value when no names are known. -/
abbrev Evaluator := Expression → Except (List Diagnostic) Value

def Expression.evalClosed : Evaluator := fun e =>
  let o := e.eval {}
  if o.faults.isEmpty then .ok o.value else .error o.faults

abbrev Locals := List (Bytes × Range × Value)

namespace Locals

def rangeOf? (found : Locals) (name : Bytes) : Option Range :=
  (found.find? fun l => l.1 == name).map fun l => l.2.1

def addArguments (eval : Evaluator) : List Argument → Locals → Except LocalsError Locals
  | [], found => .ok found
  | a :: rest, found =>
    match found.rangeOf? a.name with
    | some first => .error (.duplicate a.name a.nameRange first)
    | none =>
      match eval a.value with
      | .error faults => .error (.evaluation a.name faults)
      | .ok v => addArguments eval rest (found ++ [(a.name, a.nameRange, v)])

/-- Add the arguments of blocks, each with the file it stands in. A block inside one of them is
not allowed. -/
def addBlocks (eval : Evaluator) : List (Bytes × Body) → Locals → Except LocalsError Locals
  | [], found => .ok found
  | (file, body) :: rest, found =>
    match body.blocks with
    | b :: _ => .error (.nestedBlock file b.type b.typeRange)
    | [] =>
      match addArguments eval body.arguments found with
      | .error e => .error e
      | .ok found => addBlocks eval rest found

def ofFiles (eval : Evaluator) (files : List ProjectFile) : Except LocalsError Locals :=
  addBlocks eval (files.flatMap fun f => f.locals.map fun body => (f.path, body)) []

def toValue (found : Locals) : Value :=
  .ofAttributes (found.map fun l => (l.1, l.2.2))

end Locals
end DefOut.Project
