import DefOut.Project.Body
import DefOut.Project.Suggestion

set_option autoImplicit false

/-!
What a project file declares. Its body may hold `locals` blocks, which have no labels and any
arguments, and `program` blocks, which have a name as their label and the arguments `source`,
`source_file` and `output`, all optional. Everything else is a fault.
-/
namespace DefOut.Project

/-- What a body may hold: the names of its arguments, in byte order, and the types of its
blocks with the names of their labels, in byte order. -/
structure Form where
  arguments : List Bytes
  blocks : List (Bytes × List Bytes)

def Form.file : Form where
  arguments := []
  blocks := [("locals", []), ("program", ["name"])]

def Form.program : Form where
  arguments := ["output", "source", "source_file"]
  blocks := []

def Form.labels? (f : Form) (type : Bytes) : Option (List Bytes) :=
  (f.blocks.find? fun b => b.1 == type).map Prod.snd

def Block.labelFault? (b : Block) (names : List Bytes) : Option Diagnostic :=
  let listed := Bytes.ofNat names.length ++ " labels (" ++ Bytes.joinWith ", " names ++ ")"
  let allowed : Bytes := if names.isEmpty then "No labels" else "Only " ++ listed
  match b.labels.drop names.length, names.drop b.labels.length with
  | (_, extra) :: _, _ =>
    some ⟨"Extraneous label for " ++ b.type,
      allowed ++ " are expected for " ++ b.type ++ " blocks.", some extra⟩
  | [], missing :: _ =>
    some ⟨"Missing " ++ missing ++ " for " ++ b.type,
      "All " ++ b.type ++ " blocks must have " ++ listed ++ ".", some b.brace⟩
  | [], [] => none

/-- What is wrong with an argument that the form does not have. A close name that is still free
is suggested, else a block of the same name. -/
def Form.argumentFault? (f : Form) (body : Body) (a : Argument) : Option Diagnostic :=
  if f.arguments.contains a.name then none
  else
    let free := f.arguments.filter fun name => !body.arguments.any fun b => b.name == name
    let hint :=
      match closeName? a.name free, f.labels? a.name with
      | some name, _ => " Did you mean " ++ Text.quoted name ++ "?"
      | none, some _ => " Did you mean to define a block of type " ++ Text.quoted a.name ++ "?"
      | none, none => []
    some ⟨"Unsupported argument",
      "An argument named " ++ Text.quoted a.name ++ " is not expected here." ++ hint,
      some a.nameRange⟩

def Form.blockFault? (f : Form) (b : Block) : Option Diagnostic :=
  if (f.labels? b.type).isSome then none
  else
    let hint :=
      match closeName? b.type (f.blocks.map Prod.fst) with
      | some name => " Did you mean " ++ Text.quoted name ++ "?"
      | none =>
        if f.arguments.contains b.type then
          " Did you mean to define argument " ++ Text.quoted b.type
            ++ "? If so, use the equals sign to assign it a value."
        else []
    some ⟨"Unsupported block type",
      "Blocks of type " ++ Text.quoted b.type ++ " are not expected here." ++ hint,
      some b.typeRange⟩

/-- What is wrong with a body: first the labels of its blocks, then its arguments, then the
types of its blocks. -/
def Form.faults (f : Form) (body : Body) : List Diagnostic :=
  (body.blocks.filterMap fun b => (f.labels? b.type).bind b.labelFault?)
    ++ body.arguments.filterMap (f.argumentFault? body)
    ++ body.blocks.filterMap f.blockFault?

/-- A program's block: its name, the file it stands in, and those of its arguments that are
set. -/
structure Declaration where
  file : Bytes
  name : Bytes
  source : Option Expression
  sourceFile : Option Expression
  output : Option Expression

def Block.valueOf? (b : Block) (name : Bytes) : Option Expression :=
  (b.arguments.find? fun a => a.name == name).map Argument.value

def Block.isLocals (b : Block) : Bool :=
  b.type = "locals" ∧ b.labels = []

def Block.programName? (b : Block) : Option Bytes :=
  match b.labels with
  | [(name, _)] => if b.type = "program" then some name else none
  | _ => none

structure ProjectFile where
  path : Bytes
  locals : List Body
  programs : List Declaration

def ProjectFile.ofBody (path : Bytes) (body : Body) : ProjectFile where
  path := path
  locals := (body.blocks.filter Block.isLocals).map Block.body
  programs := body.blocks.filterMap fun b =>
    b.programName?.map fun name =>
      ⟨path, name, b.valueOf? "source", b.valueOf? "source_file", b.valueOf? "output"⟩

/-- What is wrong with what a project file holds: first the file itself, then its programs. A
program with a wrong number of labels is not looked into. -/
def declarationFaults (body : Body) : List Diagnostic :=
  Form.file.faults body ++
    (body.blocks.filter fun b => b.programName?.isSome).flatMap fun b =>
      Form.program.faults b.body

inductive FileFault where
  | malformed (file : Bytes) (faults : List Diagnostic)
  | unexpected (file : Bytes) (faults : List Diagnostic)
  deriving DecidableEq, Repr

def FileFault.message : FileFault → Bytes
  | malformed file faults =>
    "failed to parse HCL file " ++ file ++ ": " ++ Diagnostic.messageAll faults
  | unexpected file faults =>
    "failed to decode HCL file " ++ file ++ ": " ++ Diagnostic.messageAll faults

def ProjectFile.ofText (path content : Bytes) : Except FileFault ProjectFile :=
  match readBody path content with
  | (_, fault :: faults) => .error (.malformed path (fault :: faults))
  | (body, []) =>
    match declarationFaults body with
    | [] => .ok (.ofBody path body)
    | faults => .error (.unexpected path faults)

end DefOut.Project
