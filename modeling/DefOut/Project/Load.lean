import DefOut.Files
import DefOut.Log
import DefOut.Program
import DefOut.Project.Locals

set_option autoImplicit false

/-!
Loading a project: find its files (`discover`), read what they declare (`readFiles`), evaluate
the local values (`Locals.ofFiles`), and make a program out of every declaration
(`collectPrograms`). The first thing that goes wrong ends the loading.
-/
namespace DefOut.Project

def addNew (found : List Bytes) (new : List Bytes) : List Bytes :=
  new.foldl (fun found path => if found.contains path then found else found ++ [path]) found

/-- The project files at and below some paths, each spelling of a path once, in the order in
which they are found. -/
def discover (files : Files) (paths : List Bytes) : Except SearchError (List Bytes) :=
  paths.foldlM (fun found path => (files.withEnding path ".hcl").map (addNew found)) []

inductive ArgumentError where
  | evaluation (faults : List Diagnostic)
  | unknown (argument : Bytes)
  | notText (argument reason : Bytes)
  deriving DecidableEq, Repr

def ArgumentError.message : ArgumentError → Bytes
  | evaluation faults => Diagnostic.messageAll faults
  | unknown argument => "attribute " ++ Text.quoted argument ++ " has an unknown value"
  | notText argument reason =>
    "attribute " ++ Text.quoted argument ++ " must be a string: " ++ reason

/-- How an argument of a declaration becomes a text. One that is not set, or null, has none. -/
abbrev ArgumentReader := (name : Bytes) → Option Expression →
  Logged (Except ArgumentError (Option Bytes))

def Scope.readArgument (scope : Scope) : ArgumentReader
  | name, none => do
    Logged.log .debug "Attribute not set." [⟨"attribute", name⟩]
    return .ok none
  | name, some e => do
    let o := e.eval scope
    if !o.faults.isEmpty then return .error (.evaluation o.faults)
    if o.value.isNull then return .ok none
    if !o.value.isWhollyKnown then return .error (.unknown name)
    match o.value.text? with
    | .error reason => return .error (.notText name reason)
    | .ok text =>
      Logged.log .debug "Attribute evaluated."
        [⟨"attribute", name⟩, ⟨"range", e.range.render⟩]
      return .ok (some text)

inductive DeclarationError where
  | argument (cause : ArgumentError)
  | twoSources
  | noSource
  deriving DecidableEq, Repr

def DeclarationError.message : DeclarationError → Bytes
  | argument cause => cause.message
  | twoSources => "only one of \"source\" or \"source_file\" may be set"
  | noSource => "one of \"source\" or \"source_file\" is required"

namespace Declaration

/-- The program of a declaration with these texts. Paths are taken from the directory of the
file of the declaration; without an output the program's name gives one. -/
def program (d : Declaration) (source sourceFile output : Option Bytes) :
    Except DeclarationError Program :=
  let folder := Path.directory d.file
  let output := output.getD []
  let output := Path.resolve folder (if output.isEmpty then d.name ++ ".cpp" else output)
  match source, sourceFile with
  | some _, some _ => .error .twoSources
  | none, none => .error .noSource
  | some text, none => .ok ⟨d.name, text, [], output, d.file⟩
  | none, some path => .ok ⟨d.name, [], Path.resolve folder path, output, d.file⟩

def resolve (read : ArgumentReader) (d : Declaration) :
    Logged (Except DeclarationError Program) := do
  match ← read "source" d.source with
  | .error e => return .error (.argument e)
  | .ok source =>
    match ← read "source_file" d.sourceFile with
    | .error e => return .error (.argument e)
    | .ok sourceFile =>
      match ← read "output" d.output with
      | .error e => return .error (.argument e)
      | .ok output =>
        match d.program source sourceFile output with
        | .error e => return .error e
        | .ok p =>
          Logged.log .debug "Program translated."
            [⟨"program", p.name⟩, ⟨"source_file", p.sourceFile⟩, ⟨"output", p.output⟩]
          return .ok p

end Declaration

inductive LoadError where
  | search (cause : SearchError)
  | noFiles (paths : List Bytes)
  | unreadable (cause : FileError)
  | file (cause : FileFault)
  | locals (cause : LocalsError)
  | duplicateProgram (name definedIn first : Bytes)
  | declaration (name : Bytes) (cause : DeclarationError)
  | duplicateOutput (program : Program) (first : Program)
  deriving DecidableEq, Repr

def unreadableFile (e : FileError) : Diagnostic :=
  if e.cause = .notFound then
    ⟨"Configuration file not found",
      "The configuration file " ++ e.path ++ " does not exist.", none⟩
  else
    ⟨"Failed to read file",
      "The configuration file " ++ Text.quoted e.path ++ " could not be read.", none⟩

def LoadError.message : LoadError → Bytes
  | search cause => cause.message
  | noFiles paths => "no .hcl files found in [" ++ Bytes.joinWith " " paths ++ "]"
  | unreadable cause =>
    "failed to parse HCL file " ++ cause.path ++ ": " ++ (unreadableFile cause).message
  | file cause => cause.message
  | locals cause => cause.message
  | duplicateProgram name definedIn first =>
    "duplicate program " ++ Text.quoted name ++ " in " ++ definedIn ++ " (first defined in "
      ++ first ++ ")"
  | declaration name cause => "program " ++ Text.quoted name ++ ": " ++ cause.message
  | duplicateOutput p first =>
    "program " ++ Text.quoted p.name ++ " in " ++ p.definedIn ++ " writes to " ++ p.output
      ++ ", already used by program " ++ Text.quoted first.name ++ " (first defined in "
      ++ first.definedIn ++ ")"

def LoadError.hasDiagnostics : LoadError → Bool
  | unreadable _ | file _ | locals _ | declaration _ (.argument (.evaluation _)) => true
  | _ => false

def readFiles (files : Files) : List Bytes → Except LoadError (List ProjectFile)
  | [] => .ok []
  | path :: rest =>
    match files.read path with
    | .error e => .error (.unreadable e)
    | .ok content =>
      match ProjectFile.ofText path content with
      | .error e => .error (.file e)
      | .ok first =>
        match readFiles files rest with
        | .error e => .error e
        | .ok others => .ok (first :: others)

/-- Make the programs of declarations, one after the other, behind those that are done. No two
of them may have one name or one output. -/
def collectPrograms (read : ArgumentReader) :
    List Declaration → (done : List Program) → Logged (Except LoadError (List Program))
  | [], done => return .ok done
  | d :: rest, done => do
    match done.find? fun p => p.name == d.name with
    | some first => return .error (.duplicateProgram d.name d.file first.definedIn)
    | none =>
      match ← d.resolve read with
      | .error e => return .error (.declaration d.name e)
      | .ok p =>
        match done.find? fun q => q.output == p.output with
        | some first => return .error (.duplicateOutput p first)
        | none => collectPrograms read rest (done ++ [p])

def load (files : Files) (paths : List Bytes) : Logged (Except LoadError Model) := do
  Logged.log .debug "HCL loader started." [⟨"path_count", paths.length⟩]
  match discover files paths with
  | .error e => return .error (.search e)
  | .ok [] => return .error (.noFiles paths)
  | .ok found =>
    Logged.log .debug "Discovered HCL files." [⟨"count", found.length⟩]
    match readFiles files found with
    | .error e => return .error e
    | .ok projectFiles =>
      match Locals.ofFiles Expression.evalClosed projectFiles with
      | .error e => return .error (.locals e)
      | .ok locals =>
        Logged.log .debug "Locals evaluated." [⟨"count", locals.length⟩]
        let scope : Scope := { frames := [[("local", locals.toValue)]] }
        match ← collectPrograms scope.readArgument (projectFiles.flatMap (·.programs)) [] with
        | .error e => return .error e
        | .ok programs =>
          Logged.log .debug "HCL loading complete." [⟨"programs", programs.length⟩]
          return .ok ⟨programs⟩

end DefOut.Project
