import DefOut.Project.Load
import DefOut.Run
import DefOut.Settings
import DefOut.Snippet

set_option autoImplicit false

/-!
A session: a project is loaded once, and can then be compiled or checked any number of times.
Every run starts with an empty store; only the settings and the model are carried over.
-/
namespace DefOut

structure Loader where
  load : Files → Bytes → Logged (Except Bytes Model)

def Loader.ofProject : Loader where
  load files path := do
    match ← Project.load files [path] with
    | .ok model => return .ok model
    | .error e => return .error e.message

structure Session where
  settings : Settings
  model : Model
  store : Store ProgramError

def sampleProgram : Bytes :=
  "def x = 2\ndef y = 3\ny = y ^ x + 1\nout x + y"

def Settings.logView (s : Settings) : LogView where
  level :=
    if s.logLevel = "debug" then .debug
    else if s.logLevel = "warn" then .warn
    else if s.logLevel = "error" then .error
    else .info
  format := if s.logFormat = "json" then .json else .text

inductive StartError where
  | noLoader (project : Bytes)
  | loading (cause : Bytes)
  deriving DecidableEq, Repr

def StartError.message : StartError → Bytes
  | noLoader project => "failed to load project: no loader configured for project " ++ project
  | loading cause => "failed to load project: " ++ cause

def Settings.loadModel (s : Settings) (files : Files) (loader : Option Loader) :
    Logged (Except StartError Model) :=
  if !s.projectPath.isEmpty then
    match loader with
    | none => pure (.error (.noLoader s.projectPath))
    | some l => do
      match ← l.load files s.projectPath with
      | .ok model => return .ok model
      | .error words => return .error (.loading words)
  else if !s.sourcePath.isEmpty then
    let name := Bytes.dropEnding (Path.extension s.sourcePath) (Path.base s.sourcePath)
    pure (.ok ⟨[⟨name, [], s.sourcePath, s.outputPath, []⟩]⟩)
  else pure (.ok ⟨[⟨"sample", sampleProgram, [], s.outputPath, []⟩]⟩)

def Session.start (settings : Settings) (files : Files) (loader : Option Loader) :
    Logged (Except StartError Session) := do
  Logged.log .debug "Logger configured successfully."
  match ← settings.loadModel files loader with
  | .error e => return .error e
  | .ok model =>
    Logged.log .debug "Project loaded into model." [⟨"programs", model.programs.length⟩]
    return .ok ⟨settings, model, .empty⟩

inductive SessionError where
  | rejected (cause : RunError)
  | failed (cause : RunError)
  deriving DecidableEq, Repr

def SessionError.message : SessionError → Bytes
  | rejected cause => "one or more programs were rejected: " ++ cause.message
  | failed cause => "compilation failed: " ++ cause.message

def SessionError.ofRun (e : RunError) : SessionError :=
  if e.hasRejection then .rejected e else .failed e

/-- A rejected program as a diagnostic. It is moved from the lexemes to the line of the source
with the same number, which is shown when the source can be read and has such a line. -/
def explainRejection (files : Files) (p : Program) (r : Rejection) : List Bytes :=
  let file := if p.sourceFile.isEmpty then p.name else p.sourceFile
  let d := r.diagnostic file
  match p.readSource files with
  | .error _ => d.explain ⟨file, r.first, r.last⟩ none
  | .ok source =>
    match sourceLine file source r.line with
    | none => d.explain ⟨file, r.first, r.last⟩ none
    | some place => d.explain place (some source)

def verdict (files : Files) (store : Store ProgramError) (p : Program) : List Bytes :=
  let status := store.status p.name
  if status = .compiled then [p.name ++ ": ok\n"]
  else
    let error := (store.errors.get? p.name).getD none
    match status, error with
    | .rejected, some (.rejected _ r) =>
      (p.name ++ ": " ++ status.label ++ "\n\n") :: explainRejection files p r
    | _, some e => [p.name ++ ": " ++ status.label ++ ": " ++ e.message ++ "\n"]
    | _, none => [p.name ++ ": " ++ status.label ++ ": <nil>\n"]

structure SessionRun where
  session : Session
  around : Surroundings
  records : List Record
  error : Option SessionError

def resultRecord (store : Store ProgramError) (p : Program) : Record :=
  ⟨.debug, "Program result.", [⟨"program", p.name⟩, ⟨"status", (store.status p.name).label⟩]⟩

def Session.report (s : Session) (store : Store ProgramError) (around : Surroundings) :
    Surroundings :=
  if s.settings.checkOnly then
    s.model.programs.foldl (fun around p =>
      { around with outlet := around.outlet.writeAll (verdict around.files store p) }) around
  else around

def Settings.plan (s : Settings) : Plan where
  table := .standard
  validateOnly := s.checkOnly
  sink := some (if s.stdout then .toOutlet else .toFiles)

def Session.runBy (work : Plan → Pool → Pool) (s : Session) (around : Surroundings)
    (cancelled : Option Cancellation) : SessionRun :=
  let started : Record := ⟨.debug, "App.Run method started.", []⟩
  if s.model.programs.isEmpty then
    ⟨s, around, [started, ⟨.warn, "No programs found, nothing to compile.", []⟩], none⟩
  else
    let plan := s.settings.plan
    let starting : Record := ⟨.info, "Starting compilation.",
      [⟨"programs", s.model.programs.length⟩, ⟨"check_only", s.settings.checkOnly⟩]⟩
    let result :=
      DefOut.runBy (work plan) plan s.settings.workerCount s.model.programs {} around cancelled
    let store := result.backend.store
    let records := started :: starting :: result.records
      ++ s.model.programs.map (resultRecord store)
    let session := { s with store := store }
    let around := s.report store result.around
    match result.error with
    | some e => ⟨session, around, records, some (.ofRun e)⟩
    | none =>
      ⟨session, around,
        records ++ [⟨.info, "Compilation finished.", []⟩,
          ⟨.debug, "App.Run method finished.", []⟩],
        none⟩

def Session.run (s : Session) (around : Surroundings) (cancelled : Option Cancellation) :
    SessionRun :=
  s.runBy (fun plan => Pool.complete plan none) around cancelled

end DefOut
