import DefOut.Bytes

set_option autoImplicit false

/-!
The settings of a run and what makes them valid: exactly one input, at least one worker, and
an output path.
-/
namespace DefOut

/-- What to compile and how. A project path, a source path or the built-in sample selects the
input; the output path is used when there is a single program. -/
structure Settings where
  projectPath : Bytes := []
  sourcePath : Bytes := []
  useSample : Bool := false
  outputPath : Bytes := []
  checkOnly : Bool := false
  stdout : Bool := false
  logFormat : Bytes := []
  logLevel : Bytes := []
  workerCount : Int := 0
  deriving DecidableEq, Repr

inductive SettingsError where
  | noInput
  | severalInputs
  | tooFewWorkers (count : Int)
  deriving DecidableEq, Repr

def SettingsError.message : SettingsError → Bytes
  | noInput => "one of a project path, a source path or the sample program is required"
  | severalInputs =>
    "a project path, a source path and the sample program are mutually exclusive"
  | tooFewWorkers count => "worker count must be at least 1, got " ++ Bytes.ofInt count

def defaultOutputPath : Bytes := "out.cpp"

namespace Settings

def inputCount (s : Settings) : Nat :=
  (!s.projectPath.isEmpty).toNat + (!s.sourcePath.isEmpty).toNat + s.useSample.toNat

def validate (s : Settings) : Except SettingsError Settings :=
  if s.inputCount = 0 then .error .noInput
  else if 1 < s.inputCount then .error .severalInputs
  else if s.workerCount < 1 then .error (.tooFewWorkers s.workerCount)
  else if s.outputPath.isEmpty then .ok { s with outputPath := defaultOutputPath }
  else .ok s

def describe (s : Settings) : Bytes :=
  "&\x7bProjectPath:" ++ s.projectPath ++ " SourcePath:" ++ s.sourcePath
    ++ " UseSample:" ++ Bytes.ofBool s.useSample ++ " OutputPath:" ++ s.outputPath
    ++ " CheckOnly:" ++ Bytes.ofBool s.checkOnly ++ " Stdout:" ++ Bytes.ofBool s.stdout
    ++ " LogFormat:" ++ s.logFormat ++ " LogLevel:" ++ s.logLevel
    ++ " WorkerCount:" ++ Bytes.ofInt s.workerCount ++ "\x7d"

end Settings
end DefOut
