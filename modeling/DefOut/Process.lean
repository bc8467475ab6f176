import DefOut.Arguments
import DefOut.Session

set_option autoImplicit false

/-!
The whole process: from the arguments and the files to what is printed, what is logged, the
files left behind and the exit code.
-/
namespace DefOut

inductive ProcessError where
  | usage (cause : UsageError)
  | startup (cause : StartError)
  | session (cause : SessionError)
  deriving DecidableEq, Repr

namespace ProcessError

def message : ProcessError → Bytes
  | usage cause => cause.message
  | startup cause => "application startup panicked: " ++ cause.message
  | session cause => cause.message

def exitCode : ProcessError → Nat
  | usage _ => UsageError.exitCode
  | _ => 1

end ProcessError

structure ProcessResult where
  error : Option ProcessError
  around : Surroundings
  log : List Bytes

namespace ProcessResult

def exitCode (r : ProcessResult) : Nat :=
  match r.error with
  | none => 0
  | some e => e.exitCode

def complaints (r : ProcessResult) : List Bytes :=
  r.log ++ (r.error.map ProcessError.message).toList

end ProcessResult

def runProcessBy (work : Plan → Pool → Pool) (loader : Loader) (arguments : List Bytes)
    (around : Surroundings) : ProcessResult :=
  let (request, printed) := (parseArguments arguments).value
  let around :=
    if printed.isEmpty then around
    else { around with outlet := (around.outlet.write printed).1 }
  match request with
  | .leave => ⟨none, around, []⟩
  | .refuse e => ⟨some (.usage e), around, []⟩
  | .run settings =>
    let started := Session.start settings around.files (some loader)
    match started.value with
    | .error e => ⟨some (.startup e), around, settings.logView.lines started.records⟩
    | .ok session =>
      let result := session.runBy work around none
      ⟨result.error.map .session, result.around,
        settings.logView.lines (started.records ++ result.records)⟩

def runProcess (loader : Loader) (arguments : List Bytes) (around : Surroundings) :
    ProcessResult :=
  runProcessBy (fun plan => Pool.complete plan none) loader arguments around

end DefOut
