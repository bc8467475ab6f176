import DefOut.Compile
import DefOut.Program

set_option autoImplicit false

/-!
What can go wrong with the programs of a run.
-/
namespace DefOut

inductive Cancellation where
  | canceled
  | deadlineExceeded
  deriving DecidableEq, Repr

def Cancellation.message : Cancellation → Bytes
  | canceled => "context canceled"
  | deadlineExceeded => "context deadline exceeded"

/-- An error of a destination or of a store: its words, and whether a rejection by the check is
among its causes. -/
structure Refusal where
  message : Bytes
  isRejection : Bool := false
  deriving DecidableEq, Repr

instance : Coe String Refusal := ⟨fun words => { message := words }⟩

inductive EmitError where
  | noOutputPath (program : Bytes)
  | write (cause : WriteError)
  | refused (cause : Refusal)
  deriving DecidableEq, Repr

def EmitError.message : EmitError → Bytes
  | noOutputPath program => "program " ++ Text.quoted program ++ " has no output path"
  | write cause => cause.message
  | refused cause => cause.message

def EmitError.isRejection : EmitError → Bool
  | refused cause => cause.isRejection
  | _ => false

inductive ProgramError where
  | unreadable (cause : SourceError)
  | rejected (program : Bytes) (cause : Rejection)
  | notStored (program : Bytes) (cause : Refusal)
  | notEmitted (program : Bytes) (cause : EmitError)
  | skipped (program : Bytes) (cause : Cancellation)
  deriving DecidableEq, Repr

namespace ProgramError

def message : ProgramError → Bytes
  | unreadable cause => cause.message
  | rejected program cause => cause.messageFor program
  | notStored program cause =>
    "program " ++ Text.quoted program ++ ": failed to store output: " ++ cause.message
  | notEmitted program cause =>
    "program " ++ Text.quoted program ++ ": failed to emit: " ++ cause.message
  | skipped program cause =>
    "program " ++ Text.quoted program ++ " skipped: " ++ cause.message

def isRejection : ProgramError → Bool
  | rejected _ _ => true
  | notStored _ cause => cause.isRejection
  | notEmitted _ cause => cause.isRejection
  | unreadable _ | skipped _ _ => false

end ProgramError

inductive RunError where
  | missingSink
  | notInitialised (program : Bytes) (cause : Refusal)
  | storeUnreadable (cause : Refusal)
  | programs (errors : List ProgramError)
  deriving DecidableEq, Repr

namespace RunError

/-- The message of a failed run; the errors of several programs stand on a line each. -/
def message : RunError → Bytes
  | missingSink => "executor: a sink is required unless running validate-only"
  | notInitialised program cause =>
    "failed to initialise status of " ++ Text.quoted program ++ ": " ++ cause.message
  | storeUnreadable cause => cause.message
  | programs errors => Bytes.joinWith "\n" (errors.map ProgramError.message)

def hasRejection : RunError → Bool
  | missingSink => false
  | notInitialised _ cause | storeUnreadable cause => cause.isRejection
  | programs errors => errors.any ProgramError.isRejection

end RunError
end DefOut
