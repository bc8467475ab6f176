import DefOut.Registry

set_option autoImplicit false

/-!
The artifact store: for every program the status, the code and the error recorded last. The
three are kept apart, so recording one never touches another, and only a recorded status makes
a program's name known.
-/
namespace DefOut

/-- Where a program stands in a run. A status that is none of the named ones keeps its code and
reads as pending. -/
inductive Status where
  | pending
  | running
  | compiled
  | rejected
  | failed
  | skipped
  | other (code : Int)
  deriving DecidableEq, Repr

def Status.label : Status → Bytes
  | pending => "pending"
  | running => "running"
  | compiled => "compiled"
  | rejected => "rejected"
  | failed => "failed"
  | skipped => "skipped"
  | other _ => "pending"

/-- What the runs record about programs; `ε` is the type of their errors. An error may be
recorded as absent, which is a mistake that shows when it is read back. -/
structure Store (ε : Type) where
  statuses : Registry Status
  outputs : Registry Bytes
  errors : Registry (Option ε)

namespace Store
variable {ε : Type}

def empty : Store ε := ⟨.empty, .empty, .empty⟩

def setStatus (s : Store ε) (program : Bytes) (status : Status) : Store ε :=
  { s with statuses := s.statuses.set program status }

def status (s : Store ε) (program : Bytes) : Status :=
  (s.statuses.get? program).getD .pending

def setOutput (s : Store ε) (program code : Bytes) : Store ε :=
  { s with outputs := s.outputs.set program code }

def output? (s : Store ε) (program : Bytes) : Option Bytes :=
  s.outputs.get? program

def setError (s : Store ε) (program : Bytes) (error : Option ε) : Store ε :=
  { s with errors := s.errors.set program error }

inductive ErrorAbsent where
  | mk
  deriving DecidableEq, Repr

def error? (s : Store ε) (program : Bytes) : Except ErrorAbsent (Option ε) :=
  match s.errors.get? program with
  | none => .ok none
  | some (some e) => .ok (some e)
  | some none => .error .mk

def names (s : Store ε) : List Bytes :=
  s.statuses.names

end Store
end DefOut
