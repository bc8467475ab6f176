import DefOut.Failure
import DefOut.Store

set_option autoImplicit false

/-!
A store whose calls may fail. A failing write stores nothing. Which calls fail is given in
advance for every call in its place in the history, so that any pattern of failures is covered.
-/
namespace DefOut

inductive StoreCall where
  | setStatus (program : Bytes) (status : Status)
  | setOutput (program code : Bytes)
  | setError (program : Bytes) (error : ProgramError)
  | getError (program : Bytes)
  deriving DecidableEq, Repr

structure Backend where
  store : Store ProgramError := .empty
  calls : Nat := 0
  /-- The words with which the n-th call, if it is this one, fails. -/
  fault : Nat → StoreCall → Option Bytes := fun _ _ => none
  /-- Whether a rejection by the check is among the causes of that failure. -/
  rejects : Nat → StoreCall → Bool := fun _ _ => false

namespace Backend

def refusal? (b : Backend) (c : StoreCall) : Option Refusal :=
  (b.fault b.calls c).map fun words => ⟨words, b.rejects b.calls c⟩

def call (b : Backend) (c : StoreCall) (effect : Store ProgramError → Store ProgramError) :
    Backend × Except Refusal Unit :=
  match b.refusal? c with
  | some cause => ({ b with calls := b.calls + 1 }, .error cause)
  | none => ({ b with calls := b.calls + 1, store := effect b.store }, .ok ())

def setStatus (b : Backend) (program : Bytes) (status : Status) : Backend × Except Refusal Unit :=
  b.call (.setStatus program status) fun s => s.setStatus program status

def setOutput (b : Backend) (program code : Bytes) : Backend × Except Refusal Unit :=
  b.call (.setOutput program code) fun s => s.setOutput program code

def setError (b : Backend) (program : Bytes) (error : ProgramError) :
    Backend × Except Refusal Unit :=
  b.call (.setError program error) fun s => s.setError program (some error)

/-- The error of a program. Runs never record an absent error, so there is none to stumble
over here. -/
def getError (b : Backend) (program : Bytes) :
    Backend × Except Refusal (Option ProgramError) :=
  match b.refusal? (.getError program) with
  | some cause => ({ b with calls := b.calls + 1 }, .error cause)
  | none =>
    ({ b with calls := b.calls + 1 }, .ok ((b.store.errors.get? program).getD none))

end Backend
end DefOut
