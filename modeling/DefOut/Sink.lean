import DefOut.Failure

set_option autoImplicit false

/-!
Where generated code goes. A sink acts on the surroundings of a run: the files and an outlet
for text. The outlet takes or refuses each piece of text as a whole.
-/
namespace DefOut

/-- A writer of text: what it has taken so far, how often it was asked, which of the askings it
grants, and its error when it refuses. -/
structure Outlet where
  text : Bytes := []
  asked : Nat := 0
  grants : Nat → Bool := fun _ => true
  refusal : Refusal := { message := [] }

def Outlet.write (o : Outlet) (s : Bytes) : Outlet × Except Refusal Unit :=
  if o.grants o.asked then ({ o with text := o.text ++ s, asked := o.asked + 1 }, .ok ())
  else ({ o with asked := o.asked + 1 }, .error o.refusal)

def Outlet.writeAll (o : Outlet) (pieces : List Bytes) : Outlet :=
  pieces.foldl (fun o piece => (o.write piece).1) o

structure Surroundings where
  files : Files
  outlet : Outlet

structure Sink where
  emit : Program → Bytes → Surroundings → Logged (Surroundings × Except EmitError Unit)

namespace Sink

def discard : Sink where
  emit _ _ around := pure (around, .ok ())

def refuse (cause : Refusal) : Sink where
  emit _ _ around := pure (around, .error (.refused cause))

def toFiles : Sink where
  emit program code around := do
    if program.output.isEmpty then return (around, .error (.noOutputPath program.name))
    match around.files.write program.output code with
    | (files, .error e) => return ({ around with files := files }, .error (.write e))
    | (files, .ok ()) =>
      Logged.log .info "Artifact written." [⟨"path", program.output⟩, ⟨"bytes", code.length⟩]
      return ({ around with files := files }, .ok ())

def toOutlet : Sink where
  emit _ code around :=
    match around.outlet.write (code ++ "\n") with
    | (outlet, .ok ()) => pure ({ around with outlet := outlet }, .ok ())
    | (outlet, .error cause) =>
      pure ({ around with outlet := outlet }, .error (.refused cause))

end Sink
end DefOut
