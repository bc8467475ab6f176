import DefOut.Pool

set_option autoImplicit false

/-!
A whole run: every program is marked as pending, the pool works them off, and the recorded
errors are collected in the order of the programs.
-/
namespace DefOut

structure RunResult where
  error : Option RunError
  backend : Backend
  around : Surroundings
  records : List Record
  handed : List Job

/-- Mark programs as pending, up to the first one the store refuses. -/
def markPending (b : Backend) : List Program → Backend × Except RunError Unit
  | [] => (b, .ok ())
  | p :: rest =>
    match b.setStatus p.name .pending with
    | (b, .ok ()) => markPending b rest
    | (b, .error cause) => (b, .error (.notInitialised p.name cause))

/-- The recorded errors of programs, up to the first one the store cannot give. -/
def collectErrors (b : Backend) : List Program → Backend × Except RunError (List ProgramError)
  | [] => (b, .ok [])
  | p :: rest =>
    match b.getError p.name with
    | (b, .error cause) => (b, .error (.storeUnreadable cause))
    | (b, .ok error) =>
      match collectErrors b rest with
      | (b, .error e) => (b, .error e)
      | (b, .ok errors) => (b, .ok (error.toList ++ errors))

def workerCount (workers : Int) (programs : List Program) : Nat :=
  min (max workers 1).toNat programs.length

def joinErrors : List ProgramError → Option RunError
  | [] => none
  | errors => some (.programs errors)

/-- Run all programs, where `work` says how the pool is worked off. `cancelled` says that the
work was called off before it began. -/
def runBy (work : Pool → Pool) (plan : Plan) (workers : Int) (programs : List Program)
    (backend : Backend) (around : Surroundings) (cancelled : Option Cancellation) : RunResult :=
  if !plan.validateOnly && plan.sink.isNone then
    ⟨some .missingSink, backend, around, [], []⟩
  else
    match markPending backend programs with
    | (backend, .error e) => ⟨some e, backend, around, [], []⟩
    | (backend, .ok ()) =>
      let count := workerCount workers programs
      let starting : Record := ⟨.debug, "Executor starting.",
        [⟨"programs", programs.length⟩, ⟨"workers", count⟩]⟩
      let pool := work (Pool.start programs count backend around cancelled)
      match collectErrors pool.backend programs with
      | (backend, .error e) =>
        ⟨some e, backend, pool.around, starting :: pool.records, pool.handed⟩
      | (backend, .ok errors) =>
        ⟨joinErrors errors, backend, pool.around,
          starting :: pool.records
            ++ [⟨.debug, "Executor finished.", [⟨"failures", errors.length⟩]⟩],
          pool.handed⟩

/-- Run all programs by the schedule `Pool.next?`. `cancelOn` names the program at whose handing
over the work is called off. -/
def run (plan : Plan) (workers : Int) (programs : List Program) (backend : Backend)
    (around : Surroundings) (cancelled : Option Cancellation := none)
    (cancelOn : Option Bytes := none) : RunResult :=
  runBy (Pool.complete plan cancelOn) plan workers programs backend around cancelled

end DefOut
