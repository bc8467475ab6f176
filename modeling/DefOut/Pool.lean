import DefOut.Backend
import DefOut.Sink

set_option autoImplicit false

/-!
The worker pool as a transition system. A feeder hands the programs of a run, one at a time and
in order, to whichever worker is waiting; each worker takes its program through the phases
below. `Pool.step` says what an action does, or that it is not possible; any order of possible
actions is a run. Every action makes `Pool.measure` smaller, so that is enough fuel to follow a
schedule to its end.
-/
namespace DefOut

structure Job where
  index : Nat
  program : Program
  deriving DecidableEq, Repr

inductive Phase where
  | unstarted
  | waiting
  /-- Has received a program and not looked at it. -/
  | holding (job : Job)
  /-- About to read and compile its program. -/
  | running (job : Job)
  /-- About to store the code of its program. -/
  | compiled (job : Job) (code : Bytes)
  /-- About to hand the code of its program to the sink. -/
  | stored (job : Job) (code : Bytes)
  /-- About to record the error of its program, if there is one. -/
  | decided (job : Job) (status : Status) (error : Option ProgramError)
  /-- About to record the final status of its program. -/
  | recorded (job : Job) (status : Status)
  | stopped
  deriving DecidableEq, Repr

/-- What happened in a run, as far as anyone can see later. -/
inductive Event where
  | log (record : Record)
  | stored (job : Job) (code : Bytes)
  | handed (job : Job) (code : Bytes)

structure Plan where
  table : Table := Table.standard
  validateOnly : Bool := false
  sink : Option Sink := none

structure Pool where
  queue : List Job
  closed : Bool
  workers : List Phase
  backend : Backend
  around : Surroundings
  cancelled : Option Cancellation
  trace : List Event

/-- One action of a run: a worker goes on, the feeder closes its side when it has handed over
everything, or the work is called off. -/
inductive Action where
  | advance (worker : Nat)
  | close
  | cancel (reason : Cancellation)
  deriving DecidableEq, Repr

namespace Pool

def note (p : Pool) (records : List Record) : Pool :=
  { p with trace := p.trace ++ records.map Event.log }

def setPhase (p : Pool) (i : Nat) (phase : Phase) : Pool :=
  { p with workers := p.workers.set i phase }

def workerId (i : Nat) : Attribute :=
  ⟨"workerID", .number (i + 1)⟩

def scope (i : Nat) (job : Job) : List Attribute :=
  [workerId i, ⟨"program", job.program.name⟩]

def statusLost (status : Status) (cause : Refusal) : Record :=
  ⟨.error, "Failed to record program status.",
    [⟨"status", status.label⟩, ⟨"error", cause.message⟩]⟩

def verdictRecord (status : Status) : Option ProgramError → Record
  | some e =>
    ⟨.warn, "Program did not compile.", [⟨"status", status.label⟩, ⟨"error", e.message⟩]⟩
  | none => ⟨.info, "Program processed.", [⟨"status", status.label⟩]⟩

def about (i : Nat) (job : Job) (records : List Record) : List Record :=
  records.map fun r => { r with attributes := scope i job ++ r.attributes }

def decide (p : Pool) (i : Nat) (job : Job) (status : Status) (error : Option ProgramError) :
    Pool :=
  (p.note (about i job [verdictRecord status error])).setPhase i (.decided job status error)

def look (p : Pool) (i : Nat) (job : Job) : Pool :=
  match p.cancelled with
  | some reason =>
    (p.note (about i job [⟨.debug, "Context cancelled, skipping program.", []⟩])).setPhase i
      (.decided job .skipped (some (.skipped job.program.name reason)))
  | none =>
    let picked : Record := ⟨.debug, "Worker picked up program.", []⟩
    match p.backend.setStatus job.program.name .running with
    | (backend, .ok ()) =>
      ({ p with backend := backend }.note (about i job [picked])).setPhase i (.running job)
    | (backend, .error cause) =>
      ({ p with backend := backend }.note
        (about i job [picked, statusLost .running cause])).setPhase i (.running job)

def process (plan : Plan) (p : Pool) (i : Nat) (job : Job) : Pool :=
  match job.program.readSource p.around.files with
  | .error e => p.decide i job .failed (some (.unreadable e))
  | .ok text =>
    let source := trimLineEnds text
    if plan.validateOnly then
      let result := Logged.accept plan.table source
      let p := p.note (about i job result.records)
      match result.value with
      | .error r => p.decide i job .rejected (some (.rejected job.program.name r))
      | .ok _ => p.decide i job .compiled none
    else
      let result := Logged.compile plan.table source
      let p := p.note (about i job result.records)
      match result.value with
      | .error r => p.decide i job .rejected (some (.rejected job.program.name r))
      | .ok artifact => p.setPhase i (.compiled job artifact.code)

def keep (p : Pool) (i : Nat) (job : Job) (code : Bytes) : Pool :=
  match p.backend.setOutput job.program.name code with
  | (backend, .ok ()) =>
    { p with backend := backend, trace := p.trace ++ [Event.stored job code] }.setPhase i
      (.stored job code)
  | (backend, .error cause) =>
    { p with backend := backend }.decide i job .failed
      (some (.notStored job.program.name cause))

def handOver (plan : Plan) (p : Pool) (i : Nat) (job : Job) (code : Bytes) : Pool :=
  match plan.sink with
  | none => p.decide i job .compiled none
  | some sink =>
    let result := sink.emit job.program code p.around
    let p := { p with around := result.value.1, trace := p.trace ++ [Event.handed job code] }.note
      (about i job result.records)
    match result.value.2 with
    | .ok () => p.decide i job .compiled none
    | .error e => p.decide i job .failed (some (.notEmitted job.program.name e))

def recordError (p : Pool) (i : Nat) (job : Job) (status : Status)
    (error : Option ProgramError) : Pool :=
  match error with
  | none => p.setPhase i (.recorded job status)
  | some e =>
    match p.backend.setError job.program.name e with
    | (backend, .ok ()) => { p with backend := backend }.setPhase i (.recorded job status)
    | (backend, .error cause) =>
      ({ p with backend := backend }.note (about i job [⟨.error, "Failed to record program error.",
        [⟨"error", cause.message⟩, ⟨"program_error", e.message⟩]⟩])).setPhase i (.recorded job status)

def recordStatus (p : Pool) (i : Nat) (job : Job) (status : Status) : Pool :=
  match p.backend.setStatus job.program.name status with
  | (backend, .ok ()) => { p with backend := backend }.setPhase i .waiting
  | (backend, .error cause) =>
    ({ p with backend := backend }.note (about i job [statusLost status cause])).setPhase i
      .waiting

def receive (p : Pool) (i : Nat) : Option Pool :=
  match p.queue with
  | job :: rest => some ({ p with queue := rest }.setPhase i (.holding job))
  | [] =>
    if p.closed then
      some ((p.note [⟨.debug, "Worker finished.", [workerId i]⟩]).setPhase i .stopped)
    else none

def advance (plan : Plan) (p : Pool) (i : Nat) : Option Pool :=
  match p.workers[i]? with
  | none => none
  | some .unstarted =>
    some ((p.note [⟨.debug, "Worker started.", [workerId i]⟩]).setPhase i .waiting)
  | some .waiting => p.receive i
  | some (.holding job) => some (p.look i job)
  | some (.running job) => some (p.process plan i job)
  | some (.compiled job code) => some (p.keep i job code)
  | some (.stored job code) => some (p.handOver plan i job code)
  | some (.decided job status error) => some (p.recordError i job status error)
  | some (.recorded job status) => some (p.recordStatus i job status)
  | some .stopped => none

def step (plan : Plan) (p : Pool) : Action → Option Pool
  | .advance i => p.advance plan i
  | .close => if p.queue.isEmpty && !p.closed then some { p with closed := true } else none
  | .cancel reason =>
    match p.cancelled with
    | none => some { p with cancelled := some reason }
    | some _ => none

end Pool

/-- How many steps a worker has before it, apart from the programs it will still receive. -/
def Phase.rank : Phase → Nat
  | stopped => 0
  | waiting => 1
  | unstarted => 2
  | recorded _ _ => 2
  | decided _ _ _ => 3
  | stored _ _ => 4
  | compiled _ _ => 5
  | running _ => 6
  | holding _ => 7

def Phase.isBusy : Phase → Bool
  | unstarted | waiting | stopped => false
  | _ => true

namespace Pool

/-- A bound on the number of steps that are left. -/
def measure (p : Pool) : Nat :=
  7 * p.queue.length + (!p.closed).toNat + p.workers.foldr (fun phase n => phase.rank + n) 0
    + p.cancelled.isNone.toNat

def isFinished (p : Pool) : Bool :=
  p.queue.isEmpty && p.closed && p.workers.all (· = .stopped)

def start (programs : List Program) (workers : Nat) (backend : Backend) (around : Surroundings)
    (cancelled : Option Cancellation) : Pool where
  queue := programs.mapIdx fun index program => ⟨index, program⟩
  closed := false
  workers := List.replicate workers .unstarted
  backend := backend
  around := around
  cancelled := cancelled
  trace := []

def records (p : Pool) : List Record :=
  p.trace.filterMap fun
    | .log r => some r
    | _ => none

def handed (p : Pool) : List Job :=
  p.trace.filterMap fun
    | .handed job _ => some job
    | _ => none

def isHandingOver (p : Pool) (name : Bytes) : Bool :=
  p.workers.any fun
    | .stored job _ => job.program.name == name
    | _ => false

/-- A schedule: one worker after the other is started, then the first one that has a program
goes on, and the first one that waits receives the next. The work is called off when the
program `cancelOn` is about to be handed to the sink. -/
def next? (cancelOn : Option Bytes) (p : Pool) : Option Action :=
  if p.cancelled.isNone && cancelOn.any p.isHandingOver then some (.cancel .canceled)
  else
    match p.workers.findIdx? (· = .unstarted) with
    | some i => some (.advance i)
    | none =>
      match p.workers.findIdx? Phase.isBusy with
      | some i => some (.advance i)
      | none =>
        if p.queue.isEmpty && !p.closed then some .close
        else
          match p.workers.findIdx? (· = .waiting) with
          | some i => some (.advance i)
          | none => none

def follow (plan : Plan) (cancelOn : Option Bytes) : Nat → Pool → Pool
  | 0, p => p
  | fuel + 1, p =>
    match p.next? cancelOn with
    | none => p
    | some action =>
      match p.step plan action with
      | none => p
      | some q => follow plan cancelOn fuel q

def complete (plan : Plan) (cancelOn : Option Bytes) (p : Pool) : Pool :=
  p.follow plan cancelOn p.measure

end Pool
end DefOut
