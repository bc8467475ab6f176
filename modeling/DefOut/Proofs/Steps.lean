import DefOut.Run

set_option autoImplicit false

/-!
What one action of a run does. The course of a program is a relation between the phases of the
worker that has it (`Onward`), and every action of the pool is one of six kinds (`Stepped`,
`stepped_of_step`). Later modules reason about these kinds and never open `Pool.step` again.
-/
namespace DefOut

def Phase.job? : Phase → Option Job
  | .unstarted | .waiting | .stopped => none
  | .holding job | .running job | .compiled job _ | .stored job _ | .decided job _ _
  | .recorded job _ => some job

def StoreCall.effect : StoreCall → Store ProgramError → Store ProgramError
  | .setStatus program status, s => s.setStatus program status
  | .setOutput program code, s => s.setOutput program code
  | .setError program error, s => s.setError program (some error)
  | .getError _, s => s

namespace Backend

def after (b : Backend) : Option StoreCall → Backend
  | none => b
  | some c => (b.call c c.effect).1

theorem setStatus_eq (b : Backend) (program : Bytes) (status : Status) :
    b.setStatus program status =
      b.call (.setStatus program status) (StoreCall.setStatus program status).effect := rfl

theorem setOutput_eq (b : Backend) (program code : Bytes) :
    b.setOutput program code =
      b.call (.setOutput program code) (StoreCall.setOutput program code).effect := rfl

theorem setError_eq (b : Backend) (program : Bytes) (error : ProgramError) :
    b.setError program error =
      b.call (.setError program error) (StoreCall.setError program error).effect := rfl

theorem call_effect (b : Backend) (c : StoreCall) :
    b.call c c.effect = (b.after (some c),match b.refusal? c with
      | some cause => .error cause
      | none => .ok ()) := by
  simp only [after,Backend.call]
  cases b.refusal? c <;> rfl

@[simp] theorem fault_after (b : Backend) (call : Option StoreCall) :
    (b.after call).fault = b.fault := by
  cases call with
  | none => rfl
  | some c =>
    simp only [after,Backend.call]
    split <;> rfl

end Backend

def Event.handover? : Event → Option (Job × Bytes)
  | .handed job code => some (job,code)
  | _ => none

def Pool.handovers (p : Pool) : List (Job × Bytes) :=
  p.trace.filterMap Event.handover?

def Phase.handovers (plan : Plan) : Phase → List (Job × Bytes)
  | .stored job code => if plan.sink.isSome then [(job,code)] else []
  | _ => []

def Plan.deliver (plan : Plan) (around : Surroundings) (h : Job × Bytes) : Surroundings :=
  match plan.sink with
  | none => around
  | some sink => (sink.emit h.1.program h.2 around).value.1

/-- How a worker goes on with its program when the pool is `p`: the phase it is in, the call it
makes to the store, and the phase it comes to. -/
inductive Onward (plan : Plan) (p : Pool) (job : Job) : Phase → Option StoreCall → Phase → Prop
  | skip {reason : Cancellation} : p.cancelled = some reason →
      Onward plan p job (.holding job) none
        (.decided job .skipped (some (.skipped job.program.name reason)))
  | start : p.cancelled = none →
      Onward plan p job (.holding job) (some (.setStatus job.program.name .running))
        (.running job)
  | unreadable {e : SourceError} : job.program.readSource p.around.files = .error e →
      Onward plan p job (.running job) none (.decided job .failed (some (.unreadable e)))
  | reject {text : Bytes} {r : Rejection} : job.program.readSource p.around.files = .ok text →
      accept plan.table (trimLineEnds text) = .error r →
      Onward plan p job (.running job) none
        (.decided job .rejected (some (.rejected job.program.name r)))
  | check {text lexemes : Bytes} : job.program.readSource p.around.files = .ok text →
      accept plan.table (trimLineEnds text) = .ok lexemes → plan.validateOnly = true →
      Onward plan p job (.running job) none (.decided job .compiled none)
  | compile {text lexemes : Bytes} : job.program.readSource p.around.files = .ok text →
      accept plan.table (trimLineEnds text) = .ok lexemes → plan.validateOnly = false →
      Onward plan p job (.running job) none (.compiled job (generate plan.table lexemes))
  | keep {code : Bytes} : p.backend.refusal? (.setOutput job.program.name code) = none →
      Onward plan p job (.compiled job code) (some (.setOutput job.program.name code))
        (.stored job code)
  | keepFails {code : Bytes} {cause : Refusal} :
      p.backend.refusal? (.setOutput job.program.name code) = some cause →
      Onward plan p job (.compiled job code) (some (.setOutput job.program.name code))
        (.decided job .failed (some (.notStored job.program.name cause)))
  | unsunk {code : Bytes} : plan.sink = none →
      Onward plan p job (.stored job code) none (.decided job .compiled none)
  | emit {sink : Sink} {code : Bytes} : plan.sink = some sink →
      (sink.emit job.program code p.around).value.2 = .ok () →
      Onward plan p job (.stored job code) none (.decided job .compiled none)
  | emitFails {sink : Sink} {code : Bytes} {e : EmitError} : plan.sink = some sink →
      (sink.emit job.program code p.around).value.2 = .error e →
      Onward plan p job (.stored job code) none
        (.decided job .failed (some (.notEmitted job.program.name e)))
  | noError {status : Status} :
      Onward plan p job (.decided job status none) none (.recorded job status)
  | recordError {status : Status} {e : ProgramError} :
      Onward plan p job (.decided job status (some e)) (some (.setError job.program.name e))
        (.recorded job status)
  | recordStatus {status : Status} :
      Onward plan p job (.recorded job status) (some (.setStatus job.program.name status))
        .waiting

/-- What an action makes of a pool: a worker starts, receives a program, goes on with it or
stops, the feeder closes its side, or the work is called off. -/
inductive Stepped (plan : Plan) (p : Pool) : Action → Pool → Prop
  | start {i : Nat} {r : Record} : p.workers[i]? = some .unstarted →
      Stepped plan p (.advance i)
        { p with workers := p.workers.set i .waiting, trace := p.trace ++ [.log r] }
  | receive {i : Nat} {job : Job} {rest : List Job} : p.workers[i]? = some .waiting →
      p.queue = job :: rest →
      Stepped plan p (.advance i)
        { p with queue := rest, workers := p.workers.set i (.holding job) }
  | stop {i : Nat} {r : Record} : p.workers[i]? = some .waiting → p.queue = [] →
      p.closed = true →
      Stepped plan p (.advance i)
        { p with workers := p.workers.set i .stopped, trace := p.trace ++ [.log r] }
  | work {i : Nat} {phase next : Phase} {job : Job} {call : Option StoreCall}
      {events : List Event} : p.workers[i]? = some phase → phase.job? = some job →
      Onward plan p job phase call next →
      events.filterMap Event.handover? = phase.handovers plan →
      Stepped plan p (.advance i)
        { p with
          workers := p.workers.set i next
          backend := p.backend.after call
          around := (phase.handovers plan).foldl plan.deliver p.around
          trace := p.trace ++ events }
  | close : p.queue = [] → p.closed = false → Stepped plan p .close { p with closed := true }
  | cancel {reason : Cancellation} : p.cancelled = none →
      Stepped plan p (.cancel reason) { p with cancelled := some reason }

theorem compile_of_accept {table : Table} {source lexemes : Bytes}
    (h : accept table source = .ok lexemes) :
    compile table source = .ok ⟨lexemes,(declaredNames lexemes).names,generate table lexemes⟩ := by
  rw [compile,h]
  rfl

theorem compile_of_accept_error {table : Table} {source : Bytes} {r : Rejection}
    (h : accept table source = .error r) : compile table source = .error r := by
  rw [compile,h]
  rfl

namespace Logged

@[simp] theorem value_accept (t : Table) (source : Bytes) :
    (accept t source).value = DefOut.accept t source := by
  unfold accept
  cases DefOut.accept t source <;> rfl

@[simp] theorem value_compile (t : Table) (source : Bytes) :
    (compile t source).value = DefOut.compile t source := by
  have hc : DefOut.compile t source = (DefOut.accept t source).map _ := rfl
  have hv := value_accept t source
  unfold compile
  simp only [bind,hv]
  cases ha : DefOut.accept t source with
  | error r => simp only [hc,ha]; rfl
  | ok lexemes => simp only [hc,ha]; rfl

end Logged

namespace Pool
variable {plan : Plan} {p q : Pool} {i : Nat} {job : Job}

theorem filterMap_handover?_log (records : List Record) :
    (records.map Event.log).filterMap Event.handover? = [] := by
  simp [List.filterMap_map,Event.handover?]

def Works (plan : Plan) (p : Pool) (i : Nat) (job : Job) (phase : Phase) (q : Pool) : Prop :=
  ∃ call next events, Onward plan p job phase call next ∧
    events.filterMap Event.handover? = phase.handovers plan ∧
    q = { p with
      workers := p.workers.set i next
      backend := p.backend.after call
      around := (phase.handovers plan).foldl plan.deliver p.around
      trace := p.trace ++ events }

theorem note_note (p : Pool) (first second : List Record) :
    (p.note first).note second = p.note (first ++ second) := by
  simp [note]

theorem works_note {phase next : Phase} {call : Option StoreCall}
    (ho : Onward plan p job phase call next) (hp : phase.handovers plan = [])
    (records : List Record) :
    Works plan p i job phase
      (({ p with backend := p.backend.after call }.note records).setPhase i next) := by
  refine ⟨call,next,records.map .log,ho,?_,?_⟩
  · rw [hp]
    exact filterMap_handover?_log records
  · rw [hp]
    rfl

theorem works_setPhase {phase next : Phase} {call : Option StoreCall}
    (ho : Onward plan p job phase call next) (hp : phase.handovers plan = []) :
    Works plan p i job phase ({ p with backend := p.backend.after call }.setPhase i next) := by
  have h := works_note (i := i) ho hp []
  rwa [note,List.map_nil,List.append_nil] at h

theorem works_look (plan : Plan) (p : Pool) (i : Nat) (job : Job) :
    Works plan p i job (.holding job) (p.look i job) := by
  unfold look
  split
  case h_1 reason hc => exact works_note (.skip hc) rfl _
  case h_2 hc =>
    rw [Backend.setStatus_eq,Backend.call_effect]
    cases p.backend.refusal? (.setStatus job.program.name .running) with
    | none => exact works_note (.start hc) rfl _
    | some cause => exact works_note (.start hc) rfl _

theorem works_process (plan : Plan) (p : Pool) (i : Nat) (job : Job) :
    Works plan p i job (.running job) (p.process plan i job) := by
  unfold process
  cases hr : job.program.readSource p.around.files with
  | error e => exact works_note (.unreadable hr) rfl _
  | ok text =>
    cases ha : accept plan.table (trimLineEnds text) with
    -- checking and compiling refuse the same texts
    | error r =>
      have hc := compile_of_accept_error ha
      simp only [Logged.value_accept,Logged.value_compile,ha,hc,decide,note_note]
      split
      · exact works_note (.reject hr ha) rfl _
      · exact works_note (.reject hr ha) rfl _
    | ok lexemes =>
      have hc := compile_of_accept ha
      simp only [Logged.value_accept,Logged.value_compile,ha,hc,decide,note_note]
      split
      case isTrue hv => exact works_note (.check hr ha hv) rfl _
      case isFalse hv => exact works_note (.compile hr ha (by simpa using hv)) rfl _

theorem works_keep (plan : Plan) (p : Pool) (i : Nat) (job : Job) (code : Bytes) :
    Works plan p i job (.compiled job code) (p.keep i job code) := by
  unfold keep
  rw [Backend.setOutput_eq,Backend.call_effect]
  cases hr : p.backend.refusal? (.setOutput job.program.name code) with
  | none => exact ⟨_,_,_,.keep hr,rfl,rfl⟩
  | some cause => exact works_note (.keepFails hr) rfl _

theorem works_handed {sink : Sink} {code : Bytes} {next : Phase} (hs : plan.sink = some sink)
    (ho : Onward plan p job (.stored job code) none next) (records : List Record) :
    Works plan p i job (.stored job code)
      (({ p with
          around := (sink.emit job.program code p.around).value.1
          trace := p.trace ++ [Event.handed job code] }.note records).setPhase i next) := by
  have hh : (Phase.stored job code).handovers plan = [(job,code)] := by
    simp [Phase.handovers,hs]
  refine ⟨none,next,.handed job code :: records.map .log,ho,?_,?_⟩
  · simp [hh,Event.handover?]
  · simp only [hh,note,setPhase,List.foldl_cons,List.foldl_nil,Plan.deliver,hs,
      List.append_assoc,List.singleton_append]
    rfl

theorem works_handOver (plan : Plan) (p : Pool) (i : Nat) (job : Job) (code : Bytes) :
    Works plan p i job (.stored job code) (p.handOver plan i job code) := by
  unfold handOver
  cases hs : plan.sink with
  | none => exact works_note (.unsunk hs) (by simp [Phase.handovers,hs]) _
  | some sink =>
    cases he : (sink.emit job.program code p.around).value.2 with
    | ok u =>
      simp only [decide,note_note,he]
      exact works_handed hs (.emit hs he) _
    | error e =>
      simp only [decide,note_note,he]
      exact works_handed hs (.emitFails hs he) _

theorem works_recordError (plan : Plan) (p : Pool) (i : Nat) (job : Job) (status : Status)
    (error : Option ProgramError) :
    Works plan p i job (.decided job status error) (p.recordError i job status error) := by
  cases error with
  | none => exact works_setPhase .noError rfl
  | some e =>
    simp only [recordError]
    rw [Backend.setError_eq,Backend.call_effect]
    cases p.backend.refusal? (.setError job.program.name e) with
    | none => exact works_setPhase .recordError rfl
    | some cause => exact works_note .recordError rfl _

theorem works_recordStatus (plan : Plan) (p : Pool) (i : Nat) (job : Job) (status : Status) :
    Works plan p i job (.recorded job status) (p.recordStatus i job status) := by
  unfold recordStatus
  rw [Backend.setStatus_eq,Backend.call_effect]
  cases p.backend.refusal? (.setStatus job.program.name status) with
  | none => exact works_setPhase .recordStatus rfl
  | some cause => exact works_note .recordStatus rfl _

theorem Works.stepped {phase : Phase} (h : Works plan p i job phase q)
    (hp : p.workers[i]? = some phase) (hj : phase.job? = some job) :
    Stepped plan p (.advance i) q := by
  obtain ⟨call,next,events,ho,he,rfl⟩ := h
  exact .work hp hj ho he

theorem stepped_of_advance (h : p.advance plan i = some q) : Stepped plan p (.advance i) q := by
  unfold advance at h
  split at h
  case h_1 => cases h
  case h_2 hp =>
    cases h
    exact .start hp
  case h_3 hp =>
    unfold receive at h
    split at h
    case h_1 job rest hq =>
      cases h
      exact .receive hp hq
    case h_2 hq =>
      split at h
      case isTrue hc =>
        cases h
        exact .stop hp hq hc
      case isFalse => cases h
  case h_4 hp => cases h; exact (works_look plan p i _).stepped hp rfl
  case h_5 hp => cases h; exact (works_process plan p i _).stepped hp rfl
  case h_6 hp => cases h; exact (works_keep plan p i _ _).stepped hp rfl
  case h_7 hp => cases h; exact (works_handOver plan p i _ _).stepped hp rfl
  case h_8 hp => cases h; exact (works_recordError plan p i _ _ _).stepped hp rfl
  case h_9 hp => cases h; exact (works_recordStatus plan p i _ _).stepped hp rfl
  case h_10 => cases h

theorem stepped_of_step {action : Action} (h : p.step plan action = some q) :
    Stepped plan p action q := by
  cases action with
  | advance i => exact stepped_of_advance h
  | close =>
    simp only [step] at h
    split at h
    case isTrue hc =>
      cases h
      simp only [Bool.and_eq_true,List.isEmpty_iff,Bool.not_eq_true'] at hc
      exact .close hc.1 hc.2
    case isFalse => cases h
  | cancel reason =>
    simp only [step] at h
    split at h
    case h_1 hc =>
      cases h
      exact .cancel hc
    case h_2 => cases h

end Pool
end DefOut
