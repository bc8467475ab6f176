import DefOut.Proofs.Runs

set_option autoImplicit false

/-!
Runs on a store that may fail. A worker has nobody to tell that the error of its program could not
be recorded: it writes a record and goes on. So a run that reports no error has compiled every
program, but for those whose error the store refused to record, and each of these is in the log.
-/
namespace DefOut

def errorLost (i : Nat) (job : Job) (e : ProgramError) (cause : Refusal) : Record where
  level := .error
  message := "Failed to record program error."
  attributes := Pool.scope i job ++ [⟨"error",cause.message⟩,⟨"program_error",e.message⟩]

def Moment.Loses (m : Moment) (job : Job) (status : Status) (e : ProgramError) (cause : Refusal) :
    Prop :=
  m.phase? = some (.decided job status (some e)) ∧
    m.pool.backend.refusal? (.setError job.program.name e) = some cause

namespace Pool
variable {plan : Plan} {p q final : Pool}

theorem trace_subset {action : Action} (h : Stepped plan p action q) : p.trace ⊆ q.trace := by
  cases h with
  | start | stop | work => exact List.subset_append_left _ _
  | receive | close | cancel => exact List.Subset.refl _

theorem mem_records_iff {r : Record} : r ∈ p.records ↔ Event.log r ∈ p.trace := by
  simp only [records,List.mem_filterMap]
  constructor
  · rintro ⟨event,hm,he⟩
    cases event <;> simp at he
    exact he ▸ hm
  · exact fun hm => ⟨_,hm,rfl⟩

theorem errorLost_mem_of_step {i : Nat} {job : Job} {status : Status} {e : ProgramError}
    {cause : Refusal} (hm : (⟨p,i⟩ : Moment).Loses job status e cause)
    (h : p.step plan (.advance i) = some q) : errorLost i job e cause ∈ q.records := by
  obtain ⟨hp,hr⟩ := hm
  have hq : some (p.recordError i job status (some e)) = some q := by
    rw [← h,step,advance,show p.workers[i]? = _ from hp]
  obtain rfl := Option.some.inj hq
  have hb : p.backend.setError job.program.name e =
      (p.backend.after (some (.setError job.program.name e)),.error cause) := by
    rw [Backend.setError_eq,Backend.call_effect,hr]
  rw [mem_records_iff,recordError]
  simp only [hb]
  simp [setPhase,note,about,errorLost]

/-- Every error that the store refuses to record is in the log. -/
theorem errorLost_mem_records {schedule : List Action}
    (h : p.perform plan schedule = some final) {m : Moment} (hm : m ∈ p.moments plan schedule)
    {job : Job} {status : Status} {e : ProgramError} {cause : Refusal}
    (hl : m.Loses job status e cause) : errorLost m.worker job e cause ∈ final.records := by
  have h0 : ∀ m ∈ ([] : List Moment), m.Loses job status e cause →
      errorLost m.worker job e cause ∈ p.records := by simp
  refine perform_invariant_from (fun q ms => ∀ m ∈ ms, m.Loses job status e cause →
    errorLost m.worker job e cause ∈ q.records) ?_ h0 h m hm hl
  intro p ms action q _ hp hq m hm hl
  obtain hm | hm := List.mem_append.mp hm
  · rw [mem_records_iff]
    exact trace_subset (stepped_of_step hq) (mem_records_iff.mp (hp m hm hl))
  · cases action with
    | advance i =>
      obtain rfl := List.mem_singleton.mp hm
      exact errorLost_mem_of_step hl hq
    | close | cancel => simp [momentOf] at hm

end Pool

section run
variable {plan : Plan} {workers : Int} {programs : List Program} {backend : Backend}
  {around : Surroundings} {cancelled : Option Cancellation} {schedule : List Action} {final : Pool}

theorem error_eq_none_of_recordedErrors_eq_nil {s : Store ProgramError}
    (h : recordedErrors s programs = []) {program : Program} (hp : program ∈ programs)
    {e : ProgramError} : (s.entry program.name).error ≠ some (some e) := by
  intro he
  have hm : e ∈ recordedErrors s programs :=
    List.mem_filterMap.mpr ⟨program,hp,by simp [show s.errors.get? program.name = _ from he]⟩
  simp [h] at hm

/-- When a run reports no error, every program was processed with success, or the store refused to
record its error, and then the log has it. -/
theorem compiled_or_error_lost (hn : (programs.map Program.name).Nodup)
    (he : backend.store = .empty)
    (hc : (Pool.ready workers programs backend around cancelled).Completes plan schedule final)
    (hr : (runBy (fun _ => final) plan workers programs backend around cancelled).error = none) :
    ∀ job ∈ jobsOf programs,
      let moments := (Pool.ready workers programs backend around cancelled).moments plan schedule
      verdicts job moments = [(.compiled,none)] ∧ Succeeds plan job moments ∨
      ∃ status e, verdicts job moments = [(status,some e)] ∧
        ∃ m ∈ moments, ∃ cause, m.Loses job status e cause ∧
          errorLost m.worker job e cause ∈
            (runBy (fun _ => final) plan workers programs backend around cancelled).records := by
  intro job hj
  obtain ⟨hm,hnil,hlog⟩ := of_runBy_error_eq_none hr
  obtain ⟨before,d,r,status,error,ha,hv,hd,hrec,hx,_⟩ := verdict_of_completes hn he hm hc hj
  have hvs := verdicts_of_about ha hv hd hrec
  cases error with
  | none =>
    obtain rfl := hv.error_eq_none_iff.mp rfl
    exact .inl ⟨hvs,(compiled_iff_succeeds ha hv hd hrec).mp rfl⟩
  | some e =>
    have hd' : d ∈ Moment.about job
        ((Pool.ready workers programs backend around cancelled).moments plan schedule) := by
      simp [ha]
    have hmem := List.mem_of_mem_filter hd'
    -- a recorded error would have been read back, so the store must have refused it
    cases hw : d.pool.backend.refusal? (.setError job.program.name e) with
    | none =>
      have hlost := error_eq_none_of_recordedErrors_eq_nil (e := e) hnil (program_mem_of_mem_jobsOf hj)
      exact absurd (hx.trans (by simp [Backend.grant,hw,StoreCall.onEntry])) hlost
    | some cause =>
      exact .inr ⟨status,e,hvs,d,hmem,cause,⟨hd,hw⟩,
        hlog (Pool.errorLost_mem_records hc.performed hmem ⟨hd,hw⟩)⟩

end run

def Backend.unrecording : Backend where
  fault := fun _ call =>
    match call with
    | .setError _ _ => some "error backend unavailable"
    | _ => none

theorem compiled_or_error_lost_undeclared : ∃ schedule final,
    let programs : List Program := [⟨"p","out z",[],[],[]⟩,⟨"q","def x = 1\nout x",[],[],[]⟩]
    let plan : Plan := { sink := some .discard }
    let p := Pool.ready 2 programs .unrecording ⟨.empty,{}⟩ none
    p.Completes plan schedule final ∧
      (runBy (fun _ => final) plan 2 programs .unrecording ⟨.empty,{}⟩ none).error = none ∧
      ∀ job ∈ jobsOf programs,
        verdicts job (p.moments plan schedule) = [(.compiled,none)] ∧
          Succeeds plan job (p.moments plan schedule) ∨
        ∃ status e, verdicts job (p.moments plan schedule) = [(status,some e)] ∧
          ∃ m ∈ p.moments plan schedule, ∃ cause, m.Loses job status e cause ∧
            errorLost m.worker job e cause ∈
              (runBy (fun _ => final) plan 2 programs .unrecording ⟨.empty,{}⟩ none).records := by
  obtain ⟨schedule,hc,_⟩ := Pool.completes_complete { sink := some .discard } none
    (Pool.tidy_start [⟨"p","out z",[],[],[]⟩,⟨"q","def x = 1\nout x",[],[],[]⟩] 2
      (markPending .unrecording _).1 ⟨.empty,{}⟩ none)
  have hr : (run { sink := some .discard } 2
      [⟨"p","out z",[],[],[]⟩,⟨"q","def x = 1\nout x",[],[],[]⟩] .unrecording
      ⟨.empty,{}⟩).error = none := by decide +kernel
  exact ⟨schedule,_,hc,hr,compiled_or_error_lost (by decide) rfl hc hr⟩

theorem lost_rejection_reported_as_success :
    (run { sink := some .discard } 1 [⟨"p","out z",[],[],[]⟩] .unrecording
        ⟨.empty,{}⟩).error = none ∧
      (run { sink := some .discard } 1 [⟨"p","out z",[],[],[]⟩] .unrecording
        ⟨.empty,{}⟩).backend.store.status "p" = .rejected := by
  decide +kernel

end DefOut
