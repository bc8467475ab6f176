import DefOut.Proofs.ExitCode
import DefOut.Proofs.Prediction

set_option autoImplicit false

/-!
The report of a session that only checks. What becomes of a program is a matter of its source alone
(`Program.judge`), and the report has the judgement of every program in its place, whatever the
schedule and the number of workers (`reports_judgements`).
-/
namespace DefOut

inductive Judgement where
  | ok
  | rejected (r : Rejection)
  | unreadable (e : SourceError)
  deriving DecidableEq, Repr

/-- Read a program and check its text, without the line ends at its end. -/
def Program.judge (files : Files) (p : Program) : Judgement :=
  match p.readSource files with
  | .error e => .unreadable e
  | .ok text =>
    match check .standard (lex .standard (trimLineEnds text)) with
    | some r => .rejected r
    | none => .ok

namespace Judgement

def report (files : Files) (p : Program) : Judgement → Bytes
  | ok => p.name ++ ": ok\n"
  | rejected r => p.name ++ ": rejected\n\n" ++ (explainRejection files p r).flatten
  | unreadable e => p.name ++ ": failed: " ++ e.message ++ "\n"

def error? (p : Program) : Judgement → Option ProgramError
  | ok => none
  | rejected r => some (.rejected p.name r)
  | unreadable e => some (.unreadable e)

def status : Judgement → Status
  | ok => .compiled
  | rejected _ => .rejected
  | unreadable _ => .failed

end Judgement

section store
variable {store : Store ProgramError} {files : Files} {p : Program} {judgement : Judgement}

theorem verdict_of_entry (h : store.entry p.name =
    ⟨some judgement.status,none,(judgement.error? p).map some⟩) :
    (verdict files store p).flatten = judgement.report files p := by
  obtain ⟨hstatus,_,_⟩ := Store.of_entry h
  have herror : (store.errors.get? p.name).getD none = judgement.error? p :=
    Store.recorded_of_entry h
  unfold verdict
  rw [hstatus,herror]
  cases judgement with
  | ok => simp [Judgement.status,Judgement.report]
  | rejected r =>
    have hwords : (": rejected\n\n" : Bytes) = ": " ++ Status.label .rejected ++ "\n\n" := by decide
    simp [Judgement.status,Judgement.error?,Judgement.report,hwords]
  | unreadable e =>
    have hwords : (": failed: " : Bytes) = ": " ++ Status.label .failed ++ ": " := by decide
    simp [Judgement.status,Judgement.error?,Judgement.report,ProgramError.message,hwords]

end store

theorem judge_eq_of_accept (files : Files) (p : Program) :
    p.judge files = match p.readSource files with
      | .error e => .unreadable e
      | .ok text => match accept .standard (trimLineEnds text) with
        | .error r => .rejected r
        | .ok _ => .ok := by
  unfold Program.judge accept
  cases p.readSource files with
  | error e => rfl
  | ok text => cases h : check .standard (lex .standard (trimLineEnds text)) <;> simp only [h]

theorem Told.judge {plan : Plan} {job : Job} {ms : List Moment} {files : Files} {status : Status}
    {output : Option Bytes} {error : Option ProgramError} (ht : plan.table = .standard)
    (hv : plan.validateOnly = true)
    (h : Told plan job ms (job.program.readSource files) status output error) :
    output = none ∧ status = (job.program.judge files).status ∧
      error = (job.program.judge files).error? job.program := by
  rw [judge_eq_of_accept]
  generalize job.program.readSource files = source at h ⊢
  cases h with
  | unreadable => exact ⟨rfl,rfl,rfl⟩
  | rejected ha | checked ha =>
    rw [ht] at ha
    simp [ha,Judgement.status,Judgement.error?]
  | emitted _ hb | notEmitted _ hb => cases hb.symm.trans hv

theorem entry_of_check {plan : Plan} {workers : Int} {programs : List Program}
    {around : Surroundings} {schedule : List Action} {final : Pool} (ht : plan.table = .standard)
    (hv : plan.validateOnly = true) (hn : (programs.map Program.name).Nodup)
    (hc : (Pool.ready workers programs {} around none).Completes plan schedule final)
    (hu : Pool.Uncancelled schedule) {p : Program} (hp : p ∈ programs) :
    final.backend.store.entry p.name =
      ⟨some (p.judge around.files).status,none,((p.judge around.files).error? p).map some⟩ := by
  obtain ⟨job,hj,rfl⟩ := exists_job hp
  obtain ⟨m,hm,_,status,output,error,h,hx⟩ := told_of_completes hn hc hu hj
  rw [((onlyChecks_of_perform hv hc.performed).2 m hm).around_eq] at h
  obtain ⟨rfl,rfl,rfl⟩ := h.judge ht hv
  exact hx

theorem Outlet.writeAll_of_grants {o : Outlet} (hg : ∀ n, o.grants n = true)
    (pieces : List Bytes) : o.writeAll pieces =
      { o with text := o.text ++ pieces.flatten, asked := o.asked+pieces.length } := by
  induction pieces generalizing o with
  | nil => simp [writeAll]
  | cons piece rest ih =>
    have hw : (o.write piece).1 = { o with text := o.text ++ piece, asked := o.asked+1 } := by
      rw [write,if_pos (hg _)]
    have hrest := ih (o := { o with text := o.text ++ piece, asked := o.asked+1 }) hg
    rw [writeAll,List.foldl_cons,hw]
    refine hrest.trans ?_
    simp only [List.append_assoc,List.flatten_cons,List.length_cons,Nat.add_assoc,
      Nat.add_comm 1]

theorem report_of_verdicts {s : Session} {store : Store ProgramError} {around : Surroundings}
    {line : Program → Bytes} (hc : s.settings.checkOnly = true)
    (hg : ∀ n, around.outlet.grants n = true)
    (hl : ∀ p ∈ s.model.programs, (verdict around.files store p).flatten = line p) :
    (s.report store around).outlet.text = around.outlet.text ++ s.model.programs.flatMap line ∧
      (s.report store around).files = around.files := by
  unfold Session.report
  rw [if_pos hc]
  generalize s.model.programs = programs at hl ⊢
  induction programs generalizing around with
  | nil => simp
  | cons p rest ih =>
    have hw := Outlet.writeAll_of_grants hg (verdict around.files store p)
    rw [hl p (by simp)] at hw
    have hnext : ∀ n, (around.outlet.writeAll (verdict around.files store p)).grants n = true := by
      rw [hw]
      exact hg
    obtain ⟨htext,hfiles⟩ :=
      @ih ⟨around.files,around.outlet.writeAll (verdict around.files store p)⟩ hnext
        fun q hq => hl q (by simp [hq])
    rw [List.foldl_cons]
    exact ⟨htext.trans (by rw [hw]; simp),hfiles⟩

/-! ### Errors -/

section errors
variable {files : Files} {programs : List Program}

def faults (files : Files) (programs : List Program) : List ProgramError :=
  programs.filterMap fun p => (p.judge files).error? p

theorem faults_eq_nil_iff : faults files programs = [] ↔ ∀ p ∈ programs, p.judge files = .ok := by
  rw [faults,List.filterMap_eq_nil_iff]
  refine forall_congr' fun p => imp_congr_right fun _ => ?_
  cases p.judge files <;> simp [Judgement.error?]

theorem any_isRejection_faults_iff : (faults files programs).any ProgramError.isRejection = true ↔
    ∃ p ∈ programs, ∃ r, p.judge files = .rejected r := by
  rw [faults,List.any_eq_true]
  constructor
  · rintro ⟨e,he,hr⟩
    obtain ⟨p,hp,hj⟩ := List.mem_filterMap.mp he
    refine ⟨p,hp,?_⟩
    cases hjudge : p.judge files with
    | ok => simp [hjudge,Judgement.error?] at hj
    | rejected r => exact ⟨r,rfl⟩
    | unreadable cause =>
      rw [hjudge] at hj
      obtain rfl := Option.some.inj hj
      cases hr
  · rintro ⟨p,hp,r,hj⟩
    exact ⟨.rejected p.name r,List.mem_filterMap.mpr ⟨p,hp,by rw [hj]; rfl⟩,rfl⟩

theorem ofRun_faults : let error := (joinErrors (faults files programs)).map SessionError.ofRun
    ((∃ cause, error = some (.rejected cause)) ↔ ∃ p ∈ programs, ∃ r, p.judge files = .rejected r) ∧
    ((∃ cause, error = some (.failed cause)) ↔ (∀ p ∈ programs, ∀ r, p.judge files ≠ .rejected r) ∧
      ∃ p ∈ programs, ∃ e, p.judge files = .unreadable e) ∧
    (error = none ↔ ∀ p ∈ programs, p.judge files = .ok) := by
  intro error
  have hnone : error = none ↔ ∀ p ∈ programs, p.judge files = .ok := by
    rw [← faults_eq_nil_iff,← joinErrors_eq_none_iff]
    exact Option.map_eq_none_iff
  have hrejected : (∃ cause, error = some (.rejected cause)) ↔
      ∃ p ∈ programs, ∃ r, p.judge files = .rejected r := by
    rw [← any_isRejection_faults_iff]
    simp only [error]
    cases faults files programs with
    | nil => simp [joinErrors]
    | cons e rest =>
      have hone : (joinErrors (e :: rest)).map SessionError.ofRun =
          some (if (e :: rest).any ProgramError.isRejection then .rejected (.programs (e :: rest))
            else .failed (.programs (e :: rest))) := rfl
      rw [hone]
      split <;> simp [*]
  have hfailed : (∃ cause, error = some (.failed cause)) ↔
      (¬ ∃ cause, error = some (.rejected cause)) ∧ error ≠ none := by
    rcases error with _ | cause | cause <;> simp
  refine ⟨hrejected,?_,hnone⟩
  rw [hfailed,hrejected,Ne,hnone]
  push Not
  refine and_congr_right fun hno => exists_congr fun p => and_congr_right fun hp => ?_
  cases hj : p.judge files with
  | ok => simp
  | rejected r => exact absurd hj (hno p hp r)
  | unreadable e => simp

end errors

/-- The report of a session that only checks has the judgement of every program, in the order of
the programs, and nothing else; the session fails as these judgements say. -/
theorem reports_judgements {s : Session} {around : Surroundings} {schedule : List Action}
    {final : Pool} (hcheck : s.settings.checkOnly = true)
    (hn : (s.model.programs.map Program.name).Nodup)
    (hg : ∀ n, around.outlet.grants n = true)
    (hc : (s.pool around).Completes s.settings.plan schedule final)
    (hu : Pool.Uncancelled schedule) :
    let run := s.runBy (fun _ _ => final) around none
    let judge := Program.judge around.files
    run.around.outlet.text = around.outlet.text ++
        s.model.programs.flatMap (fun p => (judge p).report around.files p) ∧
      run.around.files = around.files ∧
      run.error = (joinErrors (faults around.files s.model.programs)).map .ofRun ∧
      ((∃ cause, run.error = some (.rejected cause)) ↔
        ∃ p ∈ s.model.programs, ∃ r, judge p = .rejected r) ∧
      ((∃ cause, run.error = some (.failed cause)) ↔
        (∀ p ∈ s.model.programs, ∀ r, judge p ≠ .rejected r) ∧
          ∃ p ∈ s.model.programs, ∃ e, judge p = .unreadable e) ∧
      (run.error = none ↔ ∀ p ∈ s.model.programs, judge p = .ok) := by
  intro run judge
  have hall : run.around.outlet.text = around.outlet.text ++
        s.model.programs.flatMap (fun p => (judge p).report around.files p) ∧
      run.around.files = around.files ∧
      run.error = (joinErrors (faults around.files s.model.programs)).map .ofRun := by
    by_cases hne : s.model.programs = []
    · simp [run,Session.runBy,hne,faults,joinErrors]
    · obtain ⟨_,haround,herror⟩ :=
        Session.runBy_of_grants final around none hne (grants_of_perform hc.performed).1
      have hentry := fun p hp => entry_of_check (p := p) rfl hcheck hn hc hu hp
      rw [(onlyChecks_of_perform hcheck hc.performed).1.around_eq] at haround
      have hverdict : ∀ p ∈ s.model.programs, (verdict around.files final.backend.store p).flatten =
          (judge p).report around.files p := fun p hp => verdict_of_entry (hentry p hp)
      have hreport := report_of_verdicts hcheck hg hverdict
      have hfaults : recordedErrors final.backend.store s.model.programs =
          faults around.files s.model.programs :=
        List.filterMap_congr fun p hp => Store.recorded_of_entry (hentry p hp)
      rw [hfaults] at herror
      exact ⟨haround ▸ hreport.1,haround ▸ hreport.2,herror⟩
  obtain ⟨htext,hfiles,herror⟩ := hall
  refine ⟨htext,hfiles,herror,?_⟩
  rw [herror]
  exact ofRun_faults

theorem reports_judgements_of_three : ∃ schedule final,
    let s : Session := ⟨{ projectPath := "three", checkOnly := true, workerCount := 2 },
      ⟨[⟨"good","def x = 1\nout x",[],[],[]⟩,⟨"bad","out z\n",[],[],[]⟩,
        ⟨"lost",[],"lost.src",[],[]⟩]⟩,.empty⟩
    let run := s.runBy (fun _ _ => final) ⟨.empty,{}⟩ none
    (s.pool ⟨.empty,{}⟩).Completes s.settings.plan schedule final ∧
      run.around.outlet.text =
        "good: ok\n" ++ "bad: rejected\n\n" ++ "Error: Undeclared variable\n\n"
          ++ "  on bad line 1:\n   1: out z\n\n" ++ "Variable \"z\" is used but never "
          ++ "declared with def.\n\n" ++ "lost: failed: failed to read "
          ++ "source of program \"lost\": " ++ "open lost.src: no such file " ++ "or directory\n" ∧
      ∃ cause, run.error = some (.rejected cause) := by
  obtain ⟨schedule,hc,hu⟩ := Pool.completes_complete
    (Settings.plan { projectPath := "three", checkOnly := true, workerCount := 2 }) none
    (Pool.tidy_start
      [⟨"good","def x = 1\nout x",[],[],[]⟩,⟨"bad","out z\n",[],[],[]⟩,⟨"lost",[],"lost.src",[],[]⟩]
      2 (markPending {} _).1 ⟨.empty,{}⟩ none)
  obtain ⟨htext,_,_,hrejected,_⟩ := reports_judgements
    (s := ⟨{ projectPath := "three", checkOnly := true, workerCount := 2 },⟨_⟩,.empty⟩) rfl
    (by decide) (fun _ => rfl) hc (hu rfl)
  refine ⟨schedule,_,hc,?_,hrejected.mpr ⟨⟨"bad","out z\n",[],[],[]⟩,by decide,?_⟩⟩
  · rw [htext]
    decide +kernel
  · exact ⟨⟨1,.undeclaredVariable,"z",⟨1,3,2⟩,⟨1,4,3⟩⟩,by decide +kernel⟩

end DefOut
