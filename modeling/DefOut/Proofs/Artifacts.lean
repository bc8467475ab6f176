import DefOut.Proofs.FileTree
import DefOut.Proofs.Independence

set_option autoImplicit false

/-!
The files that a run writes. Processing a program that is not compiled adds directories at most,
and processing one that is changes the file at its output path and no other (`Processed`,
`processes_running`). So at every state of a run, each file that is not as it was before has the code
of a program that has been found compiled (`Traced`).
-/
namespace DefOut

theorem written_emit (program : Program) (code : Bytes) (around : Surroundings) :
    Files.Written program.output code around.files
      (Sink.toFiles.emit program code around).value.1.files
      (Sink.toFiles.emit program code around).value.2 := by
  have hw := Files.written_write around.files program.output code
  by_cases he : program.output.isEmpty = true
  · simp only [Sink.toFiles,he,if_true]
    exact .failed (.refl _ _)
  · simp only [Sink.toFiles,he]
    generalize around.files.write program.output code = r at hw ⊢
    obtain ⟨files,e | u⟩ := r
    · cases hw with
      | failed hg => exact .failed hg
    · cases hw with
      | done hg hl hn hset => exact .done hg hl hn hset

theorem deliver_stored {plan : Plan} (hs : plan.sink = some .toFiles) (job : Job) (code : Bytes)
    (around : Surroundings) :
    ((Phase.stored job code).handovers plan).foldl plan.deliver around =
      (Sink.toFiles.emit job.program code around).value.1 := by
  simp [Phase.handovers,hs,Plan.deliver]

/-! ### Processing one program -/

section process
variable {plan : Plan} {p q r : Pool} {i : Nat} {job : Job} {status : Status}
  {error : Option ProgramError}

theorem exists_works (plan : Plan) {phase : Phase} (hp : p.workers[i]? = some phase)
    (hj : phase.job? = some job) :
    ∃ q call next, p.step plan (.advance i) = some q ∧ Onward plan p job phase call next ∧
      q.workers[i]? = some next ∧ q.backend = p.backend.after call ∧
      q.around = (phase.handovers plan).foldl plan.deliver p.around := by
  have hi : i < p.workers.length := (List.getElem?_eq_some_iff.mp hp).1
  obtain ⟨q,hq⟩ : ∃ q, p.advance plan i = some q :=
    Pool.exists_advance hp (by rintro rfl; cases hj) (by rintro rfl; cases hj)
  have hs : Stepped plan p (.advance i) q := Pool.stepped_of_advance hq
  cases hs with
  | start hp' | receive hp' | stop hp' =>
    obtain rfl := Option.some.inj (hp.symm.trans hp')
    cases hj
  | @work _ _ next own call events hp' hj' ho he =>
    obtain rfl := Option.some.inj (hp.symm.trans hp')
    obtain rfl := Option.some.inj (hj.symm.trans hj')
    exact ⟨_,call,next,hq,ho,List.getElem?_set_self hi,rfl,rfl⟩

def Pool.Decides (plan : Plan) (p : Pool) (i : Nat) (job : Job) (q : Pool) (status : Status)
    (error : Option ProgramError) : Prop :=
  ∃ n, p.perform plan (List.replicate n (.advance i)) = some q ∧
    q.workers[i]? = some (.decided job status error)

theorem Pool.Decides.refl (h : p.workers[i]? = some (.decided job status error)) :
    p.Decides plan i job p status error := ⟨0,rfl,h⟩

theorem Pool.Decides.step (hs : p.step plan (.advance i) = some q)
    (h : q.Decides plan i job r status error) : p.Decides plan i job r status error := by
  obtain ⟨n,hn,hd⟩ := h
  refine ⟨n+1,?_,hd⟩
  rw [List.replicate_succ,perform,hs]
  exact hn

inductive Refused (plan : Plan) (backend : Backend) (around : Surroundings) (program : Program) :
    Status → Option ProgramError → Prop
  | unreadable {e : SourceError} : program.readSource around.files = .error e →
      Refused plan backend around program .failed (some (.unreadable e))
  | rejected {text kept : Bytes} {r : Rejection} : program.readSource around.files = .ok text →
      Trimmed text kept → compile plan.table kept = .error r →
      Refused plan backend around program .rejected (some (.rejected program.name r))
  | notStored {text kept : Bytes} {artifact : Artifact} {cause : Refusal} :
      program.readSource around.files = .ok text →
      Trimmed text kept → compile plan.table kept = .ok artifact →
      backend.refusal? (.setOutput program.name artifact.code) = some cause →
      Refused plan backend around program .failed (some (.notStored program.name cause))
  | notEmitted {text kept : Bytes} {artifact : Artifact} {e : EmitError} :
      program.readSource around.files = .ok text →
      Trimmed text kept → compile plan.table kept = .ok artifact →
      (Sink.toFiles.emit program artifact.code around).value.2 = .error e →
      Refused plan backend around program .failed (some (.notEmitted program.name e))

theorem Refused.status_eq {backend : Backend} {around : Surroundings} {program : Program}
    (h : Refused plan backend around program status error) :
    (status = .rejected ∨ status = .failed) ∧ error ≠ none := by
  cases h <;> simp

/-- What a program comes to whose code goes to files, and what becomes of the files. -/
inductive Processed (plan : Plan) (backend : Backend) (around : Surroundings)
    (program : Program) : Files → Status → Option ProgramError → Prop
  | refused {other : Files} {status : Status} {error : Option ProgramError} :
      Refused plan backend around program status error →
      Files.Grown (Files.ancestry (Path.directory program.output)) around.files other →
      Processed plan backend around program other status error
  | checked {text kept : Bytes} {artifact : Artifact} :
      program.readSource around.files = .ok text →
      Trimmed text kept → compile plan.table kept = .ok artifact → plan.validateOnly = true →
      Processed plan backend around program around.files .compiled none
  | emitted {text kept : Bytes} {artifact : Artifact} {other : Files} :
      program.readSource around.files = .ok text →
      Trimmed text kept → compile plan.table kept = .ok artifact → plan.validateOnly = false →
      Files.Written program.output artifact.code around.files other
        (.ok () : Except EmitError Unit) →
      Processed plan backend around program other .compiled none

theorem Processed.parentsMade {backend : Backend} {around : Surroundings} {program : Program}
    {other : Files} (h : Processed plan backend around program other status error) :
    Files.ParentsMade program.output around.files other := by
  cases h with
  | refused _ hg => exact hg.parentsMade
  | checked => exact .refl _ _
  | emitted _ _ _ _ hw => exact hw.parentsMade

def Pool.Processes (plan : Plan) (p : Pool) (i : Nat) (job : Job) (backend : Backend)
    (around : Surroundings) : Prop :=
  ∃ q status error, p.Decides plan i job q status error ∧
    Processed plan backend around job.program q.around.files status error

section stages
variable {backend : Backend} {around : Surroundings} {text kept : Bytes} {artifact : Artifact}

theorem Pool.Processes.step (hs : p.step plan (.advance i) = some q)
    (h : q.Processes plan i job backend around) : p.Processes plan i job backend around := by
  obtain ⟨r,status,error,hd,hp⟩ := h
  exact ⟨r,status,error,hd.step hs,hp⟩

theorem Pool.Processes.of_refused (hs : p.step plan (.advance i) = some q)
    (hn : q.workers[i]? = some (.decided job status error)) (ha : q.around = around)
    (h : Refused plan backend around job.program status error) :
    p.Processes plan i job backend around := by
  refine ⟨q,status,error,.step hs (.refl hn),.refused h ?_⟩
  rw [ha]
  exact .refl _ _

theorem processes_stored (backend : Backend) (hs : plan.sink = some .toFiles)
    (hr : job.program.readSource p.around.files = .ok text)
    (ht : Trimmed text kept) (hc : compile plan.table kept = .ok artifact)
    (hv : plan.validateOnly = false)
    (hp : p.workers[i]? = some (.stored job artifact.code)) :
    p.Processes plan i job backend p.around := by
  obtain ⟨q,call,next,hq,ho,hn,_,ha⟩ := exists_works plan hp rfl
  have hw := written_emit job.program artifact.code p.around
  rw [← deliver_stored hs job artifact.code p.around,← ha] at hw
  cases ho with
  | unsunk hnone => cases hnone.symm.trans hs
  | emit hsink hok =>
    obtain rfl := Option.some.inj (hs.symm.trans hsink)
    rw [hok] at hw
    exact ⟨q,_,_,.step hq (.refl hn),.emitted hr ht hc hv hw⟩
  | emitFails hsink hbad =>
    obtain rfl := Option.some.inj (hs.symm.trans hsink)
    rw [hbad] at hw
    cases hw with
    | failed hg => exact ⟨q,_,_,.step hq (.refl hn),.refused (.notEmitted hr ht hc hbad) hg⟩

theorem processes_compiled (hs : plan.sink = some .toFiles)
    (hr : job.program.readSource p.around.files = .ok text)
    (ht : Trimmed text kept) (hc : compile plan.table kept = .ok artifact)
    (hv : plan.validateOnly = false)
    (hp : p.workers[i]? = some (.compiled job artifact.code)) :
    p.Processes plan i job p.backend p.around := by
  obtain ⟨q,call,next,hq,ho,hn,_,ha⟩ := exists_works plan hp rfl
  have ha : q.around = p.around := ha
  cases ho with
  | keep =>
    refine .step hq ?_
    rw [← ha] at hr ⊢
    exact processes_stored p.backend hs hr ht hc hv hn
  | keepFails hno => exact .of_refused hq hn ha (.notStored hr ht hc hno)

theorem processes_running (hs : plan.sink = some .toFiles)
    (hp : p.workers[i]? = some (.running job)) : p.Processes plan i job p.backend p.around := by
  obtain ⟨q,call,next,hq,ho,hn,hb,ha⟩ := exists_works plan hp rfl
  have ha : q.around = p.around := ha
  have ht := fun text => trimmed_trimLineEnds text
  cases ho with
  | unreadable hr => exact .of_refused hq hn ha (.unreadable hr)
  | reject hr hac =>
    exact .of_refused hq hn ha (.rejected hr (ht _) (compile_of_accept_error hac))
  | check hr hac hv =>
    refine ⟨q,_,_,.step hq (.refl hn),?_⟩
    rw [ha]
    exact .checked hr (ht _) (compile_of_accept hac) hv
  | compile hr hac hv =>
    have hb : q.backend = p.backend := hb
    refine .step hq ?_
    rw [← ha] at hr ⊢
    rw [← hb]
    exact processes_compiled hs hr (ht _) (compile_of_accept hac) hv hn

end stages
end process

/-! ### Whole runs -/

section runs
variable {plan : Plan} {p q : Pool} {action : Action} {ms : List Moment} {jobs : List Job}

/-- What one action does to the files: directories stay, and a file changes only when a worker
hands over the code of its program and finds it compiled. -/
theorem files_step (hs : plan.sink = some .toFiles) (h : Stepped plan p action q) :
    (∀ place, p.around.files.item? place = some .folder →
      q.around.files.item? place = some .folder) ∧
    ∀ place, q.around.files.fileAt? place = p.around.files.fileAt? place ∨
      ∃ (i : Nat) (job : Job) (code : Bytes), p.workers[i]? = some (.stored job code) ∧
        q.workers[i]? = some (.decided job .compiled none) ∧
        q.around.files.Leads job.program.output place ∧
        q.around.files.fileAt? place = some code := by
  cases h with
  | start | receive | stop | close | cancel => exact ⟨fun _ hf => hf,fun _ => .inl rfl⟩
  | @work i phase next job call events hp hj ho he =>
    have hi : i < p.workers.length := (List.getElem?_eq_some_iff.mp hp).1
    cases ho with
    | @emit sink code hsink hok =>
      obtain rfl := Option.some.inj (hs.symm.trans hsink)
      have hw := written_emit job.program code p.around
      rw [hok] at hw
      rw [deliver_stored hs]
      refine ⟨hw.parentsMade.kept,fun place => ?_⟩
      obtain ⟨target,hl,hc,hrest⟩ := hw.fileAt?_of_ok
      by_cases ht : place = target
      · subst ht
        exact .inr ⟨i,job,code,hp,List.getElem?_set_self hi,hl,hc⟩
      · exact .inl (hrest place ht)
    | @emitFails sink code e hsink hbad =>
      obtain rfl := Option.some.inj (hs.symm.trans hsink)
      have hw := written_emit job.program code p.around
      rw [hbad] at hw
      rw [deliver_stored hs]
      exact ⟨hw.parentsMade.kept,fun place => .inl (hw.fileAt?_of_error place)⟩
    | unsunk hnone => cases hnone.symm.trans hs
    | _ => exact ⟨fun _ hf => hf,fun _ => .inl rfl⟩

theorem workers_step {k : Nat} (hs : Stepped plan p (.advance k) q) {i : Nat} (hi : i ≠ k) :
    q.workers[i]? = p.workers[i]? := by
  cases hs with
  | start | receive | stop | work => exact List.getElem?_set_ne (Ne.symm hi)

theorem queue_step (hs : Stepped plan p action q) : q.queue ⊆ p.queue := by
  cases hs with
  | receive _ hq => exact hq ▸ List.subset_cons_self _ _
  | _ => exact List.Subset.refl _

def FoundCompiled (p : Pool) (ms : List Moment) (job : Job) : Prop :=
  (∃ i : Nat, p.workers[i]? = some (.decided job .compiled none)) ∨
    (.compiled,none) ∈ verdicts job ms

theorem FoundCompiled.step {job : Job} (h : FoundCompiled p ms job)
    (hs : Stepped plan p action q) : FoundCompiled q (ms ++ p.momentOf action) job := by
  unfold FoundCompiled
  rw [verdicts,List.filterMap_append,List.mem_append]
  obtain ⟨i,hi⟩ | hv := h
  · cases action with
    | advance k =>
      by_cases hk : i = k
      · subst hk
        exact .inr (.inr (by simp [Pool.momentOf,Moment.phase?,hi]))
      · exact .inl ⟨i,(workers_step hs hk).trans hi⟩
    | close => cases hs; exact .inl ⟨i,hi⟩
    | cancel reason => cases hs; exact .inl ⟨i,hi⟩
  · exact .inr (.inl hv)

/-- In one of these moments the program is read, and this is the code of its text. -/
def CodeOf (plan : Plan) (job : Job) (ms : List Moment) (code : Bytes) : Prop :=
  ∃ m ∈ ms, ∃ text kept artifact, m.phase? = some (.running job) ∧
    job.program.readSource m.pool.around.files = .ok text ∧ Trimmed text kept ∧
    compile plan.table kept = .ok artifact ∧ code = artifact.code

theorem CodeOf.append {job : Job} {code : Bytes} (h : CodeOf plan job ms code)
    (more : List Moment) : CodeOf plan job (ms ++ more) code := by
  obtain ⟨m,hm,hrest⟩ := h
  exact ⟨m,List.mem_append_left more hm,hrest⟩

/-- The programs of the run are where they are handed on, workers have the code of their programs,
and each file that is not as before has the code of a program that was found compiled. -/
structure Traced (plan : Plan) (jobs : List Job) (fs : Files) (p : Pool) (ms : List Moment) :
    Prop where
  queued : p.queue ⊆ jobs
  held : ∀ i phase job, Holds p.workers i phase job → job ∈ jobs
  code : ∀ i phase job code, Holds p.workers i phase job → phase.code? = some code →
    CodeOf plan job ms code
  changed : ∀ place, p.around.files.fileAt? place ≠ fs.fileAt? place → ∃ job ∈ jobs,
    p.around.files.Leads job.program.output place ∧ FoundCompiled p ms job ∧
    ∃ code, p.around.files.fileAt? place = some code ∧ CodeOf plan job ms code

namespace Traced
variable {fs : Files}

theorem held_step (h : Traced plan jobs fs p ms) (hs : Stepped plan p action q) {i : Nat}
    {phase : Phase} {job : Job} (hh : Holds q.workers i phase job) : job ∈ jobs := by
  obtain hh | ⟨_,hq⟩ | ⟨old,call,_,hh,_⟩ := hs.holds hh
  · exact h.held i phase job hh
  · exact h.queued hq
  · exact h.held i old job hh

theorem code_step (h : Traced plan jobs fs p ms) (hs : Stepped plan p action q) {i : Nat}
    {phase : Phase} {job : Job} {code : Bytes} (hh : Holds q.workers i phase job)
    (hc : phase.code? = some code) : CodeOf plan job (ms ++ p.momentOf action) code := by
  obtain hh | ⟨rfl,_⟩ | ⟨old,call,rfl,hh,ho⟩ := hs.holds hh
  · exact (h.code i phase job code hh hc).append _
  · cases hc
  · obtain hold | ⟨rfl,hout⟩ := ho.code?_next hc
    · exact (h.code i old job code hh hold).append _
    · obtain ⟨_,text,kept,lexemes,hr,ht,ha,rfl⟩ :=
        (Program.process_output_iff plan p.around job.program code).mp hout
      have hm : (⟨p,i⟩ : Moment) ∈ ms ++ p.momentOf (.advance i) := by simp [Pool.momentOf]
      exact ⟨⟨p,i⟩,hm,text,kept,_,hh.1,hr,ht,compile_of_accept ha,rfl⟩

theorem step (hsink : plan.sink = some .toFiles) (h : Traced plan jobs fs p ms)
    (hs : Stepped plan p action q) : Traced plan jobs fs q (ms ++ p.momentOf action) := by
  refine ⟨List.Subset.trans (queue_step hs) h.queued,fun _ _ _ hh => h.held_step hs hh,
    fun _ _ _ _ hh hc => h.code_step hs hh hc,fun place hne => ?_⟩
  obtain ⟨hfolders,hfiles⟩ := files_step hsink hs
  -- the place is as before the step, or a worker has written there just now
  obtain hsame | ⟨i,job,code,hp,hd,hl,hc⟩ := hfiles place
  · rw [hsame] at hne ⊢
    obtain ⟨job,hj,hl,hf,code,hc,hcode⟩ := h.changed place hne
    exact ⟨job,hj,hl.mono hfolders,hf.step hs,code,hc,hcode.append _⟩
  · have hcode : CodeOf plan job ms code := h.code i _ job code ⟨hp,rfl⟩ rfl
    exact ⟨job,h.held i _ job ⟨hp,rfl⟩,hl,.inl ⟨i,hd⟩,code,hc,hcode.append _⟩

end Traced

theorem traced_ready (plan : Plan) (workers : Int) (programs : List Program) (backend : Backend)
    (around : Surroundings) (cancelled : Option Cancellation) :
    Traced plan (jobsOf programs) around.files
      (Pool.ready workers programs backend around cancelled) [] := by
  have hidle : ∀ i phase job,
      ¬ Holds (Pool.ready workers programs backend around cancelled).workers i phase job := by
    rintro i phase job ⟨hp,hj⟩
    obtain rfl := List.eq_of_mem_replicate (List.mem_of_getElem? hp)
    cases hj
  exact ⟨List.Subset.refl _,fun i phase job hh => absurd hh (hidle i phase job),
    fun i phase job _ hh => absurd hh (hidle i phase job),fun _ hne => absurd rfl hne⟩

end runs

theorem FoundCompiled.mem_verdicts {p : Pool} {ms : List Moment} {job : Job}
    (h : FoundCompiled p ms job) (hf : p.isFinished = true) :
    (.compiled,none) ∈ verdicts job ms := by
  simp only [Pool.isFinished,Bool.and_eq_true,List.all_eq_true,decide_eq_true_eq] at hf
  obtain ⟨i,hi⟩ | hv := h
  · cases hf.2 _ (List.mem_of_getElem? hi)
  · exact hv

/-- Only a compiled program touches the files. Processing a program that is not compiled makes
directories for its output at most; processing a compiled one puts its code where its output leads.
So after a run, each file that is not as before has the code of a program that was compiled. -/
theorem only_compiled_touches_files {plan : Plan} (hsink : plan.sink = some .toFiles) :
    (∀ (p : Pool) (i : Nat) (job : Job), p.workers[i]? = some (.running job) →
      ∃ n q status error, p.perform plan (List.replicate n (.advance i)) = some q ∧
        q.workers[i]? = some (.decided job status error) ∧
        let before := p.around.files
        let after := q.around.files
        Files.ParentsMade job.program.output before after ∧
        (status = .compiled ∧ error = none ∧ (∃ text kept artifact,
            job.program.readSource before = .ok text ∧ Trimmed text kept ∧
            compile plan.table kept = .ok artifact ∧
            if plan.validateOnly then after = before
            else
              after.read job.program.output = .ok artifact.code ∧
              ∃ place, after.Leads job.program.output place ∧
                after.fileAt? place = some artifact.code ∧
                ∀ other, other ≠ place → after.fileAt? other = before.fileAt? other) ∨
          (status = .rejected ∨ status = .failed) ∧ error ≠ none ∧
            Refused plan p.backend p.around job.program status error ∧
            ∀ place, after.fileAt? place = before.fileAt? place)) ∧
    ∀ (workers : Int) (programs : List Program) (backend : Backend) (around : Surroundings)
      (cancelled : Option Cancellation) (schedule : List Action) (final : Pool),
      (Pool.ready workers programs backend around cancelled).Completes plan schedule final →
      let moments := (Pool.ready workers programs backend around cancelled).moments plan schedule
      let result := runBy (fun _ => final) plan workers programs backend around cancelled
      let after := result.around.files
      ∀ place, after.fileAt? place ≠ around.files.fileAt? place →
        ∃ job ∈ jobsOf programs, after.Leads job.program.output place ∧
          (.compiled,none) ∈ verdicts job moments ∧
          (∃ m ∈ moments, ∃ text kept artifact, m.phase? = some (.running job) ∧
            job.program.readSource m.pool.around.files = .ok text ∧ Trimmed text kept ∧
            compile plan.table kept = .ok artifact ∧
            after.fileAt? place = some artifact.code) ∧
          ((programs.map Program.name).Nodup → backend = {} →
            result.backend.store.status job.program.name = .compiled) := by
  refine ⟨fun p i job hp => ?_,?_⟩
  · obtain ⟨q,status,error,⟨n,hn,hd⟩,hq⟩ := processes_running hsink hp
    refine ⟨n,q,status,error,hn,hd,hq.parentsMade,?_⟩
    generalize q.around.files = other at hq ⊢
    cases hq with
    | refused hr hg => exact .inr ⟨hr.status_eq.1,hr.status_eq.2,hr,hg.fileAt?_eq⟩
    | checked hr ht hc hv => exact .inl ⟨rfl,rfl,_,_,_,hr,ht,hc,by simp [hv]⟩
    | emitted hr ht hc hv hw =>
      obtain ⟨place,hl,hf,hrest⟩ := hw.fileAt?_of_ok
      refine .inl ⟨rfl,rfl,_,_,_,hr,ht,hc,?_⟩
      rw [if_neg (by simp [hv])]
      exact ⟨hl.read_eq hf,place,hl,hf,hrest⟩
  · intro workers programs backend around cancelled schedule final hc moments result after place hne
    have ht := Pool.perform_invariant (Traced plan (jobsOf programs) around.files)
      (fun p ms action q _ hp hs => hp.step hsink hs)
      (traced_ready plan workers programs backend around cancelled) hc.performed
    have hafter : after = final.around.files := by
      obtain h | h := around_runBy final plan workers programs backend around cancelled
      · exact absurd (congrArg (fun a => a.files.fileAt? place) h) hne
      · exact congrArg Surroundings.files h
    rw [hafter] at hne ⊢
    obtain ⟨job,hj,hl,hf,code,hcode,m,hm,text,kept,artifact,hp,hr,htrim,hcomp,rfl⟩ :=
      ht.changed place hne
    have hv := hf.mem_verdicts (hc.isFinished (Pool.tidy_start programs workers _ around cancelled))
    refine ⟨job,hj,hl,hv,⟨m,hm,text,kept,artifact,hp,hr,htrim,hcomp,hcode⟩,fun hn hb => ?_⟩
    subst hb
    obtain ⟨status,output,error,hset⟩ := settled_of_completes hn hc hj
    have hstore := (runBy_of_perform (.inr (by simp [hsink])) hc.performed).1
    obtain ⟨rfl,rfl⟩ : Status.compiled = status ∧ none = error := by
      simpa [hset.verdicts] using hv
    exact (congrArg (Store.status · job.program.name) hstore).trans hset.status_eq

/-- The text of the one program ends with line ends, and its file has the code of what comes before
them; the other program is rejected, and leaves every file as it was. -/
theorem only_compiled_touches_files_rejected :
    let plan : Plan := { sink := some .toFiles }
    let good : Program := ⟨"p","def x = 1\nout x\r\n\n",[],"out/p.cpp",[]⟩
    let bad : Program := ⟨"q","out z",[],"out/q.cpp",[]⟩
    let around : Surroundings := ⟨⟨.folder [("q.lexc",.file "out z")]⟩,{}⟩
    (∃ schedule final artifact,
      let after := (runBy (fun _ => final) plan 2 [good,bad] {} around none).around.files
      (Pool.ready 2 [good,bad] {} around none).Completes plan schedule final ∧
        compile .standard "def x = 1\nout x" = .ok artifact ∧
        after.fileAt? ["out","p.cpp"] = some artifact.code ∧
        ∀ place, after.fileAt? place ≠ around.files.fileAt? place → after.Leads "out/p.cpp" place) ∧
    ∃ n q status error,
      Pool.perform plan ⟨[],true,[.running ⟨1,bad⟩],{},around,none,[]⟩
        (List.replicate n (.advance 0)) = some q ∧
      q.workers[0]? = some (.decided ⟨1,bad⟩ status error) ∧ error ≠ none ∧
      ∀ place, q.around.files.fileAt? place = around.files.fileAt? place := by
  intro plan good bad around
  obtain ⟨hone,hrun⟩ := only_compiled_touches_files (rfl : plan.sink = some .toFiles)
  constructor
  · obtain ⟨schedule,hc,_⟩ := Pool.completes_complete plan none
      (Pool.tidy_start [good,bad] 2 (markPending {} _).1 around none)
    have hrun := hrun 2 [good,bad] {} around none schedule _ hc
    have hgood : ∀ store : Store ProgramError, store.status bad.name = .rejected →
        ∀ job ∈ jobsOf [good,bad], store.status job.program.name = .compiled → job = ⟨0,good⟩ := by
      intro store hbad job hj hs
      have hne : job ≠ ⟨1,bad⟩ := by
        rintro rfl
        cases hs.symm.trans hbad
      simpa [jobsOf,hne] using hj
    obtain ⟨job,hj,_,_,⟨m,_,text,kept,artifact,_,hr,ht,hcomp,hcode⟩,hs⟩ :=
      hrun ["out","p.cpp"] (by decide +kernel)
    obtain rfl := hgood _ (by decide +kernel) job hj (hs (by decide) rfl)
    obtain rfl := Except.ok.inj (hr.symm.trans (rfl : _ = Except.ok good.source))
    obtain rfl : kept = "def x = 1\nout x" :=
      (trimmed_iff.mp ht).trans (by decide : trimLineEnds "def x = 1\nout x\r\n\n" = _)
    refine ⟨schedule,_,artifact,hc,hcomp,hcode,fun place hne => ?_⟩
    obtain ⟨other,ho,hl,_,_,hs'⟩ := hrun place hne
    obtain rfl := hgood _ (by decide +kernel) other ho (hs' (by decide) rfl)
    exact hl
  · obtain ⟨n,q,status,error,hn,hd,_,hcase⟩ :=
      hone ⟨[],true,[.running ⟨1,bad⟩],{},around,none,[]⟩ 0 ⟨1,bad⟩ rfl
    obtain ⟨_,_,text,kept,artifact,hr,ht,hcomp,_⟩ | ⟨_,he,_,hf⟩ := hcase
    · obtain rfl := Except.ok.inj (hr.symm.trans (rfl : _ = Except.ok ("out z" : Bytes)))
      obtain rfl := trimmed_iff.mp ht
      have hno : (compile plan.table (trimLineEnds "out z")).isOk = false := by decide +kernel
      rw [hcomp] at hno
      cases hno
    · exact ⟨n,q,status,error,hn,hd,he,hf⟩

end DefOut
