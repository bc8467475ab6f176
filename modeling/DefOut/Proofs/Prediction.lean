import DefOut.Proofs.Independence

set_option autoImplicit false

/-!
A run that only checks tells what a run that compiles will do. What a program comes to is a matter
of its source and of the answer of the sink (`Told`), and both kinds of run refuse the same sources
(`check_predicts_compile`). A run that only checks leaves everything around it as it is
(`OnlyChecks`).
-/
namespace DefOut

/-- What a program comes to that reads this source. -/
inductive Told (plan : Plan) (job : Job) (ms : List Moment) :
    Except SourceError Bytes → Status → Option Bytes → Option ProgramError → Prop
  | unreadable {e : SourceError} : Told plan job ms (.error e) .failed none (some (.unreadable e))
  | rejected {text : Bytes} {r : Rejection} : accept plan.table (trimLineEnds text) = .error r →
      Told plan job ms (.ok text) .rejected none (some (.rejected job.program.name r))
  | checked {text lexemes : Bytes} : accept plan.table (trimLineEnds text) = .ok lexemes →
      plan.validateOnly = true → Told plan job ms (.ok text) .compiled none none
  | emitted {text lexemes : Bytes} : accept plan.table (trimLineEnds text) = .ok lexemes →
      plan.validateOnly = false →
      Told plan job ms (.ok text) .compiled (some (generate plan.table lexemes)) none
  | notEmitted {text lexemes : Bytes} {sink : Sink} {m : Moment} {e : EmitError} :
      accept plan.table (trimLineEnds text) = .ok lexemes → plan.validateOnly = false →
      plan.sink = some sink → m ∈ ms →
      (sink.emit job.program (generate plan.table lexemes) m.pool.around).value.2 = .error e →
      Told plan job ms (.ok text) .failed (some (generate plan.table lexemes))
        (some (.notEmitted job.program.name e))

section told
variable {plan : Plan} {job : Job} {ms : List Moment} {status : Status} {output : Option Bytes}
  {error : Option ProgramError}

theorem Told.mono {others : List Moment} {source : Except SourceError Bytes}
    (h : Told plan job ms source status output error) (hs : ms ⊆ others) :
    Told plan job others source status output error := by
  cases h with
  | unreadable => exact .unreadable
  | rejected ha => exact .rejected ha
  | checked ha hv => exact .checked ha hv
  | emitted ha hv => exact .emitted ha hv
  | notEmitted ha hv hk hm he => exact .notEmitted ha hv hk (hs hm) he

theorem Verdict.told (h : Verdict plan job ms status output error) (hs : status ≠ .skipped)
    (hg : ∀ m ∈ ms, ∀ c, m.pool.backend.refusal? c = none) :
    ∃ m ∈ ms, m.phase? = some (.running job) ∧
      Told plan job ms (job.program.readSource m.pool.around.files) status output error := by
  cases h with
  | skipped => exact absurd rfl hs
  | @unreadable m n e hm hn hr => exact ⟨n,by simp,hn,hr ▸ .unreadable⟩
  | @rejected m n text r hm hn hr ha => exact ⟨n,by simp,hn,hr ▸ .rejected ha⟩
  | @checked m n lexemes hm hn hv =>
    obtain ⟨hp,text,hr,ha⟩ := Moment.accepts_iff.mp hn
    exact ⟨n,by simp,hp,hr ▸ .checked ha hv⟩
  | @notStored m n k lexemes cause hm hn hv hk hr =>
    rw [hg k (by simp)] at hr
    cases hr
  | @emitted m n k h lexemes hm hn hv hk hh =>
    obtain ⟨hp,text,hr,ha⟩ := Moment.accepts_iff.mp hn
    exact ⟨n,by simp,hp,hr ▸ .emitted ha hv⟩
  | @notEmitted m n k h lexemes sink e hm hn hv hk hh hsink hbad =>
    obtain ⟨hp,text,hr,ha⟩ := Moment.accepts_iff.mp hn
    have hmem : h ∈ [m,n,k,h] := by simp
    exact ⟨n,by simp,hp,hr ▸ .notEmitted ha hv hsink hmem hbad⟩

end told

theorem told_of_completes {plan : Plan} {workers : Int} {programs : List Program}
    {around : Surroundings} {schedule : List Action} {final : Pool}
    (hn : (programs.map Program.name).Nodup)
    (hc : (Pool.ready workers programs {} around none).Completes plan schedule final)
    (hu : Pool.Uncancelled schedule) {job : Job} (hj : job ∈ jobsOf programs) :
    let moments := (Pool.ready workers programs {} around none).moments plan schedule
    ∃ m ∈ moments, m.phase? = some (.running job) ∧ ∃ status output error,
      Told plan job moments (job.program.readSource m.pool.around.files) status output error ∧
      final.backend.store.entry job.program.name = ⟨some status,output,error.map some⟩ := by
  intro moments
  obtain ⟨status,output,error,h⟩ := settled_of_completes hn hc hj
  have hs : status ≠ .skipped := by
    rintro rfl
    obtain ⟨m,hm,reason,hcan,_⟩ := h.cancelled_of_skipped
    rw [cancelled_of_uncancelled rfl hu hc.performed m hm] at hcan
    cases hcan
  obtain ⟨before,d,r,ha,hv⟩ := h.verdict
  have hsub : before ⊆ moments := by
    intro m hm
    have hab : m ∈ before ++ [d,r] := List.mem_append_left _ hm
    exact List.mem_of_mem_filter (ha ▸ hab)
  have hg : ∀ m ∈ before, ∀ c, m.pool.backend.refusal? c = none := fun m hm =>
    ((grants_of_perform hc.performed).2 m (hsub hm)).refusal?_eq_none
  obtain ⟨m,hm,hp,ht⟩ := hv.told hs hg
  exact ⟨m,hsub hm,hp,status,output,error,ht.mono hsub,h.entry⟩

/-! ### A run that only checks -/

theorem Onward.only_checks {plan : Plan} {p : Pool} {job : Job} {phase next : Phase}
    {call : Option StoreCall} (hv : plan.validateOnly = true)
    (h : Onward plan p job phase call next) (hc : phase.code? = none) :
    next.code? = none ∧ ∀ (b : Backend) (x : Entry), (b.grant call x).output = x.output := by
  cases h with
  | compile _ _ hf => simp [hv] at hf
  | keep | keepFails | unsunk | emit | emitFails => cases hc
  | start => exact ⟨rfl,fun b x => (Course.grant_setStatus b _ _ x).1⟩
  | recordStatus => exact ⟨rfl,fun b x => (Course.grant_setStatus b _ _ x).1⟩
  | @recordError _ e => exact ⟨rfl,fun b x => (Course.grant_setError b _ (some e) x).1⟩
  | skip | unreadable | reject | check | noError => exact ⟨rfl,fun _ _ => rfl⟩

structure OnlyChecks (around : Surroundings) (p : Pool) : Prop where
  codeless : ∀ phase ∈ p.workers, phase.code? = none
  unstored : ∀ name, (p.backend.store.entry name).output = none
  unhanded : p.handovers = []
  around_eq : p.around = around

theorem OnlyChecks.set {around : Surroundings} {p : Pool} (h : OnlyChecks around p) (i : Nat)
    {next : Phase} (hn : next.code? = none) :
    ∀ phase ∈ p.workers.set i next, phase.code? = none := by
  intro phase hm
  obtain hm | rfl := List.mem_or_eq_of_mem_set hm
  · exact h.codeless phase hm
  · exact hn

theorem OnlyChecks.step {plan : Plan} {around : Surroundings} {p q : Pool} {action : Action}
    (hv : plan.validateOnly = true) (h : OnlyChecks around p) (hs : Stepped plan p action q) :
    OnlyChecks around q := by
  have hmoment : (p.momentOf action).flatMap (Moment.handovers plan) = [] := by
    obtain hnil | ⟨i,job,code,hh,_⟩ := Undisturbed.handovers_momentOf plan p action
    · exact hnil
    · cases h.codeless _ (List.mem_of_getElem? hh.1)
  obtain ⟨hhand,haround⟩ := handovers_step hs
  rw [hmoment,h.unhanded] at hhand
  rw [hmoment,h.around_eq] at haround
  cases hs with
  | @start i | @receive i | @stop i => exact ⟨h.set i rfl,h.unstored,hhand,haround⟩
  | @work i phase next job call events hp hj ho he =>
    obtain ⟨hn,hout⟩ := ho.only_checks hv (h.codeless phase (List.mem_of_getElem? hp))
    refine ⟨h.set i hn,fun name => ?_,hhand,haround⟩
    rw [Backend.entry_after p.backend job.program.name ho.program_eq]
    split
    · rw [hout]
      exact h.unstored name
    · exact h.unstored name
  | close | cancel => exact ⟨h.codeless,h.unstored,hhand,haround⟩

theorem onlyChecks_ready (workers : Int) (programs : List Program) (around : Surroundings)
    (cancelled : Option Cancellation) :
    OnlyChecks around (Pool.ready workers programs {} around cancelled) where
  codeless phase hm := by
    obtain rfl := List.eq_of_mem_replicate hm
    rfl
  unstored name := by
    have hm := (markPending_of_grants Backend.grants_default programs).1
    have hx := entry_markPending hm name
    simp only [Pool.ready,Pool.start]
    rw [hx]
    split <;> rfl
  unhanded := rfl
  around_eq := rfl

theorem onlyChecks_of_perform {plan : Plan} {workers : Int} {programs : List Program}
    {around : Surroundings} {cancelled : Option Cancellation} {schedule : List Action}
    {final : Pool} (hv : plan.validateOnly = true)
    (h : (Pool.ready workers programs {} around cancelled).perform plan schedule = some final) :
    OnlyChecks around final ∧
      ∀ m ∈ (Pool.ready workers programs {} around cancelled).moments plan schedule,
        OnlyChecks around m.pool :=
  Pool.perform_forall (OnlyChecks around) (fun _ _ _ _ hp hs => hp.step hv hs)
    (onlyChecks_ready workers programs around cancelled) h

/-! ### Checking and compiling -/

theorem Store.of_entry {s : Store ProgramError} {name : Bytes} {status : Status}
    {output : Option Bytes} {error : Option ProgramError}
    (h : s.entry name = ⟨some status,output,error.map some⟩) :
    s.status name = status ∧ s.output? name = output ∧ s.error? name = .ok error := by
  have hs : s.statuses.get? name = some status := congrArg Entry.status h
  have ho : s.outputs.get? name = output := congrArg Entry.output h
  have he : s.errors.get? name = error.map some := congrArg Entry.error h
  refine ⟨by simp [Store.status,hs],ho,?_⟩
  rw [Store.error?,he]
  cases error <;> rfl

theorem Told.agree {table : Table} {unused : Option Sink} {sink : Sink} {job : Job}
    {ms ns : List Moment} {source : Except SourceError Bytes} {status result : Status}
    {output code : Option Bytes} {error failure : Option ProgramError}
    (hc : Told ⟨table,true,unused⟩ job ms source status output error)
    (hb : Told ⟨table,false,some sink⟩ job ns source result code failure) :
    (status = .rejected ∧ result = .rejected ∧ code = none ∧ ∃ r,
        error = some (.rejected job.program.name r) ∧
        failure = some (.rejected job.program.name r)) ∨
      (status = .failed ∧ result = .failed ∧ code = none ∧ ∃ e,
        error = some (.unreadable e) ∧ failure = some (.unreadable e)) ∨
      status = .compiled ∧ ∃ text, code = some text ∧ (result = .compiled ∨
        result = .failed ∧ ∃ e, failure = some (.notEmitted job.program.name e) ∧
          ∃ n ∈ ns, (sink.emit job.program text n.pool.around).value.2 = .error e) := by
  cases hc with
  | unreadable =>
    cases hb with
    | unreadable => exact .inr (.inl ⟨rfl,rfl,rfl,_,rfl,rfl⟩)
  | rejected ha =>
    cases hb with
    | rejected ha' =>
      obtain rfl := Except.error.inj (ha.symm.trans ha')
      exact .inl ⟨rfl,rfl,rfl,_,rfl,rfl⟩
    | checked ha' | emitted ha' | notEmitted ha' => cases ha.symm.trans ha'
  | checked ha =>
    cases hb with
    | rejected ha' => cases ha.symm.trans ha'
    | checked _ hv => cases hv
    | emitted => exact .inr (.inr ⟨rfl,_,rfl,.inl rfl⟩)
    | notEmitted _ _ hk hn he =>
      obtain rfl := Option.some.inj hk
      exact .inr (.inr ⟨rfl,_,rfl,.inr ⟨rfl,_,rfl,_,hn,he⟩⟩)
  | emitted _ hv | notEmitted _ hv => cases hv

/-- A run that only checks tells what a run that compiles the same sources does: it finds the same
rejected programs and the same unreadable ones, with the same errors, and passes exactly those that
the other gives code. It stores no code, hands over nothing and leaves the surroundings alone. -/
theorem check_predicts_compile {table : Table} {unused : Option Sink} {sink : Sink}
    {programs : List Program} (hn : (programs.map Program.name).Nodup)
    {workers count : Int} {around surroundings : Surroundings} {schedule actions : List Action}
    {checked built : Pool}
    (hc : (Pool.ready workers programs {} around none).Completes ⟨table,true,unused⟩ schedule
      checked) (hu : Pool.Uncancelled schedule)
    (hb : (Pool.ready count programs {} surroundings none).Completes ⟨table,false,some sink⟩
      actions built) (ha : Pool.Uncancelled actions)
    (hread : ∀ job ∈ jobsOf programs,
      ∀ m ∈ (Pool.ready workers programs {} around none).moments ⟨table,true,unused⟩ schedule,
      ∀ n ∈ (Pool.ready count programs {} surroundings none).moments ⟨table,false,some sink⟩
        actions,
      m.phase? = some (.running job) → n.phase? = some (.running job) →
        job.program.readSource m.pool.around.files =
          job.program.readSource n.pool.around.files) :
    let checking := runBy (fun _ => checked) ⟨table,true,unused⟩ workers programs {} around none
    let building :=
      runBy (fun _ => built) ⟨table,false,some sink⟩ count programs {} surroundings none
    let check := checking.backend.store
    let build := building.backend.store
    (∀ p ∈ programs,
      (check.status p.name = .rejected ↔ build.status p.name = .rejected) ∧
      (check.status p.name = .rejected → ∃ r,
        check.error? p.name = .ok (some (.rejected p.name r)) ∧
        build.error? p.name = .ok (some (.rejected p.name r))) ∧
      (check.status p.name = .failed → build.status p.name = .failed ∧ ∃ e,
        check.error? p.name = .ok (some (.unreadable e)) ∧
        build.error? p.name = .ok (some (.unreadable e))) ∧
      (check.status p.name = .compiled ↔ ∃ code, build.output? p.name = some code) ∧
      (∀ code, build.output? p.name = some code → build.status p.name = .compiled ∨
        build.status p.name = .failed ∧ ∃ e,
          build.error? p.name = .ok (some (.notEmitted p.name e)) ∧
          ∃ n ∈ (Pool.ready count programs {} surroundings none).moments
            ⟨table,false,some sink⟩ actions,
            (sink.emit p code n.pool.around).value.2 = .error e)) ∧
    (∀ name, check.output? name = none) ∧ checked.handovers = [] ∧ checking.around = around := by
  intro checking building check build
  obtain ⟨hcheck,_⟩ := runBy_of_perform (.inl rfl) hc.performed
  obtain ⟨hbuild,_⟩ := runBy_of_perform (.inr rfl) hb.performed
  have hcheck : check = checked.backend.store := hcheck
  have hbuild : build = built.backend.store := hbuild
  have honly := (onlyChecks_of_perform rfl hc.performed).1
  refine ⟨fun p hp => ?_,fun name => ?_,honly.unhanded,?_⟩
  · obtain ⟨job,hj,rfl⟩ := exists_job hp
    obtain ⟨m,hm,hmp,status,output,error,ht,hx⟩ := told_of_completes hn hc hu hj
    obtain ⟨n,hnm,hnp,result,code,failure,hs,hy⟩ := told_of_completes hn hb ha hj
    -- from here on both runs are told the same source
    rw [hread job hj m hm n hnm hmp hnp] at ht
    obtain ⟨hc1,_,hc3⟩ := Store.of_entry hx
    obtain ⟨hb1,hb2,hb3⟩ := Store.of_entry hy
    rw [hcheck,hbuild,hc1,hc3,hb1,hb2,hb3]
    obtain ⟨rfl,rfl,rfl,r,rfl,rfl⟩ | ⟨rfl,rfl,rfl,e,rfl,rfl⟩ | ⟨rfl,text,rfl,hres⟩ := ht.agree hs
    · simp
    · simp
    · obtain rfl | ⟨rfl,e,rfl,hemit⟩ := hres
      · simp
      · simpa using hemit
  · rw [hcheck]
    exact honly.unstored name
  · obtain h | h := around_runBy checked ⟨table,true,unused⟩ workers programs {} around none
    · exact h
    · exact h.trans honly.around_eq

theorem around_of_perform {plan : Plan} {p final : Pool} {schedule : List Action}
    (hk : ∀ sink, plan.sink = some sink → ∀ q code around,
      (sink.emit q code around).value.1 = around)
    (h : p.perform plan schedule = some final) :
    ∀ m ∈ p.moments plan schedule, m.pool.around = p.around := by
  refine (Pool.perform_forall (fun q => q.around = p.around) ?_ rfl h).2
  intro q action r _ hq hs
  rw [(handovers_step hs).2,← hq]
  exact foldl_deliver_keeps id hk _ _

theorem check_predicts_compile_refused : ∃ schedule actions checked built,
    let programs : List Program :=
      [⟨"p","def x = 1\nout x",[],[],[]⟩,⟨"q","out z",[],[],[]⟩,⟨"r",[],"missing.src",[],[]⟩]
    let around : Surroundings := ⟨.empty,{}⟩
    let checking : Plan := { validateOnly := true }
    let building : Plan := { sink := some (.refuse "full") }
    let check := (runBy (fun _ => checked) checking 3 programs {} around none).backend.store
    let build := (runBy (fun _ => built) building 1 programs {} around none).backend.store
    (Pool.ready 3 programs {} around none).Completes checking schedule checked ∧
      (Pool.ready 1 programs {} around none).Completes building actions built ∧
      check.status "p" = .compiled ∧ (∃ code, build.output? "p" = some code) ∧
      check.status "q" = .rejected ∧ build.status "q" = .rejected ∧
      check.status "r" = .failed ∧ build.status "r" = .failed := by
  obtain ⟨schedule,hc,hu⟩ := Pool.completes_complete { validateOnly := true } none
    (Pool.tidy_start
      [⟨"p","def x = 1\nout x",[],[],[]⟩,⟨"q","out z",[],[],[]⟩,⟨"r",[],"missing.src",[],[]⟩]
      3 (markPending {} _).1 ⟨.empty,{}⟩ none)
  obtain ⟨actions,hb,ha⟩ := Pool.completes_complete { sink := some (.refuse "full") } none
    (Pool.tidy_start
      [⟨"p","def x = 1\nout x",[],[],[]⟩,⟨"q","out z",[],[],[]⟩,⟨"r",[],"missing.src",[],[]⟩]
      1 (markPending {} _).1 ⟨.empty,{}⟩ none)
  have hread := around_of_perform (by simp) hc.performed
  have hsame := around_of_perform (by rintro _ ⟨⟩ q code around; rfl) hb.performed
  obtain ⟨hall,_⟩ := check_predicts_compile (by decide) hc (hu rfl) hb (ha rfl)
    (fun job _ m hm n hn _ _ => by rw [hread m hm,hsame n hn]; rfl)
  obtain ⟨_,_,_,hp,_⟩ := hall ⟨"p","def x = 1\nout x",[],[],[]⟩ (by decide)
  obtain ⟨hq,_⟩ := hall ⟨"q","out z",[],[],[]⟩ (by decide)
  obtain ⟨_,_,hr,_⟩ := hall ⟨"r",[],"missing.src",[],[]⟩ (by decide)
  have hpc := hp.mp (by decide +kernel)
  have hqr := hq.mp (by decide +kernel)
  have hrf := (hr (by decide +kernel)).1
  exact ⟨schedule,actions,_,_,hc,hb,by decide +kernel,hpc,by decide +kernel,hqr,
    by decide +kernel,hrf⟩

end DefOut
