import DefOut.Proofs.Courses

set_option autoImplicit false

/-!
Whole runs: how the store begins, what the run reads back at the end, and, when the store grants
every call, that the entry of every program is its verdict (`settled_of_completes`).
-/
namespace DefOut

def Pool.ready (workers : Int) (programs : List Program) (backend : Backend)
    (around : Surroundings) (cancelled : Option Cancellation) : Pool :=
  .start programs (workerCount workers programs) (markPending backend programs).1 around cancelled

def recordedErrors (s : Store ProgramError) (programs : List Program) : List ProgramError :=
  programs.filterMap fun program => (s.errors.get? program.name).getD none

def verdicts (job : Job) (ms : List Moment) : List (Status × Option ProgramError) :=
  ms.filterMap fun m =>
    match m.phase? with
    | some (.decided own status error) => if own = job then some (status,error) else none
    | _ => none

def processings (job : Job) (ms : List Moment) : Nat :=
  ms.countP fun m => m.phase? = some (.running job)

namespace Backend

def Grants (b : Backend) : Prop := ∀ n c, b.fault n c = none

theorem grants_default : ({} : Backend).Grants := fun _ _ => rfl

theorem Grants.refusal?_eq_none {b : Backend} (h : b.Grants) (c : StoreCall) :
    b.refusal? c = none := by
  rw [refusal?,h b.calls c]
  rfl

theorem Grants.after {b : Backend} (h : b.Grants) (call : Option StoreCall) :
    (b.after call).Grants := by
  intro n c
  rw [fault_after]
  exact h n c

end Backend

/-! ### Marking and reading back -/

theorem markPending_cons (b : Backend) (program : Program) (rest : List Program) :
    markPending b (program :: rest) =
      match b.refusal? (.setStatus program.name .pending) with
      | none => markPending (b.after (some (.setStatus program.name .pending))) rest
      | some cause => (b.after (some (.setStatus program.name .pending)),
          .error (.notInitialised program.name cause)) := by
  rw [markPending,Backend.setStatus_eq,Backend.call_effect]
  cases b.refusal? (.setStatus program.name .pending) <;> rfl

theorem markPending_of_grants {b : Backend} (hg : b.Grants) (programs : List Program) :
    (markPending b programs).2 = .ok () ∧ (markPending b programs).1.Grants := by
  induction programs generalizing b with
  | nil => exact ⟨rfl,hg⟩
  | cons program rest ih =>
    rw [markPending_cons,hg.refusal?_eq_none]
    exact ih (hg.after _)

theorem entry_markPending {b : Backend} {programs : List Program}
    (h : (markPending b programs).2 = .ok ()) (name : Bytes) :
    (markPending b programs).1.store.entry name =
      if name ∈ programs.map Program.name then
        { b.store.entry name with status := some .pending }
      else b.store.entry name := by
  induction programs generalizing b with
  | nil => simp [markPending]
  | cons program rest ih =>
    rw [markPending_cons] at h ⊢
    cases hr : b.refusal? (.setStatus program.name .pending) with
    | some cause => simp [hr] at h
    | none =>
      have hx : (b.after (some (.setStatus program.name .pending))).store.entry name =
          if program.name = name then { b.store.entry name with status := some .pending }
          else b.store.entry name := by
        rw [Backend.entry_after b program.name (fun c hc => by cases hc; rfl)]
        simp [Backend.grant,hr,StoreCall.onEntry]
      simp only [hr] at h ⊢
      rw [ih h,hx]
      by_cases hp : program.name = name
      · simp [hp]
      · simp [hp,Ne.symm hp]

theorem collectErrors_cons (b : Backend) (program : Program) (rest : List Program) :
    collectErrors b (program :: rest) =
      match b.refusal? (.getError program.name) with
      | some cause => ({ b with calls := b.calls+1 },.error (.storeUnreadable cause))
      | none =>
        match collectErrors { b with calls := b.calls+1 } rest with
        | (b,.error e) => (b,.error e)
        | (c,.ok errors) =>
          (c,.ok (((b.store.errors.get? program.name).getD none).toList ++ errors)) := by
  rw [collectErrors]
  unfold Backend.getError
  cases b.refusal? (.getError program.name) with
  | some cause => rfl
  | none =>
    generalize hr : collectErrors { b with calls := b.calls+1 } rest = r
    obtain ⟨c,e | errors⟩ := r <;> simp only [hr]

theorem store_collectErrors (b : Backend) (programs : List Program) :
    (collectErrors b programs).1.store = b.store := by
  induction programs generalizing b with
  | nil => rfl
  | cons program rest ih =>
    have hs := ih { b with calls := b.calls+1 }
    rw [collectErrors_cons]
    split
    · rfl
    · generalize collectErrors { b with calls := b.calls+1 } rest = r at hs ⊢
      obtain ⟨c,e | errors⟩ := r <;> exact hs

theorem eq_recordedErrors {b : Backend} {programs : List Program} {errors : List ProgramError}
    (h : (collectErrors b programs).2 = .ok errors) : errors = recordedErrors b.store programs := by
  induction programs generalizing b errors with
  | nil => simpa [collectErrors,recordedErrors] using h.symm
  | cons program rest ih =>
    rw [collectErrors_cons] at h
    split at h
    · cases h
    · have hi : ∀ more, (collectErrors { b with calls := b.calls+1 } rest).2 = .ok more →
          more = recordedErrors b.store rest := fun more hm => ih (b := { b with calls := b.calls+1 }) hm
      generalize collectErrors { b with calls := b.calls+1 } rest = r at h hi
      obtain ⟨c,e | more⟩ := r
      · cases h
      · obtain rfl := Except.ok.inj h
        rw [hi more rfl]
        cases he : (b.store.errors.get? program.name).getD none <;>
          simp [recordedErrors,he]

theorem collectErrors_of_grants {b : Backend} (hg : b.Grants) (programs : List Program) :
    (collectErrors b programs).2 = .ok (recordedErrors b.store programs) := by
  have hok : ∃ errors, (collectErrors b programs).2 = .ok errors := by
    induction programs generalizing b with
    | nil => exact ⟨[],rfl⟩
    | cons program rest ih =>
      obtain ⟨errors,he⟩ := ih (b := { b with calls := b.calls+1 }) hg
      rw [collectErrors_cons,hg.refusal?_eq_none]
      generalize collectErrors { b with calls := b.calls+1 } rest = r at he ⊢
      obtain ⟨c,e | more⟩ := r
      · cases he
      · exact ⟨_,rfl⟩
  obtain ⟨errors,he⟩ := hok
  rw [he,eq_recordedErrors he]

/-! ### Runs -/

section run
variable {plan : Plan} {workers : Int} {programs : List Program} {backend : Backend}
  {around : Surroundings} {cancelled : Option Cancellation} {final : Pool}

theorem of_runBy_error_eq_none
    (h : (runBy (fun _ => final) plan workers programs backend around cancelled).error = none) :
    (markPending backend programs).2 = .ok () ∧
      recordedErrors final.backend.store programs = [] ∧
      final.records ⊆
        (runBy (fun _ => final) plan workers programs backend around cancelled).records := by
  unfold runBy at h ⊢
  split at h
  · cases h
  · next hg =>
    rw [if_neg hg]
    generalize hm : markPending backend programs = r at h ⊢
    obtain ⟨b,e | u⟩ := r
    · cases h
    · simp only at h ⊢
      generalize hc : collectErrors final.backend programs = r at h ⊢
      obtain ⟨c,e | errors⟩ := r
      · cases h
      · have he : errors = recordedErrors final.backend.store programs :=
          eq_recordedErrors (by rw [hc])
        refine ⟨trivial,?_,?_⟩
        · rw [← he]
          cases errors with
          | nil => rfl
          | cons e rest => cases h
        · intro r hr
          simp [hr]

theorem around_runBy (final : Pool) (plan : Plan) (workers : Int) (programs : List Program)
    (backend : Backend) (around : Surroundings) (cancelled : Option Cancellation) :
    (runBy (fun _ => final) plan workers programs backend around cancelled).around = around ∨
      (runBy (fun _ => final) plan workers programs backend around cancelled).around =
        final.around := by
  unfold runBy
  split
  · exact .inl rfl
  · generalize markPending backend programs = r
    obtain ⟨b,e | u⟩ := r
    · exact .inl rfl
    · simp only
      generalize collectErrors final.backend programs = r
      obtain ⟨c,e | errors⟩ := r <;> exact .inr rfl

end run

theorem joinErrors_eq_none_iff (errors : List ProgramError) :
    joinErrors errors = none ↔ errors = [] := by
  cases errors <;> simp [joinErrors]

/-! ### What moments tell -/

theorem countP_about {job : Job} {test : Moment → Bool}
    (h : ∀ m, test m = true → m.job? = some job) (ms : List Moment) :
    (Moment.about job ms).countP test = ms.countP test := by
  rw [Moment.about,List.countP_filter]
  apply List.countP_congr
  intro m _
  simp only [Bool.and_eq_true,decide_eq_true_eq]
  exact ⟨And.left,fun ht => ⟨ht,h m ht⟩⟩

theorem processings_about (job : Job) (ms : List Moment) :
    processings job (Moment.about job ms) = processings job ms := by
  apply countP_about
  intro m hm
  simp [Moment.job?,of_decide_eq_true hm,Phase.job?]

theorem verdicts_about (job : Job) (ms : List Moment) :
    verdicts job (Moment.about job ms) = verdicts job ms := by
  unfold verdicts Moment.about
  rw [List.filterMap_filter]
  apply List.filterMap_congr
  intro m _
  by_cases hm : m.job? = some job
  · simp [hm]
  · rw [if_neg (by simpa using hm)]
    split
    · next own status error hp =>
      rw [if_neg]
      rintro rfl
      exact hm (by simp [Moment.job?,hp,Phase.job?])
    · rfl

def Moment.handovers (plan : Plan) (m : Moment) : List (Job × Bytes) :=
  (m.phase?.map (Phase.handovers plan)).getD []

theorem mem_handovers_phase {plan : Plan} {phase : Phase} {h : Job × Bytes}
    (hm : h ∈ phase.handovers plan) : phase = .stored h.1 h.2 := by
  cases phase with
  | stored job code =>
    simp only [Phase.handovers] at hm
    split at hm
    · obtain rfl := List.mem_singleton.mp hm
      rfl
    · simp at hm
  | _ => simp [Phase.handovers] at hm

theorem mem_handovers_moment {plan : Plan} {m : Moment} {h : Job × Bytes}
    (hm : h ∈ m.handovers plan) : m.phase? = some (.stored h.1 h.2) := by
  unfold Moment.handovers at hm
  cases hp : m.phase? with
  | none => simp [hp] at hm
  | some phase =>
    have hs : h ∈ phase.handovers plan := by simpa [hp] using hm
    rw [mem_handovers_phase hs]

theorem handovers_step {plan : Plan} {p q : Pool} {action : Action} (h : Stepped plan p action q) :
    q.handovers = p.handovers ++ (p.momentOf action).flatMap (Moment.handovers plan) ∧
      q.around =
        ((p.momentOf action).flatMap (Moment.handovers plan)).foldl plan.deliver p.around := by
  cases h with
  | start hp | stop hp =>
    simp [Pool.handovers,Pool.momentOf,Moment.handovers,Moment.phase?,hp,Phase.handovers,
      Event.handover?]
  | receive hp =>
    simp [Pool.handovers,Pool.momentOf,Moment.handovers,Moment.phase?,hp,Phase.handovers]
  | work hp hj ho he =>
    simp [Pool.handovers,Pool.momentOf,Moment.handovers,Moment.phase?,hp,he]
  | close => simp [Pool.handovers,Pool.momentOf]
  | cancel => simp [Pool.handovers,Pool.momentOf]

theorem foldl_deliver_keeps {plan : Plan} {α : Type} (f : Surroundings → α)
    (hk : ∀ sink, plan.sink = some sink → ∀ program code around,
      f (sink.emit program code around).value.1 = f around)
    (handovers : List (Job × Bytes)) (around : Surroundings) :
    f (handovers.foldl plan.deliver around) = f around := by
  induction handovers generalizing around with
  | nil => rfl
  | cons x rest ih =>
    have hx : f (plan.deliver around x) = f around := by
      unfold Plan.deliver
      split
      · rfl
      · next sink hsink => exact hk sink hsink _ _ _
    rw [List.foldl_cons,ih,hx]

theorem handovers_of_perform {plan : Plan} {p final : Pool} {schedule : List Action}
    (h0 : p.handovers = []) (h : p.perform plan schedule = some final) :
    final.handovers = (p.moments plan schedule).flatMap (Moment.handovers plan) := by
  refine Pool.perform_invariant
    (fun q ms => q.handovers = ms.flatMap (Moment.handovers plan)) ?_ h0 h
  intro p ms action q _ hp hs
  rw [(handovers_step hs).1,hp,List.flatMap_append]

theorem filter_flatMap_about {f : Moment → List (Job × Bytes)}
    (hf : ∀ m, ∀ h ∈ f m, m.job? = some h.1) (job : Job) (ms : List Moment) :
    (ms.flatMap f).filter (fun h => h.1 = job) = (Moment.about job ms).flatMap f := by
  induction ms with
  | nil => rfl
  | cons m rest ih =>
    rw [List.flatMap_cons,List.filter_append,ih]
    by_cases hm : m.job? = some job
    · have ha : Moment.about job (m :: rest) = m :: Moment.about job rest := by
        simp [Moment.about,hm]
      rw [ha,List.flatMap_cons,List.filter_eq_self.mpr]
      intro h hh
      simpa using Option.some.inj ((hf m h hh).symm.trans hm)
    · have ha : Moment.about job (m :: rest) = Moment.about job rest := by
        simp [Moment.about,hm]
      rw [ha,List.filter_eq_nil_iff.mpr,List.nil_append]
      intro h hh he
      exact hm (hf m h hh ▸ by simpa using he)

theorem filter_handovers (plan : Plan) (job : Job) (ms : List Moment) :
    (ms.flatMap (Moment.handovers plan)).filter (fun h => h.1 = job) =
      (Moment.about job ms).flatMap (Moment.handovers plan) := by
  refine filter_flatMap_about (fun m h hm => ?_) job ms
  simp [Moment.job?,mem_handovers_moment hm,Phase.job?]

namespace Verdict
variable {plan : Plan} {job : Job} {ms : List Moment} {status : Status} {output : Option Bytes}
  {error : Option ProgramError}

theorem error_eq_none_iff (h : Verdict plan job ms status output error) :
    error = none ↔ status = .compiled := by
  cases h <;> simp

theorem verdicts_eq_nil (h : Verdict plan job ms status output error) : verdicts job ms = [] := by
  cases h <;> simp_all [verdicts,Moment.Looks,Moment.Accepts,Moment.Stores,
    Moment.Emits]

theorem processings_eq (h : Verdict plan job ms status output error) :
    processings job ms = if status = .skipped then 0 else 1 := by
  cases h <;> simp_all [processings,Moment.Looks,Moment.Accepts,Moment.Stores,
    Moment.Emits]

theorem handovers_eq (h : Verdict plan job ms status output error) :
    ms.flatMap (Moment.handovers plan) =
      if plan.sink.isSome then output.toList.map fun code => (job,code) else [] := by
  cases h <;> simp_all [Moment.handovers,Phase.handovers,Moment.Looks,Moment.Accepts,Moment.Stores,
    Moment.Emits]

end Verdict

/-- In the course of a run the program is read and accepted, and, unless programs are only checked,
its code is stored and taken by the sink. -/
def Succeeds (plan : Plan) (job : Job) (ms : List Moment) : Prop :=
  ∃ lexemes, (∃ m ∈ ms, m.Accepts plan job lexemes) ∧ (plan.validateOnly = false →
    (∃ m ∈ ms, m.Stores job (generate plan.table lexemes)) ∧
      ∃ m ∈ ms, m.Emits plan job (generate plan.table lexemes))

theorem mem_about_iff {job : Job} {ms : List Moment} {m : Moment} {phase : Phase}
    (hp : m.phase? = some phase) (hj : phase.job? = some job) : m ∈ Moment.about job ms ↔ m ∈ ms := by
  simp [Moment.about,Moment.job?,hp,hj]

theorem succeeds_congr (plan : Plan) {job : Job} {ms others : List Moment}
    (h : ∀ m phase, m.phase? = some phase → phase.job? = some job →
      Phase.rank (.stored job []) ≤ phase.rank → (m ∈ ms ↔ m ∈ others)) :
    Succeeds plan job ms ↔ Succeeds plan job others := by
  have haccepts : ∀ lexemes, (∃ m ∈ ms, m.Accepts plan job lexemes) ↔
      ∃ m ∈ others, m.Accepts plan job lexemes := fun lexemes =>
    exists_congr fun m => and_congr_left fun ha => h m _ ha.1 rfl (by simp [Phase.rank])
  have hstores : ∀ code, (∃ m ∈ ms, m.Stores job code) ↔ ∃ m ∈ others, m.Stores job code :=
    fun code => exists_congr fun m => and_congr_left fun hs => h m _ hs.1 rfl (by simp [Phase.rank])
  have hemits : ∀ code, (∃ m ∈ ms, m.Emits plan job code) ↔ ∃ m ∈ others, m.Emits plan job code :=
    fun code => exists_congr fun m => and_congr_left fun he => h m _ he.1 rfl (by simp [Phase.rank])
  simp only [Succeeds,haccepts,hstores,hemits]

theorem Verdict.compiled_iff {plan : Plan} {job : Job} {ms : List Moment} {status : Status}
    {output : Option Bytes} {error : Option ProgramError}
    (h : Verdict plan job ms status output error) :
    status = .compiled ↔ Succeeds plan job ms := by
  cases h with
  | skipped hm => simp [Succeeds,Moment.Accepts,hm]
  | unreadable hm hn he => simp [Succeeds,Moment.Accepts,hm.1,hn,he]
  | rejected hm hn ht he =>
    simp only [reduceCtorEq,false_iff]
    rintro ⟨lexemes,⟨m,hmem,ha⟩,_⟩
    obtain ⟨hp,text,ht',ha⟩ := Moment.accepts_iff.mp ha
    obtain rfl | rfl : m = _ ∨ m = _ := by simpa using hmem
    · simp [hm.1] at hp
    · obtain rfl := Except.ok.inj (ht.symm.trans ht')
      cases he.symm.trans ha
  | checked hm hn hv =>
    simp only [true_iff]
    exact ⟨_,⟨_,by simp,hn⟩,fun hf => by simp [hv] at hf⟩
  | @notStored m n k lexemes cause hm hn hv hk hr =>
    simp only [reduceCtorEq,false_iff]
    rintro ⟨other,_,hrest⟩
    obtain ⟨⟨m',hmem,hp,hs⟩,_⟩ := hrest hv
    obtain rfl | rfl | rfl : m' = m ∨ m' = n ∨ m' = k := by simpa using hmem
    · simp [hm.1] at hp
    · simp [hn.1] at hp
    · have hcode : generate plan.table lexemes = generate plan.table other := by
        simpa using hk.symm.trans hp
      rw [← hcode,hr] at hs
      cases hs
  | emitted hm hn hv hk he =>
    simp only [true_iff]
    exact ⟨_,⟨_,by simp,hn⟩,fun _ => ⟨⟨_,by simp,hk⟩,⟨_,by simp,he⟩⟩⟩
  | @notEmitted m n k h lexemes sink e hm hn hv hk hh hs he =>
    simp only [reduceCtorEq,false_iff]
    rintro ⟨other,_,hrest⟩
    obtain ⟨_,⟨m',hmem,hp,hok⟩⟩ := hrest hv
    obtain rfl | rfl | rfl | rfl : m' = m ∨ m' = n ∨ m' = k ∨ m' = h := by simpa using hmem
    · simp [hm.1] at hp
    · simp [hn.1] at hp
    · simp [hk.1] at hp
    · have hcode : generate plan.table lexemes = generate plan.table other := by
        simpa using hh.symm.trans hp
      rw [← hcode] at hok
      cases he.symm.trans (hok sink hs)

theorem compiled_iff_succeeds {plan : Plan} {job : Job} {ms before : List Moment} {d r : Moment}
    {status : Status} {output : Option Bytes} {error : Option ProgramError}
    (ha : Moment.about job ms = before ++ [d,r]) (hv : Verdict plan job before status output error)
    (hd : d.phase? = some (.decided job status error))
    (hr : r.phase? = some (.recorded job status)) :
    status = .compiled ↔ Succeeds plan job ms := by
  rw [hv.compiled_iff]
  refine succeeds_congr plan fun m phase hp hj hrank => ?_
  -- at `d` and `r` the verdict is already there
  have hne : m ≠ d ∧ m ≠ r := by
    constructor
    · rintro rfl
      obtain rfl := Option.some.inj (hd.symm.trans hp)
      simp [Phase.rank] at hrank
    · rintro rfl
      obtain rfl := Option.some.inj (hr.symm.trans hp)
      simp [Phase.rank] at hrank
  have hms : m ∈ Moment.about job ms ↔ m ∈ ms := mem_about_iff hp hj
  rw [ha] at hms
  rw [← hms]
  simp [hne]

/-- What a complete run leaves of one program: one verdict, which the store has. -/
structure Settled (plan : Plan) (job : Job) (ms : List Moment) (final : Pool) (status : Status)
    (output : Option Bytes) (error : Option ProgramError) : Prop where
  verdict : ∃ before d r, Moment.about job ms = before ++ [d,r] ∧
    Verdict plan job before status output error
  verdicts : DefOut.verdicts job ms = [(status,error)]
  compiled_iff : status = .compiled ↔ Succeeds plan job ms
  processings : DefOut.processings job ms = if status = .skipped then 0 else 1
  handovers : final.handovers.filter (fun h => h.1 = job) =
    if plan.sink.isSome then output.toList.map fun code => (job,code) else []
  entry : final.backend.store.entry job.program.name = ⟨some status,output,error.map some⟩

section settled
variable {plan : Plan} {workers : Int} {programs : List Program} {backend : Backend}
  {around : Surroundings} {cancelled : Option Cancellation} {schedule : List Action} {final : Pool}

theorem grants_of_perform
    (h : (Pool.ready workers programs {} around cancelled).perform plan schedule = some final) :
    final.backend.Grants ∧ ∀ m ∈ (Pool.ready workers programs {} around cancelled).moments plan
      schedule, m.pool.backend.Grants := by
  refine Pool.perform_forall (fun q => q.backend.Grants) ?_
    (markPending_of_grants Backend.grants_default programs).2 h
  intro q action r _ hq hs
  cases hs with
  | work => exact hq.after _
  | _ => exact hq

theorem runBy_of_grants (workers : Int) (programs : List Program) (around : Surroundings)
    (cancelled : Option Cancellation) (hs : plan.validateOnly = true ∨ plan.sink.isSome = true)
    (hg : final.backend.Grants) :
    runBy (fun _ => final) plan workers programs {} around cancelled =
      let errors := recordedErrors final.backend.store programs
      { error := joinErrors errors
        backend := (collectErrors final.backend programs).1
        around := final.around
        records := ⟨.debug,"Executor starting.",[⟨"programs",programs.length⟩,
          ⟨"workers",workerCount workers programs⟩]⟩ :: final.records
            ++ [⟨.debug,"Executor finished.",[⟨"failures",errors.length⟩]⟩]
        handed := final.handed } := by
  have hguard : (!plan.validateOnly && plan.sink.isNone) = false := by
    obtain h | h := hs
    · simp [h]
    · cases hk : plan.sink <;> simp [hk] at h ⊢
  have hm := (markPending_of_grants Backend.grants_default programs).1
  have hc := collectErrors_of_grants hg programs
  unfold runBy
  rw [if_neg (by simp [hguard])]
  generalize markPending {} programs = r at hm ⊢
  obtain ⟨b,e | u⟩ := r
  · cases hm
  · simp only
    generalize collectErrors final.backend programs = r at hc ⊢
    obtain ⟨c,e | errors⟩ := r
    · cases hc
    · obtain rfl := Except.ok.inj hc
      rfl

theorem runBy_of_perform (hs : plan.validateOnly = true ∨ plan.sink.isSome = true)
    (h : (Pool.ready workers programs {} around cancelled).perform plan schedule = some final) :
    (runBy (fun _ => final) plan workers programs {} around cancelled).backend.store =
        final.backend.store ∧
      (runBy (fun _ => final) plan workers programs {} around cancelled).error =
        joinErrors (recordedErrors final.backend.store programs) := by
  rw [runBy_of_grants workers programs around cancelled hs (grants_of_perform h).1]
  exact ⟨store_collectErrors final.backend programs,rfl⟩

theorem entry_ready (he : backend.store = .empty) (hm : (markPending backend programs).2 = .ok ())
    {program : Program} (hp : program ∈ programs) :
    (markPending backend programs).1.store.entry program.name = .pending := by
  rw [entry_markPending hm,if_pos (List.mem_map_of_mem hp),he]
  rfl

theorem accounted_ready (plan : Plan) (workers : Int) (around : Surroundings)
    (cancelled : Option Cancellation) (he : backend.store = .empty)
    (hm : (markPending backend programs).2 = .ok ()) :
    Accounted plan (jobsOf programs) (Pool.ready workers programs backend around cancelled) [] :=
  accounted_start plan programs _ _ around cancelled fun _ hp => entry_ready he hm hp

theorem verdict_of_completes (hn : (programs.map Program.name).Nodup)
    (he : backend.store = .empty) (hm : (markPending backend programs).2 = .ok ())
    (hc : (Pool.ready workers programs backend around cancelled).Completes plan schedule final)
    {job : Job} (hj : job ∈ jobsOf programs) :
    ∃ before d r status error,
      Moment.about job ((Pool.ready workers programs backend around cancelled).moments plan
        schedule) = before ++ [d,r] ∧
      Verdict plan job before status (final.backend.store.entry job.program.name).output error ∧
      d.phase? = some (.decided job status error) ∧ r.phase? = some (.recorded job status) ∧
      (final.backend.store.entry job.program.name).error =
        (d.pool.backend.grant (error.map (.setError job.program.name)) .pending).error ∧
      (r.pool.backend.refusal? (.setStatus job.program.name status) = none →
        (final.backend.store.entry job.program.name).status = some status) :=
  (course_of_completes hn (fun _ hp => entry_ready he hm hp) hc hj).verdict

theorem verdicts_of_about {job : Job} {ms before : List Moment} {d r : Moment} {status : Status}
    {output : Option Bytes} {error : Option ProgramError}
    (ha : Moment.about job ms = before ++ [d,r]) (hv : Verdict plan job before status output error)
    (hd : d.phase? = some (.decided job status error))
    (hr : r.phase? = some (.recorded job status)) : verdicts job ms = [(status,error)] := by
  have hb := hv.verdicts_eq_nil
  rw [← verdicts_about,ha]
  unfold verdicts at hb ⊢
  rw [List.filterMap_append,hb]
  simp [hd,hr]

theorem settled_of_completes (hn : (programs.map Program.name).Nodup)
    (hc : (Pool.ready workers programs {} around cancelled).Completes plan schedule final)
    {job : Job} (hj : job ∈ jobsOf programs) :
    ∃ status output error, Settled plan job
      ((Pool.ready workers programs {} around cancelled).moments plan schedule) final status
      output error := by
  obtain ⟨before,d,r,status,error,ha,hv,hd,hr,hx,hs⟩ := verdict_of_completes hn rfl
    (markPending_of_grants Backend.grants_default programs).1 hc hj
  have hg : ∀ m ∈ before ++ [d,r], ∀ c, m.pool.backend.refusal? c = none := by
    intro m hm c
    have hmem : m ∈ Moment.about job _ := ha ▸ hm
    exact ((grants_of_perform hc.performed).2 m (List.mem_of_mem_filter hmem)).refusal?_eq_none c
  have hxe : (final.backend.store.entry job.program.name).error = error.map some := by
    rw [hx]
    cases error with
    | none => rfl
    | some e => simp [Backend.grant,hg d (by simp),StoreCall.onEntry]
  refine ⟨status,_,error,⟨before,d,r,ha,hv⟩,verdicts_of_about ha hv hd hr,
    compiled_iff_succeeds ha hv hd hr,?_,?_,?_⟩
  · rw [← processings_about,ha]
    have hp := hv.processings_eq
    unfold processings at hp ⊢
    rw [List.countP_append,hp]
    simp [hd,hr]
  · rw [handovers_of_perform rfl hc.performed,filter_handovers,ha,List.flatMap_append,
      hv.handovers_eq]
    simp [Moment.handovers,hd,hr,Phase.handovers]
  · rw [← hxe,← hs (hg r (by simp) _)]

theorem Settled.status_eq {job : Job} {ms : List Moment} {status : Status} {output : Option Bytes}
    {error : Option ProgramError} (h : Settled plan job ms final status output error) :
    final.backend.store.status job.program.name = status := by
  have hs : final.backend.store.statuses.get? job.program.name = some status :=
    congrArg Entry.status h.entry
  rw [Store.status,hs]
  rfl

theorem Store.recorded_of_entry {s : Store ProgramError} {name : Bytes} {status : Option Status}
    {output : Option Bytes} {error : Option ProgramError}
    (h : s.entry name = ⟨status,output,error.map some⟩) :
    (s.errors.get? name).getD none = error := by
  have he : s.errors.get? name = error.map some := congrArg Entry.error h
  rw [he]
  cases error <;> rfl

theorem Settled.error_eq {job : Job} {ms : List Moment} {status : Status} {output : Option Bytes}
    {error : Option ProgramError} (h : Settled plan job ms final status output error) :
    (final.backend.store.errors.get? job.program.name).getD none = error :=
  Store.recorded_of_entry h.entry

theorem recordedErrors_eq_nil_iff {ms : List Moment}
    (h : ∀ job ∈ jobsOf programs, ∃ status output error,
      Settled plan job ms final status output error) :
    recordedErrors final.backend.store programs = [] ↔
      ∀ program ∈ programs, final.backend.store.status program.name = .compiled := by
  have hone : ∀ program ∈ programs,
      (final.backend.store.errors.get? program.name).getD none = none ↔
        final.backend.store.status program.name = .compiled := by
    intro program hp
    obtain ⟨job,hj,rfl⟩ := exists_job hp
    obtain ⟨status,output,error,hset⟩ := h job hj
    obtain ⟨before,d,r,_,hv⟩ := hset.verdict
    rw [hset.status_eq,hset.error_eq]
    exact hv.error_eq_none_iff
  rw [recordedErrors,List.filterMap_eq_nil_iff]
  exact ⟨fun hall p hp => (hone p hp).mp (hall p hp),fun hall p hp => (hone p hp).mpr (hall p hp)⟩

end settled
end DefOut
