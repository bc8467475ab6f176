import DefOut.Proofs.Runs

set_option autoImplicit false

/-!
What reaches the sink, on any store and by any schedule. A place in the list of programs has one
chance to be handed over, which no action gives back (`chances_step`), and a worker comes to hand
over code only from a call with which the store has taken it (`Backed.step`). A run that cannot
begin does not look at its programs (`runBy_of_unready`).
-/
namespace DefOut

def Phase.prospect? : Phase → Option Job
  | .holding job | .running job | .compiled job _ | .stored job _ => some job
  | _ => none

namespace Pool

/-- How often a program has been handed over or may still be. -/
def chances (p : Pool) (job : Job) : Nat :=
  (p.handovers.map Prod.fst).count job
    + p.workers.countP (fun phase => phase.prospect? = some job) + p.queue.count job

end Pool

section step
variable {plan : Plan} {p q : Pool} {action : Action}

theorem countP_workers_set (P : Phase → Prop) [DecidablePred P] {workers : List Phase} {i : Nat}
    {phase : Phase} (next : Phase) (h : workers[i]? = some phase) :
    (workers.set i next).countP (fun phase => P phase) + (if P phase then 1 else 0) =
      workers.countP (fun phase => P phase) + if P next then 1 else 0 := by
  obtain ⟨hi,rfl⟩ := List.getElem?_eq_some_iff.mp h
  have hle := List.boole_getElem_le_countP (p := fun phase : Phase => P phase) hi
  rw [List.countP_set hi]
  simp only [decide_eq_true_eq] at hle ⊢
  omega

theorem Onward.chances {own : Job} {phase next : Phase} {call : Option StoreCall}
    (h : Onward plan p own phase call next) (job : Job) :
    ((phase.handovers plan).map Prod.fst).count job
        + (if next.prospect? = some job then 1 else 0) ≤
      if phase.prospect? = some job then 1 else 0 := by
  cases h with
  | unsunk hs => simp [Phase.prospect?,Phase.handovers,hs]
  | emit hs | emitFails hs =>
    by_cases hj : own = job <;> simp [Phase.prospect?,Phase.handovers,hs,hj]
  | _ => simp [Phase.prospect?,Phase.handovers]

theorem handovers_of_phase? {m : Moment} {phase : Phase} (h : m.phase? = some phase) :
    m.handovers plan = phase.handovers plan := by
  simp [Moment.handovers,h]

theorem handovers_advance {i : Nat} {phase : Phase} (h : Stepped plan p (.advance i) q)
    (hp : p.workers[i]? = some phase) : q.handovers = p.handovers ++ phase.handovers plan := by
  have hh := (handovers_step h).1
  rwa [Pool.momentOf,List.flatMap_singleton,handovers_of_phase? (m := ⟨p,i⟩) hp] at hh

theorem chances_set {i : Nat} {phase next : Phase} {job : Job} (hp : p.workers[i]? = some phase)
    (hw : q.workers = p.workers.set i next) (hq : q.queue = p.queue)
    (hh : q.handovers = p.handovers ++ phase.handovers plan)
    (hle : ((phase.handovers plan).map Prod.fst).count job
        + (if next.prospect? = some job then 1 else 0) ≤
      if phase.prospect? = some job then 1 else 0) :
    q.chances job ≤ p.chances job := by
  have hset := countP_workers_set (fun phase => phase.prospect? = some job) next hp
  simp only [Pool.chances,hw,hq,hh,List.map_append,List.count_append]
  omega

theorem chances_step (h : Stepped plan p action q) (job : Job) :
    q.chances job ≤ p.chances job := by
  have hs := h
  cases h with
  | start hp | stop hp =>
    exact chances_set hp rfl rfl (handovers_advance hs hp) (Nat.le_refl 0)
  | @receive i own rest hp hq =>
    -- the program leaves the queue for the worker
    have hset := countP_workers_set (fun phase => phase.prospect? = some job) (.holding own) hp
    have hnone : Phase.waiting.prospect? = none := rfl
    have hsome : (Phase.holding own).prospect? = some own := rfl
    simp only [hnone,hsome,reduceCtorEq,if_false,Option.some.injEq] at hset
    simp only [Pool.chances,Pool.handovers,hq,List.count_cons,beq_iff_eq]
    omega
  | work hp hj ho he => exact chances_set hp rfl rfl (handovers_advance hs hp) (ho.chances job)
  | close | cancel => exact Nat.le_refl _

/-- The store has taken all code that workers are about to hand over or have handed over. -/
structure Backed (p : Pool) (ms : List Moment) : Prop where
  held : ∀ (i : Nat) (job : Job) (code : Bytes), p.workers[i]? = some (.stored job code) →
    ∃ m ∈ ms, m.Stores job code
  handed : ∀ h ∈ p.handovers, ∃ m ∈ ms, m.Stores h.1 h.2

theorem Backed.step {ms : List Moment} (h : Backed p ms) (hs : Stepped plan p action q) :
    Backed q (ms ++ p.momentOf action) := by
  have hkeep : ∀ {job : Job} {code : Bytes}, (∃ m ∈ ms, m.Stores job code) →
      ∃ m ∈ ms ++ p.momentOf action, m.Stores job code :=
    fun ⟨m,hm,hst⟩ => ⟨m,List.mem_append_left _ hm,hst⟩
  constructor
  · intro i job code hp
    rcases hs.holds ⟨hp,rfl⟩ with hh | ⟨hno,_⟩ | ⟨old,call,rfl,hh,ho⟩
    · exact hkeep (h.held i job code hh.1)
    · cases hno
    · cases ho with
      | keep hr => exact ⟨⟨p,i⟩,by simp [Pool.momentOf],hh.1,hr⟩
  · intro x hx
    rw [(handovers_step hs).1,List.mem_append] at hx
    cases hx with
    | inl hx => exact hkeep (h.handed x hx)
    | inr hx =>
      obtain ⟨m,hm,hx⟩ := List.mem_flatMap.mp hx
      have hp := mem_handovers_moment hx
      cases action with
      | advance i =>
        obtain rfl := List.mem_singleton.mp hm
        exact hkeep (h.held i x.1 x.2 hp)
      | close | cancel => cases hm

end step

/-! ### Whole runs -/

theorem nodup_jobsOf (programs : List Program) : (jobsOf programs).Nodup := by
  have hi : (jobsOf programs).map Job.index = List.range programs.length := by
    apply List.ext_getElem?
    intro i
    by_cases h : i < programs.length <;> simp [jobsOf,h]
  exact List.Nodup.of_map Job.index (hi ▸ List.nodup_range)

section runs
variable {plan : Plan} {workers : Int} {programs : List Program} {backend : Backend}
  {around : Surroundings} {cancelled : Option Cancellation} {schedule : List Action} {p : Pool}

theorem chances_ready (job : Job) :
    (Pool.ready workers programs backend around cancelled).chances job =
      (jobsOf programs).count job := by
  have hw : (List.replicate (workerCount workers programs) Phase.unstarted).countP
      (fun phase => phase.prospect? = some job) = 0 := by
    simp [List.countP_replicate,Phase.prospect?]
  simp only [Pool.chances,Pool.ready,Pool.start,hw,Pool.handovers]
  simp [jobsOf]

theorem count_handovers_le
    (h : (Pool.ready workers programs backend around cancelled).perform plan schedule = some p)
    (job : Job) :
    (p.handovers.map Prod.fst).count job ≤ (jobsOf programs).count job := by
  have hc := (Pool.perform_forall
    (fun q => q.chances job ≤ (jobsOf programs).count job)
    (fun q action r _ hq hs => Nat.le_trans (chances_step hs job) hq)
    (Nat.le_of_eq (chances_ready job)) h).1
  simp only [Pool.chances] at hc
  omega

theorem nodup_handovers
    (h : (Pool.ready workers programs backend around cancelled).perform plan schedule = some p) :
    (p.handovers.map Prod.fst).Nodup := by
  refine List.nodup_iff_count_le_one.mpr fun job => Nat.le_trans (count_handovers_le h job) ?_
  exact List.nodup_iff_count_le_one.mp (nodup_jobsOf programs) job

theorem mem_jobsOf_of_handed
    (h : (Pool.ready workers programs backend around cancelled).perform plan schedule = some p)
    {x : Job × Bytes} (hx : x ∈ p.handovers) : x.1 ∈ jobsOf programs := by
  have hc := count_handovers_le h x.1
  have hpos := List.count_pos_iff.mpr (List.mem_map_of_mem (f := Prod.fst) hx)
  exact List.count_pos_iff.mp (Nat.lt_of_lt_of_le hpos hc)

theorem backed_of_perform
    (h : (Pool.ready workers programs backend around cancelled).perform plan schedule = some p) :
    Backed p ((Pool.ready workers programs backend around cancelled).moments plan schedule) := by
  refine Pool.perform_invariant Backed (fun q ms action r _ hq hs => hq.step hs) ?_ h
  constructor
  · intro i job code hp
    cases List.eq_of_mem_replicate (List.mem_of_getElem? hp)
  · intro x hx
    cases hx

theorem around_of_handovers
    (h : (Pool.ready workers programs backend around cancelled).perform plan schedule = some p) :
    p.around = p.handovers.foldl plan.deliver around := by
  refine (Pool.perform_forall (fun q => q.around = q.handovers.foldl plan.deliver around)
    (fun q action r _ hq hs => ?_) rfl h).1
  obtain ⟨hh,ha⟩ := handovers_step hs
  rw [ha,hh,List.foldl_append,← hq]

end runs

/-! ### Runs that cannot begin -/

/-- The run has nowhere to hand code over to, or the store refuses to mark one of its programs. -/
def Unready (plan : Plan) (backend : Backend) (programs : List Program) : Prop :=
  plan.validateOnly = false ∧ plan.sink = none ∨ ∃ (i : Nat) (program : Program) (words : Bytes),
    programs[i]? = some program ∧
      backend.fault (backend.calls+i) (.setStatus program.name .pending) = some words

theorem calls_after (b : Backend) (c : StoreCall) : (b.after (some c)).calls = b.calls+1 := by
  simp only [Backend.after,Backend.call]
  split <;> rfl

theorem markPending_of_refusal {b : Backend} {programs : List Program} {i : Nat}
    {program : Program} {words : Bytes} (hp : programs[i]? = some program)
    (hr : b.fault (b.calls+i) (.setStatus program.name .pending) = some words) :
    ∃ name cause, (markPending b programs).2 = .error (.notInitialised name cause) := by
  induction programs generalizing b i with
  | nil => simp at hp
  | cons first rest ih =>
    rw [markPending_cons]
    cases hf : b.refusal? (.setStatus first.name .pending) with
    | some cause => exact ⟨first.name,cause,rfl⟩
    | none =>
      cases i with
      | zero =>
        obtain rfl : first = program := by simpa using hp
        rw [Backend.refusal?,show b.fault b.calls _ = _ from hr] at hf
        cases hf
      | succ i =>
        refine ih (by simpa using hp) ?_
        rw [Backend.fault_after,calls_after]
        rwa [Nat.add_assoc,Nat.add_comm 1]

theorem markPending_records (b : Backend) (programs : List Program) :
    (markPending b programs).1.store.outputs = b.store.outputs ∧
      (markPending b programs).1.store.errors = b.store.errors := by
  induction programs generalizing b with
  | nil => exact ⟨rfl,rfl⟩
  | cons first rest ih =>
    have hone : (b.after (some (.setStatus first.name .pending))).store.outputs = b.store.outputs ∧
        (b.after (some (.setStatus first.name .pending))).store.errors = b.store.errors := by
      rw [Backend.store_after_some]
      split <;> exact ⟨rfl,rfl⟩
    rw [markPending_cons]
    split
    · exact ⟨(ih _).1.trans hone.1,(ih _).2.trans hone.2⟩
    · exact hone

theorem markPending_congr (b : Backend) {programs others : List Program}
    (h : others.map Program.name = programs.map Program.name) :
    markPending b others = markPending b programs := by
  induction programs generalizing b others with
  | nil => rw [List.map_eq_nil_iff.mp h]
  | cons first rest ih =>
    cases others with
    | nil => simp at h
    | cons other more =>
      simp only [List.map_cons,List.cons.injEq] at h
      rw [markPending_cons,markPending_cons,h.1]
      split
      · exact ih _ h.2
      · rfl

theorem runBy_of_unready {plan : Plan} {backend : Backend} {programs : List Program}
    (h : Unready plan backend programs) : ∃ (error : RunError) (left : Backend),
      left.store.outputs = backend.store.outputs ∧ left.store.errors = backend.store.errors ∧
      ∀ (work : Pool → Pool) (workers : Int) (others : List Program) (around : Surroundings)
        (cancelled : Option Cancellation), others.map Program.name = programs.map Program.name →
        runBy work plan workers others backend around cancelled =
          ⟨some error,left,around,[],[]⟩ := by
  by_cases hg : plan.validateOnly = false ∧ plan.sink = none
  · refine ⟨.missingSink,backend,rfl,rfl,fun work workers others around cancelled _ => ?_⟩
    unfold runBy
    rw [if_pos (by simp [hg])]
  · obtain ⟨i,program,words,hp,hr⟩ := h.resolve_left hg
    obtain ⟨name,cause,herr⟩ := markPending_of_refusal hp hr
    have hsame := markPending_records backend programs
    refine ⟨.notInitialised name cause,(markPending backend programs).1,hsame.1,hsame.2,?_⟩
    intro work workers others around cancelled hn
    have hguard : ¬ (!plan.validateOnly && plan.sink.isNone) = true := by simpa using hg
    unfold runBy
    rw [if_neg hguard,markPending_congr backend hn]
    generalize markPending backend programs = r at herr ⊢
    obtain ⟨b,_⟩ := r
    obtain rfl := herr
    rfl

/-- Emission follows storage, whatever the store refuses and whenever the work is called off. In
every state of a run each place in the list has been handed over at most once, with code that the
store had taken, and the sink has been called for nothing else. A run without a sink for its code,
or whose store refuses to mark a program, ends with an error that depends on the names alone, with
no output or error stored and nothing handed over. -/
theorem handed_once_after_storing (plan : Plan) (programs : List Program) (backend : Backend) :
    (∀ (workers : Int) (around : Surroundings) (cancelled : Option Cancellation)
      (schedule : List Action) (p : Pool),
      (Pool.ready workers programs backend around cancelled).perform plan schedule = some p →
      (p.handovers.map Prod.fst).Nodup ∧
      (∀ h ∈ p.handovers, h.1 ∈ jobsOf programs ∧
        ∃ m ∈ (Pool.ready workers programs backend around cancelled).moments plan schedule,
          m.phase? = some (.compiled h.1 h.2) ∧
          (m.pool.backend.setOutput h.1.program.name h.2).2 = .ok ()) ∧
      p.around = p.handovers.foldl plan.deliver around) ∧
    (Unready plan backend programs → ∃ (error : RunError) (left : Backend),
      left.store.outputs = backend.store.outputs ∧ left.store.errors = backend.store.errors ∧
      ∀ (work : Pool → Pool) (workers : Int) (others : List Program) (around : Surroundings)
        (cancelled : Option Cancellation), others.map Program.name = programs.map Program.name →
        runBy work plan workers others backend around cancelled =
          ⟨some error,left,around,[],[]⟩) := by
  refine ⟨fun workers around cancelled schedule p h => ?_,runBy_of_unready⟩
  refine ⟨nodup_handovers h,fun x hx => ⟨mem_jobsOf_of_handed h hx,?_⟩,around_of_handovers h⟩
  obtain ⟨m,hm,hp,hr⟩ := (backed_of_perform h).handed x hx
  refine ⟨m,hm,hp,?_⟩
  rw [Backend.setOutput_eq,Backend.call_effect,hr]

def Backend.refusing (n : Nat) : Backend where
  fault := fun k _ => if k = n then some "unavailable" else none

theorem handed_once_after_storing_twins : ∃ schedule final,
    let twins : List Program :=
      [⟨"p","def x = 1\nout x",[],[],[]⟩,⟨"p","def y = 2\nout y",[],[],[]⟩]
    let plan : Plan := { sink := some .toOutlet }
    let start := Pool.ready 1 twins (.refusing 6) ⟨.empty,{}⟩ none
    start.perform plan schedule = some final ∧ final.handovers.length = 1 ∧
      (∀ h ∈ final.handovers, ∃ m ∈ start.moments plan schedule,
        (m.pool.backend.setOutput h.1.program.name h.2).2 = .ok ()) ∧
      Unready plan (.refusing 1) twins ∧
      ∃ error left, ∀ work, runBy work plan 1 twins (.refusing 1) ⟨.empty,{}⟩ none =
        ⟨some error,left,⟨.empty,{}⟩,[],[]⟩ := by
  obtain ⟨schedule,hc,_⟩ := Pool.completes_complete { sink := some .toOutlet } none
    (Pool.tidy_start
      [⟨"p","def x = 1\nout x",[],[],[]⟩,⟨"p","def y = 2\nout y",[],[],[]⟩] 1
      (markPending (.refusing 6) _).1 ⟨.empty,{}⟩ none)
  have hun : Unready { sink := some .toOutlet } (.refusing 1)
      [⟨"p","def x = 1\nout x",[],[],[]⟩,⟨"p","def y = 2\nout y",[],[],[]⟩] :=
    .inr ⟨1,_,"unavailable",rfl,rfl⟩
  obtain ⟨hreach,_⟩ := handed_once_after_storing { sink := some .toOutlet }
    [⟨"p","def x = 1\nout x",[],[],[]⟩,⟨"p","def y = 2\nout y",[],[],[]⟩] (.refusing 6)
  obtain ⟨_,hunready⟩ := handed_once_after_storing { sink := some .toOutlet }
    [⟨"p","def x = 1\nout x",[],[],[]⟩,⟨"p","def y = 2\nout y",[],[],[]⟩] (.refusing 1)
  obtain ⟨_,hstored,_⟩ := hreach 1 ⟨.empty,{}⟩ none schedule _ hc.performed
  obtain ⟨error,left,_,_,hrun⟩ := hunready hun
  refine ⟨schedule,_,hc.performed,by decide +kernel,fun h hh => ?_,hun,error,left,
    fun work => hrun work 1 _ _ none rfl⟩
  obtain ⟨_,m,hm,_,hok⟩ := hstored h hh
  exact ⟨m,hm,hok⟩

end DefOut
