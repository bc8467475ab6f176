import DefOut.Proofs.Cancellation

set_option autoImplicit false

/-!
What the course of a run depends on. Surroundings that a plan cannot tell apart give the same
course (`perform_within`). With a single worker only the closing of the feeder has no fixed place,
and it may go before or after a step of the worker (`advance_close`), so that all complete schedules
end in the same pool (`completes_unique`).
-/
namespace DefOut

/-- The plan cannot tell apart surroundings in this relation, whatever is handed over. -/
structure Plan.Blind (plan : Plan) (R : Surroundings → Surroundings → Prop) : Prop where
  files : ∀ {a b}, R a b → b.files = a.files
  emit : ∀ {sink a b} (program : Program) (code : Bytes), plan.sink = some sink → R a b →
    (sink.emit program code b).records = (sink.emit program code a).records ∧
    (sink.emit program code b).value.2 = (sink.emit program code a).value.2 ∧
    R (sink.emit program code a).value.1 (sink.emit program code b).value.1

theorem Plan.blind_eq (plan : Plan) : plan.Blind Eq := by
  constructor
  · rintro a _ rfl
    rfl
  · rintro sink a _ program code _ rfl
    exact ⟨rfl,rfl,rfl⟩

theorem Plan.Blind.deliver {plan : Plan} {R : Surroundings → Surroundings → Prop}
    (hb : plan.Blind R) {a b : Surroundings} (hr : R a b) (handovers : List (Job × Bytes)) :
    R (handovers.foldl plan.deliver a) (handovers.foldl plan.deliver b) := by
  induction handovers generalizing a b with
  | nil => exact hr
  | cons x rest ih =>
    refine ih ?_
    unfold Plan.deliver
    cases hs : plan.sink with
    | none => exact hr
    | some sink => exact (hb.emit _ _ hs hr).2.2

namespace Pool

def within (p : Pool) (closed : Bool) (around : Surroundings) : Pool :=
  { p with closed := closed, around := around }

section within
variable {plan : Plan} {p q : Pool} {closed : Bool} {around : Surroundings}
  {R : Surroundings → Surroundings → Prop} {i : Nat} {job : Job}

theorem look_within (p : Pool) (closed : Bool) (around : Surroundings) (i : Nat) (job : Job) :
    (p.within closed around).look i job = (p.look i job).within closed around := by
  obtain ⟨_,_,_,backend,_,cancelled,_⟩ := p
  unfold look within
  cases cancelled with
  | some reason => rfl
  | none =>
    simp only
    rcases backend.setStatus job.program.name .running with ⟨_,_ | _⟩ <;> rfl

theorem process_within (plan : Plan) (p : Pool) (closed : Bool) (i : Nat) (job : Job)
    (hf : around.files = p.around.files) :
    (p.within closed around).process plan i job =
      (p.process plan i job).within closed around := by
  unfold process within
  simp only [hf]
  cases job.program.readSource p.around.files with
  | error e => rfl
  | ok text =>
    simp only
    split
    · cases (Logged.accept plan.table (trimLineEnds text)).value <;> rfl
    · cases (Logged.compile plan.table (trimLineEnds text)).value <;> rfl

theorem keep_within (p : Pool) (closed : Bool) (around : Surroundings) (i : Nat) (job : Job)
    (code : Bytes) :
    (p.within closed around).keep i job code = (p.keep i job code).within closed around := by
  unfold keep within
  simp only
  rcases p.backend.setOutput job.program.name code with ⟨_,_ | _⟩ <;> rfl

theorem handOver_within (hb : plan.Blind R) (hr : R p.around around) (closed : Bool) (i : Nat)
    (job : Job) (code : Bytes) :
    (p.within closed around).handOver plan i job code =
      (p.handOver plan i job code).within closed
        (((Phase.stored job code).handovers plan).foldl plan.deliver around) := by
  unfold handOver within
  cases hs : plan.sink with
  | none => simp [Phase.handovers,hs,decide,note,setPhase]
  | some sink =>
    obtain ⟨hrecords,hanswer,_⟩ := hb.emit job.program code hs hr
    simp only [hrecords,hanswer]
    cases (sink.emit job.program code p.around).value.2 <;>
      simp [Phase.handovers,Plan.deliver,hs,decide,note,setPhase]

theorem recordError_within (p : Pool) (closed : Bool) (around : Surroundings) (i : Nat) (job : Job)
    (status : Status) (error : Option ProgramError) :
    (p.within closed around).recordError i job status error =
      (p.recordError i job status error).within closed around := by
  unfold recordError within
  cases error with
  | none => rfl
  | some e =>
    simp only
    rcases p.backend.setError job.program.name e with ⟨_,_ | _⟩ <;> rfl

theorem recordStatus_within (p : Pool) (closed : Bool) (around : Surroundings) (i : Nat) (job : Job)
    (status : Status) :
    (p.within closed around).recordStatus i job status =
      (p.recordStatus i job status).within closed around := by
  unfold recordStatus within
  simp only
  rcases p.backend.setStatus job.program.name status with ⟨_,_ | _⟩ <;> rfl

theorem receive_within (p : Pool) (around : Surroundings) (i : Nat) :
    (p.within p.closed around).receive i = (p.receive i).map fun q => q.within p.closed around := by
  obtain ⟨queue,closed,_,_,_,_,_⟩ := p
  unfold receive within
  cases queue with
  | cons job rest => rfl
  | nil => cases closed <;> rfl

theorem closed_of_advance (h : Stepped plan p (.advance i) q) : q.closed = p.closed := by
  cases h <;> rfl

theorem advance_within (hb : plan.Blind R) (hr : R p.around around)
    (hw : p.workers[i]? = some .waiting → closed = p.closed) :
    (p.within closed around).advance plan i = (p.advance plan i).map fun q => q.within closed
      (((⟨p,i⟩ : Moment).handovers plan).foldl plan.deliver around) := by
  have hnone : ∀ {phase : Phase}, p.workers[i]? = some phase → phase.handovers plan = [] →
      ((⟨p,i⟩ : Moment).handovers plan).foldl plan.deliver around = around := by
    intro phase hp hn
    simp [Moment.handovers,Moment.phase?,hp,hn]
  have hworkers : (p.within closed around).workers = p.workers := rfl
  unfold advance
  rw [hworkers]
  cases hp : p.workers[i]? with
  | none => rfl
  | some phase =>
    cases phase with
    | unstarted => rw [hnone hp rfl]; rfl
    | waiting =>
      obtain rfl := hw hp
      rw [hnone hp rfl]
      exact receive_within p around i
    | holding job =>
      rw [hnone hp rfl]
      exact congrArg some (look_within p closed around i job)
    | running job =>
      rw [hnone hp rfl]
      exact congrArg some (process_within plan p closed i job (hb.files hr))
    | compiled job code =>
      rw [hnone hp rfl]
      exact congrArg some (keep_within p closed around i job code)
    | stored job code =>
      have hh : (⟨p,i⟩ : Moment).handovers plan = (Phase.stored job code).handovers plan := by
        simp [Moment.handovers,Moment.phase?,hp]
      rw [hh]
      exact congrArg some (handOver_within hb hr closed i job code)
    | decided job status error =>
      rw [hnone hp rfl]
      exact congrArg some (recordError_within p closed around i job status error)
    | recorded job status =>
      rw [hnone hp rfl]
      exact congrArg some (recordStatus_within p closed around i job status)
    | stopped => rfl

theorem step_within (hb : plan.Blind R) (hr : R p.around around) (action : Action) :
    ∃ after, (∀ q, p.step plan action = some q → R q.around after) ∧
      (p.within p.closed around).step plan action =
        (p.step plan action).map fun q => q.within q.closed after := by
  refine ⟨((p.momentOf action).flatMap (Moment.handovers plan)).foldl plan.deliver around,
    fun q hq => ?_,?_⟩
  · rw [(handovers_step (stepped_of_step hq)).2]
    exact hb.deliver hr _
  · cases action with
    | advance i =>
      refine (advance_within hb hr fun _ => rfl).trans ?_
      rw [momentOf,List.flatMap_singleton,step]
      cases hq : p.advance plan i with
      | none => rfl
      | some q =>
        have hstep : p.step plan (.advance i) = some q := hq
        have hc := closed_of_advance (stepped_of_step hstep)
        simp only [Option.map_some,hc]
    | close =>
      obtain ⟨queue,closed,_,_,_,_,_⟩ := p
      cases queue <;> cases closed <;> rfl
    | cancel reason =>
      obtain ⟨_,_,_,_,_,cancelled,_⟩ := p
      cases cancelled <;> rfl

variable {schedule : List Action} {final : Pool}

theorem perform_within (hb : plan.Blind R) (hr : R p.around around)
    (h : p.perform plan schedule = some final) :
    ∃ after, R final.around after ∧ (p.within p.closed around).perform plan schedule =
      some (final.within final.closed after) := by
  induction schedule generalizing p around with
  | nil =>
    obtain rfl : p = final := by simpa [perform] using h
    exact ⟨around,hr,rfl⟩
  | cons action rest ih =>
    obtain ⟨q,hq,hrest⟩ := Option.bind_eq_some_iff.mp h
    obtain ⟨after,hafter,hstep⟩ := step_within hb hr action
    obtain ⟨last,hlast,hperform⟩ := ih (hafter q hq) hrest
    refine ⟨last,hlast,?_⟩
    rw [perform,hstep,hq]
    exact hperform

theorem Completes.within (hb : plan.Blind R) (hr : R p.around around)
    (h : p.Completes plan schedule final) :
    ∃ after, R final.around after ∧
      (p.within p.closed around).Completes plan schedule (final.within final.closed after) := by
  obtain ⟨after,hafter,hperform⟩ := perform_within hb hr h.performed
  refine ⟨after,hafter,hperform,fun action q hq => ?_⟩
  obtain ⟨_,_,hstep⟩ := step_within hb hafter action
  obtain ⟨r,hr,_⟩ := Option.map_eq_some_iff.mp (hstep.symm.trans hq)
  exact h.stuck action r hr

end within

/-! ### One worker -/

section single
variable {plan : Plan} {p q r final other : Pool} {schedule actions : List Action}

theorem length_workers_step {action : Action} (h : Stepped plan p action q) :
    q.workers.length = p.workers.length := by
  cases h <;> simp

theorem queue_of_advance {i : Nat} (h : Stepped plan p (.advance i) q) (hq : p.queue = []) :
    q.queue = [] := by
  cases h with
  | receive _ hr => cases hq.symm.trans hr
  | _ => exact hq

theorem advance_close {i : Nat} (ha : p.step plan (.advance i) = some q)
    (hc : p.step plan .close = some r) :
    ∃ s, q.step plan .close = some s ∧ r.step plan (.advance i) = some s := by
  have hs := stepped_of_step ha
  cases stepped_of_step hc with
  | close hqueue hopen =>
    -- a waiting worker could not go on while the feeder is open
    have hbusy : p.workers[i]? ≠ some .waiting := by
      intro hw
      simp [step,advance,hw,receive,hqueue,hopen] at ha
    have haround : ((⟨p,i⟩ : Moment).handovers plan).foldl plan.deliver p.around = q.around := by
      simpa [momentOf] using (handovers_step hs).2.symm
    have hclose : q.step plan .close = some (q.within true q.around) := by
      simp [step,queue_of_advance hs hqueue,closed_of_advance hs,hopen,Pool.within]
    refine ⟨_,hclose,?_⟩
    have hwithin : (p.within true p.around).advance plan i = _ :=
      advance_within plan.blind_eq rfl fun hw => absurd hw hbusy
    rw [haround] at hwithin
    have hadvance : p.advance plan i = some q := ha
    rw [hadvance] at hwithin
    exact hwithin

/-- With a single worker, two different actions may be exchanged unless one of them calls off the
work. -/
theorem exchange {a b : Action} (hw : p.workers.length ≤ 1) (hne : a ≠ b)
    (hac : ∀ reason, a ≠ .cancel reason) (hbc : ∀ reason, b ≠ .cancel reason)
    (ha : p.step plan a = some q) (hb : p.step plan b = some r) :
    ∃ s, q.step plan b = some s ∧ r.step plan a = some s := by
  have hzero : ∀ {i t}, p.step plan (.advance i) = some t → i = 0 := by
    intro i t ht
    cases hp : p.workers[i]? with
    | none => simp [step,advance,hp] at ht
    | some phase => exact (workers_eq_singleton hw hp).2
  cases a with
  | cancel reason => exact absurd rfl (hac reason)
  | close =>
    cases b with
    | cancel reason => exact absurd rfl (hbc reason)
    | close => exact absurd rfl hne
    | advance i =>
      obtain ⟨s,hs,ht⟩ := advance_close hb ha
      exact ⟨s,ht,hs⟩
  | advance i =>
    cases b with
    | cancel reason => exact absurd rfl (hbc reason)
    | close => exact advance_close ha hb
    | advance k =>
      obtain rfl := hzero ha
      obtain rfl := hzero hb
      exact absurd rfl hne

theorem Uncancelled.head {a : Action} (h : Uncancelled (a :: schedule)) (reason : Cancellation) :
    a ≠ .cancel reason := fun he => h reason (by simp [he])

theorem Uncancelled.tail {a : Action} (h : Uncancelled (a :: schedule)) : Uncancelled schedule :=
  fun reason hm => h reason (List.mem_cons_of_mem a hm)

theorem Completes.of_cons {a : Action} (h : p.Completes plan (a :: schedule) final) :
    ∃ q, p.step plan a = some q ∧ q.Completes plan schedule final := by
  obtain ⟨q,hq,hrest⟩ := Option.bind_eq_some_iff.mp h.performed
  exact ⟨q,hq,hrest,h.stuck⟩

theorem Completes.cons {a : Action} (hq : p.step plan a = some q)
    (h : q.Completes plan schedule final) : p.Completes plan (a :: schedule) final :=
  ⟨by rw [perform,hq]; exact h.performed,h.stuck⟩

theorem Completes.strip {a : Action} (hw : p.workers.length ≤ 1)
    (h : p.Completes plan schedule final) (hu : Uncancelled schedule)
    (hac : ∀ reason, a ≠ .cancel reason) (ha : p.step plan a = some q) :
    ∃ rest, q.Completes plan rest final ∧ Uncancelled rest := by
  induction schedule generalizing p q with
  | nil =>
    obtain rfl : p = final := by simpa [perform] using h.performed
    obtain ⟨reason,rfl⟩ := h.stuck a q ha
    exact absurd rfl (hac reason)
  | cons b rest ih =>
    obtain ⟨r,hb,hrest⟩ := h.of_cons
    by_cases hne : a = b
    · subst hne
      obtain rfl := Option.some.inj (ha.symm.trans hb)
      exact ⟨rest,hrest,hu.tail⟩
    · obtain ⟨s,hqs,hrs⟩ := exchange hw hne hac hu.head ha hb
      have hwr : r.workers.length ≤ 1 := by rwa [length_workers_step (stepped_of_step hb)]
      obtain ⟨more,hmore,hum⟩ := ih hwr hrest hu.tail hrs
      refine ⟨b :: more,hmore.cons hqs,fun reason hm => ?_⟩
      rcases List.mem_cons.mp hm with he | hm
      · exact hu.head reason he.symm
      · exact hum reason hm

/-- With a single worker all complete schedules end in the same pool. -/
theorem completes_unique (hw : p.workers.length ≤ 1) (h : p.Completes plan schedule final)
    (hu : Uncancelled schedule) (h' : p.Completes plan actions other) (hu' : Uncancelled actions) :
    final = other := by
  induction schedule generalizing p actions with
  | nil =>
    obtain rfl : p = final := by simpa [perform] using h.performed
    cases actions with
    | nil => simpa [perform] using h'.performed
    | cons a rest =>
      obtain ⟨q,hq,_⟩ := h'.of_cons
      obtain ⟨reason,rfl⟩ := h.stuck a q hq
      exact absurd rfl (hu'.head reason)
  | cons a rest ih =>
    obtain ⟨q,hq,hrest⟩ := h.of_cons
    obtain ⟨more,hmore,hum⟩ := h'.strip hw hu' hu.head hq
    have hwq : q.workers.length ≤ 1 := by rwa [length_workers_step (stepped_of_step hq)]
    exact ih hwq hrest hu.tail hmore hum

end single
end Pool
end DefOut
