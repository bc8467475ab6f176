import DefOut.Proofs.Independence

set_option autoImplicit false

/-!
Runs that are called off, before they begin or at any time. Every worker looks once at each program
it receives, and passes it over when the work has been called off by then. Once it is called off it
stays so (`cancelled_of_moment`). A single worker looks at the programs in their order
(`map_looks_of_single`), so that those passed over come last. A program that is not passed over
comes to the outcome that it has in any run (`run_cancelled`).
-/
namespace DefOut

def Phase.held? : Phase → Option Job
  | .holding job => some job
  | _ => none

/-- The programs that workers have looked at, in this order, and whether the work had been called
off by then. -/
def looks (ms : List Moment) : List (Job × Bool) :=
  ms.filterMap fun m => (m.phase?.bind Phase.held?).map fun job => (job,m.pool.cancelled.isSome)

section schedule
variable {plan : Plan} {p q final : Pool} {schedule : List Action}

theorem cancelled_step {action : Action} {reason : Cancellation} (hs : Stepped plan p action q)
    (h : p.cancelled = some reason) : q.cancelled = some reason := by
  cases hs with
  | cancel hn => cases hn.symm.trans h
  | _ => exact h

theorem cancelled_of_moment (h : p.perform plan schedule = some final) {m : Moment}
    (hm : m ∈ p.moments plan schedule) {reason : Cancellation}
    (hr : m.pool.cancelled = some reason) : final.cancelled = some reason := by
  refine Pool.perform_invariant
    (fun q ms => ∀ m ∈ ms, ∀ reason, m.pool.cancelled = some reason → q.cancelled = some reason)
    ?_ (by simp) h m hm reason hr
  intro p ms action q _ hp hs m hm reason hr
  obtain hm | hm := List.mem_append.mp hm
  · exact cancelled_step hs (hp m hm reason hr)
  · cases action with
    | advance i =>
      obtain rfl := List.mem_singleton.mp hm
      exact cancelled_step hs hr
    | close | cancel => simp [Pool.momentOf] at hm

theorem looks_momentOf (p : Pool) (action : Action) :
    ∀ x ∈ looks (p.momentOf action), x.2 = p.cancelled.isSome := by
  intro x hx
  obtain ⟨m,hm,hj⟩ := List.mem_filterMap.mp hx
  obtain ⟨job,_,rfl⟩ := Option.map_eq_some_iff.mp hj
  cases action with
  | advance i =>
    obtain rfl := List.mem_singleton.mp hm
    rfl
  | close | cancel => simp [Pool.momentOf] at hm

theorem looks_append (ms more : List Moment) : looks (ms ++ more) = looks ms ++ looks more :=
  List.filterMap_append

theorem pairwise_looks (h : p.perform plan schedule = some final) :
    (looks (p.moments plan schedule)).Pairwise fun x y => x.2 = true → y.2 = true := by
  refine (Pool.perform_invariant
    (fun q ms => (looks ms).Pairwise (fun x y => x.2 = true → y.2 = true) ∧
      ∀ x ∈ looks ms, x.2 = true → q.cancelled.isSome = true) ?_ ⟨.nil,by simp [looks]⟩ h).1
  rintro p ms action q _ ⟨hpair,hlast⟩ hs
  have hnew := looks_momentOf p action
  have hkeep : p.cancelled.isSome = true → q.cancelled.isSome = true := by
    intro hp
    obtain ⟨reason,hr⟩ := Option.isSome_iff_exists.mp hp
    simp [cancelled_step hs hr]
  rw [looks_append]
  constructor
  · refine List.pairwise_append.mpr ⟨hpair,?_,fun x hx y hy hxt => ?_⟩
    · refine List.pairwise_iff_forall_sublist.mpr fun {x y} hxy hxt => ?_
      rw [hnew y (hxy.subset (by simp)),← hnew x (hxy.subset (by simp)),hxt]
    · rw [hnew y hy]
      exact hlast x hx hxt
  · intro x hx hxt
    obtain hx | hx := List.mem_append.mp hx
    · exact hkeep (hlast x hx hxt)
    · exact hkeep (hnew x hx ▸ hxt)

/-! ### One worker -/

theorem workers_eq_singleton {workers : List Phase} (hw : workers.length ≤ 1) {i : Nat}
    {phase : Phase} (h : workers[i]? = some phase) : workers = [phase] ∧ i = 0 := by
  match workers,i with
  | [],_ => simp at h
  | [only],0 => simpa using h
  | [_],i+1 => simp at h
  | _ :: _ :: _,_ => simp at hw

theorem Onward.held?_next {job : Job} {phase next : Phase} {call : Option StoreCall}
    (h : Onward plan p job phase call next) : next.held? = none := by
  cases h <;> rfl

/-- A single worker has looked at the first programs, may have the next one, and the others are
queued. -/
structure Ordered (jobs : List Job) (p : Pool) (ms : List Moment) : Prop where
  single : p.workers.length ≤ 1
  order : (looks ms).map Prod.fst ++ (p.workers.filterMap Phase.held? ++ p.queue) = jobs

theorem Ordered.of_advance {jobs : List Job} {ms : List Moment} {i : Nat} {phase next : Phase}
    (h : Ordered jobs p ms) (hp : p.workers[i]? = some phase)
    (hw : q.workers = p.workers.set i next) (hq : next.held?.toList ++ q.queue = p.queue) :
    Ordered jobs q (ms ++ [⟨p,i⟩]) := by
  obtain ⟨he,rfl⟩ := workers_eq_singleton h.single hp
  have hone : ∀ only : Phase, [only].filterMap Phase.held? = only.held?.toList := fun only => by
    cases ho : only.held? <;> simp [ho]
  have hlook : (looks [⟨p,0⟩]).map Prod.fst = phase.held?.toList := by
    cases ho : phase.held? <;> simp [looks,Moment.phase?,he,ho]
  have ho := h.order
  rw [he,hone] at ho
  refine ⟨by simp [hw,he],?_⟩
  rw [hw,he,List.set_cons_zero,hone,hq,looks_append,List.map_append,hlook,List.append_assoc]
  exact ho

theorem Ordered.step {jobs : List Job} {ms : List Moment} {action : Action}
    (h : Ordered jobs p ms) (hs : Stepped plan p action q) :
    Ordered jobs q (ms ++ p.momentOf action) := by
  cases hs with
  | start hp => exact h.of_advance hp rfl rfl
  | receive hp hq => exact h.of_advance hp rfl hq.symm
  | stop hp => exact h.of_advance hp rfl rfl
  | work hp hj ho => exact h.of_advance hp rfl (by rw [ho.held?_next]; rfl)
  | close => exact ⟨h.single,by simpa [Pool.momentOf] using h.order⟩
  | cancel => exact ⟨h.single,by simpa [Pool.momentOf] using h.order⟩

end schedule

section runs
variable {plan : Plan} {workers : Int} {programs : List Program} {around : Surroundings}
  {cancelled : Option Cancellation} {schedule : List Action} {final : Pool}

theorem map_looks_of_single (hw : workerCount workers programs ≤ 1)
    (hc : (Pool.ready workers programs {} around cancelled).Completes plan schedule final) :
    (looks ((Pool.ready workers programs {} around cancelled).moments plan schedule)).map
      Prod.fst = jobsOf programs := by
  have hnone : (List.replicate (workerCount workers programs) Phase.unstarted).filterMap
      Phase.held? = [] := by simp [Phase.held?]
  have ho := Pool.perform_invariant (Ordered (jobsOf programs)) (fun p ms a q _ => Ordered.step)
    ⟨by simpa [Pool.ready,Pool.start] using hw,by
      simp only [Pool.ready,Pool.start,hnone]
      rfl⟩ hc.performed
  have hf := hc.isFinished (Pool.tidy_start programs workers _ around cancelled)
  simp only [Pool.isFinished,Bool.and_eq_true,List.isEmpty_iff,List.all_eq_true,
    decide_eq_true_eq] at hf
  have hidle : final.workers.filterMap Phase.held? = [] := by
    refine List.filterMap_eq_nil_iff.mpr fun phase hm => ?_
    rw [hf.2 phase hm]
    rfl
  have horder := ho.order
  rwa [hidle,hf.1.1,List.append_nil,List.append_nil] at horder

theorem Verdict.looks_mem {job : Job} {ms : List Moment} {status : Status}
    {output : Option Bytes} {error : Option ProgramError}
    (h : Verdict plan job ms status output error) :
    (job,decide (status = .skipped)) ∈ looks ms := by
  cases h <;> simp_all [looks,Phase.held?,Moment.Looks]

theorem Settled.looks_mem {job : Job} {ms : List Moment} {status : Status} {output : Option Bytes}
    {error : Option ProgramError} (h : Settled plan job ms final status output error) :
    (job,decide (status = .skipped)) ∈ looks ms := by
  obtain ⟨before,d,r,ha,hv⟩ := h.verdict
  obtain ⟨m,hm,hx⟩ := List.mem_filterMap.mp hv.looks_mem
  have hmem : m ∈ Moment.about job ms := by
    rw [ha]
    exact List.mem_append_left _ hm
  exact List.mem_filterMap.mpr ⟨m,List.mem_of_mem_filter hmem,hx⟩

theorem exists_cut {α : Type} {l : List (α × Bool)}
    (h : l.Pairwise fun x y => x.2 = true → y.2 = true) :
    ∃ before after, l = before ++ after ∧ (∀ x ∈ before, x.2 = false) ∧
      ∀ x ∈ after, x.2 = true := by
  induction l with
  | nil => exact ⟨[],[],rfl,by simp,by simp⟩
  | cons x rest ih =>
    obtain ⟨hx,hrest⟩ := List.pairwise_cons.mp h
    cases hb : x.2 with
    | true => exact ⟨[],x :: rest,rfl,by simp,by simpa [hb] using fun a b hm => hx (a,b) hm hb⟩
    | false =>
      obtain ⟨before,after,rfl,hbefore,hafter⟩ := ih hrest
      exact ⟨x :: before,after,rfl,by simpa [hb] using fun a b hm => hbefore (a,b) hm,hafter⟩

theorem skipped_suffix (hn : (programs.map Program.name).Nodup)
    (hw : workerCount workers programs ≤ 1)
    (hc : (Pool.ready workers programs {} around cancelled).Completes plan schedule final) :
    ∃ before after, programs = before ++ after ∧
      (∀ p ∈ before, final.backend.store.status p.name ≠ .skipped) ∧
      ∀ p ∈ after, final.backend.store.status p.name = .skipped := by
  have hall := map_looks_of_single hw hc
  have hpair := pairwise_looks hc.performed
  have hstatus : ∀ x ∈ looks ((Pool.ready workers programs {} around cancelled).moments plan
      schedule), x.2 = decide (final.backend.store.status x.1.program.name = .skipped) := by
    intro x hx
    have hj : x.1 ∈ jobsOf programs := hall ▸ List.mem_map_of_mem hx
    obtain ⟨status,output,error,hset⟩ := settled_of_completes hn hc hj
    rw [hset.status_eq]
    -- each program is looked at once
    have hinj := List.inj_on_of_nodup_map (f := Prod.fst) (hall.symm ▸ (distinct_jobsOf hn).nodup)
    exact congrArg Prod.snd (hinj hx hset.looks_mem rfl)
  obtain ⟨before,after,hcut,hbefore,hafter⟩ := exists_cut hpair
  rw [hcut] at hall hstatus
  refine ⟨before.map fun x => x.1.program,after.map fun x => x.1.program,?_,?_,?_⟩
  · rw [← map_program_jobsOf programs,← hall,List.map_append,List.map_append,List.map_map,
      List.map_map]
    rfl
  · intro p hp
    obtain ⟨x,hx,rfl⟩ := List.mem_map.mp hp
    simpa [hbefore x hx] using hstatus x (by simp [hx])
  · intro p hp
    obtain ⟨x,hx,rfl⟩ := List.mem_map.mp hp
    simpa [hafter x hx] using hstatus x (by simp [hx])

theorem Verdict.status_mem {job : Job} {ms : List Moment} {status : Status}
    {output : Option Bytes} {error : Option ProgramError}
    (h : Verdict plan job ms status output error) :
    status = .compiled ∨ status = .rejected ∨ status = .failed ∨ status = .skipped := by
  cases h <;> simp

theorem mem_recordedErrors {job : Job} (hj : job ∈ jobsOf programs) {ms : List Moment}
    {status : Status} {output : Option Bytes} {e : ProgramError}
    (h : Settled plan job ms final status output (some e)) :
    e ∈ recordedErrors final.backend.store programs :=
  List.mem_filterMap.mpr ⟨job.program,program_mem_of_mem_jobsOf hj,h.error_eq⟩

theorem joinErrors_of_mem {errors : List ProgramError} {e : ProgramError} (h : e ∈ errors) :
    joinErrors errors = some (.programs errors) := by
  cases errors with
  | nil => simp at h
  | cons first rest => rfl

theorem Settled.of_skipped {job : Job} {p : Pool} {output : Option Bytes}
    {error : Option ProgramError} (hp : p.perform plan schedule = some final)
    (h : Settled plan job (p.moments plan schedule) final .skipped output error) :
    ∃ reason, final.cancelled = some reason ∧ output = none ∧
      error = some (.skipped job.program.name reason) ∧ ∀ x ∈ final.handovers, x.1 ≠ job := by
  obtain ⟨m,hm,reason,hcan,rfl,rfl⟩ := h.cancelled_of_skipped
  refine ⟨reason,cancelled_of_moment hp hm hcan,rfl,rfl,fun x hx hjob => ?_⟩
  have hnil : final.handovers.filter (fun h => h.1 = job) = [] := by simp [h.handovers]
  exact List.filter_eq_nil_iff.mp hnil x hx (by simpa using hjob)

/-- Calling off the work leaves no program half done. -/
theorem run_cancelled (hn : (programs.map Program.name).Nodup)
    (hs : plan.validateOnly = true ∨ plan.sink.isSome = true)
    (hi : Independent plan programs around)
    (hc : (Pool.ready workers programs {} around cancelled).Completes plan schedule final) :
    let result := runBy (fun _ => final) plan workers programs {} around cancelled
    let store := result.backend.store
    (∀ p ∈ programs, store.status p.name = .compiled ∨ store.status p.name = .rejected ∨
      store.status p.name = .failed ∨ store.status p.name = .skipped) ∧
    (∀ job ∈ jobsOf programs, store.status job.program.name = .skipped →
      store.output? job.program.name = none ∧ (∀ h ∈ final.handovers, h.1 ≠ job) ∧
      ∃ reason errors, final.cancelled = some reason ∧
        store.error? job.program.name = .ok (some (.skipped job.program.name reason)) ∧
        result.error = some (.programs errors) ∧
        .skipped job.program.name reason ∈ errors) ∧
    (∀ p ∈ programs, store.status p.name ≠ .skipped → ∀ count actions last,
      (Pool.ready count programs {} around none).Completes plan actions last →
      Pool.Uncancelled actions →
      store.entry p.name =
        (runBy (fun _ => last) plan count programs {} around none).backend.store.entry p.name) ∧
    (workerCount workers programs ≤ 1 → ∃ before after, programs = before ++ after ∧
      (∀ p ∈ before, store.status p.name ≠ .skipped) ∧
      ∀ p ∈ after, store.status p.name = .skipped) := by
  intro result store
  obtain ⟨hstore,herror⟩ : result.backend.store = final.backend.store ∧
      result.error = joinErrors (recordedErrors final.backend.store programs) :=
    runBy_of_perform hs hc.performed
  have hst : store = final.backend.store := hstore
  rw [hst]
  refine ⟨fun p hp => ?_,fun job hj hskip => ?_,fun p hp hskip count actions last hl hu => ?_,
    fun hw => skipped_suffix hn hw hc⟩
  · obtain ⟨job,hj,rfl⟩ := exists_job hp
    obtain ⟨status,output,error,h⟩ := settled_of_completes hn hc hj
    obtain ⟨before,d,r,_,hv⟩ := h.verdict
    rw [h.status_eq]
    exact hv.status_mem
  · obtain ⟨status,output,error,h⟩ := settled_of_completes hn hc hj
    obtain rfl : status = .skipped := h.status_eq.symm.trans hskip
    obtain ⟨reason,hcan,rfl,rfl,hnever⟩ := h.of_skipped hc.performed
    have hmem := mem_recordedErrors hj h
    have hentry := h.entry
    simp only [Store.entry,Entry.mk.injEq,Option.map_some] at hentry
    exact ⟨hentry.2.1,hnever,reason,_,hcan,by simp [Store.error?,hentry.2.2],
      herror.trans (joinErrors_of_mem hmem),hmem⟩
  · obtain ⟨job,hj,rfl⟩ := exists_job hp
    obtain ⟨status,output,error,h⟩ := settled_of_completes hn hc hj
    rw [h.status_eq] at hskip
    have hlast : (runBy (fun _ => last) plan count programs {} around none).backend.store =
        last.backend.store :=
      (runBy_of_perform hs hl.performed).1
    rw [hlast,(settled_uncancelled hn hi hl hu hj).entry,h.entry,
      h.eq_outcome hn hi hc hskip]

end runs

theorem run_cancelled_at_first : ∃ schedule final,
    let programs : List Program :=
      [⟨"p","def x = 1\nout x",[],[],[]⟩,⟨"q","out z",[],[],[]⟩,⟨"r","def y = 2\nout y",[],[],[]⟩]
    let plan : Plan := { sink := some .toOutlet }
    let around : Surroundings := ⟨.empty,{}⟩
    let result := runBy (fun _ => final) plan 1 programs {} around none
    (Pool.ready 1 programs {} around none).Completes plan schedule final ∧
      result.backend.store.status "p" = .compiled ∧
      result.backend.store.status "q" = .skipped ∧ result.backend.store.output? "q" = none ∧
      result.backend.store.status "r" = .skipped ∧
      ∃ before after, programs = before ++ after ∧
        (∀ p ∈ before, result.backend.store.status p.name ≠ .skipped) ∧
        ∀ p ∈ after, result.backend.store.status p.name = .skipped := by
  obtain ⟨schedule,hc,_⟩ := Pool.completes_complete { sink := some .toOutlet } (some "p")
    (Pool.tidy_start
      [⟨"p","def x = 1\nout x",[],[],[]⟩,⟨"q","out z",[],[],[]⟩,⟨"r","def y = 2\nout y",[],[],[]⟩]
      1 (markPending {} _).1 ⟨.empty,{}⟩ none)
  obtain ⟨_,hskip,_,hone⟩ := run_cancelled (by decide) (.inr rfl)
    (independent_of_unwritten (.inr rfl) _ fun _ => rfl) hc
  refine ⟨schedule,_,hc,by decide +kernel,by decide +kernel,?_,by decide +kernel,hone (by decide)⟩
  exact (hskip ⟨1,⟨"q","out z",[],[],[]⟩⟩ (by decide) (by decide +kernel)).1

end DefOut
