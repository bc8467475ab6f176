import DefOut.Proofs.InOrder

set_option autoImplicit false

/-!
Runs are independent of their schedule. At every moment of every schedule the surroundings are
those of some programs processed one after the other (`Undisturbed`). So every verdict on a program
that is independent of the others is its outcome (`Verdict.eq_outcome`), and every schedule ends
like the processing of the programs in their order (`run_eq_inOrder`).
-/
namespace DefOut

def Phase.code? : Phase → Option Bytes
  | .compiled _ code | .stored _ code => some code
  | _ => none

section schedule
variable {plan : Plan} {jobs : List Job} {around : Surroundings} {p q : Pool} {ms : List Moment}

theorem Course.handovers_eq_nil {job : Job} {phase : Phase} {x : Entry}
    (h : Course plan job ms phase x) (hp : Phase.rank (.stored job []) ≤ phase.rank) :
    ms.flatMap (Moment.handovers plan) = [] := by
  induction h with
  | received => rfl
  | @onward ms m phase next call x hc hm ho ih =>
    have hl := Pool.rank_lt_of_onward ho
    have hn : m.handovers plan = [] := by
      rw [Moment.handovers,hm]
      cases phase with
      | stored own code =>
        simp only [Phase.rank] at hl hp
        omega
      | _ => rfl
    rw [List.flatMap_append,ih (by omega)]
    simp [hn]

theorem Onward.code?_next {job : Job} {phase next : Phase} {call : Option StoreCall} {code : Bytes}
    (h : Onward plan p job phase call next) (hc : next.code? = some code) :
    phase.code? = some code ∨
      phase = .running job ∧ (job.program.process plan p.around).1.output = some code := by
  cases h with
  | compile hr ha hv =>
    refine .inr ⟨rfl,?_⟩
    rw [Program.process_of_accept hr ha hv,Program.deliver_output]
    exact hc
  | keep => exact .inl hc
  | _ => cases hc

/-- The surroundings are those of processing one after the other the programs that have been handed
to the sink, and a worker that has code has the code of its program. -/
structure Undisturbed (plan : Plan) (jobs : List Job) (around : Surroundings) (p : Pool)
    (ms : List Moment) : Prop where
  accounted : Accounted plan jobs p ms
  handed : p.handovers = ms.flatMap (Moment.handovers plan)
  nodup : (p.handovers.map Prod.fst).Nodup
  subset : p.handovers.map Prod.fst ⊆ jobs
  around_eq : p.around =
    surroundingsAfter plan ((p.handovers.map Prod.fst).map Job.program) around
  code : ∀ i phase job code, Holds p.workers i phase job → phase.code? = some code →
    (job.program.process plan around).1.output = some code

namespace Undisturbed

theorem not_handed (h : Undisturbed plan jobs around p ms) {i : Nat} {phase : Phase} {job : Job}
    (hh : Holds p.workers i phase job) (hp : Phase.rank (.stored job []) ≤ phase.rank) :
    job ∉ p.handovers.map Prod.fst := by
  have hnil := (h.accounted.busy i phase job hh).handovers_eq_nil hp
  rw [← filter_handovers,← h.handed,List.filter_eq_nil_iff] at hnil
  intro hm
  obtain ⟨x,hx,rfl⟩ := List.mem_map.mp hm
  exact hnil x hx (by simp)

theorem outcome_eq (hd : Distinct jobs)
    (hi : Independent plan (jobs.map Job.program) around) (h : Undisturbed plan jobs around p ms)
    {i : Nat} {phase : Phase} {job : Job} (hh : Holds p.workers i phase job)
    (hp : Phase.rank (.stored job []) ≤ phase.rank) :
    (job.program.process plan p.around).1 = (job.program.process plan around).1 := by
  have hsub : job :: p.handovers.map Prod.fst ⊆ jobs :=
    List.cons_subset.mpr ⟨(h.accounted.received i phase job hh).1,h.subset⟩
  have hnd : (job :: p.handovers.map Prod.fst).Nodup :=
    List.nodup_cons.mpr ⟨h.not_handed hh hp,h.nodup⟩
  rw [h.around_eq]
  refine hi job.program _ ?_ (List.map_subset Job.program hsub)
  exact hnd.map_on fun a ha b hb he =>
    hd.eq_of_name_eq (hsub ha) (hsub hb) (congrArg Program.name he)

theorem code_step (hd : Distinct jobs)
    (hi : Independent plan (jobs.map Job.program) around) (h : Undisturbed plan jobs around p ms)
    {action : Action} (hs : Stepped plan p action q) {k : Nat} {phase : Phase} {job : Job}
    {code : Bytes} (hh : Holds q.workers k phase job) (hc : phase.code? = some code) :
    (job.program.process plan around).1.output = some code := by
  obtain hh | ⟨rfl,_⟩ | ⟨old,call,_,hh,ho⟩ := hs.holds hh
  · exact h.code k phase job code hh hc
  · cases hc
  · obtain hold | ⟨rfl,hout⟩ := ho.code?_next hc
    · exact h.code k old job code hh hold
    · rw [← h.outcome_eq hd hi hh (by simp [Phase.rank])]
      exact hout

theorem handovers_momentOf (plan : Plan) (p : Pool) (action : Action) :
    (p.momentOf action).flatMap (Moment.handovers plan) = [] ∨
      ∃ i job code, Holds p.workers i (.stored job code) job ∧
        (p.momentOf action).flatMap (Moment.handovers plan) = [(job,code)] := by
  cases action with
  | advance i =>
    simp only [Pool.momentOf,List.flatMap_cons,List.flatMap_nil,List.append_nil]
    cases hp : p.workers[i]? with
    | none => simp [Moment.handovers,Moment.phase?,hp]
    | some phase =>
      cases phase with
      | stored job code =>
        by_cases hs : plan.sink.isSome
        · exact .inr ⟨i,job,code,⟨hp,rfl⟩,by
            simp [Moment.handovers,Moment.phase?,hp,Phase.handovers,hs]⟩
        · exact .inl (by simp [Moment.handovers,Moment.phase?,hp,Phase.handovers,hs])
      | _ => exact .inl (by simp [Moment.handovers,Moment.phase?,hp,Phase.handovers])
  | close | cancel => exact .inl rfl

theorem step (hd : Distinct jobs)
    (hi : Independent plan (jobs.map Job.program) around) (h : Undisturbed plan jobs around p ms)
    {action : Action} (hs : Stepped plan p action q) :
    Undisturbed plan jobs around q (ms ++ p.momentOf action) := by
  obtain ⟨hq,ha⟩ := handovers_step hs
  have hacc := h.accounted.step hd hs
  have hhand : q.handovers = (ms ++ p.momentOf action).flatMap (Moment.handovers plan) := by
    rw [hq,h.handed,List.flatMap_append]
  have hcode : ∀ i phase job code, Holds q.workers i phase job → phase.code? = some code →
      (job.program.process plan around).1.output = some code :=
    fun _ _ _ _ => h.code_step hd hi hs
  obtain hnil | ⟨i,job,code,hh,hone⟩ := handovers_momentOf plan p action
  · rw [hnil] at hq ha
    rw [List.append_nil] at hq
    exact ⟨hacc,hhand,hq ▸ h.nodup,hq ▸ h.subset,by rw [ha,hq]; exact h.around_eq,hcode⟩
  · rw [hone] at hq ha
    have hjob := (h.accounted.received i _ job hh).1
    -- what is handed over is what processing the program now would hand over
    have hout : (job.program.process plan p.around).1.output = some code := by
      rw [h.outcome_eq hd hi hh (Nat.le_refl _)]
      exact h.code i _ job code hh rfl
    have hnext : q.around = (job.program.process plan p.around).2 := by
      rw [Program.process_of_output hout,Program.deliver_surroundings,ha]
      rfl
    refine ⟨hacc,hhand,?_,?_,?_,hcode⟩
    · rw [hq,List.map_append]
      exact h.nodup.append (by simp) (by simpa using h.not_handed hh (Nat.le_refl _))
    · rw [hq,List.map_append]
      exact List.append_subset.mpr ⟨h.subset,by simpa using hjob⟩
    · rw [hnext,hq,h.around_eq]
      simp [surroundingsAfter]

end Undisturbed
end schedule

section runs
variable {plan : Plan} {workers : Int} {programs : List Program} {around : Surroundings}
  {cancelled : Option Cancellation} {schedule : List Action} {final : Pool}

theorem undisturbed_ready (plan : Plan) (workers : Int) (programs : List Program)
    (around : Surroundings) (cancelled : Option Cancellation) :
    Undisturbed plan (jobsOf programs) around
      (Pool.ready workers programs {} around cancelled) [] where
  accounted := accounted_ready plan workers around cancelled rfl
    (markPending_of_grants Backend.grants_default programs).1
  handed := rfl
  nodup := List.nodup_nil
  subset := List.nil_subset _
  around_eq := rfl
  code i phase job code hh := by
    obtain rfl := List.eq_of_mem_replicate (List.mem_of_getElem? hh.1)
    cases hh.2

theorem outcome_of_moment (hn : (programs.map Program.name).Nodup)
    (hi : Independent plan programs around)
    (h : (Pool.ready workers programs {} around cancelled).perform plan schedule = some final)
    {m : Moment}
    (hm : m ∈ (Pool.ready workers programs {} around cancelled).moments plan schedule)
    {phase : Phase} {job : Job} (hp : m.phase? = some phase) (hj : phase.job? = some job)
    (hr : Phase.rank (.stored job []) ≤ phase.rank) :
    (job.program.process plan m.pool.around).1 = (job.program.process plan around).1 := by
  have hi' : Independent plan ((jobsOf programs).map Job.program) around := by
    rwa [map_program_jobsOf]
  have hd := distinct_jobsOf hn
  obtain ⟨ms,hu⟩ := (Pool.perform_forall
    (fun q => ∃ ms, Undisturbed plan (jobsOf programs) around q ms)
    (fun q action r _ ⟨ms,hq⟩ hs => ⟨_,hq.step hd hi' hs⟩)
    ⟨[],undisturbed_ready plan workers programs around cancelled⟩ h).2 m hm
  exact hu.outcome_eq hd hi' ⟨hp,hj⟩ hr

section verdict
variable {job : Job} {ms : List Moment} {o : Outcome}
  (ho : ∀ m ∈ ms, ∀ phase, m.phase? = some phase → phase.job? = some job →
    Phase.rank (.stored job []) ≤ phase.rank → (job.program.process plan m.pool.around).1 = o)
include ho

/-- Although others are processed between the reading of a program and the handing over, it is as
if the program were processed at the handing over. -/
theorem eq_deliver {n h : Moment} {lexemes : Bytes} (hn : n ∈ ms) (hh : h ∈ ms)
    (ha : n.Accepts plan job lexemes) (hv : plan.validateOnly = false)
    (hp : h.phase? = some (.stored job (generate plan.table lexemes))) :
    o = (job.program.deliver plan h.pool.around (generate plan.table lexemes)).1 := by
  obtain ⟨hr,text,ht,ha⟩ := Moment.accepts_iff.mp ha
  have hout : o.output = some (generate plan.table lexemes) := by
    rw [← ho n hn _ hr rfl (by simp [Phase.rank]),Program.process_of_accept ht ha hv,
      Program.deliver_output]
  have hnow := ho h hh _ hp rfl (Nat.le_refl _)
  rw [← hnow] at hout ⊢
  rw [Program.process_of_output hout]

theorem Verdict.eq_outcome {status : Status} {output : Option Bytes} {error : Option ProgramError}
    (h : Verdict plan job ms status output error) (hs : status ≠ .skipped)
    (hg : ∀ m ∈ ms, ∀ c, m.pool.backend.refusal? c = none) : o = ⟨status,output,error⟩ := by
  cases h with
  | skipped => exact absurd rfl hs
  | @unreadable m n e hm hn hr =>
    rw [← ho n (by simp) _ hn rfl (by simp [Phase.rank])]
    simp [Program.process,hr]
  | @rejected m n text r hm hn hr ha =>
    rw [← ho n (by simp) _ hn rfl (by simp [Phase.rank])]
    simp [Program.process,hr,ha]
  | @checked m n lexemes hm hn hv =>
    obtain ⟨hp,text,hr,ha⟩ := Moment.accepts_iff.mp hn
    rw [← ho n (by simp) _ hp rfl (by simp [Phase.rank])]
    simp [Program.process,hr,ha,hv]
  | @notStored m n k lexemes cause hm hn hv hk hr =>
    rw [hg k (by simp)] at hr
    cases hr
  | @emitted m n k h lexemes hm hn hv hk hh =>
    rw [eq_deliver ho (by simp) (by simp) hn hv hh.1]
    exact Program.deliver_of_ok hh.2
  | @notEmitted m n k h lexemes sink e hm hn hv hk hh hsink hbad =>
    rw [eq_deliver ho (by simp) (by simp) hn hv hh]
    exact Program.deliver_of_error hsink hbad

end verdict

theorem Settled.eq_outcome (hn : (programs.map Program.name).Nodup)
    (hi : Independent plan programs around)
    (hc : (Pool.ready workers programs {} around cancelled).Completes plan schedule final)
    {job : Job} {status : Status} {output : Option Bytes} {error : Option ProgramError}
    (h : Settled plan job
      ((Pool.ready workers programs {} around cancelled).moments plan schedule) final status
      output error) (hs : status ≠ .skipped) :
    (job.program.process plan around).1 = ⟨status,output,error⟩ := by
  obtain ⟨before,d,r,ha,hv⟩ := h.verdict
  have hmem : ∀ m ∈ before,
      m ∈ (Pool.ready workers programs {} around cancelled).moments plan schedule := by
    intro m hm
    have hab : m ∈ before ++ [d,r] := List.mem_append_left _ hm
    exact List.mem_of_mem_filter (ha ▸ hab)
  refine hv.eq_outcome (fun m hm phase hp hj hr =>
    outcome_of_moment hn hi hc.performed (hmem m hm) hp hj hr) hs fun m hm c => ?_
  exact ((grants_of_perform hc.performed).2 m (hmem m hm)).refusal?_eq_none c

theorem cancelled_of_uncancelled {p : Pool} (hp : p.cancelled = none)
    (hu : Pool.Uncancelled schedule) (h : p.perform plan schedule = some final) :
    ∀ m ∈ p.moments plan schedule, m.pool.cancelled = none := by
  refine (Pool.perform_forall (fun q => q.cancelled = none) ?_ hp h).2
  intro q action r ha hq hs
  cases hs with
  | cancel => exact absurd ha (hu _)
  | _ => exact hq

theorem Settled.cancelled_of_skipped {job : Job} {ms : List Moment} {output : Option Bytes}
    {error : Option ProgramError} (h : Settled plan job ms final .skipped output error) :
    ∃ m ∈ ms, ∃ reason, m.pool.cancelled = some reason ∧
      error = some (.skipped job.program.name reason) ∧ output = none := by
  obtain ⟨before,d,r,ha,hv⟩ := h.verdict
  cases hv with
  | @skipped m reason hp hcan =>
    have hm : m ∈ Moment.about job ms := by simp [ha]
    exact ⟨m,List.mem_of_mem_filter hm,reason,hcan,rfl,rfl⟩

end runs

/-! ### The names of a store -/

theorem keys_effect (c : StoreCall) (s : Store ProgramError) (h : c.program ∈ s.keys) :
    (c.effect s).keys = s.keys := by
  cases c with
  | setStatus name status => exact (Registry.keys_set _ _ _).trans (if_pos h)
  | _ => rfl

theorem keys_markPending {b : Backend} (hg : b.Grants) {programs : List Program}
    (hn : (b.store.keys ++ programs.map Program.name).Nodup) :
    (markPending b programs).1.store.keys = b.store.keys ++ programs.map Program.name := by
  induction programs generalizing b with
  | nil => simp [markPending]
  | cons p rest ih =>
    have hfresh : p.name ∉ b.store.keys := fun hm =>
      (List.nodup_append'.mp hn).2.2 hm (by simp)
    have hkeys : (b.after (some (.setStatus p.name .pending))).store.keys =
        b.store.keys ++ [p.name] := by
      rw [Backend.store_after_some,if_pos (hg.refusal?_eq_none _)]
      exact keys_setStatus_of_not_mem .pending hfresh
    rw [markPending_cons,hg.refusal?_eq_none]
    simp only
    rw [ih (hg.after _),hkeys]
    · simp
    · simpa [hkeys] using hn

structure Kept (names : List Bytes) (s t : Store ProgramError) : Prop where
  keys : t.keys = s.keys
  entry : ∀ name, name ∉ names → t.entry name = s.entry name

theorem Kept.after {names : List Bytes} {s : Store ProgramError} {b : Backend}
    (h : Kept names s b.store) (hs : names ⊆ s.keys) {own : Bytes} (hown : own ∈ names)
    {call : Option StoreCall} (hc : ∀ c, call = some c → c.program = own) :
    Kept names s (b.after call).store where
  keys := by
    cases call with
    | none => exact h.keys
    | some c =>
      rw [Backend.store_after_some]
      split
      · rw [keys_effect c b.store (by rw [h.keys,hc c rfl]; exact hs hown),h.keys]
      · exact h.keys
  entry name hname := by
    have hne : own ≠ name := fun he => hname (he ▸ hown)
    rw [Backend.entry_after b own hc,if_neg hne]
    exact h.entry name hname

theorem kept_of_perform {plan : Plan} {programs : List Program} {p final : Pool}
    {schedule : List Action} (hn : (programs.map Program.name).Nodup)
    (ha : Accounted plan (jobsOf programs) p [])
    (hk : programs.map Program.name ⊆ p.backend.store.keys)
    (h : p.perform plan schedule = some final) :
    Kept (programs.map Program.name) p.backend.store final.backend.store := by
  refine (Pool.perform_invariant (fun q ms => Accounted plan (jobsOf programs) q ms ∧
    Kept (programs.map Program.name) p.backend.store q.backend.store) ?_
    ⟨ha,⟨rfl,fun _ _ => rfl⟩⟩ h).2
  rintro q ms action r _ ⟨hq,hkept⟩ hs
  refine ⟨hq.step (distinct_jobsOf hn) hs,?_⟩
  cases hs with
  | @work i phase next job call events hp hj ho he =>
    have hjob := program_mem_of_mem_jobsOf (hq.received i phase job ⟨hp,hj⟩).1
    exact hkept.after hk (List.mem_map_of_mem hjob) ho.program_eq
  | _ => exact hkept

/-! ### Every schedule ends like the processing in order -/

def Store.Same (s t : Store ProgramError) : Prop :=
  s.names = t.names ∧ ∀ name, s.entry name = t.entry name

theorem recordedErrors_congr {s t : Store ProgramError} {programs : List Program}
    (h : ∀ p ∈ programs, s.entry p.name = t.entry p.name) :
    recordedErrors s programs = recordedErrors t programs := by
  apply List.filterMap_congr
  intro p hp
  have he := congrArg Entry.error (h p hp)
  simp only [Store.entry] at he
  rw [he]

section runs
variable {plan : Plan} {workers : Int} {programs : List Program} {around : Surroundings}
  {cancelled : Option Cancellation} {schedule : List Action} {final : Pool}

theorem settled_uncancelled (hn : (programs.map Program.name).Nodup)
    (hi : Independent plan programs around)
    (hc : (Pool.ready workers programs {} around none).Completes plan schedule final)
    (hu : Pool.Uncancelled schedule) {job : Job} (hj : job ∈ jobsOf programs) :
    Settled plan job ((Pool.ready workers programs {} around none).moments plan schedule) final
      (job.program.process plan around).1.status (job.program.process plan around).1.output
      (job.program.process plan around).1.error := by
  obtain ⟨status,output,error,h⟩ := settled_of_completes hn hc hj
  have hs : status ≠ .skipped := by
    rintro rfl
    obtain ⟨m,hm,reason,hcan,_⟩ := h.cancelled_of_skipped
    rw [cancelled_of_uncancelled rfl hu hc.performed m hm] at hcan
    cases hcan
  rw [h.eq_outcome hn hi hc hs]
  exact h

theorem same_inOrder (hn : (programs.map Program.name).Nodup)
    (hi : Independent plan programs around)
    (hc : (Pool.ready workers programs {} around none).Completes plan schedule final)
    (hu : Pool.Uncancelled schedule) :
    final.backend.store.Same (inOrder plan programs around).1 := by
  have hmark := (markPending_of_grants Backend.grants_default programs).1
  have hkeys : (Pool.ready workers programs {} around none).backend.store.keys =
      programs.map Program.name := keys_markPending Backend.grants_default hn
  have hkept := kept_of_perform hn (accounted_ready plan workers around none rfl hmark)
    (by rw [hkeys]; exact List.Subset.refl _) hc.performed
  obtain ⟨hin,hout⟩ := entry_inOrder hn hi
  constructor
  · have he : final.backend.store.keys = (inOrder plan programs around).1.keys := by
      rw [hkept.keys,hkeys,keys_inOrder plan around hn]
    exact congrArg Bytes.sort he
  · intro name
    by_cases hname : name ∈ programs.map Program.name
    · obtain ⟨p,hp,rfl⟩ := List.mem_map.mp hname
      obtain ⟨job,hj,rfl⟩ := exists_job hp
      rw [(settled_uncancelled hn hi hc hu hj).entry,hin _ hp]
      rfl
    · rw [hkept.entry name hname,hout name hname]
      exact (entry_markPending hmark name).trans (if_neg hname)

/-- Every schedule of a run leaves what processing the programs in their order leaves. A program is
rejected exactly when its error has a rejection among its causes, as long as the sink puts none
there. -/
theorem run_eq_inOrder (hn : (programs.map Program.name).Nodup)
    (hs : plan.validateOnly = true ∨ plan.sink.isSome = true)
    (hi : Independent plan programs around)
    (hc : (Pool.ready workers programs {} around none).Completes plan schedule final)
    (hu : Pool.Uncancelled schedule) :
    let result := runBy (fun _ => final) plan workers programs {} around none
    let moments := (Pool.ready workers programs {} around none).moments plan schedule
    result.backend.store.Same (inOrder plan programs around).1 ∧
    result.error = joinErrors (recordedErrors (inOrder plan programs around).1 programs) ∧
    (result.error = none ↔
      ∀ p ∈ programs, result.backend.store.status p.name = .compiled) ∧
    ∀ job ∈ jobsOf programs, ∃ o, o = (job.program.process plan around).1 ∧
      o.Coherent job.program.name ∧
      (plan.SinkRejectsNothing around →
        (o.status = .rejected ↔ ∃ e, o.error = some e ∧ e.isRejection = true)) ∧
      processings job moments = 1 ∧ verdicts job moments = [(o.status,o.error)] ∧
      result.backend.store.entry job.program.name = ⟨some o.status,o.output,o.error.map some⟩ ∧
      (∀ code, o.output = some code ↔ plan.validateOnly = false ∧ ∃ text kept lexemes,
        job.program.readSource around.files = .ok text ∧ Trimmed text kept ∧
        accept plan.table kept = .ok lexemes ∧ code = generate plan.table lexemes) ∧
      final.handovers.filter (fun h => h.1 = job) = o.output.toList.map fun code => (job,code) := by
  intro result moments
  obtain ⟨hstore,herror⟩ : result.backend.store = final.backend.store ∧
      result.error = joinErrors (recordedErrors final.backend.store programs) :=
    runBy_of_perform hs hc.performed
  have hsame := same_inOrder hn hi hc hu
  have hset : ∀ job ∈ jobsOf programs, ∃ status output error,
      Settled plan job moments final status output error :=
    fun job hj => ⟨_,_,_,settled_uncancelled hn hi hc hu hj⟩
  refine ⟨hstore ▸ hsame,?_,?_,fun job hj => ⟨_,rfl,Program.process_coherent plan around _,
    Program.process_rejected_iff,?_⟩⟩
  · rw [herror,recordedErrors_congr fun p _ => hsame.2 p.name]
  · rw [herror,hstore,joinErrors_eq_none_iff]
    exact recordedErrors_eq_nil_iff hset
  · have h := settled_uncancelled hn hi hc hu hj
    have hstatus := (Program.process_coherent plan around job.program).final
    have honce := h.processings
    rw [if_neg (by rintro he; simp [he] at hstatus)] at honce
    refine ⟨honce,h.verdicts,hstore ▸ h.entry,Program.process_output_iff plan around _,?_⟩
    rw [h.handovers]
    split
    · rfl
    · next hsink =>
      -- without a sink programs are only checked, and no code is generated
      have hv : plan.validateOnly = true := hs.resolve_right hsink
      cases hout : (job.program.process plan around).1.output with
      | none => rfl
      | some code =>
        have hcode := ((Program.process_output_iff plan around _ code).mp hout).1
        simp [hv] at hcode

end runs

/-! ### Programs that are checked or printed -/

theorem emit_toOutlet {around : Surroundings} (p : Program) (code : Bytes)
    (hg : ∀ n, around.outlet.grants n = true) :
    (Sink.toOutlet.emit p code around).value.2 = .ok () := by
  simp [Sink.toOutlet,Outlet.write,hg,pure]

theorem surroundings_emit_toOutlet (p : Program) (code : Bytes) (around : Surroundings) :
    (Sink.toOutlet.emit p code around).value.1.files = around.files ∧
      (Sink.toOutlet.emit p code around).value.1.outlet.grants = around.outlet.grants := by
  cases h : around.outlet.grants around.outlet.asked <;>
    simp [Sink.toOutlet,Outlet.write,h,pure]

section unwritten
variable {plan : Plan} (hm : plan.validateOnly = true ∨ plan.sink = some .toOutlet)
include hm

theorem surroundings_process (around : Surroundings) (p : Program) :
    (p.process plan around).2.files = around.files ∧
      (p.process plan around).2.outlet.grants = around.outlet.grants := by
  unfold Program.process
  split
  · exact ⟨rfl,rfl⟩
  · split
    · exact ⟨rfl,rfl⟩
    · split
      · exact ⟨rfl,rfl⟩
      · next hv =>
        rw [Program.deliver_surroundings plan around ⟨0,p⟩,Plan.deliver,hm.resolve_left hv]
        exact surroundings_emit_toOutlet p _ around

theorem surroundingsAfter_unwritten (around : Surroundings) (programs : List Program) :
    (surroundingsAfter plan programs around).files = around.files ∧
      (surroundingsAfter plan programs around).outlet.grants = around.outlet.grants := by
  induction programs using List.reverseRecOn with
  | nil => exact ⟨rfl,rfl⟩
  | append_singleton before p ih =>
    have hp := surroundings_process hm (surroundingsAfter plan before around) p
    simp only [surroundingsAfter,List.foldl_append,List.foldl_cons,List.foldl_nil] at ih hp ⊢
    exact ⟨hp.1.trans ih.1,hp.2.trans ih.2⟩

theorem process_eq_of_accept {around : Surroundings} {p : Program} {text lexemes : Bytes}
    (hg : ∀ n, around.outlet.grants n = true) (hr : p.readSource around.files = .ok text)
    (ha : accept plan.table (trimLineEnds text) = .ok lexemes) :
    (p.process plan around).1 =
      if plan.validateOnly then ⟨.compiled,none,none⟩
      else ⟨.compiled,some (generate plan.table lexemes),none⟩ := by
  simp only [Program.process,hr,ha]
  split
  · rfl
  · next hv =>
    refine Program.deliver_of_ok fun sink hs => ?_
    obtain rfl := Option.some.inj ((hm.resolve_left hv).symm.trans hs)
    exact emit_toOutlet p _ hg

theorem process_compiled_iff {around : Surroundings} (hg : ∀ n, around.outlet.grants n = true)
    (p : Program) : (p.process plan around).1.status = .compiled ↔
      ∃ text kept lexemes, p.readSource around.files = .ok text ∧ Trimmed text kept ∧
        accept plan.table kept = .ok lexemes := by
  cases hr : p.readSource around.files with
  | error e => simp [Program.process,hr]
  | ok text =>
    cases ha : accept plan.table (trimLineEnds text) with
    | error r =>
      have hs : (p.process plan around).1.status = .rejected := by simp [Program.process,hr,ha]
      simp only [hs,reduceCtorEq,false_iff]
      rintro ⟨other,kept,lexemes,ht,htrim,hac⟩
      obtain rfl := Except.ok.inj ht
      obtain rfl := trimmed_iff.mp htrim
      cases ha.symm.trans hac
    | ok lexemes =>
      rw [process_eq_of_accept hm hg hr ha]
      refine ⟨fun _ => ⟨text,_,lexemes,rfl,trimmed_trimLineEnds text,ha⟩,fun _ => ?_⟩
      split <;> rfl

/-- Programs that are only checked, or are printed to an outlet that takes everything, do not
depend on each other. -/
theorem independent_of_unwritten {around : Surroundings} (programs : List Program)
    (hg : ∀ n, around.outlet.grants n = true) : Independent plan programs around := by
  intro p others _ _
  obtain ⟨hf,ho⟩ := surroundingsAfter_unwritten hm around others
  have hg' : ∀ n, (surroundingsAfter plan others around).outlet.grants n = true := by
    rw [ho]
    exact hg
  cases hr : p.readSource around.files with
  | error e => simp [Program.process,hf,hr]
  | ok text =>
    cases ha : accept plan.table (trimLineEnds text) with
    | error r => simp [Program.process,hf,hr,ha]
    | ok lexemes =>
      rw [process_eq_of_accept hm hg hr ha,process_eq_of_accept hm hg' (hf ▸ hr) ha]

end unwritten

theorem sinkRejectsNothing_toOutlet {plan : Plan} {around : Surroundings}
    (hp : plan.sink = some .toOutlet) (hr : around.outlet.refusal.isRejection = false) :
    plan.SinkRejectsNothing around := by
  intro sink p code e hs he
  obtain rfl := Option.some.inj (hp.symm.trans hs)
  cases hg : around.outlet.grants around.outlet.asked with
  | true => simp [Sink.toOutlet,Outlet.write,hg,pure] at he
  | false =>
    obtain rfl : EmitError.refused around.outlet.refusal = e := by
      simpa [Sink.toOutlet,Outlet.write,hg,pure] using he
    exact hr

/-- Three programs, of which the second is rejected; the first one's text ends with a line end. -/
theorem run_eq_inOrder_printed : ∃ schedule final,
    let programs : List Program :=
      [⟨"p","def x = 1\nout x\r\n",[],[],[]⟩,⟨"q","out z",[],[],[]⟩,
        ⟨"r","def y = 2\nout y",[],[],[]⟩]
    let plan : Plan := { sink := some .toOutlet }
    let around : Surroundings := ⟨.empty,{}⟩
    let p := Pool.ready 2 programs {} around none
    let result := runBy (fun _ => final) plan 2 programs {} around none
    p.Completes plan schedule final ∧ Pool.Uncancelled schedule ∧
      result.backend.store.Same (inOrder plan programs around).1 ∧
      (∀ job ∈ jobsOf programs,
        (result.backend.store.entry job.program.name).status = some .rejected ↔
          ∃ e, (result.backend.store.entry job.program.name).error = some (some e) ∧
            e.isRejection = true) ∧
      result.error.map RunError.message =
        some "program \"q\": program rejected: line 1: undeclared variable \"z\"" := by
  obtain ⟨schedule,hc,hu⟩ := Pool.completes_complete { sink := some .toOutlet } none
    (Pool.tidy_start
      [⟨"p","def x = 1\nout x\r\n",[],[],[]⟩,⟨"q","out z",[],[],[]⟩,
        ⟨"r","def y = 2\nout y",[],[],[]⟩]
      2 (markPending {} _).1 ⟨.empty,{}⟩ none)
  obtain ⟨hsame,herror,_,hjobs⟩ := run_eq_inOrder (by decide) (.inr rfl)
    (independent_of_unwritten (.inr rfl) _ fun _ => rfl) hc (hu rfl)
  refine ⟨schedule,_,hc,hu rfl,hsame,fun job hj => ?_,?_⟩
  · obtain ⟨o,_,_,hrejected,_,_,hentry,_⟩ := hjobs job hj
    rw [hentry]
    simpa using hrejected (sinkRejectsNothing_toOutlet rfl rfl)
  · rw [herror]
    decide +kernel

end DefOut
