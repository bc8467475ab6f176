import DefOut.Proofs.Cancellation
import DefOut.Proofs.Emission
import DefOut.Proofs.Prediction

set_option autoImplicit false

/-!
What a run prints to an outlet that takes or refuses each text as a whole. Every step of a worker
prints one artifact or nothing (`text_step`), so the text is made of whole artifacts, one for each
program that is compiled (`printed_of_completes`). A single worker hands over the programs in their
order (`InLine.step`), and so prints them in this order.
-/
namespace DefOut

/-- What a worker in this phase prints in its next step: its program with the code, when the outlet
takes them. -/
def Phase.printed (outlet : Outlet) : Phase → List (Job × Bytes)
  | .stored job code => if outlet.grants outlet.asked then [(job,code)] else []
  | _ => []

def Moment.printed (m : Moment) : List (Job × Bytes) :=
  (m.phase?.map (Phase.printed m.pool.around.outlet)).getD []

def artifactText {α : Type} (printed : List (α × Bytes)) : Bytes :=
  printed.flatMap fun x => x.2 ++ "\n"

theorem emit_toOutlet_eq (program : Program) (code : Bytes) (around : Surroundings) :
    (Sink.toOutlet.emit program code around).value.1.outlet.text =
      around.outlet.text ++
        (if around.outlet.grants around.outlet.asked then code ++ "\n" else []) ∧
    (Sink.toOutlet.emit program code around).value.2 =
      if around.outlet.grants around.outlet.asked then .ok ()
      else .error (.refused around.outlet.refusal) := by
  cases h : around.outlet.grants around.outlet.asked <;>
    simp [Sink.toOutlet,Outlet.write,h,pure]

section step
variable {plan : Plan} {p q : Pool} {action : Action}

theorem printed_of_phase? {m : Moment} {phase : Phase} (h : m.phase? = some phase) :
    m.printed = phase.printed m.pool.around.outlet := by
  simp [Moment.printed,h]

theorem printed_sublist_handovers (hs : plan.sink = some .toOutlet) (m : Moment) :
    m.printed.Sublist (m.handovers plan) := by
  cases hp : m.phase? with
  | none => simp [Moment.printed,hp]
  | some phase =>
    rw [printed_of_phase? hp,handovers_of_phase? hp]
    cases phase with
    | stored job code =>
      simp only [Phase.printed,Phase.handovers,hs,Option.isSome_some,if_true]
      split <;> simp
    | _ => exact List.Sublist.refl _

theorem mem_printed {m : Moment} {x : Job × Bytes} (hx : x ∈ m.printed) :
    m.phase? = some (.stored x.1 x.2) := by
  have hsub : m.printed.Sublist (m.handovers { sink := some .toOutlet }) :=
    printed_sublist_handovers rfl m
  exact mem_handovers_moment (hsub.subset hx)

theorem text_of_phase (hs : plan.sink = some .toOutlet) (phase : Phase) (around : Surroundings) :
    ((phase.handovers plan).foldl plan.deliver around).outlet.text =
      around.outlet.text ++ artifactText (phase.printed around.outlet) := by
  cases phase with
  | stored job code =>
    have he := (emit_toOutlet_eq job.program code around).1
    simp only [Phase.handovers,hs,Option.isSome_some,if_true,List.foldl_cons,List.foldl_nil,
      Plan.deliver,Phase.printed]
    rw [he]
    split <;> simp [artifactText]
  | _ => simp [Phase.handovers,Phase.printed,artifactText]

theorem text_step (hs : plan.sink = some .toOutlet) (h : Stepped plan p action q) :
    q.around.outlet.text =
      p.around.outlet.text ++ artifactText ((p.momentOf action).flatMap Moment.printed) := by
  rw [(handovers_step h).2]
  cases action with
  | advance i =>
    rw [Pool.momentOf,List.flatMap_singleton,List.flatMap_singleton]
    cases hp : p.workers[i]? with
    | none => simp [Moment.handovers,Moment.printed,Moment.phase?,hp,artifactText]
    | some phase =>
      rw [printed_of_phase? (m := ⟨p,i⟩) hp,handovers_of_phase? (m := ⟨p,i⟩) hp]
      exact text_of_phase hs phase p.around
  | close | cancel => simp [Pool.momentOf,artifactText]

theorem files_step_toOutlet (hs : plan.sink = some .toOutlet) (h : Stepped plan p action q) :
    q.around.files = p.around.files := by
  rw [(handovers_step h).2]
  refine foldl_deliver_keeps Surroundings.files (fun sink hk program code around => ?_) _ _
  obtain rfl := Option.some.inj (hs.symm.trans hk)
  exact (surroundings_emit_toOutlet program code around).1

/-! ### One worker -/

/-- A single worker has handed over some of the programs that it is done with, in their order. -/
structure InLine (jobs : List Job) (p : Pool) : Prop where
  single : p.workers.length ≤ 1
  order : ∃ done, done ++ (p.workers.filterMap Phase.prospect? ++ p.queue) = jobs ∧
    (p.handovers.map Prod.fst).Sublist done

theorem Onward.prospect?_next {job : Job} {phase next : Phase} {call : Option StoreCall}
    (h : Onward plan p job phase call next) :
    next.prospect? = phase.prospect? ∧ phase.handovers plan = [] ∨
      phase.prospect? = some job ∧ next.prospect? = none ∧
        ((phase.handovers plan).map Prod.fst).Sublist [job] := by
  cases h with
  | unsunk hs => exact .inr ⟨rfl,rfl,by simp [Phase.handovers,hs]⟩
  | emit hs | emitFails hs => exact .inr ⟨rfl,rfl,by simp [Phase.handovers,hs]⟩
  | skip | unreadable | reject | check | keepFails => exact .inr ⟨rfl,rfl,by simp [Phase.handovers]⟩
  | _ => exact .inl ⟨rfl,rfl⟩

theorem InLine.of_advance {jobs : List Job} {handed : List (Job × Bytes)} {i : Nat}
    {phase next : Phase} (h : InLine jobs p) (past : List Job) (hp : p.workers[i]? = some phase)
    (hw : q.workers = p.workers.set i next)
    (hq : past ++ (next.prospect?.toList ++ q.queue) = phase.prospect?.toList ++ p.queue)
    (hh : q.handovers = p.handovers ++ handed) (hs : (handed.map Prod.fst).Sublist past) :
    InLine jobs q := by
  obtain ⟨he,rfl⟩ := workers_eq_singleton h.single hp
  obtain ⟨done,horder,hsub⟩ := h.order
  have hone : ∀ only : Phase, [only].filterMap Phase.prospect? = only.prospect?.toList := by
    intro only
    cases ho : only.prospect? <;> simp [ho]
  refine ⟨by simp [hw,he],done ++ past,?_,?_⟩
  · rw [hw,he,List.set_cons_zero,hone,List.append_assoc,hq]
    rwa [he,hone] at horder
  · rw [hh,List.map_append]
    exact hsub.append hs

theorem InLine.step {jobs : List Job} (h : InLine jobs p) (hs : Stepped plan p action q) :
    InLine jobs q := by
  have hstep := hs
  cases hs with
  | start hp | stop hp =>
    exact h.of_advance [] hp rfl rfl (handovers_advance hstep hp) (List.nil_sublist _)
  | receive hp hq =>
    exact h.of_advance [] hp rfl (by simp [hq,Phase.prospect?]) (handovers_advance hstep hp)
      (List.nil_sublist _)
  | @work i phase next job call events hp hj ho he =>
    have hh := handovers_advance hstep hp
    rcases ho.prospect?_next with ⟨hsame,hnil⟩ | ⟨hsome,hnone,hsub⟩
    · exact h.of_advance [] hp rfl (by simp [hsame]) hh (by simp [hnil])
    · exact h.of_advance [job] hp rfl (by simp [hsome,hnone]) hh hsub
  | close | cancel => exact ⟨h.single,h.order⟩

end step

section runs
variable {plan : Plan} {workers : Int} {programs : List Program} {backend : Backend}
  {around : Surroundings} {cancelled : Option Cancellation} {schedule : List Action} {final : Pool}

theorem handovers_sublist_of_single (hw : workerCount workers programs ≤ 1)
    (hc : (Pool.ready workers programs backend around cancelled).Completes plan schedule final) :
    (final.handovers.map Prod.fst).Sublist (jobsOf programs) := by
  have hl := (Pool.perform_forall (InLine (jobsOf programs)) (fun _ _ _ _ => InLine.step)
    ⟨by simpa [Pool.ready,Pool.start] using hw,[],by
      simp only [Pool.ready,Pool.start]
      simp [jobsOf,Phase.prospect?],List.Sublist.refl _⟩ hc.performed).1
  have hf := hc.isFinished (Pool.tidy_start programs workers _ around cancelled)
  obtain ⟨done,horder,hsub⟩ := hl.order
  simp only [Pool.isFinished,Bool.and_eq_true,List.isEmpty_iff,List.all_eq_true,
    decide_eq_true_eq] at hf
  have hidle : final.workers.filterMap Phase.prospect? = [] := by
    refine List.filterMap_eq_nil_iff.mpr fun phase hm => ?_
    rw [hf.2 phase hm]
    rfl
  rw [hidle,hf.1.1,List.append_nil,List.append_nil] at horder
  exact horder ▸ hsub

/-! ### Whole runs -/

theorem Verdict.printed_eq {job : Job} {ms : List Moment} {status : Status}
    {output : Option Bytes} {error : Option ProgramError}
    (hs : plan.sink = some .toOutlet) (h : Verdict plan job ms status output error) :
    ms.flatMap Moment.printed =
      if status = .compiled then output.toList.map fun code => (job,code) else [] := by
  cases h with
  | skipped hm => simp [Moment.printed,hm,Phase.printed]
  | unreadable hm hn | rejected hm hn => simp [Moment.printed,hm.1,hn,Phase.printed]
  | checked hm hn => simp [Moment.printed,hm.1,hn.1,Phase.printed]
  | notStored hm hn _ hk => simp [Moment.printed,hm.1,hn.1,hk,Phase.printed]
  | @emitted m n k h lexemes hm hn _ hk hh =>
    have hok := hh.2 _ hs
    rw [(emit_toOutlet_eq _ _ _).2] at hok
    have hgrant : h.pool.around.outlet.grants h.pool.around.outlet.asked = true := by
      by_contra hno
      simp [hno] at hok
    simp [Moment.printed,hm.1,hn.1,hk.1,hh.1,Phase.printed,hgrant]
  | @notEmitted m n k h lexemes sink e hm hn _ hk hh hsink hbad =>
    obtain rfl := Option.some.inj (hs.symm.trans hsink)
    rw [(emit_toOutlet_eq _ _ _).2] at hbad
    have hrefuse : ¬ h.pool.around.outlet.grants h.pool.around.outlet.asked = true := by
      intro hyes
      simp [hyes] at hbad
    simp [Moment.printed,hm.1,hn.1,hk.1,hh,Phase.printed,hrefuse]

theorem Verdict.of_refused {job : Job} {ms : List Moment} {status : Status}
    {output : Option Bytes} {error : Option ProgramError} {h : Moment} {code : Bytes}
    (hv : Verdict plan job ms status output error) (hs : plan.sink = some .toOutlet)
    (hm : h ∈ ms) (hp : h.phase? = some (.stored job code))
    (hr : h.pool.around.outlet.grants h.pool.around.outlet.asked = false) :
    status = .failed ∧
      error = some (.notEmitted job.program.name (.refused h.pool.around.outlet.refusal)) := by
  cases hv with
  | skipped hm' =>
    obtain rfl := List.mem_singleton.mp hm
    cases hp.symm.trans hm'
  | unreadable hm' hn | rejected hm' hn =>
    obtain rfl | rfl : h = _ ∨ h = _ := by simpa using hm
    · cases hp.symm.trans hm'.1
    · cases hp.symm.trans hn
  | checked hm' hn =>
    obtain rfl | rfl : h = _ ∨ h = _ := by simpa using hm
    · cases hp.symm.trans hm'.1
    · cases hp.symm.trans hn.1
  | notStored hm' hn _ hk =>
    obtain rfl | rfl | rfl : h = _ ∨ h = _ ∨ h = _ := by simpa using hm
    · cases hp.symm.trans hm'.1
    · cases hp.symm.trans hn.1
    · cases hp.symm.trans hk
  | emitted hm' hn _ hk hh =>
    obtain rfl | rfl | rfl | rfl : h = _ ∨ h = _ ∨ h = _ ∨ h = _ := by simpa using hm
    · cases hp.symm.trans hm'.1
    · cases hp.symm.trans hn.1
    · cases hp.symm.trans hk.1
    · have hok := hh.2 _ hs
      simp [(emit_toOutlet_eq _ _ _).2,hr] at hok
  | notEmitted hm' hn _ hk hh hsink hbad =>
    obtain rfl | rfl | rfl | rfl : h = _ ∨ h = _ ∨ h = _ ∨ h = _ := by simpa using hm
    · cases hp.symm.trans hm'.1
    · cases hp.symm.trans hn.1
    · cases hp.symm.trans hk.1
    · obtain rfl := Option.some.inj (hs.symm.trans hsink)
      rw [(emit_toOutlet_eq _ _ _).2,hr] at hbad
      obtain rfl := Except.error.inj hbad
      exact ⟨rfl,rfl⟩

theorem text_of_perform (hs : plan.sink = some .toOutlet)
    (h : (Pool.ready workers programs backend around cancelled).perform plan schedule =
      some final) :
    let moments := (Pool.ready workers programs backend around cancelled).moments plan schedule
    final.around.outlet.text =
        around.outlet.text ++ artifactText (moments.flatMap Moment.printed) ∧
      ∀ m ∈ moments, m.pool.around.files = around.files := by
  constructor
  · refine Pool.perform_invariant (fun q ms => q.around.outlet.text =
      around.outlet.text ++ artifactText (ms.flatMap Moment.printed)) ?_ ?_ h
    · intro q ms action r _ hq hr
      rw [text_step hs hr,hq]
      simp [artifactText]
    · simp [Pool.ready,Pool.start,artifactText]
  · refine (Pool.perform_forall (fun q => q.around.files = around.files) ?_ rfl h).2
    intro q action r _ hq hr
    rw [files_step_toOutlet hs hr,hq]

theorem printed_sublist_of_perform (hs : plan.sink = some .toOutlet)
    (h : (Pool.ready workers programs backend around cancelled).perform plan schedule =
      some final) :
    (((Pool.ready workers programs backend around cancelled).moments plan schedule).flatMap
      Moment.printed).Sublist final.handovers := by
  rw [handovers_of_perform rfl h]
  generalize (Pool.ready workers programs backend around cancelled).moments plan schedule = ms
  induction ms with
  | nil => exact List.Sublist.refl _
  | cons m rest ih => exact (printed_sublist_handovers hs m).append ih

theorem mem_jobsOf_of_printed (hs : plan.sink = some .toOutlet)
    (h : (Pool.ready workers programs backend around cancelled).perform plan schedule = some final)
    {x : Job × Bytes} (hx : x ∈ ((Pool.ready workers programs backend around cancelled).moments plan
      schedule).flatMap Moment.printed) : x.1 ∈ jobsOf programs :=
  mem_jobsOf_of_handed h ((printed_sublist_of_perform hs h).subset hx)

theorem mem_jobsOf_of_stored (hs : plan.sink.isSome = true)
    (h : (Pool.ready workers programs backend around cancelled).perform plan schedule = some final)
    {m : Moment}
    (hm : m ∈ (Pool.ready workers programs backend around cancelled).moments plan schedule)
    {job : Job} {code : Bytes} (hp : m.phase? = some (.stored job code)) :
    job ∈ jobsOf programs := by
  refine mem_jobsOf_of_handed h (x := (job,code)) ?_
  rw [handovers_of_perform rfl h]
  refine List.mem_flatMap.mpr ⟨m,hm,?_⟩
  rw [handovers_of_phase? hp]
  simp [Phase.handovers,hs]

theorem printed_of_completes (hn : (programs.map Program.name).Nodup)
    (hs : plan.sink = some .toOutlet)
    (hc : (Pool.ready workers programs {} around cancelled).Completes plan schedule final)
    {job : Job} (hj : job ∈ jobsOf programs) :
    let moments := (Pool.ready workers programs {} around cancelled).moments plan schedule
    ∃ before status output error,
      before ⊆ moments ∧ Verdict plan job before status output error ∧
      final.backend.store.entry job.program.name = ⟨some status,output,error.map some⟩ ∧
      (moments.flatMap Moment.printed).filter (fun x => x.1 = job) =
        (if status = .compiled then output.toList.map fun code => (job,code) else []) ∧
      ∀ h ∈ moments, ∀ code, h.phase? = some (.stored job code) →
        h.pool.around.outlet.grants h.pool.around.outlet.asked = false → status = .failed ∧
        error = some (.notEmitted job.program.name (.refused h.pool.around.outlet.refusal)) := by
  intro moments
  obtain ⟨before,d,r,status,error,ha,hv,hd,hr,_⟩ := verdict_of_completes hn rfl
    (markPending_of_grants Backend.grants_default programs).1 hc hj
  obtain ⟨status',output,error',hset⟩ := settled_of_completes hn hc hj
  have hsame := (verdicts_of_about ha hv hd hr).symm.trans hset.verdicts
  simp only [List.cons.injEq,Prod.mk.injEq,and_true] at hsame
  obtain ⟨rfl,rfl⟩ := hsame
  have hentry := hset.entry
  have hout : (final.backend.store.entry job.program.name).output = output := by rw [hentry]
  rw [hout] at hv
  refine ⟨before,status,output,error,fun m hm => ?_,hv,hentry,?_,fun h hh code hp href => ?_⟩
  · have hab : m ∈ Moment.about job moments := ha ▸ List.mem_append_left _ hm
    exact List.mem_of_mem_filter hab
  · rw [filter_flatMap_about (fun m x hx => by simp [Moment.job?,mem_printed hx,Phase.job?]),ha,
      List.flatMap_append,hv.printed_eq hs]
    simp [Moment.printed,hd,hr,Phase.printed]
  · have hab : h ∈ before ++ [d,r] := ha ▸ (mem_about_iff hp rfl).mpr hh
    obtain hb | hlast := List.mem_append.mp hab
    · exact hv.of_refused hs hb hp href
    -- at `d` and `r` the code has already been handed over
    · obtain rfl | rfl : h = d ∨ h = r := by simpa using hlast
      · cases hp.symm.trans hd
      · cases hp.symm.trans hr

theorem Verdict.artifact_of_compiled {job : Job} {ms : List Moment} {output : Option Bytes}
    {error : Option ProgramError} (hv : plan.validateOnly = false)
    (h : Verdict plan job ms .compiled output error) : ∃ m ∈ ms, ∃ text kept artifact,
      job.program.readSource m.pool.around.files = .ok text ∧ Trimmed text kept ∧
      compile plan.table kept = .ok artifact ∧ output = some artifact.code := by
  cases h with
  | checked _ _ hc => cases hv.symm.trans hc
  | @emitted m n k h lexemes hm hn _ hk hh =>
    obtain ⟨_,text,kept,hr,ht,ha⟩ := hn
    exact ⟨n,by simp,text,kept,_,hr,ht,compile_of_accept ha,rfl⟩

theorem mem_printed_iff {printed : List (Job × Bytes)} {job : Job} {status : Status}
    {output : Option Bytes} {code : Bytes}
    (h : printed.filter (fun x => x.1 = job) =
      if status = .compiled then output.toList.map fun code => (job,code) else []) :
    (job,code) ∈ printed ↔ status = .compiled ∧ output = some code := by
  have hx : (job,code) ∈ printed.filter (fun x => x.1 = job) ↔ (job,code) ∈ printed := by
    simp [List.mem_filter]
  rw [← hx,h]
  split <;> simp [*]

theorem printed_iff_stored (hn : (programs.map Program.name).Nodup)
    (hs : plan.sink = some .toOutlet) (hv : plan.validateOnly = false)
    (hc : (Pool.ready workers programs {} around cancelled).Completes plan schedule final)
    {job : Job} (hj : job ∈ jobsOf programs) :
    let moments := (Pool.ready workers programs {} around cancelled).moments plan schedule
    let store := final.backend.store
    (∀ code, (job,code) ∈ moments.flatMap Moment.printed ↔
      store.status job.program.name = .compiled ∧ store.output? job.program.name = some code) ∧
    (store.status job.program.name = .compiled → ∃ text kept artifact,
      job.program.readSource around.files = .ok text ∧ Trimmed text kept ∧
      compile plan.table kept = .ok artifact ∧
      store.output? job.program.name = some artifact.code) ∧
    ∀ m ∈ moments, ∀ code, m.phase? = some (.stored job code) →
      m.pool.around.outlet.grants m.pool.around.outlet.asked = false →
      store.status job.program.name = .failed ∧ store.error? job.program.name =
        .ok (some (.notEmitted job.program.name (.refused m.pool.around.outlet.refusal))) := by
  intro moments store
  obtain ⟨before,status,output,error,hsub,hverdict,hentry,hfilter,hrefused⟩ :=
    printed_of_completes hn hs hc hj
  obtain ⟨hstatus,houtput,herror⟩ := Store.of_entry hentry
  have hstatus : store.status job.program.name = status := hstatus
  have houtput : store.output? job.program.name = output := houtput
  have herror : store.error? job.program.name = .ok error := herror
  rw [hstatus,houtput,herror]
  refine ⟨fun code => mem_printed_iff hfilter,?_,fun m hm code hp hr => ?_⟩
  · rintro rfl
    obtain ⟨m,hm,text,kept,artifact,hr,ht,hcomp,hout⟩ := hverdict.artifact_of_compiled hv
    rw [(text_of_perform hs hc.performed).2 m (hsub hm)] at hr
    exact ⟨text,kept,artifact,hr,ht,hcomp,hout⟩
  · obtain ⟨hfail,hwords⟩ := hrefused m hm code hp hr
    exact ⟨hfail,by rw [hwords]⟩

theorem mem_printed_programs (hn : (programs.map Program.name).Nodup)
    (hs : plan.sink = some .toOutlet) (hv : plan.validateOnly = false)
    (hc : (Pool.ready workers programs {} around cancelled).Completes plan schedule final)
    (p : Program) :
    p ∈ (((Pool.ready workers programs {} around cancelled).moments plan schedule).flatMap
        Moment.printed).map (fun x => x.1.program) ↔
      p ∈ programs ∧ final.backend.store.status p.name = .compiled := by
  constructor
  · intro hp
    obtain ⟨x,hx,rfl⟩ := List.mem_map.mp hp
    have hj := mem_jobsOf_of_printed hs hc.performed hx
    obtain ⟨hone,_⟩ := printed_iff_stored hn hs hv hc hj
    exact ⟨program_mem_of_mem_jobsOf hj,((hone x.2).mp hx).1⟩
  · rintro ⟨hp,hstatus⟩
    obtain ⟨job,hj,rfl⟩ := exists_job hp
    obtain ⟨hone,hcode,_⟩ := printed_iff_stored hn hs hv hc hj
    obtain ⟨_,_,artifact,_,_,_,hout⟩ := hcode hstatus
    exact List.mem_map.mpr ⟨(job,artifact.code),(hone _).mpr ⟨hstatus,hout⟩,rfl⟩

theorem Distinct.nodup_names {jobs : List Job} (h : Distinct jobs) {printed : List (Job × Bytes)}
    (hknown : ∀ x ∈ printed, x.1 ∈ jobs) (honce : (printed.map Prod.fst).Nodup) :
    (printed.map fun x => x.1.program.name).Nodup := by
  have hmap := honce.map_on (f := fun job => job.program.name) fun a ha b hb he => by
    obtain ⟨x,hx,rfl⟩ := List.mem_map.mp ha
    obtain ⟨y,hy,rfl⟩ := List.mem_map.mp hb
    exact h.eq_of_name_eq (hknown x hx) (hknown y hy) he
  rwa [List.map_map] at hmap

theorem eq_filter_of_sublist {α : Type} {xs ys : List α} {test : α → Bool} (hn : ys.Nodup)
    (hs : xs.Sublist ys) (hm : ∀ a, a ∈ xs ↔ a ∈ ys ∧ test a = true) : xs = ys.filter test := by
  have hall : xs.filter test = xs := List.filter_eq_self.mpr fun a ha => ((hm a).mp ha).2
  have hsub : xs.Sublist (ys.filter test) := hall ▸ hs.filter test
  refine hsub.eq_of_length (List.Perm.length_eq ?_)
  refine (List.perm_ext_iff_of_nodup (hn.sublist hs) (hn.filter test)).mpr fun a => ?_
  rw [hm,List.mem_filter]

/-- What a run prints is whole artifacts, one for each program that is compiled, in some order, and
each with a newline. A program whose code is refused has failed and is not printed. With one worker
the order is that of the programs. -/
theorem prints_whole_artifacts (hn : (programs.map Program.name).Nodup)
    (hs : plan.sink = some .toOutlet) (hv : plan.validateOnly = false)
    (hc : (Pool.ready workers programs {} around cancelled).Completes plan schedule final) :
    let result := runBy (fun _ => final) plan workers programs {} around cancelled
    let store := result.backend.store
    ∃ printed : List (Program × Bytes),
      result.around.outlet.text = around.outlet.text ++ artifactText printed ∧
      (printed.map fun x => x.1.name).Nodup ∧
      (∀ p, p ∈ printed.map Prod.fst ↔ p ∈ programs ∧ store.status p.name = .compiled) ∧
      (∀ x ∈ printed, store.output? x.1.name = some x.2 ∧ ∃ text kept artifact,
        x.1.readSource around.files = .ok text ∧ Trimmed text kept ∧
        compile plan.table kept = .ok artifact ∧ artifact.code = x.2) ∧
      (∀ m ∈ (Pool.ready workers programs {} around cancelled).moments plan schedule,
        ∀ job code, m.phase? = some (.stored job code) →
        m.pool.around.outlet.grants m.pool.around.outlet.asked = false →
          store.status job.program.name = .failed ∧
          store.error? job.program.name = .ok (some
            (.notEmitted job.program.name (.refused m.pool.around.outlet.refusal))) ∧
          job.program ∉ printed.map Prod.fst) ∧
      (workerCount workers programs ≤ 1 →
        printed.map Prod.fst = programs.filter fun p => store.status p.name = .compiled) := by
  intro result store
  have hbegins : plan.validateOnly = true ∨ plan.sink.isSome = true := .inr (by simp [hs])
  have hrun := runBy_of_grants workers programs around cancelled hbegins
    (grants_of_perform hc.performed).1
  have hstore : store = final.backend.store :=
    (congrArg (fun r => r.backend.store) hrun).trans (store_collectErrors final.backend programs)
  have haround : result.around = final.around := congrArg RunResult.around hrun
  obtain ⟨htext,_⟩ := text_of_perform hs hc.performed
  have hsub := printed_sublist_of_perform hs hc.performed
  have hknown := fun x hx => mem_jobsOf_of_printed hs hc.performed (x := x) hx
  have hmem := mem_printed_programs hn hs hv hc
  have hall := fun (job : Job) (hj : job ∈ jobsOf programs) => printed_iff_stored hn hs hv hc hj
  rw [hstore,haround]
  have hjob : ∀ m ∈ (Pool.ready workers programs {} around cancelled).moments plan schedule,
      ∀ job code, m.phase? = some (.stored job code) → job ∈ jobsOf programs :=
    fun m hm job code hp => mem_jobsOf_of_stored (by simp [hs]) hc.performed hm hp
  dsimp only at htext hall
  generalize (Pool.ready workers programs {} around cancelled).moments plan schedule = moments
    at htext hsub hknown hmem hall hjob ⊢
  generalize moments.flatMap Moment.printed = out at htext hsub hknown hmem hall
  have hnames := (distinct_jobsOf hn).nodup_names hknown
    ((nodup_handovers hc.performed).sublist (hsub.map _))
  refine ⟨out.map fun x => (x.1.program,x.2),?_,?_,?_,?_,?_,?_⟩
  · rw [htext]
    simp [artifactText,List.flatMap_map]
  · simpa [Function.comp_def] using hnames
  · simpa [Function.comp_def] using hmem
  · intro y hy
    obtain ⟨x,hx,rfl⟩ := List.mem_map.mp hy
    obtain ⟨hone,hcode,_⟩ := hall x.1 (hknown x hx)
    obtain ⟨hstatus,hout⟩ := (hone x.2).mp hx
    obtain ⟨text,kept,artifact,hr,ht,hcomp,hout'⟩ := hcode hstatus
    exact ⟨hout,text,kept,artifact,hr,ht,hcomp,Option.some.inj (hout'.symm.trans hout)⟩
  · intro m hm job code hp hr
    have hj := hjob m hm job code hp
    obtain ⟨hfail,herror⟩ := (hall job hj).2.2 m hm code hp hr
    refine ⟨hfail,herror,fun hin => ?_⟩
    have hcompiled := ((hmem job.program).mp (by simpa [Function.comp_def] using hin)).2
    cases hfail.symm.trans hcompiled
  · intro hw
    have horder := ((hsub.map Prod.fst).trans (handovers_sublist_of_single hw hc)).map Job.program
    rw [map_program_jobsOf,List.map_map] at horder
    rw [List.map_map]
    refine eq_filter_of_sublist (List.Nodup.of_map _ hn) horder fun p => ?_
    rw [decide_eq_true_iff]
    exact hmem p

end runs

theorem prints_whole_artifacts_refused : ∃ schedule final,
    let programs : List Program :=
      [⟨"p","def x = 1\nout x",[],[],[]⟩,⟨"q","out z",[],[],[]⟩,⟨"r","def y = 2\nout y",[],[],[]⟩,
        ⟨"s","def z = 3\nout z",[],[],[]⟩]
    let plan : Plan := { sink := some .toOutlet }
    let around : Surroundings := ⟨.empty,{ grants := fun n => n ≠ 1 }⟩
    let result := runBy (fun _ => final) plan 1 programs {} around none
    (Pool.ready 1 programs {} around none).Completes plan schedule final ∧
      result.backend.store.status "r" = .failed ∧
      ∃ printed : List (Program × Bytes), result.around.outlet.text = artifactText printed ∧
        printed.map (fun x => x.1.name) = ["p","s"] := by
  obtain ⟨schedule,hc,_⟩ := Pool.completes_complete { sink := some .toOutlet } none
    (Pool.tidy_start
      [⟨"p","def x = 1\nout x",[],[],[]⟩,⟨"q","out z",[],[],[]⟩,⟨"r","def y = 2\nout y",[],[],[]⟩,
        ⟨"s","def z = 3\nout z",[],[],[]⟩]
      1 (markPending {} _).1 ⟨.empty,{ grants := fun n => n ≠ 1 }⟩ none)
  obtain ⟨printed,htext,_,_,_,_,horder⟩ := prints_whole_artifacts (by decide) rfl rfl hc
  refine ⟨schedule,_,hc,by decide +kernel,printed,htext,?_⟩
  have hnames := congrArg (List.map Program.name) (horder (by decide))
  rw [List.map_map] at hnames
  refine hnames.trans ?_
  decide +kernel

end DefOut
