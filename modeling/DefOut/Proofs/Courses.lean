import DefOut.Proofs.Schedules
import Mathlib.Data.List.Nodup

set_option autoImplicit false

/-!
The course of every program through a run. A program is queued, then with exactly one worker, then
done; its entry in the store is what the calls made for it have left there, whatever happens to the
others meanwhile (`Accounted`). So the moments of a program in a complete run are one whole course
(`course_of_completes`), and it ends with one verdict (`Verdict`, `Course.verdict`).
-/
namespace DefOut

structure Entry where
  status : Option Status
  output : Option Bytes
  error : Option (Option ProgramError)
  deriving DecidableEq

def Entry.pending : Entry := ⟨some .pending,none,none⟩

def Store.entry (s : Store ProgramError) (name : Bytes) : Entry :=
  ⟨s.statuses.get? name,s.outputs.get? name,s.errors.get? name⟩

namespace StoreCall

def program : StoreCall → Bytes
  | setStatus program _ | setOutput program _ | setError program _ | getError program => program

def onEntry : StoreCall → Entry → Entry
  | setStatus _ status, x => { x with status := some status }
  | setOutput _ code, x => { x with output := some code }
  | setError _ error, x => { x with error := some (some error) }
  | getError _, x => x

theorem entry_effect (c : StoreCall) (s : Store ProgramError) (name : Bytes) :
    (c.effect s).entry name =
      if c.program = name then c.onEntry (s.entry name) else s.entry name := by
  by_cases h : c.program = name
  · rw [if_pos h]
    cases c <;> simp_all [effect,program,onEntry,Store.entry,Store.setStatus,Store.setOutput,
      Store.setError,Registry.get?_set]
  · rw [if_neg h]
    cases c <;> simp_all [effect,program,Store.entry,Store.setStatus,Store.setOutput,
      Store.setError,Registry.get?_set]

end StoreCall

namespace Backend

def grant (b : Backend) : Option StoreCall → Entry → Entry
  | none, x => x
  | some c, x => if b.refusal? c = none then c.onEntry x else x

theorem store_after_some (b : Backend) (c : StoreCall) :
    (b.after (some c)).store = if b.refusal? c = none then c.effect b.store else b.store := by
  simp only [after,Backend.call]
  split <;> simp_all

theorem entry_after {call : Option StoreCall} (b : Backend) (own : Bytes)
    (h : ∀ c, call = some c → c.program = own) (name : Bytes) :
    (b.after call).store.entry name =
      if own = name then b.grant call (b.store.entry name) else b.store.entry name := by
  cases call with
  | none => simp [after,grant]
  | some c =>
    rw [store_after_some,grant]
    split
    · rw [StoreCall.entry_effect,h c rfl]
    · simp

end Backend

theorem Onward.program_eq {plan : Plan} {p : Pool} {job : Job} {phase next : Phase}
    {call : Option StoreCall} (h : Onward plan p job phase call next) (c : StoreCall)
    (hc : call = some c) : c.program = job.program.name := by
  cases h <;> cases hc <;> rfl

theorem Onward.job?_next {plan : Plan} {p : Pool} {job : Job} {phase next : Phase}
    {call : Option StoreCall} (h : Onward plan p job phase call next) :
    next.job? = some job ∨ next = .waiting := by
  cases h <;> simp [Phase.job?]

/-- The moments of a program so far, the phase they have led to, and its entry in the store. -/
inductive Course (plan : Plan) (job : Job) : List Moment → Phase → Entry → Prop
  | received : Course plan job [] (.holding job) .pending
  | onward {ms : List Moment} {m : Moment} {phase next : Phase} {call : Option StoreCall}
      {x : Entry} : Course plan job ms phase x → m.phase? = some phase →
      Onward plan m.pool job phase call next →
      Course plan job (ms ++ [m]) next (m.pool.backend.grant call x)

def Holds (workers : List Phase) (i : Nat) (phase : Phase) (job : Job) : Prop :=
  workers[i]? = some phase ∧ phase.job? = some job

theorem holds_set {workers : List Phase} {i k : Nat} {old next phase : Phase} {job : Job}
    (h : workers[i]? = some old) :
    Holds (workers.set i next) k phase job ↔
      k = i ∧ phase = next ∧ next.job? = some job ∨ k ≠ i ∧ Holds workers k phase job := by
  have hi : i < workers.length := (List.getElem?_eq_some_iff.mp h).1
  unfold Holds
  by_cases hk : k = i
  · subst hk
    rw [List.getElem?_set_self hi]
    constructor
    · rintro ⟨hp,hj⟩
      obtain rfl : next = phase := by simpa using hp
      exact .inl ⟨rfl,rfl,hj⟩
    · rintro (⟨_,rfl,hj⟩ | ⟨hne,_⟩)
      · exact ⟨rfl,hj⟩
      · exact absurd rfl hne
  · rw [List.getElem?_set_ne (Ne.symm hk)]
    simp [hk]

theorem holds_set_idle {workers : List Phase} {i k : Nat} {old next phase : Phase} {job : Job}
    (h : workers[i]? = some old) (ho : old.job? = none) (hn : next.job? = none) :
    Holds (workers.set i next) k phase job ↔ Holds workers k phase job := by
  rw [holds_set h]
  constructor
  · rintro (⟨_,_,hj⟩ | ⟨_,hh⟩)
    · cases hn.symm.trans hj
    · exact hh
  · intro hh
    refine .inr ⟨?_,hh⟩
    rintro rfl
    obtain rfl : old = phase := Option.some.inj (h.symm.trans hh.1)
    cases ho.symm.trans hh.2

/-- Where a worker has a program from: it had it in this phase before, it has just received it, or
its step has led to this phase. -/
theorem Stepped.holds {plan : Plan} {p q : Pool} {action : Action} {i : Nat} {phase : Phase}
    {job : Job} (hs : Stepped plan p action q) (h : Holds q.workers i phase job) :
    Holds p.workers i phase job ∨ phase = .holding job ∧ job ∈ p.queue ∨
      ∃ old call, action = .advance i ∧ Holds p.workers i old job ∧
        Onward plan p job old call phase := by
  cases hs with
  | start hp | stop hp => exact .inl ((holds_set_idle hp rfl rfl).mp h)
  | receive hp hq =>
    obtain ⟨_,rfl,hj⟩ | ⟨_,hh⟩ := (holds_set hp).mp h
    · cases hj
      exact .inr (.inl ⟨rfl,by simp [hq]⟩)
    · exact .inl hh
  | @work k old next own call events hp hj ho he =>
    obtain ⟨rfl,rfl,hn⟩ | ⟨_,hh⟩ := (holds_set hp).mp h
    · obtain hn' | rfl := ho.job?_next
      · obtain rfl := Option.some.inj (hn'.symm.trans hn)
        exact .inr (.inr ⟨old,call,rfl,⟨hp,hj⟩,ho⟩)
      · cases hn
    · exact .inl hh
  | close | cancel => exact .inl h

def Distinct (jobs : List Job) : Prop := (jobs.map fun job => job.program.name).Nodup

theorem Distinct.nodup {jobs : List Job} (h : Distinct jobs) : jobs.Nodup := List.Nodup.of_map _ h

theorem Distinct.eq_of_name_eq {jobs : List Job} (h : Distinct jobs) {a b : Job} (ha : a ∈ jobs)
    (hb : b ∈ jobs) (he : a.program.name = b.program.name) : a = b :=
  List.inj_on_of_nodup_map h ha hb he

/-- Every program of a run is queued, with one worker, or done, and its moments and its entry are
those of its course. -/
structure Accounted (plan : Plan) (jobs : List Job) (p : Pool) (ms : List Moment) : Prop where
  queue_suffix : p.queue <:+ jobs
  received : ∀ i phase job, Holds p.workers i phase job → job ∈ jobs ∧ job ∉ p.queue
  single : ∀ i k phase other job, Holds p.workers i phase job → Holds p.workers k other job → i = k
  queued : ∀ job ∈ p.queue, Moment.about job ms = [] ∧
    p.backend.store.entry job.program.name = .pending
  busy : ∀ i phase job, Holds p.workers i phase job →
    Course plan job (Moment.about job ms) phase (p.backend.store.entry job.program.name)
  done : ∀ job ∈ jobs, job ∉ p.queue → (∀ i phase, ¬ Holds p.workers i phase job) →
    Course plan job (Moment.about job ms) .waiting (p.backend.store.entry job.program.name)

namespace Accounted
variable {plan : Plan} {jobs : List Job} {p q : Pool} {ms : List Moment}

theorem about_idle {i : Nat} {phase : Phase} (hp : p.workers[i]? = some phase)
    (hj : phase.job? = none) (job : Job) (ms : List Moment) :
    Moment.about job (ms ++ [⟨p,i⟩]) = Moment.about job ms := by
  simp [Moment.about,Moment.job?,Moment.phase?,hp,hj]

theorem about_busy {i : Nat} {phase : Phase} {own : Job} (h : Holds p.workers i phase own)
    (job : Job) (ms : List Moment) :
    Moment.about job (ms ++ [⟨p,i⟩]) =
      if own = job then Moment.about job ms ++ [⟨p,i⟩] else Moment.about job ms := by
  by_cases hj : own = job <;> simp [Moment.about,Moment.job?,Moment.phase?,hj,h.1,h.2]

theorem of_idle (h : Accounted plan jobs p ms) (hq : q.queue = p.queue)
    (hb : q.backend = p.backend)
    (hw : ∀ i phase job, Holds q.workers i phase job ↔ Holds p.workers i phase job)
    {ms' : List Moment} (hm : ∀ job, Moment.about job ms' = Moment.about job ms) :
    Accounted plan jobs q ms' where
  queue_suffix := hq ▸ h.queue_suffix
  received i phase job hh := hq ▸ h.received i phase job ((hw i phase job).mp hh)
  single i k phase other job hi hk :=
    h.single i k phase other job ((hw i phase job).mp hi) ((hw k other job).mp hk)
  queued job hj := by
    rw [hm,hb]
    exact h.queued job (hq ▸ hj)
  busy i phase job hh := by
    rw [hm,hb]
    exact h.busy i phase job ((hw i phase job).mp hh)
  done job hj hnq hnw := by
    rw [hm,hb]
    exact h.done job hj (hq ▸ hnq) fun i phase hh => hnw i phase ((hw i phase job).mpr hh)

theorem of_receive (hd : Distinct jobs) (h : Accounted plan jobs p ms) {i : Nat} {job : Job}
    {rest : List Job} (hp : p.workers[i]? = some .waiting) (hq : p.queue = job :: rest) :
    Accounted plan jobs
      { p with queue := rest, workers := p.workers.set i (.holding job) } (ms ++ [⟨p,i⟩]) := by
  have hfresh : job ∈ p.queue := by simp [hq]
  have hnd : (job :: rest).Nodup := hq ▸ hd.nodup.sublist h.queue_suffix.sublist
  have hset : ∀ k phase other, Holds (p.workers.set i (.holding job)) k phase other ↔
      k = i ∧ phase = .holding job ∧ some job = some other ∨
        k ≠ i ∧ Holds p.workers k phase other :=
    fun k phase other => holds_set hp
  have hsub : ∀ other, other ∉ p.queue → other ∉ rest := fun other hno hm =>
    hno (hq ▸ List.mem_cons_of_mem job hm)
  refine ⟨?_,?_,?_,?_,?_,?_⟩
  · exact (List.suffix_cons job rest).trans (hq ▸ h.queue_suffix)
  · intro k phase other hh
    obtain ⟨_,_,hj⟩ | ⟨_,hh⟩ := (hset k phase other).mp hh
    · obtain rfl : job = other := by simpa using hj
      exact ⟨h.queue_suffix.subset hfresh,(List.nodup_cons.mp hnd).1⟩
    · exact ⟨(h.received k phase other hh).1,hsub other (h.received k phase other hh).2⟩
  · intro k l phase other own hk hl
    -- the program was queued, so no worker had it before
    obtain ⟨hki,_,hj⟩ | ⟨_,hk'⟩ := (hset k phase own).mp hk
    · obtain ⟨hli,_,_⟩ | ⟨_,hl'⟩ := (hset l other own).mp hl
      · rw [hki,hli]
      · obtain rfl : job = own := by simpa using hj
        exact absurd hfresh (h.received l other job hl').2
    · obtain ⟨_,_,hj⟩ | ⟨_,hl'⟩ := (hset l other own).mp hl
      · obtain rfl : job = own := by simpa using hj
        exact absurd hfresh (h.received k phase job hk').2
      · exact h.single k l phase other own hk' hl'
  · intro other ho
    rw [about_idle hp rfl]
    exact h.queued other (hq ▸ List.mem_cons_of_mem job ho)
  · intro k phase other hh
    rw [about_idle hp rfl]
    obtain ⟨_,rfl,hj⟩ | ⟨_,hh⟩ := (hset k phase other).mp hh
    · obtain rfl : job = other := by simpa using hj
      obtain ⟨hms,hx⟩ := h.queued job hfresh
      rw [hms,hx]
      exact .received
    · exact h.busy k phase other hh
  · intro other ho hnq hnw
    rw [about_idle hp rfl]
    have hne : other ≠ job := by
      rintro rfl
      exact hnw i (.holding other) ((hset _ _ _).mpr (.inl ⟨rfl,rfl,rfl⟩))
    refine h.done other ho ?_ fun k phase hh => ?_
    · rw [hq]
      exact fun hm => (List.mem_cons.mp hm).elim hne hnq
    · refine hnw k phase ((hset _ _ _).mpr (.inr ⟨?_,hh⟩))
      rintro rfl
      obtain rfl : phase = .waiting := Option.some.inj (hh.1.symm.trans hp)
      cases hh.2

theorem of_work (hd : Distinct jobs) (h : Accounted plan jobs p ms) {i : Nat}
    {phase next : Phase} {job : Job} {call : Option StoreCall} (hh : Holds p.workers i phase job)
    (ho : Onward plan p job phase call next) (hq : q.queue = p.queue)
    (hb : q.backend = p.backend.after call) (hw : q.workers = p.workers.set i next) :
    Accounted plan jobs q (ms ++ [⟨p,i⟩]) := by
  obtain ⟨hjob,hnq⟩ := h.received i phase job hh
  have hset : ∀ k ph other, Holds q.workers k ph other ↔
      k = i ∧ ph = next ∧ next.job? = some other ∨ k ≠ i ∧ Holds p.workers k ph other := by
    intro k ph other
    rw [hw]
    exact holds_set hh.1
  have hown : ∀ other, next.job? = some other → other = job := by
    intro other hj
    obtain hn | rfl := ho.job?_next
    · rw [hn] at hj
      exact (Option.some.inj hj).symm
    · cases hj
  -- the entry of another program, and its moments, are as before
  have hother : ∀ other ∈ jobs, other ≠ job →
      q.backend.store.entry other.program.name = p.backend.store.entry other.program.name ∧
        Moment.about other (ms ++ [⟨p,i⟩]) = Moment.about other ms := by
    intro other hm hne
    rw [hb,Backend.entry_after _ _ ho.program_eq,about_busy hh,if_neg (Ne.symm hne),if_neg]
    · exact ⟨rfl,rfl⟩
    · exact fun he => hne (hd.eq_of_name_eq hjob hm he).symm
  have hcourse : Course plan job (Moment.about job (ms ++ [⟨p,i⟩])) next
      (q.backend.store.entry job.program.name) := by
    rw [hb,Backend.entry_after _ _ ho.program_eq,about_busy hh,if_pos rfl,if_pos rfl]
    exact .onward (h.busy i phase job hh) hh.1 ho
  refine ⟨hq ▸ h.queue_suffix,?_,?_,?_,?_,?_⟩
  · intro k ph other hk
    rw [hq]
    obtain ⟨_,_,hj⟩ | ⟨_,hk⟩ := (hset k ph other).mp hk
    · obtain rfl := hown other hj
      exact ⟨hjob,hnq⟩
    · exact h.received k ph other hk
  · intro k l ph other own hk hl
    obtain ⟨hki,_,hj⟩ | ⟨_,hk'⟩ := (hset k ph own).mp hk
    · obtain ⟨hli,_,_⟩ | ⟨_,hl'⟩ := (hset l other own).mp hl
      · rw [hki,hli]
      · obtain rfl := hown own hj
        rw [hki]
        exact h.single i l phase other own hh hl'
    · obtain ⟨hli,_,hj⟩ | ⟨_,hl'⟩ := (hset l other own).mp hl
      · obtain rfl := hown own hj
        rw [hli]
        exact h.single k i ph phase own hk' hh
      · exact h.single k l ph other own hk' hl'
  · intro other hm
    rw [hq] at hm
    have hne : other ≠ job := fun he => hnq (he ▸ hm)
    obtain ⟨he,ha⟩ := hother other (h.queue_suffix.subset hm) hne
    rw [he,ha]
    exact h.queued other hm
  · intro k ph other hk
    obtain ⟨_,rfl,hj⟩ | ⟨hki,hk⟩ := (hset k ph other).mp hk
    · obtain rfl := hown other hj
      exact hcourse
    · have hne : other ≠ job := by
        rintro rfl
        exact hki (h.single k i ph phase other hk hh)
      obtain ⟨he,ha⟩ := hother other (h.received k ph other hk).1 hne
      rw [he,ha]
      exact h.busy k ph other hk
  · intro other hm hnq' hnw
    by_cases hne : other = job
    · subst hne
      obtain hj | rfl := ho.job?_next
      · exact absurd ((hset i next other).mpr (.inl ⟨rfl,rfl,hj⟩)) (hnw i next)
      · exact hcourse
    · obtain ⟨he,ha⟩ := hother other hm hne
      rw [he,ha]
      refine h.done other hm (hq ▸ hnq') fun k ph hk => ?_
      refine hnw k ph ((hset k ph other).mpr (.inr ⟨?_,hk⟩))
      rintro rfl
      obtain rfl : phase = ph := Option.some.inj (hh.1.symm.trans hk.1)
      exact hne (Option.some.inj (hk.2.symm.trans hh.2))

theorem step (hd : Distinct jobs) (h : Accounted plan jobs p ms) {action : Action}
    (hs : Stepped plan p action q) :
    Accounted plan jobs q (ms ++ p.momentOf action) := by
  cases hs with
  | start hp =>
    apply h.of_idle (by rfl) (by rfl)
    · exact fun _ _ _ => holds_set_idle hp rfl rfl
    · exact fun job => about_idle hp rfl job ms
  | receive hp hq => exact h.of_receive hd hp hq
  | stop hp =>
    apply h.of_idle (by rfl) (by rfl)
    · exact fun _ _ _ => holds_set_idle hp rfl rfl
    · exact fun job => about_idle hp rfl job ms
  | work hp hj ho => exact h.of_work hd ⟨hp,hj⟩ ho rfl rfl rfl
  | close =>
    apply h.of_idle (by rfl) (by rfl)
    · exact fun _ _ _ => Iff.rfl
    · simp [Pool.momentOf]
  | cancel =>
    apply h.of_idle (by rfl) (by rfl)
    · exact fun _ _ _ => Iff.rfl
    · simp [Pool.momentOf]

end Accounted

/-! ### The jobs of a run -/

def jobsOf (programs : List Program) : List Job :=
  programs.mapIdx fun index program => ⟨index,program⟩

@[simp] theorem map_program_jobsOf (programs : List Program) :
    (jobsOf programs).map Job.program = programs := by
  apply List.ext_getElem?
  intro i
  cases h : programs[i]? <;> simp [jobsOf,h]

theorem distinct_jobsOf {programs : List Program} (hn : (programs.map Program.name).Nodup) :
    Distinct (jobsOf programs) := by
  rw [← map_program_jobsOf programs,List.map_map] at hn
  exact hn

theorem program_mem_of_mem_jobsOf {programs : List Program} {job : Job}
    (h : job ∈ jobsOf programs) : job.program ∈ programs := by
  rw [← map_program_jobsOf programs]
  exact List.mem_map_of_mem h

theorem exists_job {programs : List Program} {program : Program} (h : program ∈ programs) :
    ∃ job ∈ jobsOf programs, job.program = program := by
  rw [← map_program_jobsOf programs] at h
  exact List.mem_map.mp h

theorem accounted_start (plan : Plan) (programs : List Program) (count : Nat) (backend : Backend)
    (around : Surroundings) (cancelled : Option Cancellation)
    (hb : ∀ program ∈ programs, backend.store.entry program.name = .pending) :
    Accounted plan (jobsOf programs) (Pool.start programs count backend around cancelled) [] := by
  have hidle : ∀ i phase job, ¬ Holds (List.replicate count Phase.unstarted) i phase job := by
    rintro i phase job ⟨hp,hj⟩
    obtain rfl := List.eq_of_mem_replicate (List.mem_of_getElem? hp)
    cases hj
  refine ⟨List.suffix_refl _,fun i phase job hh => absurd hh (hidle i phase job),
    fun i k phase other job hh => absurd hh (hidle i phase job),fun job hj => ?_,
    fun i phase job hh => absurd hh (hidle i phase job),fun job hj hq => absurd hj hq⟩
  exact ⟨rfl,hb job.program (program_mem_of_mem_jobsOf hj)⟩

theorem course_of_completes {plan : Plan} {programs : List Program} {workers : Int}
    {backend : Backend} {around : Surroundings} {cancelled : Option Cancellation}
    {schedule : List Action} {final : Pool} (hn : (programs.map Program.name).Nodup)
    (hb : ∀ program ∈ programs, backend.store.entry program.name = .pending)
    (h : (Pool.start programs (workerCount workers programs) backend around cancelled).Completes
      plan schedule final)
    {job : Job} (hj : job ∈ jobsOf programs) :
    Course plan job (Moment.about job
        ((Pool.start programs (workerCount workers programs) backend around cancelled).moments
          plan schedule)) .waiting
      (final.backend.store.entry job.program.name) := by
  have ha := Pool.perform_invariant (Accounted plan (jobsOf programs))
    (fun p ms action q _ hp hs => hp.step (distinct_jobsOf hn) hs)
    (accounted_start plan programs _ backend around cancelled hb) h.performed
  have hf := h.isFinished (Pool.tidy_start programs workers backend around cancelled)
  simp only [Pool.isFinished,Bool.and_eq_true,List.isEmpty_iff,List.all_eq_true,
    decide_eq_true_eq] at hf
  refine ha.done job hj (by simp [hf.1.1]) fun i phase hh => ?_
  obtain rfl := hf.2 phase (List.mem_of_getElem? hh.1)
  cases hh.2

/-! ### Verdicts -/

namespace Moment

def Looks (m : Moment) (job : Job) : Prop :=
  m.phase? = some (.holding job) ∧ m.pool.cancelled = none

/-- A worker reads the program and its text, without the line ends at its end, passes the check. -/
def Accepts (plan : Plan) (m : Moment) (job : Job) (lexemes : Bytes) : Prop :=
  m.phase? = some (.running job) ∧ ∃ text kept,
    job.program.readSource m.pool.around.files = .ok text ∧ Trimmed text kept ∧
    accept plan.table kept = .ok lexemes

theorem accepts_iff {plan : Plan} {m : Moment} {job : Job} {lexemes : Bytes} :
    m.Accepts plan job lexemes ↔ m.phase? = some (.running job) ∧ ∃ text,
      job.program.readSource m.pool.around.files = .ok text ∧
      accept plan.table (trimLineEnds text) = .ok lexemes := by
  refine and_congr_right fun _ => exists_congr fun text => ?_
  constructor
  · rintro ⟨kept,hr,ht,ha⟩
    exact ⟨hr,trimmed_iff.mp ht ▸ ha⟩
  · rintro ⟨hr,ha⟩
    exact ⟨_,hr,trimmed_trimLineEnds text,ha⟩

def Stores (m : Moment) (job : Job) (code : Bytes) : Prop :=
  m.phase? = some (.compiled job code) ∧
    m.pool.backend.refusal? (.setOutput job.program.name code) = none

def Emits (plan : Plan) (m : Moment) (job : Job) (code : Bytes) : Prop :=
  m.phase? = some (.stored job code) ∧ ∀ sink, plan.sink = some sink →
    (sink.emit job.program code m.pool.around).value.2 = .ok ()

end Moment

/-- How the processing of a program ends: the moments up to the verdict, the status, the code that
was stored, and the error. -/
inductive Verdict (plan : Plan) (job : Job) :
    List Moment → Status → Option Bytes → Option ProgramError → Prop
  | skipped {m : Moment} {reason : Cancellation} : m.phase? = some (.holding job) →
      m.pool.cancelled = some reason →
      Verdict plan job [m] .skipped none (some (.skipped job.program.name reason))
  | unreadable {m n : Moment} {e : SourceError} : m.Looks job → n.phase? = some (.running job) →
      job.program.readSource n.pool.around.files = .error e →
      Verdict plan job [m,n] .failed none (some (.unreadable e))
  | rejected {m n : Moment} {text : Bytes} {r : Rejection} : m.Looks job →
      n.phase? = some (.running job) → job.program.readSource n.pool.around.files = .ok text →
      accept plan.table (trimLineEnds text) = .error r →
      Verdict plan job [m,n] .rejected none (some (.rejected job.program.name r))
  | checked {m n : Moment} {lexemes : Bytes} : m.Looks job → n.Accepts plan job lexemes →
      plan.validateOnly = true → Verdict plan job [m,n] .compiled none none
  | notStored {m n k : Moment} {lexemes : Bytes} {cause : Refusal} : m.Looks job →
      n.Accepts plan job lexemes → plan.validateOnly = false →
      k.phase? = some (.compiled job (generate plan.table lexemes)) →
      k.pool.backend.refusal? (.setOutput job.program.name (generate plan.table lexemes)) =
        some cause →
      Verdict plan job [m,n,k] .failed none (some (.notStored job.program.name cause))
  | emitted {m n k h : Moment} {lexemes : Bytes} : m.Looks job → n.Accepts plan job lexemes →
      plan.validateOnly = false → k.Stores job (generate plan.table lexemes) →
      h.Emits plan job (generate plan.table lexemes) →
      Verdict plan job [m,n,k,h] .compiled (some (generate plan.table lexemes)) none
  | notEmitted {m n k h : Moment} {lexemes : Bytes} {sink : Sink} {e : EmitError} :
      m.Looks job → n.Accepts plan job lexemes → plan.validateOnly = false →
      k.Stores job (generate plan.table lexemes) →
      h.phase? = some (.stored job (generate plan.table lexemes)) → plan.sink = some sink →
      (sink.emit job.program (generate plan.table lexemes) h.pool.around).value.2 = .error e →
      Verdict plan job [m,n,k,h] .failed (some (generate plan.table lexemes))
        (some (.notEmitted job.program.name e))

namespace Course
variable {plan : Plan} {job : Job} {ms : List Moment} {x : Entry}

theorem grant_setStatus (b : Backend) (name : Bytes) (status : Status) (x : Entry) :
    (b.grant (some (.setStatus name status)) x).output = x.output ∧
      (b.grant (some (.setStatus name status)) x).error = x.error := by
  simp only [Backend.grant]
  split <;> exact ⟨rfl,rfl⟩

theorem grant_setError (b : Backend) (name : Bytes) (error : Option ProgramError) (x : Entry) :
    (b.grant (error.map (.setError name)) x).output = x.output ∧ (x.error = none →
      (b.grant (error.map (.setError name)) x).error =
        (b.grant (error.map (.setError name)) .pending).error) := by
  cases error with
  | none => exact ⟨rfl,fun h => h⟩
  | some e =>
    simp only [Option.map_some,Backend.grant]
    split <;> exact ⟨rfl,fun h => by simp [h,StoreCall.onEntry,Entry.pending]⟩

theorem running (h : Course plan job ms (.running job) x) :
    ∃ m, ms = [m] ∧ m.Looks job ∧ x.output = none ∧ x.error = none := by
  cases h with
  | onward hc hp ho =>
    cases ho with
    | start hn =>
      cases hc with
      | received => exact ⟨_,rfl,⟨hp,hn⟩,grant_setStatus _ _ _ _⟩
      | onward _ _ ho => cases ho

theorem compiled {code : Bytes} (h : Course plan job ms (.compiled job code) x) :
    ∃ m n lexemes, ms = [m,n] ∧ m.Looks job ∧ n.Accepts plan job lexemes ∧
      plan.validateOnly = false ∧ code = generate plan.table lexemes ∧
      x.output = none ∧ x.error = none := by
  cases h with
  | onward hc hp ho =>
    cases ho with
    | compile hr ha hv =>
      obtain ⟨m,rfl,hm,hx⟩ := hc.running
      exact ⟨m,_,_,rfl,hm,Moment.accepts_iff.mpr ⟨hp,_,hr,ha⟩,hv,rfl,hx⟩

theorem stored {code : Bytes} (h : Course plan job ms (.stored job code) x) :
    ∃ m n k lexemes, ms = [m,n,k] ∧ m.Looks job ∧ n.Accepts plan job lexemes ∧
      plan.validateOnly = false ∧ code = generate plan.table lexemes ∧
      k.Stores job code ∧ x.output = some code ∧ x.error = none := by
  cases h with
  | onward hc hp ho =>
    cases ho with
    | keep hr =>
      obtain ⟨m,n,lexemes,rfl,hm,hn,hv,rfl,_,hx⟩ := hc.compiled
      refine ⟨m,n,_,lexemes,rfl,hm,hn,hv,rfl,⟨hp,hr⟩,?_⟩
      simp [Backend.grant,hr,StoreCall.onEntry,hx]

theorem decided {status : Status} {error : Option ProgramError}
    (h : Course plan job ms (.decided job status error) x) :
    Verdict plan job ms status x.output error ∧ x.error = none := by
  cases h with
  | onward hc hp ho =>
    cases ho with
    | skip hs =>
      cases hc with
      | received => exact ⟨.skipped hp hs,rfl⟩
      | onward _ _ ho => cases ho
    | unreadable hr =>
      obtain ⟨m,rfl,hm,ho,he⟩ := hc.running
      simp only [Backend.grant,ho]
      exact ⟨.unreadable hm hp hr,he⟩
    | reject hr ha =>
      obtain ⟨m,rfl,hm,ho,he⟩ := hc.running
      simp only [Backend.grant,ho]
      exact ⟨.rejected hm hp hr ha,he⟩
    | check hr ha hv =>
      obtain ⟨m,rfl,hm,ho,he⟩ := hc.running
      simp only [Backend.grant,ho]
      exact ⟨.checked hm (Moment.accepts_iff.mpr ⟨hp,_,hr,ha⟩) hv,he⟩
    | keepFails hr =>
      obtain ⟨m,n,lexemes,rfl,hm,hn,hv,rfl,ho,he⟩ := hc.compiled
      simp only [Backend.grant,hr,reduceCtorEq,if_false,ho]
      exact ⟨.notStored hm hn hv hp hr,he⟩
    | unsunk hs =>
      obtain ⟨m,n,k,lexemes,rfl,hm,hn,hv,rfl,hk,ho,he⟩ := hc.stored
      simp only [Backend.grant,ho]
      exact ⟨.emitted hm hn hv hk ⟨hp,by simp [hs]⟩,he⟩
    | emit hs hok =>
      obtain ⟨m,n,k,lexemes,rfl,hm,hn,hv,rfl,hk,ho,he⟩ := hc.stored
      simp only [Backend.grant,ho]
      refine ⟨.emitted hm hn hv hk ⟨hp,fun sink hs' => ?_⟩,he⟩
      obtain rfl := Option.some.inj (hs.symm.trans hs')
      exact hok
    | emitFails hs hbad =>
      obtain ⟨m,n,k,lexemes,rfl,hm,hn,hv,rfl,hk,ho,he⟩ := hc.stored
      simp only [Backend.grant,ho]
      exact ⟨.notEmitted hm hn hv hk hp hs hbad,he⟩

theorem recorded {status : Status} (h : Course plan job ms (.recorded job status) x) :
    ∃ before d error, ms = before ++ [d] ∧ Verdict plan job before status x.output error ∧
      d.phase? = some (.decided job status error) ∧
      x.error = (d.pool.backend.grant (error.map (.setError job.program.name)) .pending).error := by
  cases h with
  | @onward _ d _ _ _ y hc hd ho =>
    cases ho with
    | noError =>
      obtain ⟨hv,he⟩ := hc.decided
      exact ⟨_,d,none,rfl,hv,hd,he⟩
    | @recordError _ e =>
      obtain ⟨hv,he⟩ := hc.decided
      obtain ⟨ho,hx⟩ := grant_setError d.pool.backend job.program.name (some e) y
      exact ⟨_,d,some e,rfl,ho.symm ▸ hv,hd,hx he⟩

theorem verdict (h : Course plan job ms .waiting x) :
    ∃ before d r status error, ms = before ++ [d,r] ∧
      Verdict plan job before status x.output error ∧
      d.phase? = some (.decided job status error) ∧ r.phase? = some (.recorded job status) ∧
      x.error = (d.pool.backend.grant (error.map (.setError job.program.name)) .pending).error ∧
      (r.pool.backend.refusal? (.setStatus job.program.name status) = none →
        x.status = some status) := by
  cases h with
  | @onward _ r _ _ _ y hc hr ho =>
    cases ho with
    | @recordStatus status =>
      obtain ⟨before,d,error,rfl,hv,hd,he⟩ := hc.recorded
      obtain ⟨ho,hx⟩ := grant_setStatus r.pool.backend job.program.name status y
      refine ⟨before,d,r,status,error,List.append_assoc _ _ _,ho.symm ▸ hv,hd,hr,hx.trans he,?_⟩
      intro hg
      simp [Backend.grant,hg,StoreCall.onEntry]

end Course
end DefOut
