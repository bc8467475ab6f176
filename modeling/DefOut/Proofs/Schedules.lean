import DefOut.Proofs.Steps

set_option autoImplicit false

/-!
Schedules: lists of actions that are performed one after the other. Every schedule is finite,
because each action makes the measure of the pool smaller (`measure_lt`), and none gets stuck
before all programs are finished (`Completes.isFinished`); the schedule that runs is one of them
(`completes_complete`). What each action keeps is kept by a schedule (`perform_invariant`).
-/
namespace DefOut

/-- A step of a worker, with the pool as it was before the step. -/
structure Moment where
  pool : Pool
  worker : Nat

namespace Moment

def phase? (m : Moment) : Option Phase := m.pool.workers[m.worker]?

def job? (m : Moment) : Option Job := m.phase?.bind Phase.job?

def about (job : Job) (moments : List Moment) : List Moment :=
  moments.filter fun m => m.job? = some job

end Moment

namespace Pool

/-- Perform the actions of a schedule; `none` when one of them is not possible in its turn. -/
def perform (plan : Plan) : Pool → List Action → Option Pool
  | p, [] => some p
  | p, action :: rest => (p.step plan action).bind fun q => q.perform plan rest

def momentOf (p : Pool) : Action → List Moment
  | .advance i => [⟨p,i⟩]
  | _ => []

def moments (plan : Plan) : Pool → List Action → List Moment
  | _, [] => []
  | p, action :: rest =>
    match p.step plan action with
    | none => []
    | some q => p.momentOf action ++ q.moments plan rest

/-- The schedule takes the pool to a state in which no worker and no feeder can go on. -/
structure Completes (plan : Plan) (p : Pool) (schedule : List Action) (final : Pool) : Prop where
  performed : p.perform plan schedule = some final
  stuck : ∀ action q, final.step plan action = some q → ∃ reason, action = .cancel reason

def Uncancelled (schedule : List Action) : Prop :=
  ∀ reason, Action.cancel reason ∉ schedule

variable {plan : Plan} {p q final : Pool} {schedule : List Action}

theorem perform_invariant_from (Inv : Pool → List Moment → Prop)
    (hstep : ∀ p ms action q, action ∈ schedule → Inv p ms → p.step plan action = some q →
      Inv q (ms ++ p.momentOf action))
    {ms : List Moment} (h0 : Inv p ms) (h : p.perform plan schedule = some final) :
    Inv final (ms ++ p.moments plan schedule) := by
  induction schedule generalizing p ms with
  | nil =>
    obtain rfl : p = final := by simpa [perform] using h
    simpa [moments] using h0
  | cons action rest ih =>
    obtain ⟨q,hq,hrest⟩ := Option.bind_eq_some_iff.mp h
    have hq' : Inv q (ms ++ p.momentOf action) := hstep p ms action q (by simp) h0 hq
    have hf := ih (fun p ms a q ha => hstep p ms a q (List.mem_cons_of_mem action ha)) hq' hrest
    simpa [moments,hq,List.append_assoc] using hf

theorem perform_invariant (Inv : Pool → List Moment → Prop)
    (hstep : ∀ p ms action q, action ∈ schedule → Inv p ms → Stepped plan p action q →
      Inv q (ms ++ p.momentOf action))
    (h0 : Inv p []) (h : p.perform plan schedule = some final) :
    Inv final (p.moments plan schedule) :=
  perform_invariant_from Inv
    (fun p ms action q ha hp hq => hstep p ms action q ha hp (stepped_of_step hq)) h0 h

theorem perform_forall (Inv : Pool → Prop)
    (hstep : ∀ p action q, action ∈ schedule → Inv p → Stepped plan p action q → Inv q)
    (h0 : Inv p) (h : p.perform plan schedule = some final) :
    Inv final ∧ ∀ m ∈ p.moments plan schedule, Inv m.pool := by
  refine perform_invariant (fun p ms => Inv p ∧ ∀ m ∈ ms, Inv m.pool) ?_ ⟨h0,by simp⟩ h
  intro p ms action q ha hp hs
  refine ⟨hstep p action q ha hp.1 hs,fun m hm => ?_⟩
  obtain hm | hm := List.mem_append.mp hm
  · exact hp.2 m hm
  · cases action <;> simp [momentOf] at hm
    rw [hm]
    exact hp.1

/-! ### Every schedule ends -/

theorem rank_lt_of_onward {job : Job} {phase next : Phase} {call : Option StoreCall}
    (h : Onward plan p job phase call next) : next.rank < phase.rank := by
  cases h <;> simp [Phase.rank]

theorem ranks_set {workers : List Phase} {i : Nat} {phase : Phase} (next : Phase)
    (h : workers[i]? = some phase) :
    (workers.set i next).foldr (fun phase n => phase.rank + n) 0 + phase.rank =
      workers.foldr (fun phase n => phase.rank + n) 0 + next.rank := by
  induction workers generalizing i with
  | nil => simp at h
  | cons first rest ih =>
    cases i with
    | zero =>
      obtain rfl : first = phase := by simpa using h
      simp only [List.set_cons_zero,List.foldr_cons]
      omega
    | succ i =>
      have hi := ih (by simpa using h)
      simp only [List.set_cons_succ,List.foldr_cons]
      omega

theorem measure_lt {action : Action} (h : Stepped plan p action q) : q.measure < p.measure := by
  cases h with
  | @start i r hp =>
    have hr := ranks_set .waiting hp
    simp only [measure,Phase.rank] at hr ⊢
    omega
  | @receive i job rest hp hq =>
    have hr := ranks_set (.holding job) hp
    simp only [measure,Phase.rank,hq,List.length_cons] at hr ⊢
    omega
  | @stop i r hp hq hc =>
    have hr := ranks_set .stopped hp
    simp only [measure,Phase.rank] at hr ⊢
    omega
  | @work i phase next job call events hp hj ho he =>
    have hr := ranks_set next hp
    have hl := rank_lt_of_onward ho
    simp only [measure] at hr ⊢
    omega
  | close hq hc => simp [measure,hc]
  | cancel hc => simp [measure,hc]

theorem length_add_measure_le (h : p.perform plan schedule = some final) :
    schedule.length + final.measure ≤ p.measure := by
  induction schedule generalizing p with
  | nil =>
    obtain rfl : p = final := by simpa [perform] using h
    simp
  | cons action rest ih =>
    obtain ⟨q,hq,hrest⟩ := Option.bind_eq_some_iff.mp h
    have hl := measure_lt (stepped_of_step hq)
    have hi := ih hrest
    simp only [List.length_cons]
    omega

theorem measure_start_le (programs : List Program) (workers : Nat) (backend : Backend)
    (around : Surroundings) (cancelled : Option Cancellation) :
    (Pool.start programs workers backend around cancelled).measure ≤
      7*programs.length+2*workers+2 := by
  have hranks : (List.replicate workers Phase.unstarted).foldr (fun phase n => phase.rank+n) 0 =
      2*workers := by
    induction workers with
    | zero => rfl
    | succ n ih =>
      rw [List.replicate_succ,List.foldr_cons,ih]
      simp only [Phase.rank]
      omega
  simp only [measure,start,List.length_mapIdx,hranks,Bool.not_false,Bool.toNat_true]
  have hc := cancelled.isNone.toNat_le
  omega

/-! ### No schedule gets stuck -/

/-- The feeder closes its side only when it has handed over everything, workers stop only after
that, and without workers there is nothing to hand over. -/
structure Tidy (p : Pool) : Prop where
  queue_of_closed : p.closed = true → p.queue = []
  closed_of_stopped : .stopped ∈ p.workers → p.closed = true
  queue_of_workers : p.workers = [] → p.queue = []

theorem not_stopped_of_onward {job : Job} {phase next : Phase} {call : Option StoreCall}
    (h : Onward plan p job phase call next) : next ≠ .stopped := by
  cases h <;> simp

theorem Tidy.set (h : p.Tidy) (i : Nat) {next : Phase} (hn : next ≠ .stopped) :
    .stopped ∈ p.workers.set i next → p.closed = true := by
  intro hs
  obtain hs | hs := List.mem_or_eq_of_mem_set hs
  · exact h.closed_of_stopped hs
  · exact absurd hs.symm hn

theorem Tidy.step {action : Action} (h : p.Tidy) (hs : Stepped plan p action q) : q.Tidy := by
  have hw : ∀ i next, p.workers.set i next = [] → p.queue = [] :=
    fun i next he => h.queue_of_workers (by simpa using he)
  cases hs with
  | @start i => exact ⟨h.queue_of_closed,h.set i (by simp),hw i _⟩
  | @receive i job rest hp hq =>
    have hc : p.closed ≠ true := fun hc => by simpa [hq] using h.queue_of_closed hc
    refine ⟨fun hc' => absurd hc' hc,h.set i (by simp),fun he => ?_⟩
    simpa [hq] using hw i _ he
  | @stop i _ hp hq hc => exact ⟨fun _ => hq,fun _ => hc,hw i _⟩
  | @work i _ _ _ _ _ _ _ ho =>
    exact ⟨h.queue_of_closed,h.set i (not_stopped_of_onward ho),hw i _⟩
  | close hq hc => exact ⟨fun _ => hq,fun _ => rfl,h.queue_of_workers⟩
  | cancel => exact ⟨h.queue_of_closed,h.closed_of_stopped,h.queue_of_workers⟩

theorem tidy_start (programs : List Program) (workers : Int) (backend : Backend)
    (around : Surroundings) (cancelled : Option Cancellation) :
    (Pool.start programs (workerCount workers programs) backend around cancelled).Tidy := by
  refine ⟨fun hc => by simp [start] at hc,fun hs => ?_,fun hw => ?_⟩
  · simp [start] at hs
  · have hz : workerCount workers programs = 0 := by simpa [start] using hw
    have hl : programs.length = 0 := by
      unfold workerCount at hz
      omega
    simp [start,List.eq_nil_of_length_eq_zero hl]

theorem exists_advance {i : Nat} {phase : Phase} (hp : p.workers[i]? = some phase)
    (hs : phase ≠ .stopped) (hw : phase = .waiting → p.queue ≠ [] ∨ p.closed = true) :
    ∃ q, p.advance plan i = some q := by
  unfold advance
  rw [hp]
  cases phase with
  | stopped => exact absurd rfl hs
  | waiting =>
    simp only [receive]
    cases hq : p.queue with
    | cons job rest => exact ⟨_,rfl⟩
    | nil =>
      have hc : p.closed = true := by simpa [hq] using hw rfl
      exact ⟨_,by simp [hc]; rfl⟩
  | _ => exact ⟨_,rfl⟩

theorem exists_of_findIdx? {workers : List Phase} {test : Phase → Bool} {i : Nat}
    (h : workers.findIdx? test = some i) : ∃ phase, workers[i]? = some phase ∧ test phase = true := by
  obtain ⟨hi,ht,_⟩ := List.findIdx?_eq_some_iff_getElem.mp h
  exact ⟨_,List.getElem?_eq_getElem hi,ht⟩

theorem next?_possible (plan : Plan) {cancelOn : Option Bytes} {action : Action}
    (h : p.next? cancelOn = some action) : ∃ q, p.step plan action = some q := by
  unfold next? at h
  split at h
  case isTrue hc =>
    cases h
    have hn : p.cancelled = none := by simpa using (Bool.and_eq_true_iff.mp hc).1
    exact ⟨_,by simp [step,hn]; rfl⟩
  case isFalse =>
    split at h
    case h_1 i hi =>
      cases h
      obtain ⟨phase,hp,ht⟩ := exists_of_findIdx? hi
      obtain rfl : phase = .unstarted := by simpa using ht
      exact exists_advance hp (by simp) (by simp)
    case h_2 =>
      split at h
      case h_1 i hi =>
        cases h
        obtain ⟨phase,hp,ht⟩ := exists_of_findIdx? hi
        refine exists_advance hp ?_ ?_
        · rintro rfl
          simp [Phase.isBusy] at ht
        · rintro rfl
          simp [Phase.isBusy] at ht
      case h_2 =>
        split at h
        case isTrue hc =>
          cases h
          exact ⟨_,by simp only [step,hc,if_true]; rfl⟩
        case isFalse hc =>
          split at h
          case h_1 i hi =>
            cases h
            obtain ⟨phase,hp,ht⟩ := exists_of_findIdx? hi
            obtain rfl : phase = .waiting := by simpa using ht
            refine exists_advance hp (by simp) (fun _ => ?_)
            by_cases hq : p.queue = []
            · exact .inr (by simpa [hq] using hc)
            · exact .inl hq
          case h_2 => cases h

theorem not_cancel_of_next? {action : Action} (h : p.next? none = some action)
    (reason : Cancellation) : action ≠ .cancel reason := by
  rintro rfl
  unfold next? at h
  simp only [Option.any_none,Bool.and_false,Bool.false_eq_true,if_false] at h
  split at h
  · cases h
  · split at h
    · cases h
    · split at h
      · cases h
      · split at h <;> cases h

theorem isFinished_of_next? {cancelOn : Option Bytes} (ht : p.Tidy)
    (h : p.next? cancelOn = none) : p.isFinished = true := by
  unfold next? at h
  split at h
  case isTrue => cases h
  split at h
  case h_1 => cases h
  case h_2 hu =>
  split at h
  case h_1 => cases h
  case h_2 hb =>
  split at h
  case isTrue => cases h
  case isFalse hc =>
  split at h
  case h_1 => cases h
  case h_2 hw =>
  have hall : ∀ phase ∈ p.workers, phase = .stopped := by
    intro phase hm
    have h1 := List.findIdx?_eq_none_iff.mp hu phase hm
    have h2 := List.findIdx?_eq_none_iff.mp hb phase hm
    have h3 := List.findIdx?_eq_none_iff.mp hw phase hm
    cases phase <;> simp [Phase.isBusy] at h1 h2 h3 ⊢
  have hclosed : p.closed = true := by
    cases hl : p.workers with
    | nil => simpa [ht.queue_of_workers hl] using hc
    | cons phase rest =>
      have hs := hall phase (by simp [hl])
      exact ht.closed_of_stopped (by simp [hl,hs])
  simp only [isFinished,ht.queue_of_closed hclosed,hclosed,List.isEmpty_nil,Bool.and_true,
    Bool.true_and,List.all_eq_true]
  intro phase hm
  simpa using hall phase hm

theorem tidy_of_perform (ht : p.Tidy) (h : p.perform plan schedule = some q) : q.Tidy :=
  (perform_forall Tidy (fun _ _ _ _ => Tidy.step) ht h).1

theorem exists_step_of_not_isFinished (plan : Plan) (ht : p.Tidy) (hf : p.isFinished = false) :
    ∃ action q, p.step plan action = some q ∧ ∀ reason, action ≠ .cancel reason := by
  cases hn : p.next? none with
  | none =>
    rw [isFinished_of_next? ht hn] at hf
    contradiction
  | some action =>
    obtain ⟨q,hq⟩ := next?_possible plan hn
    exact ⟨action,q,hq,not_cancel_of_next? hn⟩

theorem Completes.isFinished (ht : p.Tidy) (h : p.Completes plan schedule final) :
    final.isFinished = true := by
  cases hf : final.isFinished with
  | true => rfl
  | false =>
    obtain ⟨action,q,hq,hne⟩ :=
      exists_step_of_not_isFinished plan (tidy_of_perform ht h.performed) hf
    obtain ⟨reason,he⟩ := h.stuck action q hq
    exact absurd he (hne reason)

theorem cancel_of_isFinished (hf : p.isFinished = true) {action : Action}
    (h : p.step plan action = some q) : ∃ reason, action = .cancel reason := by
  simp only [isFinished,Bool.and_eq_true,List.all_eq_true,decide_eq_true_eq] at hf
  cases action with
  | cancel reason => exact ⟨reason,rfl⟩
  | close => simp [step,hf.1.2] at h
  | advance i =>
    simp only [step,advance] at h
    cases hp : p.workers[i]? with
    | none => simp [hp] at h
    | some phase =>
      obtain rfl := hf.2 phase (List.mem_of_getElem? hp)
      simp [hp] at h

theorem exists_performed_follow (plan : Plan) (cancelOn : Option Bytes) (fuel : Nat) (p : Pool)
    (ht : p.Tidy) (hm : p.measure ≤ fuel) :
    ∃ schedule, p.Completes plan schedule (p.follow plan cancelOn fuel) ∧
      (cancelOn = none → Uncancelled schedule) := by
  induction fuel generalizing p with
  | zero =>
    -- an action would make the measure smaller than zero
    have hn : p.next? cancelOn = none := by
      cases hn : p.next? cancelOn with
      | none => rfl
      | some action =>
        obtain ⟨q,hq⟩ := next?_possible plan hn
        have := measure_lt (stepped_of_step hq)
        omega
    have hf := isFinished_of_next? ht hn
    exact ⟨[],⟨rfl,fun _ _ => cancel_of_isFinished hf⟩,fun _ _ => by simp⟩
  | succ fuel ih =>
    simp only [follow]
    cases hn : p.next? cancelOn with
    | none =>
      have hf := isFinished_of_next? ht hn
      exact ⟨[],⟨rfl,fun _ _ => cancel_of_isFinished hf⟩,fun _ _ => by simp⟩
    | some action =>
      obtain ⟨q,hq⟩ := next?_possible plan hn
      have hs := stepped_of_step hq
      have hl := measure_lt hs
      obtain ⟨rest,hr,hu⟩ := ih q (ht.step hs) (by omega)
      refine ⟨action :: rest,⟨?_,?_⟩,?_⟩
      · simpa [perform,hq] using hr.performed
      · simpa [hq] using hr.stuck
      · rintro rfl reason hmem
        obtain hmem | hmem := List.mem_cons.mp hmem
        · exact not_cancel_of_next? hn reason hmem.symm
        · exact hu rfl reason hmem

theorem completes_complete (plan : Plan) (cancelOn : Option Bytes) (ht : p.Tidy) :
    ∃ schedule, p.Completes plan schedule (p.complete plan cancelOn) ∧
      (cancelOn = none → Uncancelled schedule) :=
  exists_performed_follow plan cancelOn p.measure p ht (Nat.le_refl _)

end Pool
end DefOut
