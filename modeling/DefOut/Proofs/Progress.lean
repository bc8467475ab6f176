import DefOut.Proofs.Emission

set_option autoImplicit false

/-!
No run gets stuck. The feeder hands over one program at a time to a worker that waits for it, so a
worker that left before the feeder is done could block it for good. Workers do not: as long as
there is a program to hand over, every single worker comes to wait for it by steps of its own, also
when the work has been called off (`Tidy.exists_receives`). No program is lost on the way: it is
queued, with one worker, or done (`whereabouts_step`).
-/
namespace DefOut

def Phase.finishing? : Phase → Option Job
  | .recorded job _ => some job
  | _ => none

def finishes (job : Job) (ms : List Moment) : Nat :=
  ms.countP fun m => m.phase?.bind Phase.finishing? = some job

namespace Pool

/-- In how many places a program is: in the queue, with a worker, or done. -/
def whereabouts (p : Pool) (ms : List Moment) (job : Job) : Nat :=
  p.queue.count job + p.workers.countP (fun phase => phase.job? = some job) + finishes job ms

variable {plan : Plan} {p q : Pool} {action : Action}

theorem whereabouts_onward {own : Job} {phase next : Phase} {call : Option StoreCall}
    (h : Onward plan p own phase call next) (job : Job) :
    (if next.job? = some job then 1 else 0) + (if phase.finishing? = some job then 1 else 0) =
      if phase.job? = some job then 1 else 0 := by
  cases h <;> simp [Phase.job?,Phase.finishing?]

theorem finishes_append {i : Nat} {phase : Phase} (hp : p.workers[i]? = some phase)
    (ms : List Moment) (job : Job) :
    finishes job (ms ++ [⟨p,i⟩]) =
      finishes job ms + if phase.finishing? = some job then 1 else 0 := by
  simp [finishes,Moment.phase?,hp,List.countP_cons]

theorem whereabouts_set {i : Nat} {phase next : Phase} {job : Job} {ms : List Moment}
    (hp : p.workers[i]? = some phase) (hw : q.workers = p.workers.set i next)
    (hq : q.queue = p.queue)
    (hone : (if next.job? = some job then 1 else 0) +
        (if phase.finishing? = some job then 1 else 0) =
      if phase.job? = some job then 1 else 0) :
    q.whereabouts (ms ++ p.momentOf (.advance i)) job = p.whereabouts ms job := by
  have hset := countP_workers_set (fun phase => phase.job? = some job) next hp
  simp only [whereabouts,momentOf,finishes_append hp,hw,hq]
  omega

theorem whereabouts_step (h : Stepped plan p action q) (ms : List Moment) (job : Job) :
    q.whereabouts (ms ++ p.momentOf action) job = p.whereabouts ms job := by
  cases h with
  | start hp | stop hp => exact whereabouts_set hp rfl rfl rfl
  | @receive i own rest hp hq =>
    -- the program leaves the queue for the worker
    have hset := countP_workers_set (fun phase => phase.job? = some job) (.holding own) hp
    simp only [whereabouts,momentOf,finishes_append hp,hq,List.count_cons,beq_iff_eq]
    simp only [Phase.finishing?,Phase.job?,reduceCtorEq,if_false,Option.some.injEq] at hset ⊢
    omega
  | work hp hj ho he => exact whereabouts_set hp rfl rfl (whereabouts_onward ho job)
  | close | cancel => simp [whereabouts,momentOf]

theorem whereabouts_start (programs : List Program) (count : Nat) (backend : Backend)
    (around : Surroundings) (cancelled : Option Cancellation) (job : Job) :
    (Pool.start programs count backend around cancelled).whereabouts [] job =
      (jobsOf programs).count job := by
  have hw : (List.replicate count Phase.unstarted).countP
      (fun phase => phase.job? = some job) = 0 := by
    simp [List.countP_replicate,Phase.job?]
  simp only [whereabouts,start,hw,finishes]
  simp [jobsOf]

theorem whereabouts_of_isFinished (hf : p.isFinished = true) (ms : List Moment) (job : Job) :
    p.whereabouts ms job = finishes job ms := by
  simp only [isFinished,Bool.and_eq_true,List.isEmpty_iff,List.all_eq_true,
    decide_eq_true_eq] at hf
  have hw : p.workers.countP (fun phase => phase.job? = some job) = 0 := by
    rw [List.countP_eq_zero]
    intro phase hm
    simp [hf.2 phase hm,Phase.job?]
  simp [whereabouts,hf.1.1,hw]

/-- While there is a program to hand over, a worker comes to receive it within as many steps of its
own as its phase has before it; nobody else has to do anything. -/
theorem Tidy.exists_receives (ht : p.Tidy) {i : Nat} {phase : Phase} {job : Job} {rest : List Job}
    (hp : p.workers[i]? = some phase) (hq : p.queue = job :: rest) :
    ∃ n ≤ phase.rank, ∃ q, p.perform plan (List.replicate n (.advance i)) = some q ∧
      q.queue = rest ∧ q.workers[i]? = some (.holding job) := by
  induction hr : phase.rank using Nat.strongRecOn generalizing p phase with
  | ind rank ih =>
    subst hr
    have hset : ∀ next, (p.workers.set i next)[i]? = some next := by
      intro next
      obtain ⟨hi,_⟩ := List.getElem?_eq_some_iff.mp hp
      simp [hi]
    -- a worker that has stopped means a closed feeder, which has nothing to hand over
    have hlive : phase ≠ .stopped := by
      rintro rfl
      have hnil := ht.queue_of_closed (ht.closed_of_stopped (List.mem_of_getElem? hp))
      rw [hq] at hnil
      cases hnil
    obtain ⟨q,ha⟩ : ∃ q, p.advance plan i = some q :=
      exists_advance hp hlive (fun _ => .inl (by simp [hq]))
    have hone : p.step plan (.advance i) = some q := ha
    -- after a step in which the queue stays, the worker is nearer to waiting
    have hgo : ∀ next, q.workers[i]? = some next → q.queue = job :: rest →
        next.rank < phase.rank → ∃ n ≤ phase.rank, ∃ q,
          p.perform plan (List.replicate n (.advance i)) = some q ∧
            q.queue = rest ∧ q.workers[i]? = some (.holding job) := by
      intro next hnext hqueue hlt
      have htq : q.Tidy := ht.step (stepped_of_step hone)
      obtain ⟨n,hn,r,hperform,hrest⟩ := ih next.rank hlt htq hnext hqueue rfl
      exact ⟨n+1,by omega,r,by simpa [List.replicate_succ,perform,hone] using hperform,hrest⟩
    cases stepped_of_step hone with
    | start hu =>
      obtain rfl := Option.some.inj (hu.symm.trans hp)
      exact hgo .waiting (hset _) hq (by decide)
    | @receive _ next queue hw hqueue =>
      obtain rfl := Option.some.inj (hw.symm.trans hp)
      obtain ⟨rfl,rfl⟩ := List.cons.inj (hq.symm.trans hqueue)
      exact ⟨1,by decide,_,by simp [perform,hone]; rfl,rfl,hset _⟩
    | stop _ hnil => cases hq.symm.trans hnil
    | @work _ _ next _ _ _ hw _ ho =>
      obtain rfl := Option.some.inj (hw.symm.trans hp)
      exact hgo next (hset next) hq (rank_lt_of_onward ho)

/-- No run gets stuck, whatever number of workers was asked for, whatever fails, and whenever the
work is called off: in every state that a schedule can reach, a worker or the feeder can go on
unless all is finished, and then every program has been done with once; every action makes the
measure smaller, so that no schedule has more actions than the measure at the start; and a feeder
with a program to hand over has workers, each of which comes to receive it by steps of its own. -/
theorem never_stuck {workers : Int} {programs : List Program} {backend : Backend}
    {around : Surroundings} {cancelled : Option Cancellation} {schedule : List Action}
    (h : (Pool.start programs (workerCount workers programs) backend around cancelled).perform
      plan schedule = some p) :
    (p.isFinished = true ∨
      ∃ action q, p.step plan action = some q ∧ ∀ reason, action ≠ .cancel reason) ∧
    (p.isFinished = true → ∀ job ∈ jobsOf programs, finishes job
      ((Pool.start programs (workerCount workers programs) backend around cancelled).moments
        plan schedule) = 1) ∧
    (∀ action q, p.step plan action = some q → q.measure < p.measure) ∧
    schedule.length+p.measure ≤ 7*programs.length+2*workerCount workers programs+2 ∧
    ∀ job rest, p.queue = job :: rest → p.workers ≠ [] ∧
      ∀ i phase, p.workers[i]? = some phase →
        ∃ n ≤ phase.rank, ∃ q, p.perform plan (List.replicate n (.advance i)) = some q ∧
          q.queue = rest ∧ q.workers[i]? = some (.holding job) := by
  have ht : p.Tidy := tidy_of_perform (tidy_start programs workers backend around cancelled) h
  refine ⟨?_,fun hf job hj => ?_,fun action q hq => measure_lt (stepped_of_step hq),
    Nat.le_trans (length_add_measure_le h) (measure_start_le ..),
    fun job rest hq => ⟨fun hw => ?_,fun i phase hp => ht.exists_receives hp hq⟩⟩
  · cases hf : p.isFinished with
    | true => exact .inl rfl
    | false => exact .inr (exists_step_of_not_isFinished plan ht hf)
  · have hplaces := perform_invariant
      (fun q ms => q.whereabouts ms job = (jobsOf programs).count job)
      (fun q ms action r _ hq hs => (whereabouts_step hs ms job).trans hq)
      (whereabouts_start programs _ backend around cancelled job) h
    rw [whereabouts_of_isFinished hf] at hplaces
    rw [hplaces]
    exact List.count_eq_one_of_mem (nodup_jobsOf programs) hj
  · rw [ht.queue_of_workers hw] at hq
    cases hq

/-- One worker, though none was asked for, a store that refuses everything, and a run that is
called off while the worker has the first of two programs: it comes to receive the second. -/
theorem never_stuck_called_off :
    let programs : List Program := [⟨"p","out z",[],[],[]⟩,⟨"q","def x = 1",[],[],[]⟩]
    let refusing : Backend := { fault := fun _ _ => some "down" }
    ∃ p, (Pool.start programs (workerCount 0 programs) refusing ⟨.empty,{}⟩ none).perform {}
        [.advance 0,.advance 0,.cancel .canceled] = some p ∧ p.isFinished = false ∧
      ∃ n ≤ 7, ∃ q, p.perform {} (List.replicate n (.advance 0)) = some q ∧
        q.queue = [] ∧ q.workers[0]? = some (.holding ⟨1,⟨"q","def x = 1",[],[],[]⟩⟩) := by
  intro programs refusing
  obtain ⟨p,h,hf,hq,hw⟩ : ∃ p,
      (Pool.start programs (workerCount 0 programs) refusing ⟨.empty,{}⟩ none).perform {}
          [.advance 0,.advance 0,.cancel .canceled] = some p ∧ p.isFinished = false ∧
        p.queue = [⟨1,⟨"q","def x = 1",[],[],[]⟩⟩] ∧
        p.workers[0]? = some (.holding ⟨0,⟨"p","out z",[],[],[]⟩⟩) :=
    ⟨_,rfl,rfl,rfl,rfl⟩
  exact ⟨p,h,hf,((never_stuck h).2.2.2.2 _ _ hq).2 0 _ hw⟩

end Pool
end DefOut
