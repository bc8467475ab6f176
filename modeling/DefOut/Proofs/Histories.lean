import DefOut.Proofs.Determinism
import DefOut.Proofs.ExitCode

set_option autoImplicit false

/-!
Sessions that are run again and again. A session keeps its settings and its model (`History.keeps`),
and a run looks at nothing else but the surroundings; of these it cannot see what the outlet has
taken before (`blind_continues`). So a run in the course of a history ends as the run of a new
session does (`forgets_earlier_runs`).
-/
namespace DefOut

/-! ### Outlets -/

/-- The same files, and an outlet that has taken nothing and answers as this one from here on. -/
def Surroundings.renewed (around : Surroundings) : Surroundings where
  files := around.files
  outlet := { around.outlet with
    text := []
    asked := 0
    grants := fun n => around.outlet.grants (around.outlet.asked+n) }

/-- What surroundings have become that were `before`, and what they would be had their outlet been
renewed then. -/
structure Continues (before now fresh : Surroundings) : Prop where
  files : fresh.files = now.files
  text : now.outlet.text = before.outlet.text ++ fresh.outlet.text
  asked : now.outlet.asked = before.outlet.asked+fresh.outlet.asked
  grants : ∀ n, fresh.outlet.grants n = now.outlet.grants (before.outlet.asked+n)
  refusal : fresh.outlet.refusal = now.outlet.refusal

theorem continues_renewed (around : Surroundings) : Continues around around around.renewed :=
  ⟨rfl,by simp [Surroundings.renewed],rfl,fun _ => rfl,rfl⟩

section continues
variable {before now fresh : Surroundings}

theorem Continues.write (h : Continues before now fresh) (s : Bytes) :
    (fresh.outlet.write s).2 = (now.outlet.write s).2 ∧
      Continues before { now with outlet := (now.outlet.write s).1 }
        { fresh with outlet := (fresh.outlet.write s).1 } := by
  have hg : fresh.outlet.grants fresh.outlet.asked = now.outlet.grants now.outlet.asked := by
    rw [h.grants,h.asked]
  unfold Outlet.write
  rw [hg]
  split
  · refine ⟨rfl,h.files,?_,?_,h.grants,h.refusal⟩
    · simp [h.text]
    · simp [h.asked,Nat.add_assoc]
  · refine ⟨by rw [h.refusal],h.files,h.text,?_,h.grants,h.refusal⟩
    simp [h.asked,Nat.add_assoc]

theorem Continues.writeAll (h : Continues before now fresh) (pieces : List Bytes) :
    Continues before { now with outlet := now.outlet.writeAll pieces }
      { fresh with outlet := fresh.outlet.writeAll pieces } := by
  induction pieces generalizing now fresh with
  | nil => exact h
  | cons piece rest ih => exact ih (h.write piece).2

theorem Continues.emit_toOutlet (h : Continues before now fresh) (program : Program)
    (code : Bytes) :
    (Sink.toOutlet.emit program code fresh).records =
        (Sink.toOutlet.emit program code now).records ∧
      (Sink.toOutlet.emit program code fresh).value.2 =
        (Sink.toOutlet.emit program code now).value.2 ∧
      Continues before (Sink.toOutlet.emit program code now).value.1
        (Sink.toOutlet.emit program code fresh).value.1 := by
  obtain ⟨hanswer,hcont⟩ := h.write (code ++ "\n")
  unfold Sink.toOutlet
  simp only
  generalize now.outlet.write (code ++ "\n") = x at hanswer hcont ⊢
  generalize fresh.outlet.write (code ++ "\n") = y at hanswer hcont ⊢
  obtain ⟨o,_ | _⟩ := x <;> obtain ⟨o',_ | _⟩ := y <;> cases hanswer <;> exact ⟨rfl,rfl,hcont⟩

theorem Continues.emit_toFiles (h : Continues before now fresh) (program : Program)
    (code : Bytes) :
    (Sink.toFiles.emit program code fresh).records =
        (Sink.toFiles.emit program code now).records ∧
      (Sink.toFiles.emit program code fresh).value.2 =
        (Sink.toFiles.emit program code now).value.2 ∧
      Continues before (Sink.toFiles.emit program code now).value.1
        (Sink.toFiles.emit program code fresh).value.1 := by
  unfold Sink.toFiles
  simp only [h.files]
  split
  · exact ⟨rfl,rfl,h⟩
  · rcases now.files.write program.output code with ⟨files,_ | _⟩ <;>
      exact ⟨rfl,rfl,rfl,h.text,h.asked,h.grants,h.refusal⟩

end continues

theorem blind_continues (settings : Settings) (before : Surroundings) :
    settings.plan.Blind (Continues before) := by
  refine ⟨Continues.files,fun {sink now fresh} program code hs h => ?_⟩
  obtain rfl := Option.some.inj hs
  split
  · exact h.emit_toOutlet program code
  · exact h.emit_toFiles program code

theorem Continues.report {before now fresh : Surroundings} (h : Continues before now fresh)
    (s : Session) (store : Store ProgramError) :
    Continues before (s.report store now) (s.report store fresh) := by
  unfold Session.report
  split
  · induction s.model.programs generalizing now fresh with
    | nil => exact h
    | cons p rest ih =>
      have hv : verdict fresh.files store p = verdict now.files store p := by rw [h.files]
      simp only [List.foldl_cons,hv]
      exact ih (h.writeAll _)
  · exact h

/-! ### Histories -/

def Session.ready (s : Session) (around : Surroundings) (cancelled : Option Cancellation) : Pool :=
  .ready s.settings.workerCount s.model.programs {} around cancelled

theorem Session.completes (s : Session) (around : Surroundings)
    (cancelled : Option Cancellation) : ∃ schedule,
      (s.ready around cancelled).Completes s.settings.plan schedule
        ((s.ready around cancelled).complete s.settings.plan none) ∧
      Pool.Uncancelled schedule := by
  obtain ⟨schedule,hc,hu⟩ := Pool.completes_complete s.settings.plan none
    (Pool.tidy_start s.model.programs s.settings.workerCount (markPending {} s.model.programs).1
      around cancelled)
  exact ⟨schedule,hc,hu rfl⟩

/-- What may become of a new session and its surroundings: it is run, in whatever way the pool is
worked off, and files change between its runs. -/
inductive History (first : Session) : Session → Surroundings → Prop
  | built (settings : Settings) (loader : Option Loader) {around : Surroundings} :
      (Session.start settings around.files loader).value = .ok first → History first first around
  | ran {s : Session} {around : Surroundings} (work : Plan → Pool → Pool)
      (cancelled : Option Cancellation) : History first s around →
      History first (s.runBy work around cancelled).session (s.runBy work around cancelled).around
  | changed {s : Session} {around : Surroundings} (files : Files) : History first s around →
      History first s { around with files := files }

structure SameRun (text : Bytes) (run once : SessionRun) : Prop where
  error : run.error = once.error
  text : run.around.outlet.text = text ++ once.around.outlet.text
  files : run.around.files = once.around.files
  session : run.session = once.session

section sessions
variable {first s : Session} {around : Surroundings} {cancelled : Option Cancellation}
  {schedule : List Action} {final : Pool}

theorem session_runBy (work : Plan → Pool → Pool) (s : Session) (around : Surroundings)
    (cancelled : Option Cancellation) :
    ∃ store, (s.runBy work around cancelled).session = { s with store := store } ∧
      (s.model.programs = [] → store = s.store) := by
  unfold Session.runBy
  split
  · exact ⟨s.store,rfl,fun _ => rfl⟩
  · next hne =>
    have hnil : s.model.programs ≠ [] := by simpa using hne
    simp only
    split <;> exact ⟨_,rfl,fun h => absurd h hnil⟩

theorem History.keeps (h : History first s around) :
    ∃ store, s = { first with store := store } ∧
      (first.model.programs = [] → store = first.store) := by
  induction h with
  | built => exact ⟨first.store,rfl,fun _ => rfl⟩
  | ran work cancelled _ ih =>
    obtain ⟨store,rfl,hstore⟩ := ih
    obtain ⟨next,hs,hnext⟩ := session_runBy work { first with store := store } _ cancelled
    exact ⟨next,hs,fun hnil => (hnext hnil).trans (hstore hnil)⟩
  | changed files _ ih => exact ih

theorem sameRun_of_continues {store : Store ProgramError} {after : Surroundings}
    (hs : first.model.programs = [] → store = first.store) (hg : final.backend.Grants)
    (hc : Continues around final.around after) :
    SameRun around.outlet.text
      (Session.runBy (fun _ _ => final) { first with store := store } around cancelled)
      (first.runBy (fun _ _ => final.within final.closed after) around.renewed cancelled) := by
  by_cases hnil : first.model.programs = []
  · obtain rfl := hs hnil
    constructor <;> simp [Session.runBy,hnil,Surroundings.renewed]
  · obtain ⟨hsession,haround,herror⟩ := Session.runBy_of_grants
      (s := { first with store := store }) final around cancelled hnil hg
    obtain ⟨hsession',haround',herror'⟩ := Session.runBy_of_grants (s := first)
      (final.within final.closed after) around.renewed cancelled hnil hg
    have hreport := hc.report first final.backend.store
    constructor
    · exact herror.trans herror'.symm
    · rw [haround,haround']
      exact hreport.text
    · rw [haround,haround']
      exact hreport.files.symm
    · exact hsession.trans hsession'.symm

theorem History.same_schedule (h : History first s around)
    (hc : (s.ready around cancelled).Completes s.settings.plan schedule final) :
    ∃ last, (first.ready around.renewed cancelled).Completes first.settings.plan schedule last ∧
      SameRun around.outlet.text (s.runBy (fun _ _ => final) around cancelled)
        (first.runBy (fun _ _ => last) around.renewed cancelled) := by
  obtain ⟨store,rfl,hstore⟩ := h.keeps
  obtain ⟨after,hafter,hlast⟩ :=
    hc.within (blind_continues first.settings around) (continues_renewed around)
  exact ⟨_,hlast,sameRun_of_continues hstore (grants_of_perform hc.performed).1 hafter⟩

/-- A run does not remember earlier ones. Whatever a session has been through, its next run fails,
prints, writes and stores as the one run of a new session with the same settings and model on the
same files: by the same schedule, and with a single worker by every schedule that is not called
off. -/
theorem forgets_earlier_runs (h : History first s around)
    (hc : (s.ready around cancelled).Completes s.settings.plan schedule final) :
    (∃ last, (first.ready around.renewed cancelled).Completes first.settings.plan schedule last ∧
      SameRun around.outlet.text (s.runBy (fun _ _ => final) around cancelled)
        (first.runBy (fun _ _ => last) around.renewed cancelled)) ∧
    (workerCount first.settings.workerCount first.model.programs ≤ 1 →
      Pool.Uncancelled schedule → ∀ actions last,
      (first.ready around.renewed cancelled).Completes first.settings.plan actions last →
      Pool.Uncancelled actions →
      SameRun around.outlet.text (s.runBy (fun _ _ => final) around cancelled)
        (first.runBy (fun _ _ => last) around.renewed cancelled)) := by
  obtain ⟨same,hsame,hrun⟩ := h.same_schedule hc
  refine ⟨⟨same,hsame,hrun⟩,fun hw hu actions last hlast hua => ?_⟩
  have hone : (first.ready around.renewed cancelled).workers.length ≤ 1 := by
    simpa [Session.ready,Pool.ready,Pool.start] using hw
  obtain rfl := Pool.completes_unique hone hsame hu hlast hua
  exact hrun

end sessions

theorem forgets_earlier_runs_mended :
    let first : Session :=
      ⟨{ sourcePath := "p", stdout := true, workerCount := 1 },⟨[⟨"p",[],"p",[],[]⟩]⟩,.empty⟩
    let run := first.run ⟨⟨.folder [("p",.file "out z")]⟩,{}⟩ none
    let around : Surroundings := ⟨⟨.folder [("p",.file "def x = 1\nout x")]⟩,run.around.outlet⟩
    run.session.store.status "p" = .rejected ∧ ∃ schedule final,
      let next := run.session.runBy (fun _ _ => final) around none
      (run.session.ready around none).Completes run.session.settings.plan schedule final ∧
      next.error = none ∧ next.session.store.status "p" = .compiled ∧
      ∀ actions last, (first.ready around.renewed none).Completes first.settings.plan actions last →
        Pool.Uncancelled actions →
        SameRun around.outlet.text next
          (first.runBy (fun _ _ => last) around.renewed none) := by
  intro first run around
  have hran : History first run.session run.around :=
    .ran (fun plan => Pool.complete plan none) none (.built first.settings none rfl)
  have hchanged : History first run.session around := hran.changed _
  obtain ⟨schedule,hc,hu⟩ := run.session.completes around none
  obtain ⟨_,hone⟩ := forgets_earlier_runs hchanged hc
  exact ⟨by decide +kernel,schedule,_,hc,by decide +kernel,by decide +kernel,hone (by decide) hu⟩

end DefOut
