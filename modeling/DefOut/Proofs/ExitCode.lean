import DefOut.Proofs.CommandLine
import DefOut.Proofs.Independence
import DefOut.Proofs.Loading

set_option autoImplicit false

/-!
The exit code of the process. The programs of a loaded project have different names
(`nodup_loadModel`), so a session fails exactly when one of its programs is not compiled
(`error_eq_none_iff_compiled`), whatever the schedule, and the exit code tells this and what became
of the arguments (`exitCode_tells`).
-/
namespace DefOut

/-! ### The names of a project -/

theorem nodup_loadModel {s : Settings} {files : Files} {model : Model}
    (h : (s.loadModel files (some .ofProject)).value = .ok model) :
    (model.programs.map Program.name).Nodup := by
  unfold Settings.loadModel at h
  split at h
  · simp only [Loader.ofProject,Logged.value_bind] at h
    split at h
    · next loaded hl =>
      obtain rfl := Except.ok.inj h
      split at hl
      · next hp =>
        obtain rfl := Except.ok.inj hl
        exact (Project.made_of_load hp).2.names
      · cases hl
    · cases h
  · split at h
    · obtain rfl := Except.ok.inj h
      simp
    · obtain rfl := Except.ok.inj h
      simp

theorem value_start (settings : Settings) (files : Files) (loader : Option Loader) :
    (Session.start settings files loader).value =
      (settings.loadModel files loader).value.map fun model => ⟨settings,model,.empty⟩ := by
  unfold Session.start
  rw [Logged.value_bind,Logged.value_bind]
  cases (settings.loadModel files loader).value <;> rfl

/-! ### Sessions -/

/-- A way of working off pools: every one is taken to its end, and the work is not called off. -/
def Scheduler (work : Plan → Pool → Pool) : Prop :=
  ∀ (plan : Plan) (p : Pool), p.Tidy → ∃ schedule, p.Completes plan schedule (work plan p) ∧
    Pool.Uncancelled schedule

theorem scheduler_complete : Scheduler fun plan => Pool.complete plan none := by
  intro plan p ht
  obtain ⟨schedule,hc,hu⟩ := Pool.completes_complete plan none ht
  exact ⟨schedule,hc,hu rfl⟩

namespace Session
variable {work : Plan → Pool → Pool} {s : Session}

def pool (s : Session) (around : Surroundings) : Pool :=
  .ready s.settings.workerCount s.model.programs {} around none

theorem runBy_eq_ready (work : Pool → Pool) (plan : Plan) (workers : Int)
    (programs : List Program) (backend : Backend) (around : Surroundings)
    (cancelled : Option Cancellation) :
    DefOut.runBy work plan workers programs backend around cancelled =
      DefOut.runBy (fun _ => work (.ready workers programs backend around cancelled)) plan workers
        programs backend around cancelled := by
  unfold DefOut.runBy Pool.ready
  generalize markPending backend programs = r
  obtain ⟨b,_ | _⟩ := r <;> rfl

theorem runBy_of_grants (final : Pool) (around : Surroundings) (cancelled : Option Cancellation)
    (h : s.model.programs ≠ []) (hg : final.backend.Grants) :
    let run := s.runBy (fun _ _ => final) around cancelled
    let store := final.backend.store
    run.session = { s with store := store } ∧ run.around = s.report store final.around ∧
      run.error = (joinErrors (recordedErrors store s.model.programs)).map .ofRun := by
  intro run store
  have he : s.model.programs.isEmpty = false := by simpa using h
  have hs : s.settings.plan.validateOnly = true ∨ s.settings.plan.sink.isSome = true := .inr rfl
  have hstore : (collectErrors final.backend s.model.programs).1.store = store :=
    store_collectErrors _ _
  simp only [run,Session.runBy,he,Bool.false_eq_true,if_false,hstore,
    DefOut.runBy_of_grants s.settings.workerCount s.model.programs around cancelled hs hg]
  cases joinErrors (recordedErrors final.backend.store s.model.programs) <;> exact ⟨rfl,rfl,rfl⟩

theorem runBy_of_scheduler (around : Surroundings) (hw : Scheduler work)
    (h : s.model.programs ≠ []) :
    (s.runBy work around none).session.store =
        (work s.settings.plan (s.pool around)).backend.store ∧
      ((s.runBy work around none).error = none ↔
        recordedErrors (work s.settings.plan (s.pool around)).backend.store s.model.programs =
          []) := by
  obtain ⟨schedule,hc,_⟩ := hw s.settings.plan (s.pool around) (Pool.tidy_start ..)
  have hrun : (DefOut.runBy (work s.settings.plan) s.settings.plan s.settings.workerCount
        s.model.programs {} around none).backend.store =
          (work s.settings.plan (s.pool around)).backend.store ∧
      (DefOut.runBy (work s.settings.plan) s.settings.plan s.settings.workerCount
        s.model.programs {} around none).error =
          joinErrors (recordedErrors (work s.settings.plan (s.pool around)).backend.store
            s.model.programs) := by
    rw [runBy_eq_ready]
    exact runBy_of_perform (.inr rfl) hc.performed
  have he : s.model.programs.isEmpty = false := by simpa using h
  rw [← joinErrors_eq_none_iff,← hrun.2,← hrun.1]
  unfold Session.runBy
  simp only [he,Bool.false_eq_true,if_false]
  split
  · next e hr => simp [hr]
  · next hr => simp [hr]

theorem settled_runBy (around : Surroundings) (hw : Scheduler work)
    (hn : (s.model.programs.map Program.name).Nodup) :
    ∃ schedule, (s.pool around).Completes s.settings.plan schedule
        (work s.settings.plan (s.pool around)) ∧ Pool.Uncancelled schedule ∧
      ∀ job ∈ jobsOf s.model.programs, ∃ status output error,
        Settled s.settings.plan job ((s.pool around).moments s.settings.plan schedule)
          (work s.settings.plan (s.pool around)) status output error ∧
        (s.runBy work around none).session.store.status job.program.name = status := by
  obtain ⟨schedule,hc,hu⟩ := hw s.settings.plan (s.pool around) (Pool.tidy_start ..)
  refine ⟨schedule,hc,hu,fun job hj => ?_⟩
  obtain ⟨status,output,error,h⟩ := settled_of_completes hn hc hj
  have hne : s.model.programs ≠ [] := List.ne_nil_of_mem (program_mem_of_mem_jobsOf hj)
  refine ⟨status,output,error,h,?_⟩
  rw [(runBy_of_scheduler around hw hne).1]
  exact h.status_eq

theorem error_eq_none_iff_compiled (around : Surroundings) (hw : Scheduler work)
    (hn : (s.model.programs.map Program.name).Nodup) :
    (s.runBy work around none).error = none ↔ ∀ p ∈ s.model.programs,
      (s.runBy work around none).session.store.status p.name = .compiled := by
  by_cases hne : s.model.programs = []
  · simp [Session.runBy,hne]
  · obtain ⟨schedule,_,_,hset⟩ := settled_runBy around hw hn
    obtain ⟨hstore,herror⟩ := runBy_of_scheduler around hw hne
    rw [herror,hstore]
    apply recordedErrors_eq_nil_iff
    intro job hj
    obtain ⟨status,output,error,h,_⟩ := hset job hj
    exact ⟨status,output,error,h⟩

end Session

/-! ### The process -/

section process
variable {work : Plan → Pool → Pool} {arguments : List Bytes} {around : Surroundings}

theorem exitCode_runProcessBy (work : Plan → Pool → Pool) (arguments : List Bytes)
    (around : Surroundings) :
    (runProcessBy work .ofProject arguments around).exitCode =
      match (parseArguments arguments).value.1 with
      | .leave => 0
      | .refuse _ => 2
      | .run settings =>
        match (Session.start settings around.files (some .ofProject)).value with
        | .error _ => 1
        | .ok s => if (s.runBy work around none).error.isNone then 0 else 1 := by
  have hprinted : ∀ settings, (parseArguments arguments).value.1 = .run settings →
      (parseArguments arguments).value.2 = [] := fun _ => printed_of_run
  unfold runProcessBy
  generalize (parseArguments arguments).value = parsed at hprinted ⊢
  obtain ⟨request,printed⟩ := parsed
  cases request with
  | leave => rfl
  | refuse e => rfl
  | run settings =>
    -- nothing has been printed, so the surroundings are still those of the beginning
    obtain rfl : printed = [] := hprinted settings rfl
    simp only [List.isEmpty_nil,if_true]
    cases (Session.start settings around.files (some .ofProject)).value with
    | error e => rfl
    | ok s =>
      simp only [ProcessResult.exitCode]
      cases (s.runBy work around none).error <;> rfl

def Loads (arguments : List Bytes) (around : Surroundings) (s : Session) : Prop :=
  (parseArguments arguments).value.1 = .run s.settings ∧
    (Session.start s.settings around.files (some .ofProject)).value = .ok s

theorem settings_of_start {settings : Settings} {files : Files} {loader : Option Loader}
    {s : Session} (h : (Session.start settings files loader).value = .ok s) :
    s.settings = settings ∧ (settings.loadModel files loader).value = .ok s.model := by
  rw [value_start] at h
  cases hm : (settings.loadModel files loader).value with
  | error e => simp [hm,Except.map] at h
  | ok model =>
    obtain rfl := Except.ok.inj (hm ▸ h : Except.map _ (.ok model) = _)
    exact ⟨rfl,rfl⟩

theorem Loads.nodup {s : Session} (h : Loads arguments around s) :
    (s.model.programs.map Program.name).Nodup :=
  nodup_loadModel (settings_of_start h.2).2

theorem loads_iff {settings : Settings} {s : Session}
    (hr : (parseArguments arguments).value.1 = .run settings) :
    Loads arguments around s ↔
      (Session.start settings around.files (some .ofProject)).value = .ok s := by
  constructor
  · rintro ⟨hreq,hs⟩
    obtain rfl := Request.run.inj (hr.symm.trans hreq)
    exact hs
  · intro hs
    obtain ⟨rfl,_⟩ := settings_of_start hs
    exact ⟨hr,hs⟩

theorem exitCode_eq_two_iff (work : Plan → Pool → Pool) (arguments : List Bytes)
    (around : Surroundings) :
    (runProcessBy work .ofProject arguments around).exitCode = 2 ↔
      ∃ e, (parseArguments arguments).value.1 = .refuse e := by
  rw [exitCode_runProcessBy]
  cases (parseArguments arguments).value.1 with
  | leave => simp
  | refuse e => simp
  | run settings =>
    simp only [reduceCtorEq,exists_false,iff_false]
    split
    · simp
    · split <;> simp

theorem exitCode_eq_zero_iff (arguments : List Bytes) (around : Surroundings)
    (hw : Scheduler work) :
    (runProcessBy work .ofProject arguments around).exitCode = 0 ↔
      (parseArguments arguments).value.1 = .leave ∨ ∃ s, Loads arguments around s ∧
        ∀ p ∈ s.model.programs,
          (s.runBy work around none).session.store.status p.name = .compiled := by
  rw [exitCode_runProcessBy]
  cases hr : (parseArguments arguments).value.1 with
  | leave => simp
  | refuse e => simp [Loads,hr]
  | run settings =>
    simp only [loads_iff hr,reduceCtorEq,false_or]
    cases hs : (Session.start settings around.files (some .ofProject)).value with
    | error e => simp
    | ok s =>
      have hiff := Session.error_eq_none_iff_compiled around hw ((loads_iff hr).mpr hs).nodup
      simp only [Except.ok.injEq,exists_eq_left',← hiff]
      cases (s.runBy work around none).error <;> simp

theorem exitCode_le_two (work : Plan → Pool → Pool) (arguments : List Bytes)
    (around : Surroundings) : (runProcessBy work .ofProject arguments around).exitCode ≤ 2 := by
  rw [exitCode_runProcessBy]
  split
  · simp
  · simp
  · split
    · simp
    · split <;> simp

theorem compiled_iff_of_loads (hw : Scheduler work) (hg : ∀ n, around.outlet.grants n = true)
    {s : Session} (hl : Loads arguments around s) : ∃ schedule,
      (s.pool around).Completes s.settings.plan schedule
        (work s.settings.plan (s.pool around)) ∧
      ∀ job ∈ jobsOf s.model.programs,
        ((s.runBy work around none).session.store.status job.program.name = .compiled ↔
          Succeeds s.settings.plan job ((s.pool around).moments s.settings.plan schedule)) ∧
        (s.settings.checkOnly = true ∨ s.settings.stdout = true →
          ((s.runBy work around none).session.store.status job.program.name = .compiled ↔
            ∃ text kept lexemes, job.program.readSource around.files = .ok text ∧
              Trimmed text kept ∧ accept .standard kept = .ok lexemes)) := by
  obtain ⟨schedule,hc,hu,hset⟩ := Session.settled_runBy around hw hl.nodup
  refine ⟨schedule,hc,fun job hj => ?_⟩
  obtain ⟨status,output,error,h,hstatus⟩ := hset job hj
  rw [hstatus]
  refine ⟨h.compiled_iff,fun hmode => ?_⟩
  have hm : s.settings.plan.validateOnly = true ∨ s.settings.plan.sink = some .toOutlet :=
    hmode.imp id fun hout => by simp [Settings.plan,hout]
  have hi := independent_of_unwritten hm s.model.programs hg
  have hsame := settled_uncancelled hl.nodup hi hc hu hj
  rw [← h.status_eq,hsame.status_eq]
  exact process_compiled_iff hm hg job.program

/-- The exit code tells the truth: two for refused arguments, zero for a clean end, one for
everything else. -/
theorem exitCode_tells (arguments : List Bytes) (around : Surroundings) (hw : Scheduler work)
    (hg : ∀ n, around.outlet.grants n = true) :
    let code := (runProcessBy work .ofProject arguments around).exitCode
    (code = 2 ↔ ∃ e, (parseArguments arguments).value.1 = .refuse e) ∧
    (code = 0 ↔ (parseArguments arguments).value.1 = .leave ∨ ∃ s, Loads arguments around s ∧
      ∀ p ∈ s.model.programs,
        (s.runBy work around none).session.store.status p.name = .compiled) ∧
    (code ≠ 2 → code ≠ 0 → code = 1) ∧
    ∀ s, Loads arguments around s → ∃ schedule,
      (s.pool around).Completes s.settings.plan schedule
        (work s.settings.plan (s.pool around)) ∧
      ∀ job ∈ jobsOf s.model.programs,
        ((s.runBy work around none).session.store.status job.program.name = .compiled ↔
          Succeeds s.settings.plan job ((s.pool around).moments s.settings.plan schedule)) ∧
        (s.settings.checkOnly = true ∨ s.settings.stdout = true →
          ((s.runBy work around none).session.store.status job.program.name = .compiled ↔
            ∃ text kept lexemes, job.program.readSource around.files = .ok text ∧
              Trimmed text kept ∧ accept .standard kept = .ok lexemes)) := by
  intro code
  have hle : code ≤ 2 := exitCode_le_two work arguments around
  refine ⟨exitCode_eq_two_iff work arguments around,exitCode_eq_zero_iff arguments around hw,?_,
    fun s hl => compiled_iff_of_loads hw hg hl⟩
  omega

theorem exitCode_tells_rejected :
    let around : Surroundings := ⟨⟨.folder [("a",.file "def x = 1\nout y")]⟩,{}⟩
    let code := (runProcess .ofProject ["-check","a"] around).exitCode
    code = 1 ∧ ¬ ∃ s, Loads ["-check","a"] around s ∧ ∀ p ∈ s.model.programs,
      (s.run around none).session.store.status p.name = .compiled := by
  intro around code
  obtain ⟨_,hzero,hone,_⟩ :=
    exitCode_tells ["-check","a"] around scheduler_complete fun _ => rfl
  have hne : code ≠ 0 := by decide +kernel
  exact ⟨hone (by decide +kernel) hne,fun hs => hne (hzero.mpr (.inr hs))⟩

end process
end DefOut
