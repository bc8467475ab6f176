import DefOut.Proofs.Runs
import Mathlib.Data.List.Induction

set_option autoImplicit false

/-!
Processing programs one after the other (`inOrder`). When the outcome of no program depends on the
processing of others (`Independent`), each has the outcome that it has alone (`entry_inOrder`).
-/
namespace DefOut

structure Outcome where
  status : Status
  output : Option Bytes
  error : Option ProgramError
  deriving DecidableEq

def Program.deliver (plan : Plan) (around : Surroundings) (p : Program) (code : Bytes) :
    Outcome × Surroundings :=
  match plan.sink with
  | none => (⟨.compiled,some code,none⟩,around)
  | some sink =>
    match (sink.emit p code around).value with
    | (around,.ok ()) => (⟨.compiled,some code,none⟩,around)
    | (around,.error e) => (⟨.failed,some code,some (.notEmitted p.name e)⟩,around)

/-- Process one program to its end: read it, check it and, unless programs are only checked,
hand its code to the sink. -/
def Program.process (plan : Plan) (around : Surroundings) (p : Program) :
    Outcome × Surroundings :=
  match p.readSource around.files with
  | .error e => (⟨.failed,none,some (.unreadable e)⟩,around)
  | .ok text =>
    match accept plan.table (trimLineEnds text) with
    | .error r => (⟨.rejected,none,some (.rejected p.name r)⟩,around)
    | .ok lexemes =>
      if plan.validateOnly then (⟨.compiled,none,none⟩,around)
      else p.deliver plan around (generate plan.table lexemes)

def surroundingsAfter (plan : Plan) (programs : List Program) (around : Surroundings) :
    Surroundings :=
  programs.foldl (fun around p => (p.process plan around).2) around

/-- When the sink refuses code here, no rejection is among the causes of its error. -/
def Plan.SinkRejectsNothing (plan : Plan) (around : Surroundings) : Prop :=
  ∀ sink p code e, plan.sink = some sink → (sink.emit p code around).value.2 = .error e →
    e.isRejection = false

/-- The outcome of no program depends on which others have been processed before it. -/
def Independent (plan : Plan) (programs : List Program) (around : Surroundings) : Prop :=
  ∀ p others, (p :: others).Nodup → p :: others ⊆ programs →
    (p.process plan (surroundingsAfter plan others around)).1 = (p.process plan around).1

namespace Outcome

/-- The status of a program and its error tell the same. An error has a rejection among its causes
when the program is rejected by the check, or when the sink has put one there. -/
structure Coherent (o : Outcome) (program : Bytes) : Prop where
  final : o.status = .compiled ∨ o.status = .rejected ∨ o.status = .failed
  error_eq_none_iff : o.error = none ↔ o.status = .compiled
  rejected_iff : o.status = .rejected ↔ ∃ r, o.error = some (.rejected program r)
  isRejection_iff : (∃ e, o.error = some e ∧ e.isRejection = true) ↔ o.status = .rejected ∨
    o.status = .failed ∧ ∃ cause, o.error = some (.notEmitted program cause) ∧
      cause.isRejection = true

def entry (o : Outcome) : Entry := ⟨some o.status,o.output,o.error.map some⟩

def record (o : Outcome) (name : Bytes) (s : Store ProgramError) : Store ProgramError where
  statuses := s.statuses.set name o.status
  outputs := o.output.elim s.outputs (s.outputs.set name)
  errors := o.error.elim s.errors fun e => s.errors.set name (some e)

end Outcome

def inOrder (plan : Plan) (programs : List Program) (around : Surroundings) :
    Store ProgramError × Surroundings :=
  programs.foldl (fun x p =>
    ((p.process plan x.2).1.record p.name x.1,(p.process plan x.2).2)) (.empty,around)

/-! ### One program -/

namespace Program
variable {plan : Plan} {around : Surroundings} {p : Program}

theorem deliver_output (plan : Plan) (around : Surroundings) (p : Program) (code : Bytes) :
    (p.deliver plan around code).1.output = some code := by
  unfold deliver
  split
  · rfl
  · split <;> rfl

theorem deliver_surroundings (plan : Plan) (around : Surroundings) (job : Job) (code : Bytes) :
    (job.program.deliver plan around code).2 = plan.deliver around (job,code) := by
  unfold deliver Plan.deliver
  cases plan.sink with
  | none => rfl
  | some sink =>
    simp only
    generalize (sink.emit job.program code around).value = r
    obtain ⟨after,_ | _⟩ := r <;> rfl

theorem deliver_of_ok {code : Bytes} (h : ∀ sink, plan.sink = some sink →
    (sink.emit p code around).value.2 = .ok ()) :
    (p.deliver plan around code).1 = ⟨.compiled,some code,none⟩ := by
  unfold deliver
  cases hs : plan.sink with
  | none => rfl
  | some sink =>
    have hok := h sink hs
    simp only
    generalize (sink.emit p code around).value = r at hok ⊢
    obtain ⟨after,_ | _⟩ := r
    · cases hok
    · rfl

theorem deliver_of_error {sink : Sink} {code : Bytes} {e : EmitError} (hs : plan.sink = some sink)
    (h : (sink.emit p code around).value.2 = .error e) :
    (p.deliver plan around code).1 = ⟨.failed,some code,some (.notEmitted p.name e)⟩ := by
  simp only [deliver,hs]
  generalize (sink.emit p code around).value = r at h ⊢
  obtain ⟨after,_ | _⟩ := r
  · obtain rfl := Except.error.inj h
    rfl
  · cases h

theorem process_of_accept {text lexemes : Bytes} (hr : p.readSource around.files = .ok text)
    (ha : accept plan.table (trimLineEnds text) = .ok lexemes) (hv : plan.validateOnly = false) :
    p.process plan around = p.deliver plan around (generate plan.table lexemes) := by
  simp [process,hr,ha,hv]

theorem process_output_iff (plan : Plan) (around : Surroundings) (p : Program) (code : Bytes) :
    (p.process plan around).1.output = some code ↔ plan.validateOnly = false ∧
      ∃ text kept lexemes, p.readSource around.files = .ok text ∧ Trimmed text kept ∧
        accept plan.table kept = .ok lexemes ∧ code = generate plan.table lexemes := by
  cases hr : p.readSource around.files with
  | error e => simp [process,hr]
  | ok text =>
    cases ha : accept plan.table (trimLineEnds text) with
    | error r =>
      simp only [process,hr,ha]
      simp only [reduceCtorEq,Except.ok.injEq,false_iff,not_and,not_exists]
      rintro _ other kept lexemes rfl ht hac
      obtain rfl := trimmed_iff.mp ht
      simp [ha] at hac
    | ok lexemes =>
      cases hv : plan.validateOnly with
      | true => simp [process,hr,ha,hv]
      | false =>
        rw [process_of_accept hr ha hv,deliver_output]
        simp only [Option.some.injEq,Except.ok.injEq,true_and]
        constructor
        · rintro rfl
          exact ⟨text,_,lexemes,rfl,trimmed_trimLineEnds text,ha,rfl⟩
        · rintro ⟨_,kept,_,rfl,ht,hac,rfl⟩
          obtain rfl := trimmed_iff.mp ht
          rw [Except.ok.inj (ha.symm.trans hac)]

theorem process_of_output {code : Bytes} (h : (p.process plan around).1.output = some code) :
    p.process plan around = p.deliver plan around code := by
  obtain ⟨hv,text,kept,lexemes,hr,ht,ha,rfl⟩ := (process_output_iff plan around p code).mp h
  obtain rfl := trimmed_iff.mp ht
  exact process_of_accept hr ha hv

theorem coherent_compiled (output : Option Bytes) (name : Bytes) :
    Outcome.Coherent ⟨.compiled,output,none⟩ name :=
  ⟨by simp,by simp,by simp,by simp⟩

theorem deliver_coherent (plan : Plan) (around : Surroundings) (p : Program) (code : Bytes) :
    (p.deliver plan around code).1.Coherent p.name := by
  unfold deliver
  split
  · exact coherent_compiled _ _
  · split
    · exact coherent_compiled _ _
    · exact ⟨by simp,by simp,by simp,by simp [ProgramError.isRejection]⟩

theorem process_coherent (plan : Plan) (around : Surroundings) (p : Program) :
    (p.process plan around).1.Coherent p.name := by
  unfold process
  split
  · exact ⟨by simp,by simp,by simp,by simp [ProgramError.isRejection]⟩
  · split
    · exact ⟨by simp,by simp,by simp,by simp [ProgramError.isRejection]⟩
    · split
      · exact coherent_compiled _ _
      · exact deliver_coherent plan around p _

theorem deliver_notEmitted {code : Bytes} {cause : EmitError}
    (h : (p.deliver plan around code).1.error = some (.notEmitted p.name cause)) :
    ∃ sink, plan.sink = some sink ∧ (sink.emit p code around).value.2 = .error cause := by
  unfold deliver at h
  split at h
  · cases h
  · next sink hsink =>
    split at h
    · cases h
    · next e he =>
      obtain rfl : e = cause := by simpa using h
      exact ⟨sink,hsink,by rw [he]⟩

theorem process_notEmitted {cause : EmitError}
    (h : (p.process plan around).1.error = some (.notEmitted p.name cause)) :
    ∃ sink code, plan.sink = some sink ∧ (sink.emit p code around).value.2 = .error cause := by
  unfold process at h
  split at h
  · cases h
  · split at h
    · cases h
    · split at h
      · cases h
      · obtain ⟨sink,hs,he⟩ := deliver_notEmitted h
        exact ⟨sink,_,hs,he⟩

theorem process_rejected_iff (hs : plan.SinkRejectsNothing around) :
    (p.process plan around).1.status = .rejected ↔
      ∃ e, (p.process plan around).1.error = some e ∧ e.isRejection = true := by
  rw [(process_coherent plan around p).isRejection_iff]
  refine ⟨.inl,fun h => h.elim id ?_⟩
  rintro ⟨_,cause,he,hc⟩
  obtain ⟨sink,code,hsink,hemit⟩ := process_notEmitted he
  rw [hs sink p code cause hsink hemit] at hc
  cases hc

end Program

/-! ### One program after the other -/

section inOrder
variable {plan : Plan} {programs : List Program} {around : Surroundings}

theorem surroundings_inOrder (plan : Plan) (programs : List Program) (around : Surroundings) :
    (inOrder plan programs around).2 = surroundingsAfter plan programs around := by
  induction programs using List.reverseRecOn with
  | nil => rfl
  | append_singleton before p ih =>
    simp only [inOrder,surroundingsAfter,List.foldl_append,List.foldl_cons,List.foldl_nil] at ih ⊢
    rw [ih]

theorem inOrder_concat (plan : Plan) (before : List Program) (p : Program)
    (around : Surroundings) :
    (inOrder plan (before ++ [p]) around).1 =
      (p.process plan (surroundingsAfter plan before around)).1.record p.name
        (inOrder plan before around).1 := by
  rw [← surroundings_inOrder]
  simp [inOrder]

theorem Outcome.entry_record (o : Outcome) (name : Bytes) (s : Store ProgramError) (other : Bytes)
    (h : s.entry name = ⟨none,none,none⟩) :
    (o.record name s).entry other = if name = other then o.entry else s.entry other := by
  obtain ⟨status,output,error⟩ := o
  by_cases hn : name = other
  · subst hn
    simp only [Store.entry,Entry.mk.injEq] at h
    cases output <;> cases error <;>
      simp [record,entry,Store.entry,Registry.get?_set,h]
  · cases output <;> cases error <;> simp [record,Store.entry,Registry.get?_set,hn]

theorem Independent.of_subset {others : List Program} (h : Independent plan programs around)
    (hs : others ⊆ programs) : Independent plan others around :=
  fun p before hd hp => h p before hd fun _ hq => hs (hp hq)

theorem entry_inOrder (hn : (programs.map Program.name).Nodup)
    (hi : Independent plan programs around) :
    (∀ p ∈ programs, (inOrder plan programs around).1.entry p.name =
        (p.process plan around).1.entry) ∧
      ∀ name, name ∉ programs.map Program.name →
        (inOrder plan programs around).1.entry name = ⟨none,none,none⟩ := by
  induction programs using List.reverseRecOn with
  | nil => exact ⟨by simp,fun _ _ => rfl⟩
  | append_singleton before p ih =>
    have hn' : (before.map Program.name ++ [p.name]).Nodup := by simpa using hn
    obtain ⟨hb,_,hdis⟩ := List.nodup_append'.mp hn'
    have hfresh : p.name ∉ before.map Program.name := fun hm => hdis hm (by simp)
    have hpb : p ∉ before := fun hm => hfresh (List.mem_map_of_mem hm)
    obtain ⟨hin,hout⟩ := ih hb (hi.of_subset (by simp))
    -- the program comes after those in `before`: this is what independence is about
    have ho := hi p before (List.nodup_cons.mpr ⟨hpb,List.Nodup.of_map _ hb⟩) (by simp)
    have hrec := fun name => (p.process plan around).1.entry_record p.name
      (inOrder plan before around).1 name (hout p.name hfresh)
    rw [inOrder_concat,ho]
    refine ⟨fun q hq => ?_,fun name hname => ?_⟩
    · rw [hrec]
      obtain hq | hq := List.mem_append.mp hq
      · rw [if_neg,hin q hq]
        exact fun he => hfresh (he ▸ List.mem_map_of_mem hq)
      · obtain rfl := List.mem_singleton.mp hq
        rw [if_pos rfl]
    · rw [hrec]
      simp only [List.map_append,List.map_cons,List.map_nil,List.mem_append,List.mem_singleton,
        not_or] at hname
      rw [if_neg (Ne.symm hname.2),hout name hname.1]

end inOrder

/-! ### The names of a store -/

def Store.keys (s : Store ProgramError) : List Bytes := s.statuses.entries.map Prod.fst

theorem keys_setStatus_of_not_mem {s : Store ProgramError} {name : Bytes} (status : Status)
    (h : name ∉ s.keys) : (s.setStatus name status).keys = s.keys ++ [name] :=
  (Registry.keys_set _ _ _).trans (if_neg h)

theorem keys_inOrder (plan : Plan) {programs : List Program} (around : Surroundings)
    (hn : (programs.map Program.name).Nodup) :
    (inOrder plan programs around).1.keys = programs.map Program.name := by
  induction programs using List.reverseRecOn with
  | nil => rfl
  | append_singleton before p ih =>
    have hn' : (before.map Program.name ++ [p.name]).Nodup := by simpa using hn
    obtain ⟨hb,_,hdis⟩ := List.nodup_append'.mp hn'
    have hfresh : p.name ∉ (inOrder plan before around).1.keys := by
      rw [ih hb]
      exact fun hm => hdis hm (by simp)
    have hset := keys_setStatus_of_not_mem
      (p.process plan (surroundingsAfter plan before around)).1.status hfresh
    rw [inOrder_concat,List.map_append,← ih hb]
    exact hset

end DefOut
