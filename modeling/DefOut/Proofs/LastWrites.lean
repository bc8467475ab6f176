import DefOut.Store
import DefOut.Proofs.Entries

set_option autoImplicit false

/-!
The artifact store and its history. Every step adds to what is known of one field of one program or
to nothing (`status_apply`, `output_apply`, `error_apply`), so after any history a field holds what
was written to it last (`eq_last_of_apply`) and the names are those of the programs with a status
(`keys_after`). Answers depend on the history through these alone, so a read does not see what is
written elsewhere (`answerAfter_leave`), and writes about different programs may be exchanged
(`answerAfter_exchange`).
-/
namespace DefOut

inductive StoreStep (ε : Type) where
  | setStatus (program : Bytes) (status : Status)
  | setOutput (program code : Bytes)
  | setError (program : Bytes) (error : Option ε)
  | getStatus (program : Bytes)
  | getOutput (program : Bytes)
  | getError (program : Bytes)
  | getNames

inductive StoreAnswer (ε : Type) where
  | done
  | status (status : Status)
  | output (code : Option Bytes)
  | error (error : Except Store.ErrorAbsent (Option ε))
  | names (programs : List Bytes)

variable {ε : Type}

namespace StoreStep

def apply (s : Store ε) : StoreStep ε → Store ε
  | setStatus program status => s.setStatus program status
  | setOutput program code => s.setOutput program code
  | setError program error => s.setError program error
  | _ => s

def answer (s : Store ε) : StoreStep ε → StoreAnswer ε
  | getStatus program => .status (s.status program)
  | getOutput program => .output (s.output? program)
  | getError program => .error (s.error? program)
  | getNames => .names s.names
  | _ => .done

def statusOf (program : Bytes) : StoreStep ε → Option Status
  | setStatus name status => if name = program then some status else none
  | _ => none

def outputOf (program : Bytes) : StoreStep ε → Option Bytes
  | setOutput name code => if name = program then some code else none
  | _ => none

def errorOf (program : Bytes) : StoreStep ε → Option (Option ε)
  | setError name error => if name = program then some error else none
  | _ => none

def named? : StoreStep ε → Option Bytes
  | setStatus program _ => some program
  | _ => none

def written? : StoreStep ε → Option Bytes
  | setStatus program _ | setOutput program _ | setError program _ => some program
  | _ => none

/-- Whether a step writes what a later one reads: the same field of the same program, or for the
names the status of any program. -/
def shows : StoreStep ε → StoreStep ε → Bool
  | setStatus program _, getStatus name => program == name
  | setOutput program _, getOutput name => program == name
  | setError program _, getError name => program == name
  | setStatus _ _, getNames => true
  | _, _ => false

end StoreStep

namespace Store

def after (s : Store ε) (history : List (StoreStep ε)) : Store ε :=
  history.foldl StoreStep.apply s

def answers (s : Store ε) : List (StoreStep ε) → List (StoreAnswer ε)
  | [] => []
  | step :: rest => step.answer s :: (step.apply s).answers rest

end Store

/-- The answer to a step on a store that was new before this history. -/
def answerAfter (history : List (StoreStep ε)) (step : StoreStep ε) : StoreAnswer ε :=
  step.answer (Store.empty.after history)

theorem getElem?_answers (s : Store ε) (steps : List (StoreStep ε)) (i : Nat) :
    (s.answers steps)[i]? = steps[i]?.map fun step => step.answer (s.after (steps.take i)) := by
  induction steps generalizing s i with
  | nil => rfl
  | cons step rest ih =>
    cases i with
    | zero => rfl
    | succ i => exact ih (step.apply s) i

theorem after_concat (s : Store ε) (history : List (StoreStep ε)) (step : StoreStep ε) :
    s.after (history ++ [step]) = step.apply (s.after history) := by
  simp [Store.after]

/-! ### What a field holds -/

theorem status_apply (program : Bytes) (s : Store ε) (step : StoreStep ε) :
    (step.apply s).statuses.get? program =
      (step.statusOf program).or (s.statuses.get? program) := by
  cases step with
  | setStatus name status =>
    by_cases h : name = program <;>
      simp [StoreStep.apply,StoreStep.statusOf,Store.setStatus,Registry.get?_set,h]
  | _ => rfl

theorem output_apply (program : Bytes) (s : Store ε) (step : StoreStep ε) :
    (step.apply s).outputs.get? program =
      (step.outputOf program).or (s.outputs.get? program) := by
  cases step with
  | setOutput name code =>
    by_cases h : name = program <;>
      simp [StoreStep.apply,StoreStep.outputOf,Store.setOutput,Registry.get?_set,h]
  | _ => rfl

theorem error_apply (program : Bytes) (s : Store ε) (step : StoreStep ε) :
    (step.apply s).errors.get? program = (step.errorOf program).or (s.errors.get? program) := by
  cases step with
  | setError name error =>
    by_cases h : name = program <;>
      simp [StoreStep.apply,StoreStep.errorOf,Store.setError,Registry.get?_set,h]
  | _ => rfl

def lastOf {β : Type} (write : StoreStep ε → Option β) (history : List (StoreStep ε)) : Option β :=
  (history.filterMap write).getLast?

theorem lastOf_concat {β : Type} (write : StoreStep ε → Option β)
    (history : List (StoreStep ε)) (step : StoreStep ε) :
    lastOf write (history ++ [step]) = (write step).or (lastOf write history) := by
  cases h : write step <;> simp [lastOf,h]

/-- A field that holds nothing at first and that each step overwrites or leaves holds the last of the
writes. -/
theorem eq_last_of_apply {β : Type} (field : Store ε → Option β) {write : StoreStep ε → Option β}
    (hempty : field .empty = none)
    (happly : ∀ s step, field (step.apply s) = (write step).or (field s))
    (history : List (StoreStep ε)) :
    field (Store.empty.after history) = lastOf write history := by
  induction history using List.reverseRecOn with
  | nil => exact hempty
  | append_singleton history step ih => rw [after_concat,happly,ih,lastOf_concat]

/-! ### The names -/

theorem keys_apply (s : Store ε) (step : StoreStep ε) :
    (step.apply s).statuses.entries.map Prod.fst =
      match step.named? with
      | none => s.statuses.entries.map Prod.fst
      | some name =>
        if name ∈ s.statuses.entries.map Prod.fst then s.statuses.entries.map Prod.fst
        else s.statuses.entries.map Prod.fst ++ [name] := by
  cases step with
  | setStatus name status => exact Registry.keys_set s.statuses name status
  | _ => rfl

theorem keys_after (history : List (StoreStep ε)) :
    (Store.empty.after history).statuses.entries.map Prod.fst =
      (history.filterMap StoreStep.named?).eraseDups := by
  induction history using List.reverseRecOn with
  | nil => rfl
  | append_singleton history step ih =>
    rw [after_concat,keys_apply,List.filterMap_append,ih]
    cases hn : step.named? with
    | none => simp [hn]
    | some name => simp [hn,eraseDups_concat]

theorem perm_names (s : Store ε) : s.names.Perm (s.statuses.entries.map Prod.fst) :=
  List.mergeSort_perm _ _

theorem mem_names_after {history : List (StoreStep ε)} {name : Bytes} :
    name ∈ (Store.empty.after history).names ↔ name ∈ history.filterMap StoreStep.named? := by
  rw [(perm_names _).mem_iff,keys_after,List.mem_eraseDups]

theorem pairwise_names_after (history : List (StoreStep ε)) :
    (Store.empty.after history).names.Pairwise (· < ·) := by
  have hle : (Store.empty.after history).names.Pairwise (· ≤ ·) := pairwise_mergeSort_le id _
  have hne : (Store.empty.after history).names.Nodup := by
    rw [(perm_names _).nodup_iff,keys_after]
    exact nodup_eraseDups _
  exact hle.imp₂ (fun _ _ hle hne => Std.lt_of_le_of_ne hle hne) hne

theorem mem_filterMap_named?_iff {history : List (StoreStep ε)} {name : Bytes} :
    name ∈ history.filterMap StoreStep.named? ↔ ∃ status, .setStatus name status ∈ history := by
  rw [List.mem_filterMap]
  constructor
  · rintro ⟨step,hm,hn⟩
    cases step with
    | setStatus program status =>
      obtain rfl := Option.some.inj hn
      exact ⟨status,hm⟩
    | _ => cases hn
  · rintro ⟨status,hm⟩
    exact ⟨_,hm,rfl⟩

/-! ### Answers -/

section answers
variable (history : List (StoreStep ε)) (program : Bytes)

theorem answerAfter_getStatus : answerAfter history (.getStatus program) =
    .status ((lastOf (StoreStep.statusOf program) history).getD .pending) := by
  rw [← eq_last_of_apply (fun s : Store ε => s.statuses.get? program) rfl (status_apply program)]
  rfl

theorem answerAfter_getOutput : answerAfter history (.getOutput program) =
    .output (lastOf (StoreStep.outputOf program) history) := by
  rw [← eq_last_of_apply (fun s : Store ε => s.outputs.get? program) rfl (output_apply program)]
  rfl

theorem answerAfter_getError : answerAfter history (.getError program) =
    .error (match lastOf (StoreStep.errorOf program) history with
      | none => .ok none
      | some (some e) => .ok (some e)
      | some none => .error .mk) := by
  rw [← eq_last_of_apply (fun s : Store ε => s.errors.get? program) rfl (error_apply program)]
  rfl

theorem answerAfter_getNames_congr {history others : List (StoreStep ε)}
    (h : ∀ name, name ∈ history.filterMap StoreStep.named? ↔
      name ∈ others.filterMap StoreStep.named?) :
    answerAfter history .getNames = answerAfter others .getNames := by
  have hnames := eq_of_pairwise_lt id (pairwise_names_after history) (pairwise_names_after others)
    fun name => mem_names_after.trans ((h name).trans mem_names_after.symm)
  exact congrArg StoreAnswer.names hnames

end answers

/-! ### Steps that are not seen, and steps that are exchanged -/

section histories
variable {earlier later : List (StoreStep ε)} {step step' : StoreStep ε} {program : Bytes}

theorem lastOf_leave {β : Type} {write : StoreStep ε → Option β} (h : write step = none) :
    lastOf write (earlier ++ step :: later) = lastOf write (earlier ++ later) := by
  simp [lastOf,h]

theorem answerAfter_leave {read : StoreStep ε} (h : step.shows read = false) :
    answerAfter (earlier ++ step :: later) read = answerAfter (earlier ++ later) read := by
  cases read with
  | getStatus program =>
    have hnone : step.statusOf program = none := by
      cases step <;> simp_all [StoreStep.shows,StoreStep.statusOf]
    rw [answerAfter_getStatus,answerAfter_getStatus,lastOf_leave hnone]
  | getOutput program =>
    have hnone : step.outputOf program = none := by
      cases step <;> simp_all [StoreStep.shows,StoreStep.outputOf]
    rw [answerAfter_getOutput,answerAfter_getOutput,lastOf_leave hnone]
  | getError program =>
    have hnone : step.errorOf program = none := by
      cases step <;> simp_all [StoreStep.shows,StoreStep.errorOf]
    rw [answerAfter_getError,answerAfter_getError,lastOf_leave hnone]
  | getNames =>
    have hnone : step.named? = none := by
      cases step <;> simp_all [StoreStep.shows,StoreStep.named?]
    exact answerAfter_getNames_congr fun name => by simp [hnone]
  | _ => rfl

theorem exists_program_of_shows {read : StoreStep ε} (hr : read ≠ .getNames) :
    ∃ program, ∀ step : StoreStep ε, step.shows read = true → step.written? = some program := by
  cases read with
  | getStatus program | getOutput program | getError program =>
    refine ⟨program,fun step h => ?_⟩
    cases step <;> simp_all [StoreStep.shows,StoreStep.written?]
  | getNames => exact absurd rfl hr
  | _ =>
    refine ⟨[],fun step h => ?_⟩
    cases step <;> cases h

theorem answerAfter_exchange (h : step.written? ≠ step'.written?) (read : StoreStep ε) :
    answerAfter (earlier ++ step :: step' :: later) read =
      answerAfter (earlier ++ step' :: step :: later) read := by
  by_cases hr : read = .getNames
  · subst hr
    refine answerAfter_getNames_congr fun name => ?_
    exact (((List.Perm.swap step' step later).append_left earlier).filterMap _).mem_iff
  · obtain ⟨program,hprogram⟩ := exists_program_of_shows hr
    cases hs : step.shows read with
    | false =>
      rw [answerAfter_leave hs,List.append_cons earlier step' (step :: later),
        answerAfter_leave hs,← List.append_cons]
    | true =>
      -- the read sees the first step, which is about the same program, so it cannot see the other
      have hs' : step'.shows read = false := by
        by_contra hne
        exact h ((hprogram step hs).trans (hprogram step' (by simpa using hne)).symm)
      rw [answerAfter_leave hs',List.append_cons earlier step (step' :: later),
        answerAfter_leave hs',← List.append_cons]

end histories

/-- The store answers by its history. In any sequence of steps on a new store every read tells what
was written last of the same field for the same program; reading back an error goes wrong exactly
where the last one was recorded as absent; and the names are those of the programs with a status,
each once, in increasing order. No read sees a write about another program or to another field, and
writes about different programs may be exchanged unseen. -/
theorem answers_by_last_writes (ε : Type) :
    (∀ (steps : List (StoreStep ε)) (i : Nat),
      (Store.empty.answers steps)[i]? = steps[i]?.map (answerAfter (steps.take i))) ∧
    (∀ (history : List (StoreStep ε)) (program : Bytes),
      let lastStatus := lastOf (StoreStep.statusOf program) history
      let lastOutput := lastOf (StoreStep.outputOf program) history
      let lastError := lastOf (StoreStep.errorOf program) history
      answerAfter history (.getStatus program) = .status (lastStatus.getD .pending) ∧
      answerAfter history (.getOutput program) = .output lastOutput ∧
      (answerAfter history (.getError program) = .error (.error .mk) ↔ lastError = some none) ∧
      (lastError ≠ some none →
        answerAfter history (.getError program) = .error (.ok lastError.join))) ∧
    (∀ history : List (StoreStep ε), ∃ names, answerAfter history .getNames = .names names ∧
      names.Pairwise (· < ·) ∧
      ∀ name, name ∈ names ↔ ∃ status, .setStatus name status ∈ history) ∧
    (∀ (earlier later : List (StoreStep ε)) (step read : StoreStep ε), step.shows read = false →
      answerAfter (earlier ++ step :: later) read = answerAfter (earlier ++ later) read) ∧
    ∀ (earlier later : List (StoreStep ε)) (step step' read : StoreStep ε),
      step.written? ≠ step'.written? →
      answerAfter (earlier ++ step :: step' :: later) read =
        answerAfter (earlier ++ step' :: step :: later) read := by
  refine ⟨getElem?_answers _,fun history program => ?_,fun history => ?_,
    fun _ _ _ _ => answerAfter_leave,fun _ _ _ _ read h => answerAfter_exchange h read⟩
  · refine ⟨answerAfter_getStatus history program,answerAfter_getOutput history program,?_,?_⟩
    all_goals
      rw [answerAfter_getError]
      cases lastOf (StoreStep.errorOf program) history with
      | none => simp
      | some error => cases error <;> simp
  · exact ⟨_,rfl,pairwise_names_after history,fun name =>
      mem_names_after.trans mem_filterMap_named?_iff⟩

/-- Overwritten fields, an error recorded as absent, and a program that has an output only. -/
theorem answers_by_last_writes_overwritten :
    let first : StoreStep Bytes := .setStatus "b" .running
    let second : StoreStep Bytes := .setError "a" none
    let rest : List (StoreStep Bytes) :=
      [.setOutput "c" "x",.setError "b" (some "y"),.setStatus "b" .compiled]
    let history := first :: second :: rest
    answerAfter history (.getStatus "b") = .status .compiled ∧
    answerAfter history (.getStatus "c") = .status .pending ∧
    answerAfter history (.getError "a") = .error (.error .mk) ∧
    answerAfter history (.getError "b") = .error (.ok (some "y")) ∧
    (∃ names, answerAfter history .getNames = .names names ∧ ("c" : Bytes) ∉ names) ∧
    answerAfter history (.getOutput "c") = answerAfter (second :: rest) (.getOutput "c") ∧
    answerAfter history .getNames = answerAfter (second :: first :: rest) .getNames := by
  intro first second rest history
  obtain ⟨_,hfields,hnames,hleave,hexchange⟩ := answers_by_last_writes Bytes
  obtain ⟨hb,_,_,hberror⟩ := hfields history "b"
  obtain ⟨hc,_,_,_⟩ := hfields history "c"
  obtain ⟨_,_,haerror,_⟩ := hfields history "a"
  obtain ⟨names,hn,_,hmem⟩ := hnames history
  refine ⟨hb,hc,haerror.mpr (by decide),hberror (by decide),⟨names,hn,?_⟩,?_,?_⟩
  · have hne : Bytes.ofString "c" ≠ Bytes.ofString "b" := by decide
    rw [hmem]
    rintro ⟨status,hs⟩
    simp [history,first,second,rest,hne] at hs
  · exact hleave [] (second :: rest) first (.getOutput "c") rfl
  · exact hexchange [] rest first second .getNames (by decide)

end DefOut
