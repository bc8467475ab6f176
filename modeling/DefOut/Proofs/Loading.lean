import DefOut.Project.Load
import DefOut.Proofs.CleanPaths
import DefOut.Proofs.Entries
import Mathlib.Data.List.Forall2
import Mathlib.Data.List.Nodup

set_option autoImplicit false

/-!
What comes of the declarations of a project. A declaration makes a program (`Declaration.Makes`) or
fails (`Declaration.Fails`); one after the other they make programs, up to the first one at which
the loading stops (`Stops`). So a project is loaded exactly when every declaration makes a program
and no two have one name or one output, and then there is one program for every program block of
its files, in their order (`load_translates`).
-/
namespace DefOut

namespace Project

theorem map_eq_of_forall₂ {α β γ : Type} {R : α → β → Prop} {f : α → γ} {g : β → γ}
    (hR : ∀ a b, R a b → g b = f a) {as : List α} {bs : List β} (h : List.Forall₂ R as bs) :
    bs.map g = as.map f := by
  induction h with
  | nil => rfl
  | cons hab _ ih => rw [List.map_cons,List.map_cons,hR _ _ hab,ih]

theorem exists_forall₂_iff {α β : Type} {R : α → β → Prop} {as : List α} :
    (∃ bs, List.Forall₂ R as bs) ↔ ∀ a ∈ as, ∃ b, R a b := by
  induction as with
  | nil => simp
  | cons a rest ih =>
    rw [List.forall_mem_cons,← ih]
    constructor
    · rintro ⟨_,h⟩
      cases h with
      | cons hb hbs => exact ⟨⟨_,hb⟩,_,hbs⟩
    · rintro ⟨⟨b,hb⟩,bs,hbs⟩
      exact ⟨b :: bs,.cons hb hbs⟩

/-! ### One declaration -/

namespace Declaration

def outputPath (d : Declaration) (given : Option Bytes) : Bytes :=
  Path.resolve (Path.directory d.file) (match given with
    | none | some [] => d.name ++ ".cpp"
    | some path => path)

/-- The program that a declaration makes: its arguments can be read, and one of the two sources is
given. -/
inductive Makes (read : ArgumentReader) (d : Declaration) : Program → Prop
  | inline {text : Bytes} {given : Option Bytes} :
      (read "source" d.source).value = .ok (some text) →
      (read "source_file" d.sourceFile).value = .ok none →
      (read "output" d.output).value = .ok given →
      Makes read d ⟨d.name,text,[],d.outputPath given,d.file⟩
  | fromFile {path : Bytes} {given : Option Bytes} :
      (read "source" d.source).value = .ok none →
      (read "source_file" d.sourceFile).value = .ok (some path) →
      (read "output" d.output).value = .ok given →
      Makes read d
        ⟨d.name,[],Path.resolve (Path.directory d.file) path,d.outputPath given,d.file⟩

/-- Why a declaration makes no program: the first argument that cannot be read, or the number of
its sources. -/
inductive Fails (read : ArgumentReader) (d : Declaration) : DeclarationError → Prop
  | source {e : ArgumentError} : (read "source" d.source).value = .error e →
      Fails read d (.argument e)
  | sourceFile {text : Option Bytes} {e : ArgumentError} :
      (read "source" d.source).value = .ok text →
      (read "source_file" d.sourceFile).value = .error e → Fails read d (.argument e)
  | output {text path : Option Bytes} {e : ArgumentError} :
      (read "source" d.source).value = .ok text →
      (read "source_file" d.sourceFile).value = .ok path →
      (read "output" d.output).value = .error e → Fails read d (.argument e)
  | twoSources {text path : Bytes} {given : Option Bytes} :
      (read "source" d.source).value = .ok (some text) →
      (read "source_file" d.sourceFile).value = .ok (some path) →
      (read "output" d.output).value = .ok given → Fails read d .twoSources
  | noSource {given : Option Bytes} : (read "source" d.source).value = .ok none →
      (read "source_file" d.sourceFile).value = .ok none →
      (read "output" d.output).value = .ok given → Fails read d .noSource

def Evaluates (read : ArgumentReader) (d : Declaration) : Prop :=
  ∃ source sourceFile output, (read "source" d.source).value = .ok source ∧
    (read "source_file" d.sourceFile).value = .ok sourceFile ∧
    (read "output" d.output).value = .ok output ∧ (source.isSome ↔ sourceFile.isNone)

def resolvedOutput (read : ArgumentReader) (d : Declaration) : Bytes :=
  d.outputPath (read "output" d.output).value.toOption.join

variable {read : ArgumentReader} {d : Declaration} {p : Program}

theorem value_resolve (read : ArgumentReader) (d : Declaration) :
    (d.resolve read).value =
      match (read "source" d.source).value, (read "source_file" d.sourceFile).value,
        (read "output" d.output).value with
      | .error e, _, _ => .error (.argument e)
      | .ok _, .error e, _ => .error (.argument e)
      | .ok _, .ok _, .error e => .error (.argument e)
      | .ok source, .ok sourceFile, .ok output => d.program source sourceFile output := by
  unfold resolve
  simp only [Logged.value_bind]
  cases (read "source" d.source).value with
  | error e => rfl
  | ok source =>
    simp only [Logged.value_bind]
    cases (read "source_file" d.sourceFile).value with
    | error e => rfl
    | ok sourceFile =>
      simp only [Logged.value_bind]
      cases (read "output" d.output).value with
      | error e => rfl
      | ok output =>
        simp only
        cases d.program source sourceFile output <;> rfl

theorem outputPath_eq (d : Declaration) (given : Option Bytes) :
    Path.resolve (Path.directory d.file)
        (if (given.getD []).isEmpty then d.name ++ ".cpp" else given.getD []) =
      d.outputPath given := by
  unfold outputPath
  cases given with
  | none => rfl
  | some path => cases path <;> rfl

theorem Makes.resolve (h : d.Makes read p) : (d.resolve read).value = .ok p := by
  cases h with
  | @inline text given hs hf ho =>
    rw [value_resolve,hs,hf,ho,← outputPath_eq]
    rfl
  | @fromFile path given hs hf ho =>
    rw [value_resolve,hs,hf,ho,← outputPath_eq]
    rfl

theorem Fails.resolve {e : DeclarationError} (h : d.Fails read e) :
    (d.resolve read).value = .error e := by
  cases h with
  | source hs => rw [value_resolve,hs]
  | sourceFile hs hf => rw [value_resolve,hs,hf]
  | output hs hf ho => rw [value_resolve,hs,hf,ho]
  | twoSources hs hf ho =>
    rw [value_resolve,hs,hf,ho]
    rfl
  | noSource hs hf ho =>
    rw [value_resolve,hs,hf,ho]
    rfl

theorem fails_or_makes (read : ArgumentReader) (d : Declaration) :
    (∃ e, d.Fails read e) ∨ ∃ p, d.Makes read p := by
  cases hs : (read "source" d.source).value with
  | error e => exact .inl ⟨_,.source hs⟩
  | ok source =>
    cases hf : (read "source_file" d.sourceFile).value with
    | error e => exact .inl ⟨_,.sourceFile hs hf⟩
    | ok sourceFile =>
      cases ho : (read "output" d.output).value with
      | error e => exact .inl ⟨_,.output hs hf ho⟩
      | ok given =>
        cases source with
        | none =>
          cases sourceFile with
          | none => exact .inl ⟨_,.noSource hs hf ho⟩
          | some path => exact .inr ⟨_,.fromFile hs hf ho⟩
        | some text =>
          cases sourceFile with
          | none => exact .inr ⟨_,.inline hs hf ho⟩
          | some path => exact .inl ⟨_,.twoSources hs hf ho⟩

theorem Makes.unique {q : Program} (hp : d.Makes read p) (hq : d.Makes read q) : p = q :=
  Except.ok.inj (hp.resolve.symm.trans hq.resolve)

theorem Makes.name_eq (h : d.Makes read p) : p.name = d.name := by
  cases h <;> rfl

theorem Makes.output_eq (h : d.Makes read p) : p.output = d.resolvedOutput read := by
  unfold resolvedOutput
  cases h with
  | inline _ _ ho => simp [ho,Except.toOption]
  | fromFile _ _ ho => simp [ho,Except.toOption]

theorem exists_makes_iff : (∃ p, d.Makes read p) ↔ d.Evaluates read := by
  constructor
  · rintro ⟨p,h⟩
    cases h with
    | inline hs hf ho => exact ⟨_,_,_,hs,hf,ho,by simp⟩
    | fromFile hs hf ho => exact ⟨_,_,_,hs,hf,ho,by simp⟩
  · rintro ⟨source,sourceFile,given,hs,hf,ho,hone⟩
    cases source with
    | none =>
      cases sourceFile with
      | none => simp at hone
      | some path => exact ⟨_,.fromFile hs hf ho⟩
    | some text =>
      cases sourceFile with
      | none => exact ⟨_,.inline hs hf ho⟩
      | some path => simp at hone

theorem Makes.fields (h : d.Makes read p) : p.output ≠ [] ∧ p.definedIn = d.file ∧
    (p.sourceFile = [] ∨ p.source = [] ∧ p.sourceFile ≠ []) := by
  have hdir := Path.directory_ne_nil d.file
  cases h with
  | inline => exact ⟨Path.resolve_ne_nil hdir _,rfl,.inl rfl⟩
  | fromFile => exact ⟨Path.resolve_ne_nil hdir _,rfl,.inr ⟨rfl,Path.resolve_ne_nil hdir _⟩⟩

end Declaration

/-! ### One declaration after the other -/

structure Apart (programs : List Program) : Prop where
  names : (programs.map Program.name).Nodup
  outputs : (programs.map Program.output).Nodup

/-- Why the loading stops at a declaration behind the programs that are done: its name is looked at
first, then its arguments, and last the output of its program. -/
inductive Stops (read : ArgumentReader) (done : List Program) (d : Declaration) : LoadError → Prop
  | sameName {first : Program} : first ∈ done → first.name = d.name →
      Stops read done d (.duplicateProgram d.name d.file first.definedIn)
  | unmade {e : DeclarationError} : (∀ q ∈ done, q.name ≠ d.name) → d.Fails read e →
      Stops read done d (.declaration d.name e)
  | sameOutput {p first : Program} : (∀ q ∈ done, q.name ≠ d.name) → d.Makes read p →
      first ∈ done → first.output = p.output → Stops read done d (.duplicateOutput p first)

structure Adds (read : ArgumentReader) (done : List Program) (d : Declaration) (p : Program) :
    Prop where
  name_ne : ∀ q ∈ done, q.name ≠ d.name
  makes : d.Makes read p
  output_ne : ∀ q ∈ done, q.output ≠ p.output

section collect
variable {read : ArgumentReader} {done made : List Program} {d : Declaration} {p : Program}
  {rest declarations : List Declaration} {e : LoadError}

theorem stops_or_adds (read : ArgumentReader) (done : List Program) (d : Declaration) :
    (∃ e, Stops read done d e) ∨ ∃ p, Adds read done d p := by
  by_cases hn : ∀ q ∈ done, q.name ≠ d.name
  · obtain ⟨e,he⟩ | ⟨p,hp⟩ := d.fails_or_makes read
    · exact .inl ⟨_,.unmade hn he⟩
    · by_cases ho : ∀ q ∈ done, q.output ≠ p.output
      · exact .inr ⟨p,hn,hp,ho⟩
      · simp only [not_forall,not_not] at ho
        obtain ⟨first,hf,he⟩ := ho
        exact .inl ⟨_,.sameOutput hn hp hf he⟩
  · simp only [not_forall,not_not] at hn
    obtain ⟨first,hf,he⟩ := hn
    exact .inl ⟨_,.sameName hf he⟩

theorem find?_eq_none_of_ne {key : Program → Bytes} {text : Bytes}
    (h : ∀ q ∈ done, key q ≠ text) : done.find? (fun q => key q == text) = none := by
  simpa using h

theorem Stops.collect (h : Stops read done d e) (ha : Apart done) :
    (collectPrograms read (d :: rest) done).value = .error e := by
  unfold collectPrograms
  cases h with
  | @sameName first hf he =>
    rw [find?_eq_of_nodup ha.names hf he]
    rfl
  | unmade hn hd =>
    rw [find?_eq_none_of_ne hn]
    simp only [Logged.value_bind,hd.resolve]
    rfl
  | @sameOutput p first hn hp hf he =>
    rw [find?_eq_none_of_ne hn]
    simp only [Logged.value_bind,hp.resolve,find?_eq_of_nodup ha.outputs hf he]
    rfl

theorem Adds.collect (h : Adds read done d p) :
    (collectPrograms read (d :: rest) done).value =
      (collectPrograms read rest (done ++ [p])).value := by
  rw [collectPrograms,find?_eq_none_of_ne h.name_ne]
  simp only [Logged.value_bind,h.makes.resolve,find?_eq_none_of_ne h.output_ne]

theorem Adds.apart (h : Adds read done d p) (ha : Apart done) : Apart (done ++ [p]) := by
  have hn : p.name ∉ done.map Program.name := by
    intro hm
    obtain ⟨q,hq,he⟩ := List.mem_map.mp hm
    exact h.name_ne q hq (he.trans h.makes.name_eq)
  have ho : p.output ∉ done.map Program.output := by
    intro hm
    obtain ⟨q,hq,he⟩ := List.mem_map.mp hm
    exact h.output_ne q hq he
  constructor
  · rw [List.map_append]
    exact ha.names.append (by simp) (by simpa using hn)
  · rw [List.map_append]
    exact ha.outputs.append (by simp) (by simpa using ho)

theorem adds_of_apart (h : d.Makes read p) (ha : Apart (done ++ p :: made)) :
    Adds read done d p := by
  obtain ⟨hn,ho⟩ := ha
  simp only [List.map_append,List.map_cons,List.nodup_append'] at hn ho
  refine ⟨fun q hq he => ?_,h,fun q hq he => ?_⟩
  · exact hn.2.2 (List.mem_map_of_mem hq) (by simp [he,h.name_eq])
  · exact ho.2.2 (List.mem_map_of_mem hq) (by simp [he])

theorem collect_append (hm : List.Forall₂ (Declaration.Makes read) declarations made)
    (ha : Apart (done ++ made)) (rest : List Declaration) :
    (collectPrograms read (declarations ++ rest) done).value =
      (collectPrograms read rest (done ++ made)).value := by
  induction hm generalizing done with
  | nil => simp
  | @cons d p before others hp _ ih =>
    have hadd := adds_of_apart hp ha
    have ha' : Apart ((done ++ [p]) ++ others) := by simpa using ha
    have hr := ih ha'
    rw [List.cons_append,hadd.collect,hr,List.append_assoc,List.singleton_append]

theorem collect_cases (read : ArgumentReader) (declarations : List Declaration)
    (ha : Apart done) :
    (∃ made, List.Forall₂ (Declaration.Makes read) declarations made ∧ Apart (done ++ made)) ∨
      ∃ before d after made e, declarations = before ++ d :: after ∧
        List.Forall₂ (Declaration.Makes read) before made ∧ Apart (done ++ made) ∧
        Stops read (done ++ made) d e := by
  induction declarations generalizing done with
  | nil => exact .inl ⟨[],.nil,by simpa using ha⟩
  | cons d rest ih =>
    obtain ⟨e,he⟩ | ⟨p,hp⟩ := stops_or_adds read done d
    · exact .inr ⟨[],d,rest,[],e,rfl,.nil,by simpa using ha,by simpa using he⟩
    · obtain ⟨made,hm,hap⟩ | ⟨before,own,after,made,e,rfl,hm,hap,hs⟩ := ih (hp.apart ha)
      · exact .inl ⟨p :: made,.cons hp.makes hm,by simpa using hap⟩
      · exact .inr ⟨d :: before,own,after,p :: made,e,rfl,.cons hp.makes hm,by simpa using hap,
          by simpa using hs⟩

theorem collect_of_makes (hm : List.Forall₂ (Declaration.Makes read) declarations made)
    (ha : Apart made) : (collectPrograms read declarations []).value = .ok made := by
  have ha' : Apart ([] ++ made) := ha
  have h := collect_append hm ha' []
  rw [List.append_nil] at h
  exact h

theorem collect_of_stops {before after : List Declaration}
    (hm : List.Forall₂ (Declaration.Makes read) before made) (ha : Apart made)
    (hs : Stops read made d e) :
    (collectPrograms read (before ++ d :: after) []).value = .error e := by
  have ha' : Apart ([] ++ made) := ha
  have h := collect_append hm ha' (d :: after)
  rw [h]
  exact hs.collect ha

theorem apart_nil : Apart [] := ⟨List.nodup_nil,List.nodup_nil⟩

theorem collect_eq_ok_iff {programs : List Program} :
    (collectPrograms read declarations []).value = .ok programs ↔
      List.Forall₂ (Declaration.Makes read) declarations programs ∧ Apart programs := by
  constructor
  · intro h
    obtain ⟨made,hm,ha⟩ | ⟨before,d,after,made,e,rfl,hm,ha,hs⟩ :=
      collect_cases read declarations apart_nil
    · obtain rfl := Except.ok.inj (h.symm.trans (collect_of_makes hm ha))
      exact ⟨hm,ha⟩
    · cases h.symm.trans (collect_of_stops hm ha hs)
  · rintro ⟨hm,ha⟩
    exact collect_of_makes hm ha

theorem collect_eq_error_iff :
    (collectPrograms read declarations []).value = .error e ↔
      ∃ before d after made, declarations = before ++ d :: after ∧
        List.Forall₂ (Declaration.Makes read) before made ∧ Apart made ∧ Stops read made d e := by
  constructor
  · intro h
    obtain ⟨made,hm,ha⟩ | ⟨before,d,after,made,e,rfl,hm,ha,hs⟩ :=
      collect_cases read declarations apart_nil
    · cases h.symm.trans (collect_of_makes hm ha)
    · obtain rfl := Except.error.inj (h.symm.trans (collect_of_stops hm ha hs))
      exact ⟨before,d,after,made,rfl,hm,ha,hs⟩
  · rintro ⟨before,d,after,made,rfl,hm,ha,hs⟩
    exact collect_of_stops hm ha hs

end collect

/-! ### The files of a project -/

structure Block.Declares (file : Bytes) (b : Block) (d : Declaration) : Prop where
  file_eq : d.file = file
  label : ∃ range, b.labels = [(d.name,range)]
  source : d.source = b.valueOf? "source"
  sourceFile : d.sourceFile = b.valueOf? "source_file"
  output : d.output = b.valueOf? "output"

def Body.programBlocks (body : Body) : List Block :=
  body.blocks.filter fun b => b.type = "program"

theorem label_of_labelFault? {b : Block} (h : b.labelFault? ["name"] = none) :
    ∃ name range, b.labels = [(name,range)] := by
  unfold Block.labelFault? at h
  match hl : b.labels with
  | [] => simp [hl] at h
  | [(name,range)] => exact ⟨name,range,rfl⟩
  | _ :: _ :: _ => simp [hl] at h

theorem label_of_declarationFaults {body : Body} (h : declarationFaults body = []) {b : Block}
    (hb : b ∈ body.blocks) (ht : b.type = "program") :
    ∃ name range, b.labels = [(name,range)] := by
  simp only [declarationFaults,Form.faults,List.append_eq_nil_iff,List.filterMap_eq_nil_iff] at h
  have hl := h.1.1.1 b hb
  have hf : Form.file.labels? b.type = some [("name" : Bytes)] := by
    rw [ht]
    decide
  rw [hf] at hl
  exact label_of_labelFault? hl

theorem declares_ofBody (path : Bytes) {body : Body} (h : declarationFaults body = []) :
    List.Forall₂ (Block.Declares path) body.programBlocks
      (ProjectFile.ofBody path body).programs := by
  have hl : ∀ b ∈ body.blocks, b.type = "program" → ∃ name range, b.labels = [(name,range)] :=
    fun b => label_of_declarationFaults h
  unfold Body.programBlocks ProjectFile.ofBody
  simp only
  generalize body.blocks = blocks at hl
  induction blocks with
  | nil => exact .nil
  | cons b rest ih =>
    have hr := ih fun other ho => hl other (by simp [ho])
    by_cases ht : b.type = "program"
    · obtain ⟨name,range,hb⟩ := hl b (by simp) ht
      have hn : b.programName? = some name := by simp [Block.programName?,hb,ht]
      rw [List.filter_cons_of_pos (by simpa using ht),List.filterMap_cons,hn]
      exact .cons ⟨rfl,⟨range,hb⟩,rfl,rfl,rfl⟩ hr
    · have hn : b.programName? = none := by
        unfold Block.programName?
        split <;> simp [ht]
      rw [List.filter_cons_of_neg (by simpa using ht),List.filterMap_cons,hn]
      exact hr

def FileDeclares (files : Files) (path : Bytes) (f : ProjectFile) : Prop :=
  ∃ content body, files.read path = .ok content ∧ readBody path content = (body,[]) ∧
    f.path = path ∧ List.Forall₂ (Block.Declares path) body.programBlocks f.programs

theorem declares_ofText {files : Files} {path content : Bytes} {f : ProjectFile}
    (hc : files.read path = .ok content) (h : ProjectFile.ofText path content = .ok f) :
    FileDeclares files path f := by
  unfold ProjectFile.ofText at h
  split at h
  · cases h
  · next body hb =>
    split at h
    · next hd =>
      obtain rfl := Except.ok.inj h
      exact ⟨content,body,hc,hb,rfl,declares_ofBody path hd⟩
    · cases h

theorem declares_readFiles {files : Files} {paths : List Bytes} {found : List ProjectFile}
    (h : readFiles files paths = .ok found) :
    List.Forall₂ (FileDeclares files) paths found := by
  induction paths generalizing found with
  | nil =>
    obtain rfl := Except.ok.inj h
    exact .nil
  | cons path rest ih =>
    unfold readFiles at h
    split at h
    · cases h
    · next content hc =>
      split at h
      · cases h
      · next first hf =>
        split at h
        · cases h
        · next others ho =>
          obtain rfl := Except.ok.inj h
          exact .cons (declares_ofText hc hf) (ih ho)

/-! ### Whole projects -/

def Locals.scope (locals : Locals) : Scope := { frames := [[("local",locals.toValue)]] }

/-- The loading gets as far as the declarations: there are project files, they can be read, and the
local values can be evaluated. -/
structure Prepared (files : Files) (paths found : List Bytes) (projectFiles : List ProjectFile)
    (locals : Locals) : Prop where
  discovered : discover files paths = .ok found
  found_ne_nil : found ≠ []
  read : readFiles files found = .ok projectFiles
  evaluated : Locals.ofFiles Expression.evalClosed projectFiles = .ok locals

section load
variable {files : Files} {paths found : List Bytes} {projectFiles : List ProjectFile}
  {locals : Locals} {model : Model}

theorem Prepared.value_load (h : Prepared files paths found projectFiles locals) :
    (load files paths).value =
      (collectPrograms locals.scope.readArgument (projectFiles.flatMap (·.programs)) []).value.map
        Model.mk := by
  obtain ⟨hd,hne,hr,hl⟩ := h
  unfold load
  simp only [Logged.value_bind,hd]
  cases found with
  | nil => contradiction
  | cons path rest =>
    simp only [Logged.value_bind,hr,hl,Locals.scope]
    cases (collectPrograms _ (projectFiles.flatMap (·.programs)) []).value <;> rfl

theorem prepared_of_load (h : (load files paths).value = .ok model) :
    ∃ found projectFiles locals, Prepared files paths found projectFiles locals := by
  unfold load at h
  rw [Logged.value_bind] at h
  split at h
  · cases h
  · cases h
  · next found hne hd =>
    rw [Logged.value_bind] at h
    split at h
    · cases h
    · next projectFiles hr =>
      split at h
      · cases h
      · next locals hl =>
        exact ⟨found,projectFiles,locals,hd,hne,hr,hl⟩

theorem Prepared.load_eq_ok_iff (h : Prepared files paths found projectFiles locals) :
    (load files paths).value = .ok model ↔
      List.Forall₂ (Declaration.Makes locals.scope.readArgument)
        (projectFiles.flatMap (·.programs)) model.programs ∧ Apart model.programs := by
  rw [h.value_load,← collect_eq_ok_iff]
  cases (collectPrograms _ (projectFiles.flatMap (·.programs)) []).value with
  | error e => simp [Except.map]
  | ok programs =>
    obtain ⟨others⟩ := model
    simp [Except.map]

theorem made_of_load (h : (load files paths).value = .ok model) :
    (∀ p ∈ model.programs, ∃ read d, Declaration.Makes read d p) ∧ Apart model.programs := by
  obtain ⟨found,projectFiles,locals,hp⟩ := prepared_of_load h
  obtain ⟨hm,ha⟩ := hp.load_eq_ok_iff.mp h
  exact ⟨fun p hmem => ⟨_,exists_forall₂_iff.mp ⟨_,hm.flip⟩ p hmem⟩,ha⟩

theorem Prepared.load_eq_error_iff (h : Prepared files paths found projectFiles locals)
    {e : LoadError} :
    (load files paths).value = .error e ↔
      ∃ before d after made, projectFiles.flatMap (·.programs) = before ++ d :: after ∧
        List.Forall₂ (Declaration.Makes locals.scope.readArgument) before made ∧ Apart made ∧
        Stops locals.scope.readArgument made d e := by
  rw [h.value_load,← collect_eq_error_iff]
  cases (collectPrograms _ (projectFiles.flatMap (·.programs)) []).value <;> simp [Except.map]

theorem Prepared.loads_iff (h : Prepared files paths found projectFiles locals) :
    (∃ model, (load files paths).value = .ok model) ↔
      (∀ d ∈ projectFiles.flatMap (·.programs), d.Evaluates locals.scope.readArgument) ∧
      ((projectFiles.flatMap (·.programs)).map Declaration.name).Nodup ∧
      ((projectFiles.flatMap (·.programs)).map
        (Declaration.resolvedOutput locals.scope.readArgument)).Nodup := by
  simp only [h.load_eq_ok_iff]
  generalize projectFiles.flatMap (·.programs) = declarations
  constructor
  · rintro ⟨model,hm,ha⟩
    have hn := map_eq_of_forall₂ (fun d p (hp : Declaration.Makes _ d p) => hp.name_eq) hm
    have ho := map_eq_of_forall₂ (fun d p (hp : Declaration.Makes _ d p) => hp.output_eq) hm
    refine ⟨fun d hd => ?_,hn ▸ ha.names,ho ▸ ha.outputs⟩
    exact Declaration.exists_makes_iff.mp (exists_forall₂_iff.mp ⟨_,hm⟩ d hd)
  · rintro ⟨he,hn,ho⟩
    obtain ⟨programs,hm⟩ := exists_forall₂_iff.mpr fun d hd =>
      Declaration.exists_makes_iff.mpr (he d hd)
    have hn' := map_eq_of_forall₂ (fun d p (hp : Declaration.Makes _ d p) => hp.name_eq) hm
    have ho' := map_eq_of_forall₂ (fun d p (hp : Declaration.Makes _ d p) => hp.output_eq) hm
    exact ⟨⟨programs⟩,hm,by rw [hn']; exact hn,by rw [ho']; exact ho⟩

/-- Loading makes one program of every program block, in the order of the files and of the blocks
in each of them, or it ends with the error of the first block that does not go with those before
it. -/
theorem load_translates (h : Prepared files paths found projectFiles locals) :
    let read := locals.scope.readArgument
    let declarations := projectFiles.flatMap (·.programs)
    List.Forall₂ (FileDeclares files) found projectFiles ∧
    ((∃ model, (load files paths).value = .ok model) ↔
      (∀ d ∈ declarations, d.Evaluates read) ∧ (declarations.map Declaration.name).Nodup ∧
      (declarations.map (Declaration.resolvedOutput read)).Nodup) ∧
    (∀ model, (load files paths).value = .ok model →
      List.Forall₂ (Declaration.Makes read) declarations model.programs ∧
      ∀ p ∈ model.programs, p.output ≠ [] ∧
        (p.sourceFile = [] ∨ p.source = [] ∧ p.sourceFile ≠ [])) ∧
    ∀ e, (load files paths).value = .error e ↔
      ∃ before d after made, declarations = before ++ d :: after ∧
        List.Forall₂ (Declaration.Makes read) before made ∧ Apart made ∧
        Stops read made d e := by
  intro read declarations
  refine ⟨declares_readFiles h.read,h.loads_iff,fun model hl => ?_,fun e => h.load_eq_error_iff⟩
  have hm := (h.load_eq_ok_iff.mp hl).1
  refine ⟨hm,fun p hp => ?_⟩
  obtain ⟨d,hd⟩ := exists_forall₂_iff.mp ⟨_,hm.flip⟩ p hp
  exact ⟨hd.fields.1,hd.fields.2.2⟩

end load

def twoFiles : Files :=
  ⟨.folder [
    ("a.hcl",.file ("locals \x7b\n dir = \"build\"\n\x7d\n" ++
      "program \"a\" \x7b\n source = \"out 1\"\n\x7d\n")),
    ("sub",.folder [("b.hcl",.file ("program \"b\" \x7b\n source_file = \"b.lexc\"\n" ++
      " output = \"$\x7blocal.dir\x7d/b.cpp\"\n\x7d\n"))])]⟩

theorem load_translates_two_files : ∃ found projectFiles locals,
    let programs : List Program := [⟨"a","out 1",[],"a.cpp","a.hcl"⟩,
      ⟨"b",[],"sub/b.lexc","sub/build/b.cpp","sub/b.hcl"⟩]
    Prepared twoFiles ["a.hcl","sub/b.hcl"] found projectFiles locals ∧
      (load twoFiles ["a.hcl","sub/b.hcl"]).value = .ok ⟨programs⟩ ∧
      List.Forall₂ (FileDeclares twoFiles) found projectFiles ∧
      List.Forall₂ (Declaration.Makes locals.scope.readArgument)
        (projectFiles.flatMap (·.programs)) programs := by
  have hl : (load twoFiles ["a.hcl","sub/b.hcl"]).value = .ok ⟨[⟨"a","out 1",[],"a.cpp","a.hcl"⟩,
      ⟨"b",[],"sub/b.lexc","sub/build/b.cpp","sub/b.hcl"⟩]⟩ := by
    decide +kernel
  obtain ⟨found,projectFiles,locals,h⟩ := prepared_of_load hl
  obtain ⟨hfiles,_,hmade,_⟩ := load_translates h
  exact ⟨found,projectFiles,locals,h,hl,hfiles,(hmade _ hl).1⟩

/-! ### Outputs -/

theorem clean_output_of_makes {read : ArgumentReader} {d : Declaration} {p : Program}
    (h : d.Makes read p) (hc : Path.clean p.output ≠ p.output) :
    Path.isAbsolute p.output = true := by
  have hdir := Path.directory_ne_nil d.file
  rw [h.output_eq] at hc ⊢
  unfold Declaration.resolvedOutput Declaration.outputPath at hc ⊢
  obtain ⟨ha,hr⟩ := Path.clean_resolve hdir hc
  rw [hr]
  exact ha

/-- The outputs of a project differ as they are spelled. Only an absolute one may be spelled in
more than one way, so they differ also when cleaned unless such a one leads to the output of
another program. -/
theorem clean_outputs_nodup_iff {files : Files} {paths : List Bytes} {model : Model}
    (h : (load files paths).value = .ok model) :
    (model.programs.map Program.output).Nodup ∧
    (∀ p ∈ model.programs, Path.clean p.output ≠ p.output → Path.isAbsolute p.output = true) ∧
    ((model.programs.map fun p => Path.clean p.output).Nodup ↔
      ∀ p ∈ model.programs, Path.clean p.output ≠ p.output →
        ∀ q ∈ model.programs, Path.clean q.output = Path.clean p.output → q = p) := by
  obtain ⟨hm,_,ho⟩ := made_of_load h
  refine ⟨ho,fun p hmem => ?_,fun hnd p hmem _ q hq he => ?_,fun hone => ?_⟩
  · obtain ⟨read,d,hd⟩ := hm p hmem
    exact clean_output_of_makes hd
  · exact List.inj_on_of_nodup_map hnd hq hmem he
  · refine (List.Nodup.of_map _ ho).map_on fun p hmem q hq he => ?_
    by_cases hc : Path.clean p.output = p.output
    · by_cases hd : Path.clean q.output = q.output
      · exact List.inj_on_of_nodup_map ho hmem hq (hc.symm.trans (he.trans hd))
      · exact hone q hq hd p hmem he
    · exact (hone p hmem hc q hq he.symm).symm

def twoOutputs (first second : Bytes) : Files :=
  ⟨.folder [("p.hcl",.file
    ("program \"a\" \x7b\n source = \"1\"\n output = \"" ++ first ++ "\"\n\x7d\n" ++
      "program \"b\" \x7b\n source = \"2\"\n output = \"" ++ second ++ "\"\n\x7d\n"))]⟩

theorem clean_outputs_nodup_iff_other_folder : ∃ model,
    (load (twoOutputs "/x/../s.cpp" "/x/s.cpp") ["p.hcl"]).value = .ok model ∧
      (model.programs.map fun p => Path.clean p.output) = [("/s.cpp" : Bytes),"/x/s.cpp"] ∧
      (model.programs.map fun p => Path.clean p.output).Nodup := by
  have hl : (load (twoOutputs "/x/../s.cpp" "/x/s.cpp") ["p.hcl"]).value =
      .ok ⟨[⟨"a","1",[],"/x/../s.cpp","p.hcl"⟩,⟨"b","2",[],"/x/s.cpp","p.hcl"⟩]⟩ := by
    decide +kernel
  exact ⟨_,hl,by decide,(clean_outputs_nodup_iff hl).2.2.mpr (by decide)⟩

theorem outputs_differ_in_spelling_only : ∃ model,
    (load (twoOutputs "/x/s.cpp" "/x//s.cpp") ["p.hcl"]).value = .ok model ∧
      ¬ (model.programs.map fun p => Path.clean p.output).Nodup := by
  have hl : (load (twoOutputs "/x/s.cpp" "/x//s.cpp") ["p.hcl"]).value =
      .ok ⟨[⟨"a","1",[],"/x/s.cpp","p.hcl"⟩,⟨"b","2",[],"/x//s.cpp","p.hcl"⟩]⟩ := by
    decide +kernel
  exact ⟨_,hl,by decide⟩

end Project
end DefOut
