import DefOut.Process
import DefOut.Proofs.Entries
import Mathlib.Data.List.TakeWhile

set_option autoImplicit false

/-!
Command lines. Options are read exactly when they are written as they should be, by a grammar that
does not look at how they are read, and each comes to the value that is given last under its name
(`readOptions_eq_read_iff`). The settings that come out select one input and can be relied on, and a
command line that is written as it should be and selects an input is refused for its values alone
(`run_only_with_valid_settings`).
-/
namespace DefOut

/-! ### The grammar of a command line -/

inductive OptionValue where
  | text (s : Bytes)
  | flag (b : Bool)
  | number (n : Int)

namespace OptionValue

def text? : OptionValue → Option Bytes
  | text s => some s
  | _ => none

def flag? : OptionValue → Option Bool
  | flag b => some b
  | _ => none

def number? : OptionValue → Option Int
  | number n => some n
  | _ => none

end OptionValue

abbrev textOptions : List Bytes := ["project","p","o","log-format","log-level"]

abbrev flagOptions : List Bytes := ["sample","check","stdout"]

/-- A word that is well formed for the option of this name, and the value that it stands for. -/
inductive Spells : Bytes → Bytes → OptionValue → Prop
  | text {name word : Bytes} (hn : name ∈ textOptions) : Spells name word (.text word)
  | flag {name word : Bytes} {b : Bool} (hn : name ∈ flagOptions)
      (hv : truthValue? word = some b) : Spells name word (.flag b)
  | number {word : Bytes} {n : Int} (hv : Numeral.parse word = .ok n) :
      Spells "workers" word (.number n)

abbrev hyphens : List Bytes := [[Ascii.minus],[Ascii.minus,Ascii.minus]]

structure Given where
  name : Bytes
  value : OptionValue

/-- The arguments that an option and its value are written as. A flag that stands alone is on. -/
inductive Given.Written : Given → List Bytes → Prop
  | joined {name start word : Bytes} {value : OptionValue} (hh : start ∈ hyphens)
      (hw : Spells name word value) :
      Written ⟨name,value⟩ [start ++ (name ++ Ascii.equals :: word)]
  | apart {name start word : Bytes} {value : OptionValue} (hh : start ∈ hyphens)
      (hf : name ∉ flagOptions) (hw : Spells name word value) :
      Written ⟨name,value⟩ [start ++ name,word]
  | alone {name start : Bytes} (hh : start ∈ hyphens) (hn : name ∈ flagOptions) :
      Written ⟨name,.flag true⟩ [start ++ name]

/-- The arguments are options that are written as they should be, up to the first argument that is
none or to `--`, and then positional arguments: the arguments, what the options give, and the
positional arguments. -/
inductive WellWritten : List Bytes → List Given → List Bytes → Prop
  | done : WellWritten [] [] []
  | positional {argument : Bytes} (rest : List Bytes)
      (h : argument = [Ascii.minus] ∨ argument.head? ≠ some Ascii.minus) :
      WellWritten (argument :: rest) [] (argument :: rest)
  | terminator (rest : List Bytes) :
      WellWritten ([Ascii.minus,Ascii.minus] :: rest) [] rest
  | option {g : Given} {given : List Given} {words rest positional : List Bytes}
      (hw : g.Written words) (h : WellWritten rest given positional) :
      WellWritten (words ++ rest) (g :: given) positional

def lastGiven {α : Type} (value? : OptionValue → Option α) (name : Bytes) (given : List Given) :
    Option α :=
  (given.filterMap fun g => if g.name = name then value? g.value else none).getLast?

/-- The settings that a command line asks for: for each option the value that is given last, or
else its default. The shorthand for a project counts when its long name gives no path. -/
def settingsGiven (given : List Given) (source : Bytes) : Settings where
  projectPath :=
    let project := (lastGiven OptionValue.text? "project" given).getD []
    if project = [] then (lastGiven OptionValue.text? "p" given).getD [] else project
  sourcePath := source
  useSample := (lastGiven OptionValue.flag? "sample" given).getD false
  outputPath := (lastGiven OptionValue.text? "o" given).getD defaultOutputPath
  checkOnly := (lastGiven OptionValue.flag? "check" given).getD false
  stdout := (lastGiven OptionValue.flag? "stdout" given).getD false
  logFormat := lowerCase ((lastGiven OptionValue.text? "log-format" given).getD "text")
  logLevel := lowerCase ((lastGiven OptionValue.text? "log-level" given).getD "info")
  workerCount := (lastGiven OptionValue.number? "workers" given).getD 4

/-! ### Arguments that are options -/

theorem ofString_terminator : Bytes.ofString "--" = [Ascii.minus,Ascii.minus] := by decide

theorem splitOption_of_not_option {argument : Bytes}
    (h : argument = [Ascii.minus] ∨ argument.head? ≠ some Ascii.minus) :
    splitOption argument = none := by
  unfold splitOption
  split
  · simp at h
  · rfl

theorem splitOption_hyphen (c : UInt8) (rest : Bytes) :
    splitOption (Ascii.minus :: c :: rest) =
      match if c = Ascii.minus then rest else c :: rest with
      | [] => some (.error (.badSyntax (Ascii.minus :: c :: rest)))
      | first :: tail =>
        if first = Ascii.minus ∨ first = Ascii.equals then
          some (.error (.badSyntax (Ascii.minus :: c :: rest)))
        else some (.ok (first :: tail.takeWhile (· ≠ Ascii.equals),
          (tail.dropWhile (· ≠ Ascii.equals)).tail?)) := by
  refine (splitOption.eq_1 c rest).trans ?_
  cases (if c = Ascii.minus then rest else c :: rest) with
  | nil => rfl
  | cons first tail =>
    simp only
    split
    · rfl
    · cases tail.dropWhile (· ≠ Ascii.equals) <;> rfl

theorem splitOption_hyphens {start : Bytes} (hh : start ∈ hyphens) {first : UInt8} {tail : Bytes}
    (hm : first ≠ Ascii.minus) (he : first ≠ Ascii.equals) :
    splitOption (start ++ first :: tail) = some (.ok (first :: tail.takeWhile (· ≠ Ascii.equals),
      (tail.dropWhile (· ≠ Ascii.equals)).tail?)) := by
  simp only [List.mem_cons,List.not_mem_nil,or_false] at hh
  obtain rfl | rfl := hh
  · exact (splitOption_hyphen first tail).trans (by simp [hm,he])
  · exact (splitOption_hyphen Ascii.minus (first :: tail)).trans (by simp [hm,he])

theorem splitOption_eq_none {argument : Bytes} (h : splitOption argument = none) :
    argument = [Ascii.minus] ∨ argument.head? ≠ some Ascii.minus := by
  match argument with
  | [] => simp
  | [c] => simp [or_iff_not_imp_left]
  | c :: d :: rest =>
    refine .inr fun hc => ?_
    obtain rfl : c = Ascii.minus := by simpa using hc
    rw [splitOption_hyphen] at h
    split at h
    · cases h
    · split at h <;> cases h

theorem exists_of_splitOption {argument : Bytes} {parts : Bytes × Option Bytes}
    (h : splitOption argument = some (.ok parts)) :
    ∃ start ∈ hyphens, ∃ first tail, argument = start ++ first :: tail ∧ first ≠ Ascii.minus ∧
      first ≠ Ascii.equals := by
  match argument with
  | [] => cases h
  | [c] =>
    rw [splitOption_of_not_option (by simp [or_iff_not_imp_left])] at h
    cases h
  | c :: d :: rest =>
    by_cases hc : c = Ascii.minus
    · subst hc
      rw [splitOption_hyphen] at h
      by_cases hd : d = Ascii.minus
      · subst hd
        cases rest with
        | nil => simp at h
        | cons first tail =>
          rw [if_pos rfl] at h
          by_cases hf : first = Ascii.minus ∨ first = Ascii.equals
          · simp [hf] at h
          · obtain ⟨hm,he⟩ := not_or.mp hf
            exact ⟨[Ascii.minus,Ascii.minus],by simp,first,tail,rfl,hm,he⟩
      · rw [if_neg hd] at h
        by_cases hf : d = Ascii.equals
        · simp [hf] at h
        · exact ⟨[Ascii.minus],by simp,d,rest,rfl,hd,hf⟩
    · rw [splitOption_of_not_option (.inr (by simpa using hc))] at h
      cases h

def IsOptionName (name : Bytes) : Prop :=
  name ≠ [] ∧ name.head? ≠ some Ascii.minus ∧ Ascii.equals ∉ name

def optionBody (name : Bytes) : Option Bytes → Bytes
  | none => name
  | some value => name ++ Ascii.equals :: value

theorem optionBody_cons (c : UInt8) (name : Bytes) (value : Option Bytes) :
    optionBody (c :: name) value = c :: optionBody name value := by
  cases value <;> rfl

theorem optionBody_of_cut (text : Bytes) : optionBody (text.takeWhile (· ≠ Ascii.equals))
    (text.dropWhile (· ≠ Ascii.equals)).tail? = text := by
  induction text with
  | nil => rfl
  | cons c text ih =>
    by_cases hc : c = Ascii.equals
    · simp [optionBody,hc]
    · simpa [hc,optionBody_cons] using ih

theorem cut_optionBody {name : Bytes} (h : Ascii.equals ∉ name) (value : Option Bytes) :
    (optionBody name value).takeWhile (· ≠ Ascii.equals) = name ∧
      ((optionBody name value).dropWhile (· ≠ Ascii.equals)).tail? = value := by
  induction name with
  | nil => cases value <;> simp [optionBody]
  | cons c name ih =>
    rw [List.mem_cons,not_or] at h
    simpa [optionBody_cons,Ne.symm h.1] using ih h.2

theorem splitOption_eq_ok_iff {argument name : Bytes} {value : Option Bytes} :
    splitOption argument = some (.ok (name,value)) ↔
      IsOptionName name ∧ ∃ start ∈ hyphens, argument = start ++ optionBody name value := by
  constructor
  · intro h
    obtain ⟨start,hh,first,tail,rfl,hm,he⟩ := exists_of_splitOption h
    rw [splitOption_hyphens hh hm he] at h
    simp only [Option.some.injEq,Except.ok.injEq,Prod.mk.injEq] at h
    obtain ⟨rfl,rfl⟩ := h
    refine ⟨⟨by simp,by simpa using hm,?_⟩,start,hh,by rw [optionBody_cons,optionBody_of_cut]⟩
    rw [List.mem_cons,not_or]
    refine ⟨Ne.symm he,fun hmem => ?_⟩
    simpa using List.mem_takeWhile_imp hmem
  · rintro ⟨⟨hne,hm,he⟩,start,hh,rfl⟩
    obtain ⟨first,name,rfl⟩ := List.exists_cons_of_ne_nil hne
    simp only [List.mem_cons,not_or,List.head?_cons,ne_eq,Option.some.injEq] at hm he
    obtain ⟨htake,hdrop⟩ := cut_optionBody he.2 value
    rw [optionBody_cons,splitOption_hyphens hh hm (Ne.symm he.1),htake,hdrop]

/-! ### Reading options -/

theorem isOptionName_of_mem : ∀ spec ∈ optionSpecs, IsOptionName spec.name := by
  unfold IsOptionName
  decide

namespace Options

def after (o : Options) (given : List Given) : Options where
  project := (lastGiven OptionValue.text? "project" given).getD o.project
  p := (lastGiven OptionValue.text? "p" given).getD o.p
  output := (lastGiven OptionValue.text? "o" given).getD o.output
  sample := (lastGiven OptionValue.flag? "sample" given).getD o.sample
  check := (lastGiven OptionValue.flag? "check" given).getD o.check
  stdout := (lastGiven OptionValue.flag? "stdout" given).getD o.stdout
  logFormat := (lastGiven OptionValue.text? "log-format" given).getD o.logFormat
  logLevel := (lastGiven OptionValue.text? "log-level" given).getD o.logLevel
  workers := (lastGiven OptionValue.number? "workers" given).getD o.workers

theorem after_cons (o : Options) (g : Given) (given : List Given) :
    o.after (g :: given) = (o.after [g]).after given := by
  simp [after,lastGiven]

theorem settings_after (given : List Given) (source : Bytes) :
    (({} : Options).after given).settings source = settingsGiven given source := by
  simp only [settings,projectPath,after,settingsGiven,List.isEmpty_iff]

end Options

def OptionSpec.Sets (spec : OptionSpec) : Prop :=
  match spec.kind with
  | .text _ set => spec.name ∈ textOptions ∧
      ∀ value o, set value o = o.after [⟨spec.name,.text value⟩]
  | .flag set => spec.name ∈ flagOptions ∧ ∀ b o, set b o = o.after [⟨spec.name,.flag b⟩]
  | .number _ set => spec.name = "workers" ∧ ∀ n o, set n o = o.after [⟨spec.name,.number n⟩]

theorem sets_of_mem {spec : OptionSpec} (hs : spec ∈ optionSpecs) : spec.Sets := by
  simp only [optionSpecs,List.mem_cons,List.not_mem_nil,or_false] at hs
  obtain rfl | rfl | rfl | rfl | rfl | rfl | rfl | rfl | rfl := hs
  all_goals exact ⟨by decide,fun _ _ => rfl⟩

theorem find?_text {name : Bytes} (hn : name ∈ textOptions) : ∃ usage default set,
    optionSpecs.find? (fun spec => spec.name == name) = some ⟨name,usage,.text default set⟩ ∧
      ∀ value o, set value o = o.after [⟨name,.text value⟩] := by
  simp only [List.mem_cons,List.not_mem_nil,or_false] at hn
  obtain rfl | rfl | rfl | rfl | rfl := hn
  all_goals exact ⟨_,_,_,rfl,fun _ _ => rfl⟩

theorem find?_flag {name : Bytes} (hn : name ∈ flagOptions) : ∃ usage set,
    optionSpecs.find? (fun spec => spec.name == name) = some ⟨name,usage,.flag set⟩ ∧
      ∀ b o, set b o = o.after [⟨name,.flag b⟩] := by
  simp only [List.mem_cons,List.not_mem_nil,or_false] at hn
  obtain rfl | rfl | rfl := hn
  all_goals exact ⟨_,_,rfl,fun _ _ => rfl⟩

theorem find?_workers : ∃ usage default set,
    optionSpecs.find? (fun spec => spec.name == Bytes.ofString "workers") =
        some ⟨"workers",usage,.number default set⟩ ∧
      ∀ n o, set n o = o.after [⟨"workers",.number n⟩] :=
  ⟨_,_,_,rfl,fun _ _ => rfl⟩

theorem ne_terminator_of_splitOption {argument : Bytes} {parts : Bytes × Option Bytes}
    (h : splitOption argument = some (.ok parts)) : argument ≠ Bytes.ofString "--" := by
  rintro rfl
  rw [ofString_terminator,splitOption_hyphen] at h
  simp at h

theorem written_for {argument name : Bytes} {value : Option Bytes} {spec : OptionSpec}
    (h : splitOption argument = some (.ok (name,value)))
    (hf : optionSpecs.find? (fun s => s.name == name) = some spec) :
    spec.Sets ∧ ∃ start ∈ hyphens, argument = start ++ optionBody spec.name value := by
  obtain rfl : spec.name = name := by simpa using List.find?_some hf
  exact ⟨sets_of_mem (List.mem_of_find?_eq_some hf),(splitOption_eq_ok_iff.mp h).2⟩

section
variable {name start word : Bytes} {value : OptionValue}

theorem splitOption_of_find? {spec : OptionSpec}
    (hf : optionSpecs.find? (fun s => s.name == name) = some spec) (hh : start ∈ hyphens)
    (value : Option Bytes) :
    splitOption (start ++ optionBody name value) = some (.ok (name,value)) := by
  obtain rfl : spec.name = name := by simpa using List.find?_some hf
  have hname : IsOptionName spec.name := isOptionName_of_mem spec (List.mem_of_find?_eq_some hf)
  exact splitOption_eq_ok_iff.mpr ⟨hname,start,hh,rfl⟩

theorem readOptions_joined (hh : start ∈ hyphens) (hw : Spells name word value) (o : Options)
    (rest : List Bytes) : readOptions o ((start ++ (name ++ Ascii.equals :: word)) :: rest) =
      readOptions (o.after [⟨name,value⟩]) rest := by
  cases hw with
  | text hn =>
    obtain ⟨usage,default,set,hf,hset⟩ := find?_text hn
    have h : splitOption (start ++ (name ++ Ascii.equals :: word)) = _ :=
      splitOption_of_find? hf hh (some word)
    rw [readOptions,if_neg (ne_terminator_of_splitOption h),h]
    simp only [hf,hset]
  | flag hn hv =>
    obtain ⟨usage,set,hf,hset⟩ := find?_flag hn
    have h : splitOption (start ++ (name ++ Ascii.equals :: word)) = _ :=
      splitOption_of_find? hf hh (some word)
    rw [readOptions,if_neg (ne_terminator_of_splitOption h),h]
    simp only [hf,hv,hset]
  | number hv =>
    obtain ⟨usage,default,set,hf,hset⟩ := find?_workers
    have h : splitOption (start ++ (Bytes.ofString "workers" ++ Ascii.equals :: word)) = _ :=
      splitOption_of_find? hf hh (some word)
    rw [readOptions,if_neg (ne_terminator_of_splitOption h),h]
    simp only [hf,hv,hset]

theorem readOptions_apart (hh : start ∈ hyphens) (hn : name ∉ flagOptions)
    (hw : Spells name word value) (o : Options) (rest : List Bytes) :
    readOptions o ((start ++ name) :: word :: rest) =
      readOptions (o.after [⟨name,value⟩]) rest := by
  cases hw with
  | text ht =>
    obtain ⟨usage,default,set,hf,hset⟩ := find?_text ht
    have h : splitOption (start ++ name) = _ := splitOption_of_find? hf hh none
    rw [readOptions,if_neg (ne_terminator_of_splitOption h),h]
    simp only [hf,hset]
  | flag hf => exact absurd hf hn
  | number hv =>
    obtain ⟨usage,default,set,hf,hset⟩ := find?_workers
    have h : splitOption (start ++ Bytes.ofString "workers") = _ := splitOption_of_find? hf hh none
    rw [readOptions,if_neg (ne_terminator_of_splitOption h),h]
    simp only [hf,hv,hset]

theorem readOptions_alone (hh : start ∈ hyphens) (hn : name ∈ flagOptions) (o : Options)
    (rest : List Bytes) : readOptions o ((start ++ name) :: rest) =
      readOptions (o.after [⟨name,.flag true⟩]) rest := by
  obtain ⟨usage,set,hf,hset⟩ := find?_flag hn
  have h : splitOption (start ++ name) = _ := splitOption_of_find? hf hh none
  rw [readOptions,if_neg (ne_terminator_of_splitOption h),h]
  simp only [hf,hset]

end

theorem readOptions_written {g : Given} {words : List Bytes} (hw : g.Written words)
    (o : Options) (rest : List Bytes) :
    readOptions o (words ++ rest) = readOptions (o.after [g]) rest := by
  cases hw with
  | joined hh hw => exact readOptions_joined hh hw o rest
  | apart hh hn hw => exact readOptions_apart hh hn hw o rest
  | alone hh hn => exact readOptions_alone hh hn o rest

theorem wellWritten_of_readOptions {o o' : Options} {arguments positional : List Bytes}
    (h : readOptions o arguments = .read o' positional) :
    ∃ given, WellWritten arguments given positional ∧ o' = o.after given := by
  have hgo {o : Options} {g : Given} {words rest : List Bytes} (hw : g.Written words)
      (h : ∃ given, WellWritten rest given positional ∧ o' = (o.after [g]).after given) :
      ∃ given, WellWritten (words ++ rest) given positional ∧ o' = o.after given := by
    obtain ⟨given,hrest,rfl⟩ := h
    exact ⟨g :: given,.option hw hrest,(o.after_cons g given).symm⟩
  -- one case for each way in which the reader goes on; those in which it stops refute `h`
  fun_induction readOptions o arguments with
  | case1 =>
    cases h
    exact ⟨[],.done,rfl⟩
  | case2 =>
    cases h
    exact ⟨[],.terminator _,rfl⟩
  | case3 o argument rest _ hn =>
    cases h
    exact ⟨[],.positional _ (splitOption_eq_none hn),rfl⟩
  | case7 o argument rest _ _ name usage set hf hs ih =>
    obtain ⟨⟨hn,hset⟩,start,hh,rfl⟩ := written_for hs hf
    exact hgo (.alone hh hn) (hset true o ▸ ih h)
  | case9 o argument rest _ _ name usage set hf v b hb hs ih =>
    obtain ⟨⟨hn,hset⟩,start,hh,rfl⟩ := written_for hs hf
    exact hgo (.joined hh (.flag hn hb)) (hset b o ▸ ih h)
  | case10 o argument _ _ name usage default set hf v rest hs ih =>
    obtain ⟨⟨hn,hset⟩,start,hh,rfl⟩ := written_for hs hf
    exact hgo (.joined hh (.text hn)) (hset v o ▸ ih h)
  | case11 o argument _ _ name usage default set hf v rest hs ih =>
    obtain ⟨⟨hn,hset⟩,start,hh,rfl⟩ := written_for hs hf
    have hflag : name ∉ flagOptions := by
      revert hn
      exact (by decide : ∀ n ∈ textOptions, n ∉ flagOptions) name
    exact hgo (.apart hh hflag (.text hn)) (hset v o ▸ ih h)
  | case13 o argument _ _ name usage default set hf v rest n hv hs ih =>
    obtain ⟨⟨hn,hset⟩,start,hh,rfl⟩ := written_for hs hf
    obtain rfl : name = _ := hn
    exact hgo (.joined hh (.number hv)) (hset n o ▸ ih h)
  | case15 o argument _ _ name usage default set hf v rest n hv hs ih =>
    obtain ⟨⟨hn,hset⟩,start,hh,rfl⟩ := written_for hs hf
    obtain rfl : name = _ := hn
    exact hgo (.apart hh (by decide) (.number hv)) (hset n o ▸ ih h)
  | case4 | case5 | case6 | case8 | case12 | case14 | case16 | case17 => cases h

theorem readOptions_of_wellWritten {arguments positional : List Bytes} {given : List Given}
    (h : WellWritten arguments given positional) (o : Options) :
    readOptions o arguments = .read (o.after given) positional := by
  induction h generalizing o with
  | done => rfl
  | @positional argument rest h =>
    have hne : argument ≠ Bytes.ofString "--" := by
      rintro rfl
      revert h
      decide
    rw [readOptions,if_neg hne,splitOption_of_not_option h]
    rfl
  | terminator rest =>
    rw [readOptions,if_pos ofString_terminator.symm]
    rfl
  | option hw h ih => rw [readOptions_written hw,ih,← o.after_cons]

/-- Options are read exactly when they are written as they should be, and each has the value then
that is given last under its name. -/
theorem readOptions_eq_read_iff {o o' : Options} {arguments positional : List Bytes} :
    readOptions o arguments = .read o' positional ↔
      ∃ given, WellWritten arguments given positional ∧ o' = o.after given := by
  constructor
  · exact wellWritten_of_readOptions
  · rintro ⟨given,hw,rfl⟩
    exact readOptions_of_wellWritten hw o

/-! ### Settings -/

abbrev logFormats : List Bytes := ["text","json"]

abbrev logLevels : List Bytes := ["debug","info","warn","error"]

theorem isLogFormat_iff {s : Bytes} : isLogFormat s = true ↔ s ∈ logFormats :=
  List.contains_iff_mem

theorem isLogLevel_iff {s : Bytes} : isLogLevel s = true ↔ s ∈ logLevels :=
  List.contains_iff_mem

namespace Settings
variable {s s' : Settings}

def OneInput (s : Settings) : Prop :=
  (s.projectPath ≠ [] ∧ s.sourcePath = [] ∧ s.useSample = false) ∨
  (s.projectPath = [] ∧ s.sourcePath ≠ [] ∧ s.useSample = false) ∨
  (s.projectPath = [] ∧ s.sourcePath = [] ∧ s.useSample = true)

def SeveralInputs (s : Settings) : Prop :=
  (s.projectPath ≠ [] ∧ s.sourcePath ≠ []) ∨ (s.projectPath ≠ [] ∧ s.useSample = true) ∨
  (s.sourcePath ≠ [] ∧ s.useSample = true)

structure Valid (s : Settings) : Prop where
  input : s.OneInput
  workers : 1 ≤ s.workerCount
  output : s.outputPath ≠ []
  format : s.logFormat ∈ logFormats
  level : s.logLevel ∈ logLevels

theorem inputCount_eq_zero_iff (s : Settings) :
    s.inputCount = 0 ↔ ¬ (s.projectPath ≠ [] ∨ s.sourcePath ≠ [] ∨ s.useSample = true) := by
  unfold inputCount
  cases s.projectPath <;> cases s.sourcePath <;> cases s.useSample <;> simp

theorem inputCount_eq_one_iff (s : Settings) : s.inputCount = 1 ↔ s.OneInput := by
  unfold inputCount OneInput
  cases s.projectPath <;> cases s.sourcePath <;> cases s.useSample <;> simp

theorem one_lt_inputCount_iff (s : Settings) : 1 < s.inputCount ↔ s.SeveralInputs := by
  unfold inputCount SeveralInputs
  cases s.projectPath <;> cases s.sourcePath <;> cases s.useSample <;> simp

def filled (s : Settings) : Settings :=
  { s with outputPath := if s.outputPath = [] then defaultOutputPath else s.outputPath }

theorem validate_eq (s : Settings) : s.validate =
    if s.inputCount = 0 then .error .noInput
    else if 1 < s.inputCount then .error .severalInputs
    else if s.workerCount < 1 then .error (.tooFewWorkers s.workerCount)
    else .ok s.filled := by
  unfold validate filled
  by_cases h : s.outputPath = [] <;> simp [h]

theorem validate_eq_ok_iff :
    s.validate = .ok s' ↔ s.OneInput ∧ 1 ≤ s.workerCount ∧ s.filled = s' := by
  rw [validate_eq,← inputCount_eq_one_iff]
  split
  · next h => simp [h]
  · split
    · next h => simp [h.ne']
    · split
      · next h => simp [Int.not_le.mpr h]
      · have hone : s.inputCount = 1 := by omega
        have hw : 1 ≤ s.workerCount := by omega
        simp [hone,hw]

theorem exists_validate_eq_error_iff : (∃ e, s.validate = .error e) ↔
    s.inputCount = 0 ∨ s.SeveralInputs ∨ s.workerCount < 1 := by
  rw [validate_eq,← one_lt_inputCount_iff]
  split
  · next h => simp [h]
  · split
    · next h => simp [h]
    · split <;> simp [*]

theorem Valid.validate (h : s.Valid) : s.validate = .ok s :=
  validate_eq_ok_iff.mpr ⟨h.input,h.workers,by rw [filled,if_neg h.output]⟩

theorem valid_of_validate (h : s.validate = .ok s') (hf : s.logFormat ∈ logFormats)
    (hl : s.logLevel ∈ logLevels) : s'.Valid := by
  obtain ⟨hi,hw,rfl⟩ := validate_eq_ok_iff.mp h
  refine ⟨hi,hw,?_,hf,hl⟩
  by_cases ho : s.outputPath = []
  · rw [filled,if_pos ho]
    exact (by decide : defaultOutputPath ≠ [])
  · rw [filled,if_neg ho]
    exact ho

def request (s : Settings) : Request :=
  if s.inputCount = 0 then .leave
  else if !isLogFormat s.logFormat then .refuse .badLogFormat
  else if !isLogLevel s.logLevel then .refuse .badLogLevel
  else
    match s.validate with
    | .error e => .refuse (.settings e)
    | .ok settings => .run settings

theorem request_of_not_logFormat (hi : s.inputCount ≠ 0) (hf : s.logFormat ∉ logFormats) :
    s.request = .refuse .badLogFormat := by
  have hformat : isLogFormat s.logFormat = false :=
    Bool.eq_false_iff.mpr fun h => hf (isLogFormat_iff.mp h)
  rw [request,if_neg hi,hformat]
  rfl

theorem request_of_not_logLevel (hi : s.inputCount ≠ 0) (hf : s.logFormat ∈ logFormats)
    (hl : s.logLevel ∉ logLevels) : s.request = .refuse .badLogLevel := by
  have hlevel : isLogLevel s.logLevel = false :=
    Bool.eq_false_iff.mpr fun h => hl (isLogLevel_iff.mp h)
  rw [request,if_neg hi,isLogFormat_iff.mpr hf,hlevel]
  rfl

theorem request_of_words (hi : s.inputCount ≠ 0) (hf : s.logFormat ∈ logFormats)
    (hl : s.logLevel ∈ logLevels) : s.request =
      match s.validate with
      | .error e => .refuse (.settings e)
      | .ok settings => .run settings := by
  rw [request,if_neg hi,isLogFormat_iff.mpr hf,isLogLevel_iff.mpr hl]
  rfl

/-- Once an input is selected, there are no other reasons for a refusal than these. -/
theorem exists_request_eq_refuse_iff (hi : s.inputCount ≠ 0) :
    (∃ e, s.request = .refuse e) ↔ s.SeveralInputs ∨ s.workerCount < 1 ∨
      s.logFormat ∉ logFormats ∨ s.logLevel ∉ logLevels := by
  by_cases hf : s.logFormat ∈ logFormats
  · by_cases hl : s.logLevel ∈ logLevels
    · have herror := exists_validate_eq_error_iff (s := s)
      simp only [hi,false_or] at herror
      simp only [hf,hl,not_true,or_false,← herror,request_of_words hi hf hl]
      cases s.validate <;> simp
    · simp [request_of_not_logLevel hi hf hl,hl]
  · simp [request_of_not_logFormat hi hf,hf]

theorem refuse_or_run_of_input (hi : s.inputCount ≠ 0) : (∃ e, s.request = .refuse e) ∨
    s.request = .run s.filled ∧ s.validate = .ok s.filled ∧ s.logFormat ∈ logFormats ∧
      s.logLevel ∈ logLevels := by
  by_cases hf : s.logFormat ∈ logFormats
  · by_cases hl : s.logLevel ∈ logLevels
    · rw [request_of_words hi hf hl]
      cases hv : s.validate with
      | error e => exact .inl ⟨_,rfl⟩
      | ok settings =>
        obtain ⟨_,_,rfl⟩ := validate_eq_ok_iff.mp hv
        exact .inr ⟨rfl,rfl,hf,hl⟩
    · exact .inl ⟨_,request_of_not_logLevel hi hf hl⟩
  · exact .inl ⟨_,request_of_not_logFormat hi hf⟩

theorem valid_of_request (h : s.request = .run s') : s'.Valid := by
  have hi : s.inputCount ≠ 0 := by
    intro hi
    rw [request,if_pos hi] at h
    cases h
  obtain ⟨e,he⟩ | ⟨hrun,hv,hf,hl⟩ := refuse_or_run_of_input hi
  · cases h.symm.trans he
  · obtain rfl : s' = s.filled := by simpa using h.symm.trans hrun
    exact valid_of_validate hv hf hl

end Settings

/-! ### Requests -/

theorem value_parseArguments (arguments : List Bytes) :
    (parseArguments arguments).value =
      match readOptions {} arguments with
      | .help => (.leave,usage)
      | .refused e => (.refuse e,e.message ++ "\n" ++ usage)
      | .read o positional =>
        let asked := o.settings (positional.headD [])
        if 1 < positional.length then (.refuse .severalSources,[])
        else (asked.request,if asked.inputCount = 0 then usage else []) := by
  unfold parseArguments Settings.request
  rw [Logged.value_bind]
  cases readOptions {} arguments with
  | help => rfl
  | refused e => rfl
  | read o positional =>
    have hnone (source : Bytes) :
        (o.projectPath.isEmpty && source.isEmpty && !o.sample) = true ↔
          (o.settings source).inputCount = 0 := by
      simp [Settings.inputCount_eq_zero_iff,Options.settings,and_assoc]
    simp only [Logged.value_bind,hnone]
    split
    · rfl
    · split
      · rfl
      · split
        · rfl
        · split
          · rfl
          · cases (o.settings (positional.headD [])).validate <;> rfl

section run
variable {arguments : List Bytes} {s : Settings}

theorem exists_of_run (h : (parseArguments arguments).value.1 = .run s) :
    ∃ asked : Settings, asked.request = .run s ∧
      (parseArguments arguments).value.2 = if asked.inputCount = 0 then usage else [] := by
  rw [value_parseArguments] at h ⊢
  cases hr : readOptions {} arguments with
  | help => simp [hr] at h
  | refused e => simp [hr] at h
  | read o positional =>
    simp only [hr] at h ⊢
    split at h
    · cases h
    · next hp => exact ⟨_,h,by rw [if_neg hp]⟩

theorem valid_of_run (h : (parseArguments arguments).value.1 = .run s) : s.Valid := by
  obtain ⟨_,hrun,_⟩ := exists_of_run h
  exact Settings.valid_of_request hrun

theorem printed_of_run (h : (parseArguments arguments).value.1 = .run s) :
    (parseArguments arguments).value.2 = [] := by
  obtain ⟨asked,hrun,hprinted⟩ := exists_of_run h
  have hi : asked.inputCount ≠ 0 := by
    intro hi
    rw [Settings.request,if_pos hi] at hrun
    cases hrun
  rw [hprinted,if_neg hi]

end run

/-- A command line gives settings that can be relied on, or none. What is written as it should be
and selects an input gives the settings that it asks for, unless it is refused for their values. -/
theorem run_only_with_valid_settings (arguments : List Bytes) :
    let request := (parseArguments arguments).value.1
    (request = .leave ∨ (∃ e, request = .refuse e ∧ (ProcessError.usage e).exitCode = 2) ∨
      ∃ s, request = .run s ∧ s.Valid ∧ s.validate = .ok s) ∧
    ∀ given positional, WellWritten arguments given positional → positional.length ≤ 1 →
      let asked := settingsGiven given (positional.headD [])
      (asked.projectPath ≠ [] ∨ asked.sourcePath ≠ [] ∨ asked.useSample = true) →
      ((∃ e, request = .refuse e) ↔ asked.SeveralInputs ∨ asked.workerCount < 1 ∨
        asked.logFormat ∉ logFormats ∨ asked.logLevel ∉ logLevels) ∧
      ((∃ e, request = .refuse e) ∨ request = .run asked.filled) := by
  intro request
  constructor
  · cases hr : request with
    | leave => exact .inl rfl
    | refuse e => exact .inr (.inl ⟨e,rfl,rfl⟩)
    | run s =>
      have hv : s.Valid := valid_of_run hr
      exact .inr (.inr ⟨s,rfl,hv,hv.validate⟩)
  · intro given positional hw hp asked hi
    have hcount : asked.inputCount ≠ 0 :=
      fun hzero => (Settings.inputCount_eq_zero_iff _).mp hzero hi
    have hreq : request = asked.request := by
      simp only [request,value_parseArguments,readOptions_of_wellWritten hw,
        if_neg (Nat.not_lt.mpr hp),Options.settings_after,asked]
    rw [hreq]
    exact ⟨Settings.exists_request_eq_refuse_iff hcount,
      (Settings.refuse_or_run_of_input hcount).imp_right And.left⟩

/-- A long project path, its shorthand, a format in capitals after one that is none, and a level
that decides: with the one level the command line is refused, with the other it is run. -/
theorem run_only_with_valid_settings_last_values :
    let line (level : Bytes) : List Bytes := ["-project","a.hcl","-p=b.hcl","--log-format=xml",
      "-log-format","JSON","-o=c.cpp","-check","--stdout=f","--workers","0x2","--log-level",level]
    (∃ e, (parseArguments (line "loud")).value.1 = .refuse e) ∧
      (parseArguments (line "Warn")).value.1 = .run {
        projectPath := "a.hcl", sourcePath := [], useSample := false, outputPath := "c.cpp",
        checkOnly := true, stdout := false, logFormat := "json", logLevel := "warn",
        workerCount := 2 } := by
  intro line
  let given (level : Bytes) : List Given :=
    [⟨"project",.text "a.hcl"⟩,⟨"p",.text "b.hcl"⟩,⟨"log-format",.text "xml"⟩,
      ⟨"log-format",.text "JSON"⟩,⟨"o",.text "c.cpp"⟩,⟨"check",.flag true⟩,⟨"stdout",.flag false⟩,
      ⟨"workers",.number 2⟩,⟨"log-level",.text level⟩]
  have hone : [Ascii.minus] ∈ hyphens := by simp
  have htwo : [Ascii.minus,Ascii.minus] ∈ hyphens := by simp
  have hproject : Given.Written ⟨"project",.text "a.hcl"⟩ ["-project","a.hcl"] :=
    .apart hone (by decide) (.text (by decide))
  have hp : Given.Written ⟨"p",.text "b.hcl"⟩ ["-p=b.hcl"] := .joined hone (.text (by decide))
  have hxml : Given.Written ⟨"log-format",.text "xml"⟩ ["--log-format=xml"] :=
    .joined htwo (.text (by decide))
  have hjson : Given.Written ⟨"log-format",.text "JSON"⟩ ["-log-format","JSON"] :=
    .apart hone (by decide) (.text (by decide))
  have ho : Given.Written ⟨"o",.text "c.cpp"⟩ ["-o=c.cpp"] := .joined hone (.text (by decide))
  have hcheck : Given.Written ⟨"check",.flag true⟩ ["-check"] := .alone hone (by decide)
  have hstdout : Given.Written ⟨"stdout",.flag false⟩ ["--stdout=f"] :=
    .joined htwo (.flag (by decide) (by decide : truthValue? "f" = some false))
  have hworkers : Given.Written ⟨"workers",.number 2⟩ ["--workers","0x2"] :=
    .apart htwo (by decide) (.number (by decide +kernel : Numeral.parse "0x2" = .ok 2))
  have hlevel (level : Bytes) : Given.Written ⟨"log-level",.text level⟩ ["--log-level",level] :=
    .apart htwo (by decide) (.text (by decide))
  have hw (level : Bytes) : WellWritten (line level) (given level) [] :=
    .option hproject <| .option hp <| .option hxml <| .option hjson <| .option ho <|
      .option hcheck <| .option hstdout <| .option hworkers <| .option (hlevel level) .done
  have hinput (level : Bytes) : (settingsGiven (given level) []).projectPath ≠ [] :=
    (by decide : Bytes.ofString "a.hcl" ≠ [])
  have hrun (level : Bytes) := (run_only_with_valid_settings (line level)).2 _ _ (hw level)
    (by simp) (.inl (hinput level))
  constructor
  · exact (hrun "loud").1.mpr (.inr (.inr (.inr (by decide +kernel))))
  · have hvalues : ¬ ((settingsGiven (given "Warn") []).SeveralInputs ∨
        (settingsGiven (given "Warn") []).workerCount < 1 ∨
        (settingsGiven (given "Warn") []).logFormat ∉ logFormats ∨
        (settingsGiven (given "Warn") []).logLevel ∉ logLevels) := by
      unfold Settings.SeveralInputs
      decide +kernel
    exact ((hrun "Warn").2.resolve_left fun hr => hvalues ((hrun "Warn").1.mp hr)).trans
      (by decide +kernel)

end DefOut
