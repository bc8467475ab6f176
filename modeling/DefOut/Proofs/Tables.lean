import DefOut.Table
import DefOut.Proofs.Entries

set_option autoImplicit false

/-!
Tables that are accepted and tables that are refused. Mappings are judged one by one, each after the
ones before it; a list passes when every mapping passes on its own and any two of them pass together
(`firstFault?_eq_none_iff`). For keywords this says that nothing is empty and that both sides are
distinct (`firstFault?_keywordFault?_eq_none_iff`). Where a list does not pass, the fault is that of
the first mapping with which the rules are broken (`firstFault?_eq_some_iff_firstBreach`).
-/
namespace DefOut.Table

/-! ### Rules -/

theorem firstFault?_eq_none_iff {fault? : List Mapping → Mapping → Option TableError}
    {P : Mapping → Prop} {R : Mapping → Mapping → Prop}
    (hf : ∀ seen m, fault? seen m = none ↔ P m ∧ ∀ k ∈ seen, R k m)
    (seen mappings : List Mapping) :
    firstFault? fault? seen mappings = none ↔
      (∀ m ∈ mappings, P m) ∧ (∀ k ∈ seen, ∀ m ∈ mappings, R k m) ∧ mappings.Pairwise R := by
  induction mappings generalizing seen with
  | nil => simp [firstFault?]
  | cons m rest ih =>
    have hstep : firstFault? fault? seen (m :: rest) = none ↔
        fault? seen m = none ∧ firstFault? fault? (seen ++ [m]) rest = none := by
      cases h : fault? seen m <;> simp [firstFault?,h]
    rw [hstep,hf,ih,List.pairwise_cons]
    constructor
    · rintro ⟨⟨hp,hr⟩,hps,hrs,hpair⟩
      refine ⟨List.forall_mem_cons.mpr ⟨hp,hps⟩,?_,?_,hpair⟩
      · intro k hk
        exact List.forall_mem_cons.mpr ⟨hr k hk,hrs k (List.mem_append.mpr (.inl hk))⟩
      · exact hrs m (by simp)
    · rintro ⟨hp,hr,hm,hpair⟩
      obtain ⟨hpm,hps⟩ := List.forall_mem_cons.mp hp
      refine ⟨⟨hpm,fun k hk => (List.forall_mem_cons.mp (hr k hk)).1⟩,hps,?_,hpair⟩
      intro k hk
      obtain hk | hk := List.mem_append.mp hk
      · exact (List.forall_mem_cons.mp (hr k hk)).2
      · rw [List.mem_singleton.mp hk]
        exact hm

theorem keywordFault?_eq_none_iff (seen : List Mapping) (m : Mapping) :
    keywordFault? seen m = none ↔ (m.source ≠ [] ∧ m.target ≠ []) ∧
      ∀ k ∈ seen, k.source ≠ m.source ∧ k.target ≠ m.target := by
  have hs : seen.any (fun k => k.source == m.source) = false ↔
      ∀ k ∈ seen, k.source ≠ m.source := by simp
  have ht : seen.find? (fun k => k.target == m.target) = none ↔
      ∀ k ∈ seen, k.target ≠ m.target := by simp
  simp only [forall_and,← hs,← ht,keywordFault?]
  by_cases he : m.source = [] ∨ m.target = []
  · have hn : ¬ (m.source ≠ [] ∧ m.target ≠ []) := fun h => he.elim h.1 h.2
    simp [he,hn]
  · rw [if_neg he]
    rw [not_or] at he
    cases seen.any fun k => k.source == m.source <;> simp [he]

/-- The rules for keywords: no side is empty, and no text stands twice on the same side. -/
structure KeywordRules (keywords : List Mapping) : Prop where
  source_ne_nil : ∀ m ∈ keywords, m.source ≠ []
  target_ne_nil : ∀ m ∈ keywords, m.target ≠ []
  sources : (keywords.map Mapping.source).Nodup
  targets : (keywords.map Mapping.target).Nodup

theorem KeywordRules.tail {m : Mapping} {rest : List Mapping}
    (h : KeywordRules (m :: rest)) : KeywordRules rest where
  source_ne_nil k hk := h.source_ne_nil k (List.mem_cons_of_mem m hk)
  target_ne_nil k hk := h.target_ne_nil k (List.mem_cons_of_mem m hk)
  sources := (List.nodup_cons.mp h.sources).2
  targets := (List.nodup_cons.mp h.targets).2

theorem keywordRules_standard : KeywordRules standard.keywords :=
  ⟨by decide,by decide,by decide,by decide⟩

theorem firstFault?_keywordFault?_eq_none_iff (keywords : List Mapping) :
    firstFault? keywordFault? [] keywords = none ↔ KeywordRules keywords := by
  rw [firstFault?_eq_none_iff keywordFault?_eq_none_iff,List.pairwise_and_iff]
  constructor
  · rintro ⟨hne,-,hs,ht⟩
    exact ⟨fun m hm => (hne m hm).1,fun m hm => (hne m hm).2,List.pairwise_map.mpr hs,
      List.pairwise_map.mpr ht⟩
  · intro h
    exact ⟨fun m hm => ⟨h.source_ne_nil m hm,h.target_ne_nil m hm⟩,by simp,
      List.pairwise_map.mp h.sources,List.pairwise_map.mp h.targets⟩

theorem targetFault?_eq_none_iff (seen : List Mapping) (m : Mapping) :
    targetFault? seen m = none ↔ m.source ≠ [] ∧ ∀ k ∈ seen, k.source ≠ m.source := by
  have hs : seen.any (fun k => k.source == m.source) = false ↔
      ∀ k ∈ seen, k.source ≠ m.source := by simp
  rw [← hs,targetFault?]
  by_cases he : m.source = []
  · simp [he]
  · cases seen.any fun k => k.source == m.source <;> simp [he]

/-- The rules for targets: no lexeme is empty, and none has two targets. -/
structure TargetRules (targets : List Mapping) : Prop where
  source_ne_nil : ∀ m ∈ targets, m.source ≠ []
  sources : (targets.map Mapping.source).Nodup

theorem firstFault?_targetFault?_eq_none_iff (targets : List Mapping) :
    firstFault? targetFault? [] targets = none ↔ TargetRules targets := by
  rw [firstFault?_eq_none_iff targetFault?_eq_none_iff]
  constructor
  · rintro ⟨hne,-,hs⟩
    exact ⟨hne,List.pairwise_map.mpr hs⟩
  · intro h
    exact ⟨h.source_ne_nil,by simp,List.pairwise_map.mp h.sources⟩

/-! ### Faults -/

/-- What is wrong with keyword `m` after the keywords in `seen`. An empty side counts before a
repeated keyword, and that before a shared lexeme, which is reported with the keyword that claimed it
first. -/
inductive KeywordFault (seen : List Mapping) (m : Mapping) : TableError → Prop
  | emptySide (he : m.source = [] ∨ m.target = []) : KeywordFault seen m (.emptySide m)
  | repeatedKeyword (hs : m.source ≠ []) (ht : m.target ≠ [])
      (hm : m.source ∈ seen.map Mapping.source) :
      KeywordFault seen m (.repeatedKeyword m.source)
  | sharedLexeme {k : Mapping} {earlier later : List Mapping} (hs : m.source ≠ [])
      (ht : m.target ≠ []) (hm : m.source ∉ seen.map Mapping.source)
      (hseen : seen = earlier ++ k :: later) (hk : k.target = m.target)
      (hfirst : m.target ∉ earlier.map Mapping.target) :
      KeywordFault seen m (.sharedLexeme m.target k.source m.source)

inductive TargetFault (seen : List Mapping) (m : Mapping) : TableError → Prop
  | emptyTarget (hs : m.source = []) : TargetFault seen m (.emptyTarget m.target)
  | repeatedTarget (hs : m.source ≠ []) (hm : m.source ∈ seen.map Mapping.source) :
      TargetFault seen m (.repeatedTarget m.source)

theorem keywordFault?_eq_some_iff (seen : List Mapping) (m : Mapping) (e : TableError) :
    keywordFault? seen m = some e ↔ KeywordFault seen m e := by
  have hany : seen.any (fun k => k.source == m.source) = true ↔
      m.source ∈ seen.map Mapping.source := by simp
  unfold keywordFault?
  constructor
  · intro h
    split at h
    · next he =>
      obtain rfl := Option.some.inj h
      exact .emptySide he
    · next he =>
      obtain ⟨hs,ht⟩ := not_or.mp he
      split at h
      · next hm =>
        obtain rfl := Option.some.inj h
        exact .repeatedKeyword hs ht (hany.mp hm)
      · next hm =>
        obtain ⟨k,hfind,rfl⟩ := Option.map_eq_some_iff.mp h
        obtain ⟨hk,earlier,later,hseen,hfirst⟩ := List.find?_eq_some_iff_append.mp hfind
        exact .sharedLexeme hs ht (fun hmem => hm (hany.mpr hmem)) hseen (by simpa using hk)
          (by simpa using hfirst)
  · intro h
    cases h with
    | emptySide he => rw [if_pos he]
    | repeatedKeyword hs ht hm => rw [if_neg (not_or.mpr ⟨hs,ht⟩),if_pos (hany.mpr hm)]
    | @sharedLexeme k earlier later hs ht hm hseen hk hfirst =>
      have hfind : seen.find? (fun k => k.target == m.target) = some k :=
        List.find?_eq_some_iff_append.mpr
          ⟨by simpa using hk,earlier,later,hseen,by simpa using hfirst⟩
      rw [if_neg (not_or.mpr ⟨hs,ht⟩),if_neg (fun h => hm (hany.mp h)),hfind]
      rfl

theorem targetFault?_eq_some_iff (seen : List Mapping) (m : Mapping) (e : TableError) :
    targetFault? seen m = some e ↔ TargetFault seen m e := by
  have hany : seen.any (fun k => k.source == m.source) = true ↔
      m.source ∈ seen.map Mapping.source := by simp
  unfold targetFault?
  constructor
  · intro h
    split at h
    · next hs =>
      obtain rfl := Option.some.inj h
      exact .emptyTarget hs
    · next hs =>
      split at h
      · next hm =>
        obtain rfl := Option.some.inj h
        exact .repeatedTarget hs (hany.mp hm)
      · cases h
  · rintro (hs | ⟨hs,hm⟩)
    · rw [if_pos hs]
    · rw [if_neg hs,if_pos (hany.mpr hm)]

theorem firstFault?_append (fault? : List Mapping → Mapping → Option TableError)
    (seen before rest : List Mapping) :
    firstFault? fault? seen (before ++ rest) =
      (firstFault? fault? seen before).or (firstFault? fault? (seen ++ before) rest) := by
  induction before generalizing seen with
  | nil => simp [firstFault?]
  | cons m before ih => cases h : fault? seen m <;> simp [firstFault?,h,ih]

theorem firstFault?_eq_some_iff {fault? : List Mapping → Mapping → Option TableError}
    {seen mappings : List Mapping} {e : TableError} :
    firstFault? fault? seen mappings = some e ↔ ∃ before m after, mappings = before ++ m :: after ∧
      firstFault? fault? seen before = none ∧ fault? (seen ++ before) m = some e := by
  constructor
  · intro h
    induction mappings generalizing seen with
    | nil => simp [firstFault?] at h
    | cons m rest ih =>
      cases hm : fault? seen m with
      | some e' =>
        obtain rfl : e' = e := by simpa [firstFault?,hm] using h
        exact ⟨[],m,rest,rfl,rfl,by simpa using hm⟩
      | none =>
        obtain ⟨before,m',after,rfl,hbefore,hm'⟩ := ih (by simpa [firstFault?,hm] using h)
        exact ⟨m :: before,m',after,rfl,by simpa [firstFault?,hm] using hbefore,by simpa using hm'⟩
  · rintro ⟨before,m,after,rfl,hbefore,hm⟩
    rw [firstFault?_append,hbefore]
    simp [firstFault?,hm]

/-- Some mapping is the first one of a list with which the rules are broken, and this is what is
wrong with it after the ones before it. -/
def FirstBreach (Rules : List Mapping → Prop) (Fault : List Mapping → Mapping → TableError → Prop)
    (mappings : List Mapping) (e : TableError) : Prop :=
  ∃ before m after, mappings = before ++ m :: after ∧ Rules before ∧ ¬ Rules (before ++ [m]) ∧
    Fault before m e

theorem firstFault?_eq_some_iff_firstBreach
    {fault? : List Mapping → Mapping → Option TableError} {Rules : List Mapping → Prop}
    {Fault : List Mapping → Mapping → TableError → Prop}
    (hr : ∀ mappings, firstFault? fault? [] mappings = none ↔ Rules mappings)
    (hf : ∀ seen m e, fault? seen m = some e ↔ Fault seen m e) (mappings : List Mapping)
    (e : TableError) :
    firstFault? fault? [] mappings = some e ↔ FirstBreach Rules Fault mappings e := by
  rw [firstFault?_eq_some_iff]
  constructor
  · rintro ⟨before,m,after,rfl,hbefore,hm⟩
    refine ⟨before,m,after,rfl,(hr before).mp hbefore,fun hrules => ?_,(hf before m e).mp hm⟩
    have hnone := (hr (before ++ [m])).mpr hrules
    have hsome : firstFault? fault? [] (before ++ [m]) = some e :=
      firstFault?_eq_some_iff.mpr ⟨before,m,[],rfl,hbefore,hm⟩
    cases hnone.symm.trans hsome
  · rintro ⟨before,m,after,rfl,hbefore,_,hm⟩
    exact ⟨before,m,after,rfl,(hr before).mpr hbefore,(hf before m e).mpr hm⟩

/-! ### Tables -/

theorem mem_distinctSorted {texts : List Bytes} {text : Bytes} :
    text ∈ distinctSorted texts ↔ text ∈ texts := by
  rw [distinctSorted,mem_eraseReps]
  exact (List.mergeSort_perm texts _).mem_iff

theorem pairwise_distinctSorted (texts : List Bytes) :
    (distinctSorted texts).Pairwise (· < ·) :=
  pairwise_eraseReps (pairwise_mergeSort_le id texts)

section tables
variable {keywords targets : List Mapping} {operators : List Bytes}

theorem ofParts_eq_ok_iff {t : Table} : ofParts keywords targets operators = .ok t ↔
    KeywordRules keywords ∧ TargetRules targets ∧
      t = ⟨keywords,targets,distinctSorted operators⟩ := by
  rw [← firstFault?_keywordFault?_eq_none_iff,← firstFault?_targetFault?_eq_none_iff,ofParts]
  cases firstFault? keywordFault? [] keywords with
  | some e => simp
  | none =>
    cases firstFault? targetFault? [] targets with
    | some e => simp
    | none => simp [eq_comm]

/-- The standard table is made of its parts, whose operators are given in no particular order. -/
theorem ofParts_standard : ofParts standard.keywords standard.targets
    ["+","-","/","*",Lexeme.power,Lexeme.assign] = .ok standard := by
  have hsorted : distinctSorted ["+","-","/","*",Lexeme.power,Lexeme.assign] =
      standard.operators := by
    refine eq_of_pairwise_lt id (pairwise_distinctSorted _) (by decide) fun operator => ?_
    simp only [mem_distinctSorted,standard,List.mem_cons,List.not_mem_nil,or_false]
    grind
  refine ofParts_eq_ok_iff.mpr ⟨⟨?_,?_,?_,?_⟩,⟨?_,?_⟩,by rw [hsorted]⟩ <;> decide

theorem ofParts_eq_error_iff {e : TableError} : ofParts keywords targets operators = .error e ↔
    FirstBreach KeywordRules KeywordFault keywords e ∨
      KeywordRules keywords ∧ FirstBreach TargetRules TargetFault targets e := by
  rw [← firstFault?_eq_some_iff_firstBreach firstFault?_keywordFault?_eq_none_iff
      keywordFault?_eq_some_iff,← firstFault?_keywordFault?_eq_none_iff,
    ← firstFault?_eq_some_iff_firstBreach firstFault?_targetFault?_eq_none_iff
      targetFault?_eq_some_iff,ofParts]
  cases firstFault? keywordFault? [] keywords with
  | some e => simp
  | none => cases firstFault? targetFault? [] targets <;> simp

theorem keywords_of_ofParts {t : Table} (h : ofParts keywords targets operators = .ok t) :
    t.keywords = keywords ∧ KeywordRules keywords := by
  obtain ⟨hrules,_,rfl⟩ := ofParts_eq_ok_iff.mp h
  exact ⟨rfl,hrules⟩

end tables

/-- A table is made exactly of parts that keep the rules. It has the keywords and the targets as they
are given and each operator once, in increasing order. Any other parts are refused for the first
keyword that breaks the rules after the ones before it, or else for the first such target. -/
theorem made_of_lawful_parts (keywords targets : List Mapping) (operators : List Bytes) :
    ((∃ t, ofParts keywords targets operators = .ok t) ↔
      KeywordRules keywords ∧ TargetRules targets) ∧
    (∀ t, ofParts keywords targets operators = .ok t →
      t.keywords = keywords ∧ t.targets = targets ∧ t.operators.Pairwise (· < ·) ∧
        ∀ operator, operator ∈ t.operators ↔ operator ∈ operators) ∧
    ∀ e, ofParts keywords targets operators = .error e ↔
      FirstBreach KeywordRules KeywordFault keywords e ∨
        KeywordRules keywords ∧ FirstBreach TargetRules TargetFault targets e := by
  refine ⟨?_,fun t ht => ?_,fun e => ofParts_eq_error_iff⟩
  · simp only [ofParts_eq_ok_iff]
    constructor
    · rintro ⟨t,hk,ht,_⟩
      exact ⟨hk,ht⟩
    · rintro ⟨hk,ht⟩
      exact ⟨_,hk,ht,rfl⟩
  · obtain ⟨_,_,rfl⟩ := ofParts_eq_ok_iff.mp ht
    exact ⟨rfl,rfl,pairwise_distinctSorted operators,fun _ => mem_distinctSorted⟩

/-- A table with a repeated operator, and keywords of which the third claims the lexeme of the first. -/
theorem made_of_lawful_parts_or_refused :
    let keywords : List Mapping := [⟨"a","1"⟩,⟨"b","2"⟩]
    ofParts keywords [⟨"1",[]⟩] ["+","*","+"] = .ok ⟨keywords,[⟨"1",[]⟩],["*","+"]⟩ ∧
    (["*","+"] : List Bytes).Pairwise (· < ·) ∧
    FirstBreach KeywordRules KeywordFault (keywords ++ [⟨"c","1"⟩,⟨[],[]⟩])
      (.sharedLexeme "1" "a" "c") := by
  intro keywords
  have hsorted : distinctSorted ["+","*","+"] = (["*","+"] : List Bytes) := by
    refine eq_of_pairwise_lt id (pairwise_distinctSorted _) (by decide) fun operator => ?_
    simp only [mem_distinctSorted,List.mem_cons,List.not_mem_nil,or_false]
    grind
  have hok : ofParts keywords [⟨"1",[]⟩] ["+","*","+"] =
      .ok ⟨keywords,[⟨"1",[]⟩],["*","+"]⟩ := by
    refine ofParts_eq_ok_iff.mpr ⟨⟨?_,?_,?_,?_⟩,⟨?_,?_⟩,by rw [hsorted]⟩ <;> decide
  have herror : ofParts (keywords ++ [⟨"c","1"⟩,⟨[],[]⟩]) [⟨[],[]⟩] [] =
      .error (.sharedLexeme "1" "a" "c") := by decide +kernel
  obtain ⟨_,hmade,_⟩ := made_of_lawful_parts keywords [⟨"1",[]⟩] ["+","*","+"]
  obtain ⟨_,_,hrefused⟩ := made_of_lawful_parts (keywords ++ [⟨"c","1"⟩,⟨[],[]⟩]) [⟨[],[]⟩] []
  obtain hbreach | ⟨hrules,_⟩ := (hrefused _).mp herror
  · exact ⟨hok,(hmade _ hok).2.2.1,hbreach⟩
  · exact absurd (hrules.source_ne_nil ⟨[],[]⟩ (by simp)) (by simp)

end DefOut.Table
