import DefOut.Proofs.Entries
import DefOut.Proofs.Loading

set_option autoImplicit false

/-!
What the order of local values means. They can be used when their blocks hold arguments only, no
name is given twice and every argument has a value (`Collectable`), and none of this depends on the
order of the files, of their blocks or of the arguments (`Reordered`). The object of the local
values has its attributes under composed names. So it gives every local value back, and is the same
in every order, exactly when names that look the same have the same value (`SameLook`).
-/
namespace DefOut.Project

namespace Value

/-! ### Objects -/

theorem entryOf_insertEntry {α : Type} (name key : Bytes) (v : α) (entries : List (Bytes × α)) :
    entryOf key (insertEntry name v entries) =
      if name = key then some v else entryOf key entries := by
  unfold entryOf
  induction entries with
  | nil => by_cases h : name = key <;> simp [insertEntry,h]
  | cons e rest ih =>
    obtain ⟨n,w⟩ := e
    rw [insertEntry]
    by_cases hn : n = name
    · subst n
      by_cases h : name = key <;> simp [h]
    · rw [if_neg hn]
      split
      · by_cases h : name = key <;> simp [h]
      · by_cases hk : n = key
        · subst n
          simp [Ne.symm hn]
        · simpa [hk] using ih

theorem mem_insertEntry {α : Type} {name : Bytes} {v : α} {entries : List (Bytes × α)}
    {e : Bytes × α} (h : e ∈ insertEntry name v entries) : e = (name,v) ∨ e ∈ entries := by
  induction entries with
  | nil => simpa [insertEntry] using h
  | cons first rest ih =>
    rw [insertEntry] at h
    split at h
    · exact (List.mem_cons.mp h).imp_right (List.mem_cons_of_mem _)
    · split at h
      · exact List.mem_cons.mp h
      · obtain rfl | h := List.mem_cons.mp h
        · exact .inr List.mem_cons_self
        · exact (ih h).imp_right (List.mem_cons_of_mem _)

theorem increasing_insertEntry {α : Type} (name : Bytes) (v : α) {entries : List (Bytes × α)}
    (h : Increasing entries) : Increasing (insertEntry name v entries) := by
  induction entries with
  | nil => simp [insertEntry]
  | cons first rest ih =>
    obtain ⟨hfirst,hrest⟩ := List.pairwise_cons.mp h
    rw [insertEntry]
    split
    · next he => exact List.pairwise_cons.mpr ⟨he ▸ hfirst,hrest⟩
    · next hne =>
      split
      · next hle =>
        have hlt : name < first.1 :=
          Std.lt_of_le_of_ne (by simpa [Bytes.le] using hle) (Ne.symm hne)
        refine List.pairwise_cons.mpr ⟨fun e he => ?_,h⟩
        obtain rfl | he := List.mem_cons.mp he
        · exact hlt
        · exact List.lt_trans hlt (hfirst e he)
      · next hle =>
        refine List.pairwise_cons.mpr ⟨fun e he => ?_,ih hrest⟩
        obtain rfl | he := mem_insertEntry he
        · simpa [Bytes.le] using hle
        · exact hfirst e he

def attributesOf (attributes : List (Bytes × Value)) : List (Bytes × Value) :=
  attributes.foldl (fun as e => insertEntry (Text.composed e.1) e.2 as) []

theorem attributesOf_concat (attributes : List (Bytes × Value)) (e : Bytes × Value) :
    attributesOf (attributes ++ [e]) =
      insertEntry (Text.composed e.1) e.2 (attributesOf attributes) := by
  rw [attributesOf,List.foldl_append]
  rfl

theorem increasing_attributesOf (attributes : List (Bytes × Value)) :
    Increasing (attributesOf attributes) := by
  induction attributes using List.reverseRecOn with
  | nil => exact .nil
  | append_singleton attributes e ih =>
    rw [attributesOf_concat]
    exact increasing_insertEntry _ _ ih

theorem entryOf_attributesOf (attributes : List (Bytes × Value)) (key : Bytes) :
    entryOf key (attributesOf attributes) =
      (attributes.reverse.find? fun e => Text.composed e.1 == key).map Prod.snd := by
  induction attributes using List.reverseRecOn with
  | nil => rfl
  | append_singleton attributes e ih =>
    rw [attributesOf_concat,entryOf_insertEntry,ih,List.reverse_append]
    by_cases h : Text.composed e.1 = key <;> simp [h]

end Value

/-! ### Collecting local values -/

structure Argument.Keeps (eval : Evaluator) (a : Argument) (l : Bytes × Range × Value) : Prop where
  name_eq : l.1 = a.name
  range_eq : l.2.1 = a.nameRange
  value_eq : eval a.value = .ok l.2.2

def definitions (files : List ProjectFile) : List Argument :=
  files.flatMap fun f => f.locals.flatMap Body.arguments

/-- Files whose local values can be used: there are only arguments, of distinct names, and each has
a value. -/
structure Collectable (eval : Evaluator) (files : List ProjectFile) : Prop where
  argumentsOnly : ∀ f ∈ files, ∀ body ∈ f.locals, body.blocks = []
  names : ((definitions files).map Argument.name).Nodup
  evaluable : ∀ a ∈ definitions files, ∃ v, eval a.value = .ok v

/-- Names that look the same have the same value. -/
def SameLook (eval : Evaluator) (files : List ProjectFile) : Prop :=
  ∀ a ∈ definitions files, ∀ b ∈ definitions files,
    Text.composed a.name = Text.composed b.name → eval a.value = eval b.value

theorem exists_keeps_iff {eval : Evaluator} {a : Argument} :
    (∃ l, a.Keeps eval l) ↔ ∃ v, eval a.value = .ok v :=
  ⟨fun ⟨l,h⟩ => ⟨l.2.2,h.value_eq⟩,fun ⟨v,h⟩ => ⟨(a.name,a.nameRange,v),rfl,rfl,h⟩⟩

namespace Locals
variable {eval : Evaluator} {found result : Locals} {files : List ProjectFile}

theorem rangeOf?_eq_none_iff {name : Bytes} :
    found.rangeOf? name = none ↔ name ∉ found.map Prod.fst := by
  rw [rangeOf?,Option.map_eq_none_iff,List.find?_eq_none,List.mem_map,not_exists]
  simp only [beq_iff_eq,not_and]

theorem addArguments_eq_ok_iff {arguments : List Argument} (hn : (found.map Prod.fst).Nodup) :
    addArguments eval arguments found = .ok result ↔
      ∃ new, List.Forall₂ (Argument.Keeps eval) arguments new ∧ result = found ++ new ∧
        (result.map Prod.fst).Nodup := by
  induction arguments generalizing found with
  | nil =>
    constructor
    · intro h
      obtain rfl := Except.ok.inj h
      exact ⟨[],.nil,by simp,hn⟩
    · rintro ⟨_,hk,rfl,_⟩
      cases hk
      simp [addArguments]
  | cons a rest ih =>
    rw [addArguments]
    cases hr : found.rangeOf? a.name with
    | some first =>
      constructor
      · intro h
        cases h
      · rintro ⟨_,hk,rfl,hnodup⟩
        cases hk with
        | @cons _ l _ new hl _ =>
          have hm : a.name ∈ found.map Prod.fst := by
            by_contra hm
            simp [rangeOf?_eq_none_iff.mpr hm] at hr
          rw [List.map_append,List.nodup_append] at hnodup
          exact absurd hl.name_eq.symm (hnodup.2.2 _ hm _ (by simp))
    | none =>
      cases hv : eval a.value with
      | error faults =>
        constructor
        · intro h
          cases h
        · rintro ⟨_,hk,_⟩
          cases hk with
          | cons hl _ => cases hv.symm.trans hl.value_eq
      | ok v =>
        have hm := rangeOf?_eq_none_iff.mp hr
        have hnext : ((found ++ [(a.name,a.nameRange,v)]).map Prod.fst).Nodup := by
          rw [List.map_append]
          exact hn.append (by simp) (by simpa using hm)
        refine (ih hnext).trans ⟨?_,?_⟩
        · rintro ⟨new,hk,rfl,hnodup⟩
          exact ⟨(a.name,a.nameRange,v) :: new,.cons ⟨rfl,rfl,hv⟩ hk,by simp,hnodup⟩
        · rintro ⟨_,hk,rfl,hnodup⟩
          cases hk with
          | @cons _ l _ new hl hk =>
            obtain ⟨name,range,w⟩ := l
            obtain ⟨rfl,rfl,hw⟩ := hl
            obtain rfl := Except.ok.inj (hv.symm.trans hw)
            exact ⟨new,hk,by simp,hnodup⟩

theorem addArguments_append (as bs : List Argument) (found : Locals) :
    addArguments eval (as ++ bs) found =
      (addArguments eval as found).bind (addArguments eval bs) := by
  induction as generalizing found with
  | nil => rfl
  | cons a rest ih =>
    rw [List.cons_append,addArguments,addArguments]
    cases found.rangeOf? a.name with
    | some first => rfl
    | none =>
      cases eval a.value with
      | error faults => rfl
      | ok v => exact ih _

theorem addBlocks_eq_ok_iff {blocks : List (Bytes × Body)} :
    addBlocks eval blocks found = .ok result ↔ (∀ b ∈ blocks, b.2.blocks = []) ∧
      addArguments eval (blocks.flatMap fun b => b.2.arguments) found = .ok result := by
  induction blocks generalizing found with
  | nil => simp [addBlocks,addArguments]
  | cons b rest ih =>
    obtain ⟨file,body⟩ := b
    rw [addBlocks,List.flatMap_cons,addArguments_append,List.forall_mem_cons]
    cases hb : body.blocks with
    | cons => simp
    | nil =>
      cases addArguments eval body.arguments found with
      | error e => simp [Except.bind]
      | ok middle => simpa [Except.bind] using ih

theorem ofFiles_eq_ok_iff : ofFiles eval files = .ok found ↔
    (∀ f ∈ files, ∀ body ∈ f.locals, body.blocks = []) ∧
      List.Forall₂ (Argument.Keeps eval) (definitions files) found ∧
        (found.map Prod.fst).Nodup := by
  have hflat : ((files.flatMap fun f => f.locals.map fun body => (f.path,body)).flatMap
      fun b => b.2.arguments) = definitions files := by
    simp only [definitions,List.flatMap_assoc,List.flatMap_map]
  have honly : (∀ b ∈ files.flatMap fun f => f.locals.map fun body => (f.path,body),
      b.2.blocks = []) ↔ ∀ f ∈ files, ∀ body ∈ f.locals, body.blocks = [] := by
    simp only [List.forall_mem_flatMap,List.forall_mem_map]
  rw [ofFiles,addBlocks_eq_ok_iff,hflat,honly,addArguments_eq_ok_iff (by simp)]
  refine and_congr_right fun _ => ⟨?_,fun ⟨hk,hnodup⟩ => ⟨found,hk,by simp,hnodup⟩⟩
  rintro ⟨new,hk,rfl,hnodup⟩
  exact ⟨by simpa using hk,hnodup⟩

theorem exists_ofFiles_iff :
    (∃ found, ofFiles eval files = .ok found) ↔ Collectable eval files := by
  simp only [ofFiles_eq_ok_iff]
  constructor
  · rintro ⟨found,honly,hk,hnodup⟩
    rw [map_eq_of_forall₂ (fun _ _ h => Argument.Keeps.name_eq h) hk] at hnodup
    exact ⟨honly,hnodup,fun a ha => exists_keeps_iff.mp (exists_forall₂_iff.mp ⟨found,hk⟩ a ha)⟩
  · rintro ⟨honly,hnodup,heval⟩
    obtain ⟨found,hk⟩ := exists_forall₂_iff.mpr fun a ha => exists_keeps_iff.mpr (heval a ha)
    refine ⟨found,honly,hk,?_⟩
    rwa [map_eq_of_forall₂ (fun _ _ h => Argument.Keeps.name_eq h) hk]

/-! ### The object of the local values -/

def attributes (found : Locals) : List (Bytes × Value) :=
  Value.attributesOf (found.map fun l => (l.1,l.2.2))

theorem toValue_eq (found : Locals) : found.toValue = .object found.attributes := rfl

theorem increasing_attributes (found : Locals) : Increasing found.attributes :=
  Value.increasing_attributesOf _

theorem mem_attributes_iff {key : Bytes} {v : Value} :
    (key,v) ∈ found.attributes ↔ Value.entryOf key found.attributes = some v :=
  (find?_name_eq_some_iff found.increasing_attributes.nodup).symm

theorem member_toValue_eq_ok_iff {name : Bytes} {place : Range} {v : Value} :
    found.toValue.member name place = .ok v ↔ (Text.composed name,v) ∈ found.attributes := by
  rw [toValue_eq,mem_attributes_iff,Value.member]
  simp only
  cases Value.entryOf (Text.composed name) found.attributes with
  | none => simp [Value.refuse]
  | some w => simp

variable {key : Bytes} {v : Value} {a : Argument}

theorem map_eq_map_definitions (h : ofFiles eval files = .ok found) :
    found.map (fun l => (l.1,.ok l.2.2)) =
      (definitions files).map fun a => (a.name,eval a.value) :=
  map_eq_of_forall₂ (fun _ _ hk => by rw [hk.name_eq,hk.value_eq]) (ofFiles_eq_ok_iff.mp h).2.1

theorem mem_values_iff (h : ofFiles eval files = .ok found) {name : Bytes} :
    (name,v) ∈ found.map (fun l => (l.1,l.2.2)) ↔
      ∃ a ∈ definitions files, a.name = name ∧ eval a.value = .ok v := by
  have hm : (name,.ok v) ∈ found.map (fun l => (l.1,(.ok l.2.2 : Except (List Diagnostic) Value))) ↔
      (name,.ok v) ∈ (definitions files).map fun a => (a.name,eval a.value) := by
    rw [map_eq_map_definitions h]
  simpa using hm

theorem exists_definition (h : ofFiles eval files = .ok found) (hm : (key,v) ∈ found.attributes) :
    ∃ a ∈ definitions files, Text.composed a.name = key ∧ eval a.value = .ok v := by
  rw [mem_attributes_iff,attributes,Value.entryOf_attributesOf,Option.map_eq_some_iff] at hm
  obtain ⟨e,he,rfl⟩ := hm
  have hmem := List.mem_reverse.mp (List.mem_of_find?_eq_some he)
  obtain ⟨a,ha,hn,hv⟩ := (mem_values_iff h).mp hmem
  exact ⟨a,ha,by simpa [hn] using List.find?_some he,hv⟩

theorem exists_attribute (h : ofFiles eval files = .ok found) (ha : a ∈ definitions files) :
    ∃ v, (Text.composed a.name,v) ∈ found.attributes := by
  obtain ⟨v,hv⟩ := (exists_ofFiles_iff.mp ⟨found,h⟩).evaluable a ha
  have hmem := (mem_values_iff h).mpr ⟨a,ha,rfl,hv⟩
  have hfound : (Value.entryOf (Text.composed a.name) found.attributes).isSome := by
    rw [attributes,Value.entryOf_attributesOf,Option.isSome_map,List.find?_isSome]
    exact ⟨_,List.mem_reverse.mpr hmem,by simp⟩
  obtain ⟨w,hw⟩ := Option.isSome_iff_exists.mp hfound
  exact ⟨w,mem_attributes_iff.mpr hw⟩

theorem mem_attributes_of_last {before : List Argument} (h : ofFiles eval files = .ok found)
    (hl : definitions files = before ++ [a]) :
    ∃ v, eval a.value = .ok v ∧ (Text.composed a.name,v) ∈ found.attributes := by
  have hmap := map_eq_map_definitions h
  rw [hl,List.map_append,List.map_singleton,List.map_eq_append_iff] at hmap
  obtain ⟨first,last,rfl,-,hlast⟩ := hmap
  obtain ⟨l,rfl,hl⟩ := List.map_eq_singleton_iff.mp hlast
  obtain ⟨hn,hv⟩ := Prod.mk.inj hl
  refine ⟨l.2.2,hv.symm,?_⟩
  rw [mem_attributes_iff,attributes,Value.entryOf_attributesOf]
  simp [hn]

theorem mem_attributes_iff_of_sameLook (h : ofFiles eval files = .ok found)
    (hs : SameLook eval files) : (key,v) ∈ found.attributes ↔
      ∃ a ∈ definitions files, Text.composed a.name = key ∧ eval a.value = .ok v := by
  refine ⟨exists_definition h,?_⟩
  rintro ⟨a,ha,rfl,hv⟩
  obtain ⟨w,hw⟩ := exists_attribute h ha
  obtain ⟨b,hb,hkey,hbw⟩ := exists_definition h hw
  obtain rfl := Except.ok.inj (hbw.symm.trans ((hs b hb a ha hkey).trans hv))
  exact hw

/-- Names that look the same have the same value exactly when every local value stands in the object
under its composed name. -/
theorem sameLook_iff_mem_attributes (h : ofFiles eval files = .ok found) :
    SameLook eval files ↔ ∀ a ∈ definitions files,
      ∃ v, eval a.value = .ok v ∧ (Text.composed a.name,v) ∈ found.attributes := by
  constructor
  · intro hs a ha
    obtain ⟨v,hv⟩ := (exists_ofFiles_iff.mp ⟨found,h⟩).evaluable a ha
    exact ⟨v,hv,(mem_attributes_iff_of_sameLook h hs).mpr ⟨a,ha,rfl,hv⟩⟩
  · intro hall a ha b hb hab
    obtain ⟨v,hv,hmv⟩ := hall a ha
    obtain ⟨w,hw,hmw⟩ := hall b hb
    rw [hab,mem_attributes_iff] at hmv
    rw [hv,hw,Option.some.inj (hmv.symm.trans (mem_attributes_iff.mp hmw))]

end Locals

/-! ### Other orders -/

/-- One list has what is in the other, in any order and each changed as the relation allows. -/
def Rearranged {α : Type} (R : α → α → Prop) (as bs : List α) : Prop :=
  ∃ changed, List.Forall₂ R as changed ∧ changed.Perm bs

theorem exists_perm_concat {α : Type} {a : α} {as : List α} (ha : a ∈ as) :
    ∃ before, as.Perm (before ++ [a]) := by
  obtain ⟨front,rest,rfl⟩ := List.append_of_mem ha
  exact ⟨front ++ rest,List.perm_middle.trans (List.perm_append_singleton _ _).symm⟩

namespace Rearranged
variable {α β : Type} {R : α → α → Prop} {as bs : List α}

theorem perm_flatMap {f : α → List β} (hf : ∀ a b, R a b → (f a).Perm (f b))
    (h : Rearranged R as bs) : (as.flatMap f).Perm (bs.flatMap f) := by
  obtain ⟨changed,hc,hp⟩ := h
  refine .trans ?_ (hp.flatMap_right f)
  clear hp
  induction hc with
  | nil => exact .refl _
  | cons hab _ ih => simpa only [List.flatMap_cons] using (hf _ _ hab).append ih

theorem forall_mem_iff {p : α → Prop} (hp : ∀ a b, R a b → (p a ↔ p b))
    (h : Rearranged R as bs) : (∀ a ∈ as, p a) ↔ ∀ b ∈ bs, p b := by
  obtain ⟨changed,hc,hperm⟩ := h
  simp only [← hperm.mem_iff]
  clear hperm
  induction hc with
  | nil => simp
  | cons hab _ ih => rw [List.forall_mem_cons,List.forall_mem_cons,hp _ _ hab,ih]

theorem exists_concat (hR : ∀ a, R a a) {a b : α} (ha : a ∈ as) (hab : R a b) :
    ∃ before, Rearranged R as (before ++ [b]) := by
  obtain ⟨front,rest,rfl⟩ := List.append_of_mem ha
  have hrefl (l : List α) : List.Forall₂ R l l := List.forall₂_same.mpr fun a _ => hR a
  refine ⟨front ++ rest,front ++ b :: rest,?_,?_⟩
  · exact List.rel_append (hrefl front) (.cons hab (hrefl rest))
  · exact List.perm_middle.trans (List.perm_append_singleton _ _).symm

end Rearranged

structure Body.Reordered (b b' : Body) : Prop where
  arguments : b.arguments.Perm b'.arguments
  blocks : b'.blocks = b.blocks

structure ProjectFile.Reordered (f f' : ProjectFile) : Prop where
  path : f'.path = f.path
  locals : Rearranged Body.Reordered f.locals f'.locals
  programs : f'.programs = f.programs

/-- Files in any order, with their `locals` blocks and the arguments of these in any order. -/
def Reordered (files files' : List ProjectFile) : Prop :=
  Rearranged ProjectFile.Reordered files files'

theorem Body.Reordered.refl (b : Body) : b.Reordered b := ⟨.refl _,rfl⟩

theorem ProjectFile.Reordered.refl (f : ProjectFile) : f.Reordered f :=
  ⟨rfl,⟨f.locals,List.forall₂_same.mpr fun b _ => .refl b,.refl _⟩,rfl⟩

section reordered
variable {eval : Evaluator} {files files' : List ProjectFile} {a : Argument}

theorem Reordered.perm_definitions (h : Reordered files files') :
    (definitions files).Perm (definitions files') :=
  h.perm_flatMap fun _ _ hf => hf.locals.perm_flatMap fun _ _ hb => hb.arguments

theorem Reordered.collectable_iff (h : Reordered files files') :
    Collectable eval files ↔ Collectable eval files' := by
  have honly : (∀ f ∈ files, ∀ b ∈ f.locals, b.blocks = []) ↔
      ∀ f ∈ files', ∀ b ∈ f.locals, b.blocks = [] :=
    h.forall_mem_iff fun _ _ hf => hf.locals.forall_mem_iff fun _ _ hb => by rw [hb.blocks]
  have hp := h.perm_definitions
  constructor
  · rintro ⟨ho,hn,he⟩
    exact ⟨honly.mp ho,(hp.map _).nodup_iff.mp hn,fun a ha => he a (hp.mem_iff.mpr ha)⟩
  · rintro ⟨ho,hn,he⟩
    exact ⟨honly.mpr ho,(hp.map _).nodup_iff.mpr hn,fun a ha => he a (hp.mem_iff.mp ha)⟩

theorem exists_reordered_last (ha : a ∈ definitions files) :
    ∃ files' before, Reordered files files' ∧ definitions files' = before ++ [a] := by
  obtain ⟨f,hf,ha⟩ := List.mem_flatMap.mp ha
  obtain ⟨b,hb,ha⟩ := List.mem_flatMap.mp ha
  obtain ⟨arguments,hp⟩ := exists_perm_concat ha
  have hlast : b.Reordered ⟨arguments ++ [a],b.blocks⟩ := ⟨hp,rfl⟩
  obtain ⟨bodies,hbodies⟩ := Rearranged.exists_concat Body.Reordered.refl hb hlast
  have hfile : f.Reordered ⟨f.path,bodies ++ [⟨arguments ++ [a],b.blocks⟩],f.programs⟩ :=
    ⟨rfl,hbodies,rfl⟩
  obtain ⟨others,hfiles⟩ := Rearranged.exists_concat ProjectFile.Reordered.refl hf hfile
  refine ⟨_,definitions others ++ (bodies.flatMap Body.arguments ++ arguments),hfiles,?_⟩
  simp [definitions]

end reordered

section results
variable {eval : Evaluator} {files files' : List ProjectFile} {found found' : Locals}

theorem toValue_eq_of_sameLook (h : Locals.ofFiles eval files = .ok found)
    (hs : SameLook eval files) (hr : Reordered files files')
    (h' : Locals.ofFiles eval files' = .ok found') : found'.toValue = found.toValue := by
  have hp := hr.perm_definitions
  have hs' : SameLook eval files' := fun a ha b hb =>
    hs a (hp.mem_iff.mpr ha) b (hp.mem_iff.mpr hb)
  have hmem (e : Bytes × Value) : e ∈ found'.attributes ↔ e ∈ found.attributes := by
    rw [Locals.mem_attributes_iff_of_sameLook h' hs',Locals.mem_attributes_iff_of_sameLook h hs]
    simp only [hp.mem_iff]
  rw [Locals.toValue_eq,Locals.toValue_eq,
    eq_of_increasing found'.increasing_attributes found.increasing_attributes hmem]

theorem sameLook_of_toValue_eq (h : Locals.ofFiles eval files = .ok found)
    (heq : ∀ files' found', Reordered files files' → Locals.ofFiles eval files' = .ok found' →
      found'.toValue = found.toValue) : SameLook eval files := by
  refine (Locals.sameLook_iff_mem_attributes h).mpr fun a ha => ?_
  -- Looked at last, a local value is the one in the object.
  obtain ⟨files',before,hr,hl⟩ := exists_reordered_last ha
  obtain ⟨found',h'⟩ := Locals.exists_ofFiles_iff.mpr
    (hr.collectable_iff.mp (Locals.exists_ofFiles_iff.mp ⟨found,h⟩))
  have hsame : found'.attributes = found.attributes := Value.object.inj (heq files' found' hr h')
  exact hsame ▸ Locals.mem_attributes_of_last h' hl

/-- Whether local values can be used does not depend on the order in which they are looked at. Their
object has an attribute for every composed name, with the value of a local value of that name. It
gives every local value back, and is the same in every order, exactly when names that look the same
have the same value. -/
theorem locals_in_any_order (eval : Evaluator) (files : List ProjectFile) :
    ((∃ found, Locals.ofFiles eval files = .ok found) ↔ Collectable eval files) ∧
    (∀ files', Reordered files files' →
      ((∃ found, Locals.ofFiles eval files' = .ok found) ↔
        ∃ found, Locals.ofFiles eval files = .ok found)) ∧
    ∀ found, Locals.ofFiles eval files = .ok found →
      (∃ attributes, found.toValue = .object attributes ∧ Increasing attributes ∧
        (∀ key v, (key,v) ∈ attributes →
          ∃ a ∈ definitions files, Text.composed a.name = key ∧ eval a.value = .ok v) ∧
        ∀ a ∈ definitions files, ∃ v, (Text.composed a.name,v) ∈ attributes) ∧
      ((∀ files' found', Reordered files files' → Locals.ofFiles eval files' = .ok found' →
        found'.toValue = found.toValue) ↔ SameLook eval files) ∧
      ((∀ a ∈ definitions files, ∃ v, eval a.value = .ok v ∧
        ∀ place, found.toValue.member a.name place = .ok v) ↔ SameLook eval files) := by
  refine ⟨Locals.exists_ofFiles_iff,fun files' hr => ?_,fun found h => ⟨?_,?_,?_⟩⟩
  · rw [Locals.exists_ofFiles_iff,Locals.exists_ofFiles_iff,hr.collectable_iff]
  · exact ⟨found.attributes,found.toValue_eq,found.increasing_attributes,
      fun _ _ => Locals.exists_definition h,fun _ => Locals.exists_attribute h⟩
  · exact ⟨sameLook_of_toValue_eq h,fun hs _ _ => toValue_eq_of_sameLook h hs⟩
  · rw [Locals.sameLook_iff_mem_attributes h]
    simp only [Locals.member_toValue_eq_ok_iff,forall_const]

end results

def oneBlock (arguments : List Argument) : List ProjectFile := [⟨"p.hcl",[⟨arguments,[]⟩],[]⟩]

def textArgument (name text : Bytes) : Argument := ⟨name,default,.literal (.string text) default⟩

theorem reordered_oneBlock {as bs : List Argument} (h : as.Perm bs) :
    Reordered (oneBlock as) (oneBlock bs) := by
  have hbodies : Rearranged Body.Reordered [⟨as,[]⟩] [⟨bs,[]⟩] :=
    ⟨[⟨bs,[]⟩],.cons ⟨h,rfl⟩ .nil,.refl _⟩
  exact ⟨oneBlock bs,.cons ⟨rfl,hbodies,rfl⟩ .nil,.refl _⟩

theorem locals_in_any_order_two : ∃ found,
    Locals.ofFiles Expression.evalClosed
      (oneBlock [textArgument "y" "2",textArgument "x" "1"]) = .ok found ∧
    found.toValue = .object [("x",.string "1"),("y",.string "2")] ∧
    ∀ files' found', Reordered (oneBlock [textArgument "y" "2",textArgument "x" "1"]) files' →
      Locals.ofFiles Expression.evalClosed files' = .ok found' →
        found'.toValue = found.toValue := by
  have hx : Text.composed "x" = "x" := by decide +kernel
  have hy : Text.composed "y" = "y" := by decide +kernel
  have hne : Bytes.ofString "y" ≠ "x" := by decide
  have hs : SameLook Expression.evalClosed
      (oneBlock [textArgument "y" "2",textArgument "x" "1"]) := by
    simp [SameLook,definitions,oneBlock,textArgument,hx,hy,hne,hne.symm]
  have h : Locals.ofFiles Expression.evalClosed
      (oneBlock [textArgument "y" "2",textArgument "x" "1"]) =
        .ok [("y",default,.string "2"),("x",default,.string "1")] := rfl
  have hvalue : Locals.toValue [("y",default,.string "2"),("x",default,.string "1")] =
      .object [("x",.string "1"),("y",.string "2")] := by
    have hle : Bytes.le "x" "y" = true := by decide
    simp [Locals.toValue,Value.ofAttributes,Value.insertEntry,hx,hy,hne,hle]
  exact ⟨_,h,hvalue,((locals_in_any_order _ _).2.2 _ h).2.1.mpr hs⟩

/-- Two local values with names that look the same: the last one counts, for both names. -/
theorem composed_names_share_value :
    let files := oneBlock [textArgument "é" "1",textArgument "e\u0301" "2"]
    let others := oneBlock [textArgument "e\u0301" "2",textArgument "é" "1"]
    Reordered files others ∧
    (Locals.ofFiles Expression.evalClosed files).map Locals.toValue =
      .ok (.object [("é",.string "2")]) ∧
    (Locals.ofFiles Expression.evalClosed others).map Locals.toValue =
      .ok (.object [("é",.string "1")]) ∧
    (load (Files.empty.put "p.hcl" ("locals \x7b\n é = 1\n e\u0301 = 2\n\x7d\n"
      ++ "program \"a\" \x7b\n source = local.é == local.e\u0301\n\x7d\n"))
      ["p.hcl"]).value = .ok ⟨[⟨"a","true",[],"a.cpp","p.hcl"⟩]⟩ := by
  have hc : Text.composed "é" = "é" := by decide +kernel
  have hd : Text.composed "e\u0301" = "é" := by decide +kernel
  have hvalue (n m v w : Bytes) (r s : Range) (hn : Text.composed n = "é")
      (hm : Text.composed m = "é") :
      Locals.toValue [(n,r,.string v),(m,s,.string w)] = .object [("é",.string w)] := by
    simp [Locals.toValue,Value.ofAttributes,Value.insertEntry,hn,hm]
  refine ⟨reordered_oneBlock (.swap _ _ _),?_,?_,?_⟩
  · exact congrArg Except.ok (hvalue _ _ _ _ default default hc hd)
  · exact congrArg Except.ok (hvalue _ _ _ _ default default hd hc)
  · decide +kernel

end DefOut.Project
