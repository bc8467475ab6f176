import DefOut.Table
import Mathlib.Data.List.Infix
import Mathlib.Data.List.Nodup

set_option autoImplicit false

/-!
Substitutions. Replacing a text is followed from one occurrence to the next
(`occurrence_induction`); a replacement by a single byte that was not there before can be taken
back (`replaceAll_replaceAll`). Mappings of single bytes whose targets hold no byte of another
mapping do not disturb each other: one after the other, in any order, they write every byte of the
text on its own (`Apart.substitute_eq_flatMap`).
-/
namespace DefOut

namespace Bytes

theorem replaceFrom_skip (old new : Bytes) (skip : Nat) (s : Bytes) :
    replaceFrom old new skip s = replaceFrom old new 0 (s.drop skip) := by
  induction skip generalizing s with
  | zero => rfl
  | succ skip ih =>
    cases s with
    | nil => rfl
    | cons c s => simp [replaceFrom,ih]

@[simp] theorem replaceAll_nil (old new : Bytes) : replaceAll old new [] = [] := rfl

theorem replaceAll_append {old : Bytes} (hold : old ≠ []) (new s : Bytes) :
    replaceAll old new (old ++ s) = new ++ replaceAll old new s := by
  obtain ⟨c,old,rfl⟩ := List.exists_cons_of_ne_nil hold
  have hp : (c :: old).isPrefixOf (c :: (old ++ s)) = true := by simp
  simp only [replaceAll,List.cons_append]
  rw [replaceFrom,if_pos (by simp [hp]),replaceFrom_skip]
  simp

theorem replaceAll_cons {old : Bytes} {c : UInt8} {s : Bytes} (h : ¬ old <+: c :: s)
    (new : Bytes) : replaceAll old new (c :: s) = c :: replaceAll old new s := by
  have hp : old.isPrefixOf (c :: s) = false := by
    rw [← Bool.not_eq_true,List.isPrefixOf_iff_prefix]
    exact h
  simp [replaceAll,replaceFrom,hp]

theorem replaceAll_cons_ne {b c : UInt8} (h : c ≠ b) (old new s : Bytes) :
    replaceAll (b :: old) new (c :: s) = c :: replaceAll (b :: old) new s :=
  replaceAll_cons (by simp [Ne.symm h]) new

theorem replaceAll_singleton (b : UInt8) (new s : Bytes) :
    replaceAll [b] new s = s.flatMap fun c => if c = b then new else [c] := by
  induction s with
  | nil => rfl
  | cons c s ih =>
    by_cases hc : c = b
    · subst c
      have h := replaceAll_append (List.cons_ne_nil b []) new s
      simp only [List.cons_append,List.nil_append] at h
      simp [h,ih]
    · rw [replaceAll_cons_ne hc,ih]
      simp [hc]

/-- A text is empty, goes on with an occurrence of `old`, or goes on with a byte at which none
starts. -/
theorem occurrence_induction {old : Bytes} (hold : old ≠ []) {motive : Bytes → Prop}
    (nil : motive []) (found : ∀ s, motive s → motive (old ++ s))
    (other : ∀ c s, ¬ old <+: c :: s → motive s → motive (c :: s)) (s : Bytes) : motive s := by
  induction hn : s.length using Nat.strongRecOn generalizing s with
  | ind n ih =>
    subst hn
    cases s with
    | nil => exact nil
    | cons c s =>
      by_cases hp : old <+: c :: s
      · obtain ⟨rest,hr⟩ := hp
        have hpos : 0 < old.length := List.length_pos_iff.mpr hold
        have hlen := congrArg List.length hr
        rw [List.length_append] at hlen
        rw [← hr]
        exact found rest (ih rest.length (by omega) rest rfl)
      · exact other c s hp (ih s.length (by simp) s rfl)

theorem replaceAll_self {old : Bytes} (hold : old ≠ []) (s : Bytes) :
    replaceAll old old s = s := by
  induction s using occurrence_induction hold with
  | nil => rfl
  | found s ih => rw [replaceAll_append hold,ih]
  | other c s hc ih => rw [replaceAll_cons hc,ih]

theorem mem_of_mem_replaceAll {old new s : Bytes} {b : UInt8} (hold : old ≠ [])
    (h : b ∈ replaceAll old new s) : b ∈ new ∨ b ∈ s := by
  induction s using occurrence_induction hold with
  | nil => simp at h
  | found s ih =>
    rw [replaceAll_append hold,List.mem_append] at h
    obtain h | h := h
    · exact .inl h
    · exact (ih h).imp_right fun hs => List.mem_append.mpr (.inr hs)
  | other c s hc ih =>
    rw [replaceAll_cons hc,List.mem_cons] at h
    obtain rfl | h := h
    · exact .inr (by simp)
    · exact (ih h).imp_right (List.mem_cons_of_mem c)

/-- Occurrences written as a byte that the text does not hold are found again by that byte. -/
theorem replaceAll_replaceAll {old : Bytes} (hold : old ≠ []) {b : UInt8} {s : Bytes}
    (hb : b ∉ s) : replaceAll [b] old (replaceAll old [b] s) = s := by
  induction s using occurrence_induction hold with
  | nil => rfl
  | found s ih =>
    have hs := ih fun hm => hb (List.mem_append.mpr (.inr hm))
    rw [replaceAll_append hold,replaceAll_append (List.cons_ne_nil b []),hs]
  | other c s hc ih =>
    simp only [List.mem_cons,not_or] at hb
    rw [replaceAll_cons hc,replaceAll_cons_ne (Ne.symm hb.1),ih hb.2]

end Bytes

def substitute (mappings : List Mapping) (text : Bytes) : Bytes :=
  mappings.foldl (fun text m => Bytes.replaceAll m.source m.target text) text

def writtenAs (mappings : List Mapping) (c : UInt8) : Bytes :=
  match mappings.find? fun m => m.source == [c] with
  | some m => m.target
  | none => [c]

theorem writtenAs_cons (m : Mapping) (rest : List Mapping) (c : UInt8) :
    writtenAs (m :: rest) c = if m.source = [c] then m.target else writtenAs rest c := by
  by_cases hm : m.source = [c] <;> simp [writtenAs,hm]

theorem writtenAs_of_forall_ne {mappings : List Mapping} {c : UInt8}
    (h : ∀ m ∈ mappings, m.source ≠ [c]) : writtenAs mappings c = [c] := by
  have hf : mappings.find? (fun m => m.source == [c]) = none := by
    simpa using h
  rw [writtenAs,hf]

theorem flatMap_writtenAs_self {mappings : List Mapping} {text : Bytes}
    (h : ∀ c ∈ text, ∀ m ∈ mappings, m.source ≠ [c]) :
    text.flatMap (writtenAs mappings) = text := by
  induction text with
  | nil => rfl
  | cons c text ih =>
    have ht := ih fun b hb => h b (List.mem_cons_of_mem c hb)
    rw [List.flatMap_cons,writtenAs_of_forall_ne (h c (by simp)),ht]
    rfl

/-- Single bytes, each mapped once, and no target that holds a byte another mapping replaces. -/
structure Apart (mappings : List Mapping) : Prop where
  single : ∀ m ∈ mappings, m.source.length = 1
  distinct : (mappings.map Mapping.source).Nodup
  clear : ∀ m ∈ mappings, ∀ k ∈ mappings, k.source ≠ m.source → ¬ k.source <:+: m.target

namespace Apart

variable {mappings others : List Mapping}

theorem tail {m : Mapping} (h : Apart (m :: mappings)) : Apart mappings where
  single k hk := h.single k (List.mem_cons_of_mem m hk)
  distinct := (List.nodup_cons.mp h.distinct).2
  clear k hk l hl := h.clear k (List.mem_cons_of_mem m hk) l (List.mem_cons_of_mem m hl)

theorem perm (h : Apart mappings) (hp : mappings.Perm others) : Apart others where
  single m hm := h.single m (hp.mem_iff.mpr hm)
  distinct := (hp.map Mapping.source).nodup_iff.mp h.distinct
  clear m hm k hk := h.clear m (hp.mem_iff.mpr hm) k (hp.mem_iff.mpr hk)

theorem substitute_eq_flatMap (h : Apart mappings) (text : Bytes) :
    substitute mappings text = text.flatMap (writtenAs mappings) := by
  induction mappings generalizing text with
  | nil => exact (flatMap_writtenAs_self (by simp)).symm
  | cons m rest ih =>
    obtain ⟨b,hb⟩ := List.length_eq_one_iff.mp (h.single m (by simp))
    -- The later mappings leave the text that this one writes as it is.
    have hclear : m.target.flatMap (writtenAs rest) = m.target := by
      apply flatMap_writtenAs_self
      intro c hc k hk hkc
      have hne : k.source ≠ m.source := by
        intro he
        have hd := (List.nodup_cons.mp h.distinct).1
        exact hd (List.mem_map.mpr ⟨k,hk,he⟩)
      apply h.clear m (by simp) k (List.mem_cons_of_mem m hk) hne
      rw [hkc]
      exact (List.singleton_infix_iff c m.target).mpr hc
    calc substitute (m :: rest) text
        = substitute rest (Bytes.replaceAll [b] m.target text) := by rw [← hb]; rfl
      _ = (Bytes.replaceAll [b] m.target text).flatMap (writtenAs rest) := ih h.tail _
      _ = text.flatMap (writtenAs (m :: rest)) := by
        rw [Bytes.replaceAll_singleton,List.flatMap_assoc]
        congr 1
        funext c
        rw [writtenAs_cons,hb]
        by_cases hc : c = b
        · simp [hc,hclear]
        · simp [hc,Ne.symm hc]

theorem writtenAs_of_mem (h : Apart mappings) {m : Mapping} (hm : m ∈ mappings) {c : UInt8}
    (hc : m.source = [c]) : writtenAs mappings c = m.target := by
  have hs : (mappings.find? fun k => k.source == [c]).isSome = true :=
    List.find?_isSome.mpr ⟨m,hm,by simp [hc]⟩
  obtain ⟨k,hk⟩ := Option.isSome_iff_exists.mp hs
  have hkc : k.source = [c] := by simpa using List.find?_some hk
  have he : k = m := List.inj_on_of_nodup_map h.distinct (List.mem_of_find?_eq_some hk) hm
    (hkc.trans hc.symm)
  rw [writtenAs,hk,he]

theorem substitute_eq (h : Apart mappings) {f : UInt8 → Bytes}
    (hf : ∀ m ∈ mappings, m.source.flatMap f = m.target)
    (hother : ∀ c, [c] ∉ mappings.map Mapping.source → f c = [c]) (text : Bytes) :
    substitute mappings text = text.flatMap f := by
  rw [h.substitute_eq_flatMap]
  congr 1
  funext c
  by_cases hc : [c] ∈ mappings.map Mapping.source
  · obtain ⟨m,hm,hs⟩ := List.mem_map.mp hc
    have ht := hf m hm
    rw [hs,List.flatMap_singleton] at ht
    rw [h.writtenAs_of_mem hm hs,ht]
  · rw [hother c hc,writtenAs_of_forall_ne fun m hm hs => hc (List.mem_map.mpr ⟨m,hm,hs⟩)]

theorem writtenAs_perm (h : Apart mappings) (hp : mappings.Perm others) (c : UInt8) :
    writtenAs mappings c = writtenAs others c := by
  by_cases hc : ∃ m ∈ mappings, m.source = [c]
  · obtain ⟨m,hm,hs⟩ := hc
    rw [h.writtenAs_of_mem hm hs,(h.perm hp).writtenAs_of_mem (hp.mem_iff.mp hm) hs]
  · have hne : ∀ m ∈ mappings, m.source ≠ [c] := fun m hm hs => hc ⟨m,hm,hs⟩
    rw [writtenAs_of_forall_ne hne,
      writtenAs_of_forall_ne fun m hm => hne m (hp.mem_iff.mpr hm)]

theorem substitute_perm (h : Apart mappings) (hp : mappings.Perm others) (text : Bytes) :
    substitute mappings text = substitute others text := by
  rw [h.substitute_eq_flatMap,(h.perm hp).substitute_eq_flatMap]
  congr 1
  funext c
  exact h.writtenAs_perm hp c

end Apart

end DefOut
