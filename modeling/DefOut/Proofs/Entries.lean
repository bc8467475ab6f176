import DefOut.Bytes
import Mathlib.Data.List.Induction
import Mathlib.Data.List.Perm.Basic
import Mathlib.Data.List.Nodup

set_option autoImplicit false

/-!
Lists of texts and of named entries. A text that is put behind the others unless it is one of them
stands where it comes first (`eraseDups_concat`). Sorted texts are increasing once the repetitions
are taken out (`pairwise_eraseReps`). Entries with distinct names are found by their
names (`find?_name_eq_some_iff`), and entries that are in the order of their names are the same when
the same ones are found (`eq_of_increasing`).
-/
namespace DefOut

theorem eraseDups_concat (texts : List Bytes) (text : Bytes) :
    (texts ++ [text]).eraseDups =
      if texts.eraseDups.contains text then texts.eraseDups else texts.eraseDups ++ [text] := by
  rw [List.eraseDups_append]
  by_cases h : text ∈ texts <;> simp [List.removeAll,h,List.eraseDups_cons]

theorem nodup_eraseDups (texts : List Bytes) : texts.eraseDups.Nodup := by
  induction texts using List.reverseRecOn with
  | nil => simp
  | append_singleton texts text ih =>
    rw [eraseDups_concat]
    split
    · exact ih
    · next h => exact ih.append (by simp) (by simpa using h)

/-! ### Sorted texts -/

theorem pairwise_mergeSort_le {α : Type} (key : α → Bytes) (items : List α) :
    (items.mergeSort fun a b => Bytes.le (key a) (key b)).Pairwise fun a b => key a ≤ key b := by
  have hsorted : (items.mergeSort fun a b => Bytes.le (key a) (key b)).Pairwise
      fun a b => Bytes.le (key a) (key b) = true := by
    refine List.pairwise_mergeSort (fun a b c hab hbc => ?_) (fun a b => ?_) items
    · simp only [Bytes.le,decide_eq_true_eq] at *
      exact List.le_trans hab hbc
    · simp only [Bytes.le,Bool.or_eq_true,decide_eq_true_eq]
      exact List.le_total (key a) (key b)
  exact hsorted.imp fun h => of_decide_eq_true h

theorem nodup_of_pairwise_lt {α : Type} (key : α → Bytes) {items : List α}
    (h : items.Pairwise fun a b => key a < key b) : (items.map key).Nodup := by
  refine List.pairwise_map.mpr (h.imp fun {a b} hlt heq => ?_)
  exact List.lt_irrefl (key b) (heq ▸ hlt)

theorem eq_of_pairwise_lt {α : Type} (key : α → Bytes) {items others : List α}
    (h : items.Pairwise fun a b => key a < key b) (h' : others.Pairwise fun a b => key a < key b)
    (hm : ∀ a, a ∈ items ↔ a ∈ others) : items = others := by
  have hn := (nodup_of_pairwise_lt key h).of_map
  have hn' := (nodup_of_pairwise_lt key h').of_map
  have hp := (List.perm_ext_iff_of_nodup hn hn').mpr hm
  exact hp.eq_of_pairwise (fun a b _ _ hab hba => absurd hba (List.lt_asymm hab)) h h'

theorem eraseRepsBy_loop (r : Bytes → Bytes → Bool) (text : Bytes) (texts seen : List Bytes) :
    List.eraseRepsBy.loop r text texts seen =
      seen.reverse ++ List.eraseRepsBy.loop r text texts [] := by
  induction texts generalizing text seen with
  | nil => simp [List.eraseRepsBy.loop]
  | cons next rest ih =>
    simp only [List.eraseRepsBy.loop]
    split
    · exact ih text seen
    · rw [ih next (text :: seen),ih next [text]]
      simp

theorem eraseReps_cons_cons (text next : Bytes) (rest : List Bytes) :
    (text :: next :: rest).eraseReps =
      if text = next then (next :: rest).eraseReps else text :: (next :: rest).eraseReps := by
  by_cases h : text = next
  · subst h
    simp [List.eraseReps,List.eraseRepsBy,List.eraseRepsBy.loop]
  · have hb : (text == next) = false := by simpa using h
    have hl := eraseRepsBy_loop (· == ·) next rest [text]
    simp only [List.eraseReps,List.eraseRepsBy,List.eraseRepsBy.loop,hb,if_neg h]
    exact hl

theorem mem_eraseReps {texts : List Bytes} {text : Bytes} :
    text ∈ texts.eraseReps ↔ text ∈ texts := by
  induction texts with
  | nil => rfl
  | cons first rest ih =>
    cases rest with
    | nil => rfl
    | cons next rest =>
      rw [eraseReps_cons_cons]
      split
      · next h => simp [ih,h]
      · rw [List.mem_cons,ih]
        exact List.mem_cons.symm

theorem pairwise_eraseReps {texts : List Bytes} (h : texts.Pairwise (· ≤ ·)) :
    texts.eraseReps.Pairwise (· < ·) := by
  induction texts with
  | nil => exact .nil
  | cons first rest ih =>
    cases rest with
    | nil => exact List.pairwise_singleton _ _
    | cons next rest =>
      obtain ⟨hfirst,hrest⟩ := List.pairwise_cons.mp h
      rw [eraseReps_cons_cons]
      split
      · exact ih hrest
      · next hne =>
        refine List.pairwise_cons.mpr ⟨fun text ht => ?_,ih hrest⟩
        have hnext : first < next := Std.lt_of_le_of_ne (hfirst next (by simp)) hne
        obtain rfl | ht := List.mem_cons.mp (mem_eraseReps.mp ht)
        · exact hnext
        · exact Std.lt_of_lt_of_le hnext ((List.pairwise_cons.mp hrest).1 text ht)

/-! ### Entries by name -/

theorem find?_eq_of_nodup {α : Type} {key : α → Bytes} {items : List α}
    (h : (items.map key).Nodup) {item : α} (hm : item ∈ items) {text : Bytes}
    (he : key item = text) : items.find? (fun i => key i == text) = some item := by
  cases hq : items.find? (fun i => key i == text) with
  | none => exact absurd he (by simpa using List.find?_eq_none.mp hq item hm)
  | some other =>
    have hk : key other = text := by simpa using List.find?_some hq
    have ho := List.mem_of_find?_eq_some hq
    rw [List.inj_on_of_nodup_map h ho hm (hk.trans he.symm)]

section entries
variable {α : Type} {entries others : List (Bytes × α)} {name : Bytes} {a : α}

theorem find?_name_eq_some_iff (h : (entries.map Prod.fst).Nodup) :
    (entries.find? fun e => e.1 == name).map Prod.snd = some a ↔ (name,a) ∈ entries := by
  induction entries with
  | nil => simp
  | cons e rest ih =>
    obtain ⟨hn,hr⟩ := List.nodup_cons.mp h
    by_cases he : e.1 = name
    · have hrest : (name,a) ∉ rest := fun hm => hn (List.mem_map.mpr ⟨_,hm,he.symm⟩)
      have heq : e.2 = a ↔ (name,a) = e := by simp [← he,Prod.ext_iff,eq_comm]
      simp [he,hrest,heq]
    · have hne : (name,a) ≠ e := fun heq => he (heq ▸ rfl)
      simpa [he,hne] using ih hr

abbrev Increasing (entries : List (Bytes × α)) : Prop := entries.Pairwise fun a b => a.1 < b.1

theorem Increasing.nodup (h : Increasing entries) : (entries.map Prod.fst).Nodup :=
  nodup_of_pairwise_lt Prod.fst h

theorem eq_of_increasing (h : Increasing entries) (h' : Increasing others)
    (hm : ∀ e, e ∈ entries ↔ e ∈ others) : entries = others :=
  eq_of_pairwise_lt Prod.fst h h' hm

end entries
end DefOut
