import DefOut.Path
import DefOut.Proofs.Splitting

set_option autoImplicit false

/-!
What cleaning makes of a path. The components that are kept are plain names behind leading parents
(`Normal`), so a cleaned path is its own cleaned path (`clean_clean`); a resolved path is cleaned
unless it was absolute before (`clean_resolve`), and it is never empty. A path to a place below a
directory has the components of the directory and then those of the place (`cleanParts_join`).
-/
namespace DefOut.Path

/-- Components, innermost first, that cleaning has nothing to do on: none is empty or `.`, and a
parent stands only in a relative path with nothing but parents around it. -/
def Normal (rooted : Bool) : List Bytes → Prop
  | [] => True
  | part :: rest =>
    part ≠ [] ∧ part ≠ "." ∧ Ascii.slash ∉ part ∧
      (part = ".." → rooted = false ∧ ∀ outer ∈ rest, outer = "..") ∧ Normal rooted rest

theorem ofString_slash : Bytes.ofString "/" = [Ascii.slash] := rfl

theorem Normal.parent (rest : List Bytes) (h : ∀ outer ∈ rest, outer = "..") :
    Normal false (".." :: rest) := by
  induction rest with
  | nil => exact ⟨by decide,by decide,by decide,fun _ => ⟨rfl,by simp⟩,trivial⟩
  | cons outer rest ih =>
    have hr := ih fun other ho => h other (by simp [ho])
    have ho : outer = ".." := h outer (by simp)
    subst ho
    exact ⟨by decide,by decide,by decide,fun _ => ⟨rfl,h⟩,hr⟩

theorem Normal.push {rooted : Bool} {kept : List Bytes} {part : Bytes} (h : Normal rooted kept)
    (hs : Ascii.slash ∉ part) : Normal rooted (push rooted kept part) := by
  unfold Path.push
  by_cases hb : part = [] ∨ part = "."
  · simpa [hb] using h
  · rw [if_neg hb]
    by_cases hp : part = ".."
    · rw [if_pos hp]
      cases kept with
      | nil =>
        cases rooted with
        | true => exact trivial
        | false => exact .parent [] (by simp)
      | cons last rest =>
        by_cases hl : last = ".."
        · have hr := h.2.2.2.1 hl
          simp only [hl,if_true,hr.1]
          exact .parent _ (by simpa using hr.2)
        · simpa [hl] using h.2.2.2.2
    · rw [if_neg hp]
      exact ⟨fun he => hb (.inl he),fun he => hb (.inr he),hs,fun he => absurd he hp,h⟩

theorem Normal.push_eq {rooted : Bool} {rest : List Bytes} {part : Bytes}
    (h : Normal rooted (part :: rest)) : Path.push rooted rest part = part :: rest := by
  obtain ⟨hne,hdot,_,hparent,_⟩ := h
  unfold Path.push
  rw [if_neg (by simp [hne,hdot])]
  by_cases hp : part = ".."
  · obtain ⟨hr,hall⟩ := hparent hp
    rw [if_pos hp]
    cases rest with
    | nil => simp [hr,hp]
    | cons last rest =>
      have hl : last = ".." := hall last (by simp)
      simp [hl,hp]
  · rw [if_neg hp]

theorem Normal.foldl_reverse {rooted : Bool} {kept : List Bytes} (h : Normal rooted kept) :
    kept.reverse.foldl (Path.push rooted) [] = kept := by
  induction kept with
  | nil => rfl
  | cons part rest ih =>
    have hr := ih h.2.2.2.2
    rw [List.reverse_cons,List.foldl_append,hr]
    exact h.push_eq

theorem Normal.foldl {rooted : Bool} {kept : List Bytes} (h : Normal rooted kept)
    {components : List Bytes} (hs : ∀ part ∈ components, Ascii.slash ∉ part) :
    Normal rooted (components.foldl (Path.push rooted) kept) := by
  induction components generalizing kept with
  | nil => exact h
  | cons part rest ih =>
    have hp := h.push (hs part (by simp))
    exact ih hp fun other ho => hs other (by simp [ho])

theorem normal_cleanParts (path : Bytes) : Normal (isAbsolute path) (cleanParts path).reverse := by
  rw [cleanParts,List.reverse_reverse]
  have h : Normal (isAbsolute path) [] := trivial
  exact h.foldl fun part hp => Bytes.not_mem_of_mem_splitOn hp

theorem Normal.mem {rooted : Bool} {kept : List Bytes} (h : Normal rooted kept) {part : Bytes}
    (hp : part ∈ kept) : part ≠ [] ∧ Ascii.slash ∉ part := by
  induction kept with
  | nil => simp at hp
  | cons first rest ih =>
    obtain rfl | hp := List.mem_cons.mp hp
    · exact ⟨h.1,h.2.2.1⟩
    · exact ih h.2.2.2.2 hp

theorem isAbsolute_ofParts {rooted : Bool} {components : List Bytes}
    (h : Normal rooted components.reverse) : isAbsolute (ofParts rooted components) = rooted := by
  cases rooted with
  | true => simp [ofParts,isAbsolute,ofString_slash]
  | false =>
    cases components with
    | nil => rfl
    | cons part rest =>
      have hm : part ∈ (part :: rest).reverse := by simp
      obtain ⟨hne,hs⟩ := h.mem hm
      obtain ⟨tail,ht⟩ := Bytes.exists_joinWith_eq_append "/" part rest
      cases part with
      | nil => exact absurd rfl hne
      | cons c part =>
        have hc : c ≠ Ascii.slash := fun he => hs (by simp [he])
        simp [ofParts,isAbsolute,ht,hc]

theorem cleanParts_ofParts {rooted : Bool} {components : List Bytes}
    (h : Normal rooted components.reverse) :
    cleanParts (ofParts rooted components) = components := by
  have hfold := h.foldl_reverse
  rw [List.reverse_reverse] at hfold
  rw [cleanParts,isAbsolute_ofParts h]
  cases components with
  | nil => cases rooted <;> rfl
  | cons part rest =>
    have hparts : parts (Bytes.joinWith "/" (part :: rest)) = part :: rest :=
      Bytes.splitOn_joinWith (by simp) fun other ho => (h.mem (List.mem_reverse.mpr ho)).2
    cases rooted with
    | true =>
      have hroot : parts (ofParts true (part :: rest)) = [] :: part :: rest := by
        rw [parts] at hparts ⊢
        simpa [ofParts,ofString_slash] using hparts
      rw [hroot,List.foldl_cons]
      exact List.reverse_eq_iff.mpr hfold
    | false =>
      have hrel : parts (ofParts false (part :: rest)) = part :: rest := by
        simpa [ofParts] using hparts
      rw [hrel,hfold,List.reverse_reverse]

theorem isAbsolute_clean (path : Bytes) : isAbsolute (clean path) = isAbsolute path :=
  isAbsolute_ofParts (normal_cleanParts path)

theorem cleanParts_clean (path : Bytes) : cleanParts (clean path) = cleanParts path :=
  cleanParts_ofParts (normal_cleanParts path)

@[simp] theorem clean_clean (path : Bytes) : clean (clean path) = clean path := by
  have hp := cleanParts_clean path
  have ha := isAbsolute_clean path
  rw [clean,hp,ha]
  rfl

theorem clean_ne_nil (path : Bytes) : clean path ≠ [] := by
  have h := normal_cleanParts path
  unfold clean ofParts
  cases isAbsolute path with
  | true => simp [ofString_slash]
  | false =>
    cases hc : cleanParts path with
    | nil => simp; decide
    | cons part rest =>
      have hm : part ∈ (cleanParts path).reverse := by simp [hc]
      have hne := (h.mem hm).1
      obtain ⟨tail,ht⟩ := Bytes.exists_joinWith_eq_append "/" part rest
      simp [ht,hne]

theorem join_eq_clean {folder : Bytes} (h : folder ≠ []) (path : Bytes) :
    join folder path = clean (folder ++ "/" ++ path) := by
  simp [join,h]

/-- A resolved path is cleaned, or it is the absolute path that was given. -/
theorem clean_resolve {folder path : Bytes} (hf : folder ≠ [])
    (h : clean (resolve folder path) ≠ resolve folder path) :
    isAbsolute path = true ∧ resolve folder path = path := by
  by_cases ha : isAbsolute path = true
  · exact ⟨ha,by simp [resolve,ha]⟩
  · have hr : resolve folder path = clean (folder ++ "/" ++ path) := by
      rw [resolve,if_neg ha,join_eq_clean hf]
    exact absurd (by rw [hr,clean_clean]) h

theorem resolve_ne_nil {folder : Bytes} (hf : folder ≠ []) (path : Bytes) :
    resolve folder path ≠ [] := by
  by_cases ha : isAbsolute path = true
  · rw [resolve,if_pos ha]
    rintro rfl
    simp [isAbsolute] at ha
  · rw [resolve,if_neg ha,join_eq_clean hf]
    exact clean_ne_nil _

theorem directory_ne_nil (path : Bytes) : directory path ≠ [] := clean_ne_nil _

/-! ### Places below a directory -/

/-- A component that names an entry of a directory; cleaning keeps it as it is. -/
structure IsPlain (part : Bytes) : Prop where
  ne_nil : part ≠ []
  ne_dot : part ≠ "."
  ne_parent : part ≠ ".."
  slash_not_mem : Ascii.slash ∉ part

theorem IsPlain.push_eq {part : Bytes} (h : IsPlain part) (rooted : Bool) (kept : List Bytes) :
    push rooted kept part = part :: kept := by
  simp [push,h.ne_nil,h.ne_dot,h.ne_parent]

theorem foldl_push_plain {rooted : Bool} {place : List Bytes} (h : ∀ part ∈ place, IsPlain part)
    (kept : List Bytes) : place.foldl (push rooted) kept = place.reverse ++ kept := by
  induction place generalizing kept with
  | nil => rfl
  | cons part rest ih =>
    rw [List.foldl_cons,(h part (by simp)).push_eq,ih fun other ho => h other (by simp [ho])]
    simp

theorem plain_cleanParts {path : Bytes} (h : isAbsolute path = true) :
    ∀ part ∈ cleanParts path, IsPlain part := by
  have hn := normal_cleanParts path
  rw [h] at hn
  intro part hp
  rw [← List.mem_reverse] at hp
  generalize (cleanParts path).reverse = kept at hn hp
  induction kept with
  | nil => simp at hp
  | cons first rest ih =>
    obtain ⟨hne,hdot,hslash,hparent,hrest⟩ := hn
    obtain rfl | hp := List.mem_cons.mp hp
    · exact ⟨hne,hdot,fun he => absurd (hparent he).1 (by simp),hslash⟩
    · exact ih hrest hp

theorem cleanParts_join {folder : Bytes} {place : List Bytes} (hf : folder ≠ [])
    (hne : place ≠ []) (h : ∀ part ∈ place, IsPlain part) :
    cleanParts (join folder (Bytes.joinWith "/" place)) = cleanParts folder ++ place := by
  have hparts : parts (Bytes.joinWith "/" place) = place :=
    Bytes.splitOn_joinWith hne fun part hp => (h part hp).slash_not_mem
  have habs : isAbsolute (folder ++ "/" ++ Bytes.joinWith "/" place) = isAbsolute folder := by
    cases folder with
    | nil => contradiction
    | cons c folder => rfl
  have hcut : parts (folder ++ "/" ++ Bytes.joinWith "/" place) =
      parts folder ++ place := by
    rw [List.append_assoc]
    exact (Bytes.splitOn_append Ascii.slash folder _).trans (congrArg _ hparts)
  rw [join_eq_clean hf,cleanParts_clean,cleanParts,habs,hcut,List.foldl_append,
    foldl_push_plain h,List.reverse_append,List.reverse_reverse]
  rfl

end DefOut.Path
