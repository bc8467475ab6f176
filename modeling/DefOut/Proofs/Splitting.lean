import DefOut.Bytes

set_option autoImplicit false

/-!
Cutting a text at a byte and joining the pieces again. A function that acts on both sides of the
cutting byte apart commutes with cutting (`splitOn_of_cut`); lexing, translating and erasing words
are such functions.
-/
namespace DefOut.Bytes

@[simp] theorem splitOn_nil (sep : UInt8) : splitOn sep [] = [[]] := rfl

@[simp] theorem splitOn_cons_self (sep : UInt8) (s : Bytes) :
    splitOn sep (sep :: s) = [] :: splitOn sep s := by
  simp [splitOn]

theorem splitOn_cons_ne {sep c : UInt8} (h : c ≠ sep) (s : Bytes) :
    ∃ piece rest, splitOn sep s = piece :: rest ∧
      splitOn sep (c :: s) = (c :: piece) :: rest := by
  cases hs : splitOn sep s with
  | nil => exact absurd hs (splitOn_ne_nil sep s)
  | cons piece rest => exact ⟨piece,rest,rfl,by simp [splitOn,h,hs]⟩

theorem splitOn_append (sep : UInt8) (a b : Bytes) :
    splitOn sep (a ++ sep :: b) = splitOn sep a ++ splitOn sep b := by
  induction a with
  | nil => simp
  | cons c a ih =>
    by_cases hc : c = sep
    · subst c
      simp [ih]
    · obtain ⟨piece,rest,hs,hcons⟩ := splitOn_cons_ne hc a
      obtain ⟨piece',rest',hs',hcons'⟩ := splitOn_cons_ne hc (a ++ sep :: b)
      rw [ih,hs,List.cons_append] at hs'
      obtain ⟨rfl,rfl⟩ := List.cons.inj hs'
      rw [List.cons_append,hcons',hcons,List.cons_append]

theorem splitOn_of_not_mem {sep : UInt8} {s : Bytes} (h : sep ∉ s) : splitOn sep s = [s] := by
  induction s with
  | nil => rfl
  | cons c s ih =>
    simp only [List.mem_cons,not_or] at h
    simp [splitOn,Ne.symm h.1,ih h.2]

theorem not_mem_of_mem_splitOn {sep : UInt8} {s piece : Bytes}
    (h : piece ∈ splitOn sep s) : sep ∉ piece := by
  induction s generalizing piece with
  | nil =>
    simp only [splitOn_nil,List.mem_singleton] at h
    simp [h]
  | cons c s ih =>
    by_cases hc : c = sep
    · subst c
      simp only [splitOn_cons_self,List.mem_cons] at h
      obtain rfl | h := h
      · simp
      · exact ih h
    · obtain ⟨head,rest,hs,hcons⟩ := splitOn_cons_ne hc s
      rw [hcons,List.mem_cons] at h
      obtain rfl | h := h
      · have hh : sep ∉ head := ih (by simp [hs])
        simp [Ne.symm hc,hh]
      · exact ih (by simp [hs,h])

theorem length_splitOn (sep : UInt8) (s : Bytes) :
    (splitOn sep s).length = s.count sep + 1 := by
  induction s with
  | nil => rfl
  | cons c s ih =>
    by_cases hc : c = sep
    · subst c
      simp [ih]
    · obtain ⟨piece,rest,hs,hcons⟩ := splitOn_cons_ne hc s
      rw [hs,List.length_cons] at ih
      simp [hcons,hc,ih]

@[simp] theorem joinWith_nil (sep : Bytes) : joinWith sep [] = [] := rfl

@[simp] theorem joinWith_singleton (sep piece : Bytes) : joinWith sep [piece] = piece := rfl

theorem joinWith_cons_cons (sep piece next : Bytes) (rest : List Bytes) :
    joinWith sep (piece :: next :: rest) = piece ++ (sep ++ joinWith sep (next :: rest)) := by
  simp [joinWith]

theorem joinWith_append_singleton (sep : Bytes) {pieces : List Bytes} (hne : pieces ≠ [])
    (last : Bytes) : joinWith sep (pieces ++ [last]) = joinWith sep pieces ++ (sep ++ last) := by
  induction pieces with
  | nil => contradiction
  | cons piece rest ih =>
    cases rest with
    | nil => simp [joinWith_cons_cons]
    | cons next rest =>
      have hr := ih (by simp)
      simp only [List.cons_append] at hr
      simp only [List.cons_append,joinWith_cons_cons,hr,List.append_assoc]

theorem exists_joinWith_eq_append (sep piece : Bytes) (rest : List Bytes) :
    ∃ tail, joinWith sep (piece :: rest) = piece ++ tail := by
  cases rest with
  | nil => exact ⟨[],by simp⟩
  | cons next rest => exact ⟨_,joinWith_cons_cons sep piece next rest⟩

theorem mem_joinWith {sep : Bytes} {pieces : List Bytes} {c : UInt8}
    (h : c ∈ joinWith sep pieces) : c ∈ sep ∨ ∃ piece ∈ pieces, c ∈ piece := by
  induction pieces with
  | nil => simp at h
  | cons piece rest ih =>
    cases rest with
    | nil => exact .inr ⟨piece,by simp,by simpa using h⟩
    | cons next rest =>
      rw [joinWith_cons_cons,List.mem_append,List.mem_append] at h
      obtain h | h | h := h
      · exact .inr ⟨piece,by simp,h⟩
      · exact .inl h
      · obtain hc | ⟨q,hq,hc⟩ := ih h
        · exact .inl hc
        · exact .inr ⟨q,by simp [hq],hc⟩

theorem infix_joinWith {sep piece : Bytes} {pieces : List Bytes} (h : piece ∈ pieces) :
    piece <:+: joinWith sep pieces := by
  induction pieces with
  | nil => simp at h
  | cons first rest ih =>
    cases rest with
    | nil =>
      obtain rfl : piece = first := by simpa using h
      exact List.infix_refl piece
    | cons next rest =>
      rw [joinWith_cons_cons]
      obtain rfl | h := List.mem_cons.mp h
      · exact (List.prefix_append piece _).isInfix
      · exact ((ih h).trans (List.suffix_append _ _).isInfix).trans (List.suffix_append _ _).isInfix

theorem infix_of_mem_splitOn {sep : UInt8} {s piece : Bytes}
    (h : piece ∈ splitOn sep s) : piece <:+: s := by
  have hi : piece <:+: joinWith [sep] (splitOn sep s) := infix_joinWith h
  rwa [joinWith_splitOn] at hi

theorem splitOn_joinWith_flatMap {sep : UInt8} {pieces : List Bytes} (hne : pieces ≠ []) :
    splitOn sep (joinWith [sep] pieces) = pieces.flatMap (splitOn sep) := by
  induction pieces with
  | nil => contradiction
  | cons piece rest ih =>
    cases rest with
    | nil => simp
    | cons next rest =>
      rw [joinWith_cons_cons,List.singleton_append,splitOn_append,ih (by simp)]
      rfl

theorem splitOn_joinWith {sep : UInt8} {pieces : List Bytes} (hne : pieces ≠ [])
    (h : ∀ piece ∈ pieces, sep ∉ piece) : splitOn sep (joinWith [sep] pieces) = pieces := by
  rw [splitOn_joinWith_flatMap hne]
  clear hne
  induction pieces with
  | nil => rfl
  | cons piece rest ih =>
    rw [List.flatMap_cons,splitOn_of_not_mem (h piece (by simp)),
      ih (fun q hq => h q (by simp [hq]))]
    rfl

theorem append_joinWith_cons (sep a piece : Bytes) (rest : List Bytes) :
    a ++ joinWith sep (piece :: rest) = joinWith sep ((a ++ piece) :: rest) := by
  cases rest with
  | nil => rfl
  | cons next rest => simp only [joinWith_cons_cons,List.append_assoc]

theorem splitOn_joinWith_cons {c : UInt8} {tail piece : Bytes} {rest : List Bytes}
    (ht : c ∉ tail) (h : ∀ p ∈ piece :: rest, c ∉ p) :
    splitOn c (joinWith (c :: tail) (piece :: rest)) = piece :: rest.map (tail ++ ·) := by
  induction rest generalizing piece with
  | nil => exact splitOn_of_not_mem (h piece (by simp))
  | cons next rest ih =>
    have hnext : ∀ p ∈ (tail ++ next) :: rest, c ∉ p := by
      simp only [List.forall_mem_cons,List.mem_append,not_or] at h ⊢
      exact ⟨⟨ht,h.2.1⟩,h.2.2⟩
    rw [joinWith_cons_cons,List.cons_append,splitOn_append,splitOn_of_not_mem (h piece (by simp)),
      append_joinWith_cons,ih hnext]
    rfl

theorem joinWith_injective {c : UInt8} {tail : Bytes} {pieces pieces' : List Bytes}
    (ht : c ∉ tail) (hne : pieces ≠ []) (hne' : pieces' ≠ []) (h : ∀ p ∈ pieces, c ∉ p)
    (h' : ∀ p ∈ pieces', c ∉ p)
    (he : joinWith (c :: tail) pieces = joinWith (c :: tail) pieces') : pieces = pieces' := by
  obtain ⟨piece,rest,rfl⟩ := List.exists_cons_of_ne_nil hne
  obtain ⟨piece',rest',rfl⟩ := List.exists_cons_of_ne_nil hne'
  have hs := congrArg (splitOn c) he
  rw [splitOn_joinWith_cons ht h,splitOn_joinWith_cons ht h'] at hs
  obtain ⟨rfl,hr⟩ := List.cons.inj hs
  rw [(List.map_inj_right fun a b hab => List.append_cancel_left hab).mp hr]

/-- A function that turns `sep` into `sep'` and acts on both sides of it apart acts on the pieces
between two of them apart. -/
theorem joinWith_of_cut {sep : UInt8} {sep' : Bytes} {f : Bytes → Bytes}
    (hf : ∀ a b, f (a ++ sep :: b) = f a ++ (sep' ++ f b)) {pieces : List Bytes}
    (hne : pieces ≠ []) : f (joinWith [sep] pieces) = joinWith sep' (pieces.map f) := by
  induction pieces with
  | nil => contradiction
  | cons piece rest ih =>
    cases rest with
    | nil => rfl
    | cons next rest =>
      have hr := ih (by simp)
      rw [joinWith_cons_cons,List.singleton_append,hf,hr]
      simp [joinWith_cons_cons]

theorem splitOn_of_cut {sep sep' : UInt8} {f : Bytes → Bytes}
    (hf : ∀ a b, f (a ++ sep :: b) = f a ++ sep' :: f b) {s : Bytes}
    (hn : ∀ piece ∈ splitOn sep s, sep' ∉ f piece) :
    splitOn sep' (f s) = (splitOn sep s).map f := by
  have hj : f (joinWith [sep] (splitOn sep s)) = joinWith [sep'] ((splitOn sep s).map f) :=
    joinWith_of_cut hf (splitOn_ne_nil sep s)
  rw [joinWith_splitOn] at hj
  rw [hj]
  apply splitOn_joinWith
  · simpa using splitOn_ne_nil sep s
  · intro piece hp
    obtain ⟨a,ha,rfl⟩ := List.mem_map.mp hp
    exact hn a ha

theorem map_ite_eq_self {sep sep' : UInt8} {s : Bytes} (h : sep ∉ s) :
    s.map (fun c => if c = sep then sep' else c) = s := by
  refine (List.map_congr_left ?_).trans (List.map_id s)
  intro c hc
  have hne : c ≠ sep := fun he => h (he ▸ hc)
  simp [hne]

/-- Cutting at one byte and the pieces at another is cutting the text, its first kind of cut
written as the second, at once. -/
theorem splitOn_map_eq_flatMap (sep sep' : UInt8) (s : Bytes) :
    splitOn sep' (s.map fun c => if c = sep then sep' else c) =
      (splitOn sep s).flatMap (splitOn sep') := by
  let recut : Bytes → Bytes := List.map fun c => if c = sep then sep' else c
  have hcut : ∀ a b, recut (a ++ sep :: b) = recut a ++ ([sep'] ++ recut b) := by
    intro a b
    simp [recut]
  have hj := joinWith_of_cut hcut (splitOn_ne_nil sep s)
  have hm : (splitOn sep s).map recut = splitOn sep s :=
    (List.map_congr_left fun piece hp => map_ite_eq_self (not_mem_of_mem_splitOn hp)).trans
      (List.map_id _)
  rw [joinWith_splitOn,hm] at hj
  exact (congrArg (splitOn sep') hj).trans (splitOn_joinWith_flatMap (splitOn_ne_nil sep s))

theorem exists_mem_splitOn {sep sep' : UInt8} {s piece : Bytes} (h : piece ∈ splitOn sep s)
    (hn : sep' ∉ piece) : ∃ part ∈ splitOn sep' s, piece ∈ splitOn sep part := by
  let recut : Bytes → Bytes := List.map fun c => if c = sep' then sep else c
  have hcut : ∀ a b, recut (a ++ sep :: b) = recut a ++ ([sep] ++ recut b) := by
    intro a b
    simp [recut]
  have hj := joinWith_of_cut hcut (splitOn_ne_nil sep s)
  rw [joinWith_splitOn] at hj
  have hm : piece ∈ splitOn sep (recut s) := by
    rw [hj,splitOn_joinWith_flatMap (by simpa using splitOn_ne_nil sep s)]
    refine List.mem_flatMap.mpr ⟨piece,List.mem_map.mpr ⟨piece,h,map_ite_eq_self hn⟩,?_⟩
    simp [splitOn_of_not_mem (not_mem_of_mem_splitOn h)]
  rw [splitOn_map_eq_flatMap] at hm
  exact List.mem_flatMap.mp hm

theorem splitOn_append_getElem? {sep : UInt8} {a piece : Bytes} {m : Nat}
    (h : (splitOn sep a)[m]? = some piece) (b : Bytes) :
    ∃ more, (splitOn sep (a ++ b))[m]? = some (piece ++ more) ∧ more ⊆ b := by
  induction a generalizing m piece with
  | nil =>
    cases m with
    | zero =>
      obtain rfl : [] = piece := by simpa using h
      cases hs : splitOn sep b with
      | nil => exact absurd hs (splitOn_ne_nil sep b)
      | cons more rest =>
        refine ⟨more,by simp [hs],?_⟩
        have hm : more ∈ splitOn sep b := by simp [hs]
        exact (infix_of_mem_splitOn hm).subset
    | succ m => simp at h
  | cons c a ih =>
    by_cases hc : c = sep
    · subst c
      cases m with
      | zero =>
        obtain rfl : [] = piece := by simpa using h
        exact ⟨[],by simp,by simp⟩
      | succ m =>
        obtain ⟨more,hm,hs⟩ := ih (by simpa using h)
        exact ⟨more,by simpa using hm,hs⟩
    · obtain ⟨first,rest,hs,hcons⟩ := splitOn_cons_ne hc a
      obtain ⟨first',rest',hs',hcons'⟩ := splitOn_cons_ne hc (a ++ b)
      rw [List.cons_append,hcons']
      rw [hcons] at h
      rw [hs,hs'] at ih
      cases m with
      | zero =>
        obtain rfl : c :: first = piece := by simpa using h
        obtain ⟨more,hm,hsub⟩ := ih (m := 0) rfl
        exact ⟨more,by simpa using hm,hsub⟩
      | succ m =>
        obtain ⟨more,hm,hsub⟩ := ih (m := m+1) (by simpa using h)
        exact ⟨more,by simpa using hm,hsub⟩

theorem containsText_iff (needle s : Bytes) : containsText needle s = true ↔ needle <:+: s := by
  induction s with
  | nil => simp [containsText]
  | cons c s ih => simp [containsText,ih,List.infix_cons_iff]

end DefOut.Bytes
