import DefOut.Proofs.Acceptance

set_option autoImplicit false

/-!
What the verdict does not depend on. The check accepts a program by the words of its lines, each
line on its own and each name by a declaration somewhere (`isValid_iff`); that a declare lexeme at
a line's end reaches into the next line makes no difference, because such a line has no shape. So
the order of the lines is free, and so is the order of the words after the first in a line without
a declare lexeme, and programs that are accepted apart are accepted together.
-/
namespace DefOut

structure Table.Accepts (t : Table) (lines : List (List Bytes)) : Prop where
  shaped : ∀ words ∈ lines, ShapedWords t words
  declared : ∀ words ∈ lines, ∀ name ∈ words, t.IsName name →
    ∃ literal, t.IsLiteral literal ∧ [Lexeme.declare,name,Lexeme.assign,literal] ∈ lines

theorem isValid_iff (t : Table) (lexemes : Bytes) :
    isValid t lexemes = true ↔
      t.Accepts ((Bytes.splitOn Lexeme.separator lexemes).map lineWords) := by
  rw [isValid,Option.isNone_iff_eq_none,check_eq_none_iff]
  constructor
  · rintro ⟨hs,hd⟩
    refine ⟨List.forall_mem_map.mpr hs,List.forall_mem_map.mpr fun line hl name hm hn => ?_⟩
    obtain ⟨declaration,hdecl,literal,_,hlit,hw⟩ :=
      (mem_names_iff_of_shaped hs name).mp (hd line hl name hm hn)
    exact ⟨literal,hlit,List.mem_map.mpr ⟨declaration,hdecl,hw⟩⟩
  · intro h
    have hs := List.forall_mem_map.mp h.shaped
    refine ⟨hs,fun line hl name hm hn => ?_⟩
    obtain ⟨literal,hlit,hmem⟩ := h.declared _ (List.mem_map_of_mem hl) name hm hn
    obtain ⟨declaration,hdecl,hw⟩ := List.mem_map.mp hmem
    exact (mem_names_iff_of_shaped hs name).mpr ⟨declaration,hdecl,literal,hn,hlit,hw⟩

theorem isValid_joinWith_iff (t : Table) {lines : List Bytes} (hne : lines ≠ [])
    (hs : ∀ line ∈ lines, Lexeme.separator ∉ line) :
    isValid t (Bytes.joinWith [Lexeme.separator] lines) = true ↔
      t.Accepts (lines.map lineWords) := by
  rw [isValid_iff,Bytes.splitOn_joinWith hne hs]

namespace Table.Accepts

variable {t : Table} {lines others : List (List Bytes)}

theorem perm (h : t.Accepts lines) (hp : lines.Perm others) : t.Accepts others where
  shaped words hm := h.shaped words (hp.mem_iff.mpr hm)
  declared words hm name hw hn := by
    obtain ⟨literal,hlit,hd⟩ := h.declared words (hp.mem_iff.mpr hm) name hw hn
    exact ⟨literal,hlit,hp.mem_iff.mp hd⟩

theorem append (h : t.Accepts lines) (h' : t.Accepts others) : t.Accepts (lines ++ others) where
  shaped words hm := (List.mem_append.mp hm).elim (h.shaped words) (h'.shaped words)
  declared words hm name hw hn := by
    obtain hm | hm := List.mem_append.mp hm
    · obtain ⟨literal,hlit,hd⟩ := h.declared words hm name hw hn
      exact ⟨literal,hlit,List.mem_append_left _ hd⟩
    · obtain ⟨literal,hlit,hd⟩ := h'.declared words hm name hw hn
      exact ⟨literal,hlit,List.mem_append_right _ hd⟩

end Table.Accepts

theorem ShapedWords.perm {t : Table} {first : Bytes} {rest rest' : List Bytes}
    (h : ShapedWords t (first :: rest)) (hd : Lexeme.declare ∉ first :: rest)
    (hp : rest.Perm rest') : ShapedWords t (first :: rest') := by
  have hall : (first :: rest).Perm (first :: rest') := hp.cons first
  have hoperators : t.operatorCount (first :: rest) = t.operatorCount (first :: rest') :=
    hall.countP_eq _
  have hoperands : t.operandCount (first :: rest) = t.operandCount (first :: rest') :=
    hall.countP_eq _
  cases h with
  | declaration => exact absurd List.mem_cons_self hd
  | assignment hn _ ha hc =>
    rw [hall.mem_iff] at hd ha
    rw [hoperands,hoperators] at hc
    exact .assignment hn hd ha hc
  | output _ ha hpos hc =>
    rw [hall.mem_iff] at hd ha
    rw [hoperands] at hpos
    rw [hoperands,hoperators] at hc
    exact .output hd ha hpos hc

theorem Table.Accepts.rearrange {t : Table} {before after : List (List Bytes)} {first : Bytes}
    {rest rest' : List Bytes} (h : t.Accepts (before ++ (first :: rest) :: after))
    (hd : Lexeme.declare ∉ first :: rest) (hp : rest.Perm rest') :
    t.Accepts (before ++ (first :: rest') :: after) := by
  have hold : ∀ words, words ∈ before ++ (first :: rest') :: after →
      words = first :: rest' ∨ words ∈ before ++ (first :: rest) :: after := by
    intro words hm
    obtain hm | hm := List.mem_append.mp hm
    · exact .inr (List.mem_append_left _ hm)
    · obtain rfl | hm := List.mem_cons.mp hm
      · exact .inl rfl
      · exact .inr (List.mem_append_right _ (List.mem_cons_of_mem _ hm))
  refine ⟨fun words hm => ?_,fun words hm name hw hn => ?_⟩
  · obtain rfl | hm := hold words hm
    · exact (h.shaped _ (by simp)).perm hd hp
    · exact h.shaped words hm
  · obtain ⟨literal,hlit,hmem⟩ : ∃ literal, t.IsLiteral literal ∧
        [Lexeme.declare,name,Lexeme.assign,literal] ∈ before ++ (first :: rest) :: after := by
      obtain rfl | hm := hold words hm
      · exact h.declared _ (by simp) name ((hp.cons first).mem_iff.mpr hw) hn
      · exact h.declared words hm name hw hn
    -- the line that is rearranged declares nothing
    have hne : [Lexeme.declare,name,Lexeme.assign,literal] ≠ first :: rest :=
      fun he => hd (he ▸ List.mem_cons_self)
    refine ⟨literal,hlit,?_⟩
    simp only [List.mem_append,List.mem_cons,hne,false_or] at hmem ⊢
    exact hmem.imp_right .inr

theorem separator_not_mem_joinWith {line first : Bytes} {rest rest' : List Bytes}
    (hs : Lexeme.separator ∉ line) (hw : lineWords line = first :: rest) (hp : rest'.Perm rest) :
    Lexeme.separator ∉ Bytes.joinWith [Ascii.space] (first :: rest') := by
  intro hm
  obtain hm | ⟨word,hword,hm⟩ := Bytes.mem_joinWith hm
  · exact absurd hm (by decide)
  · rw [(hp.cons first).mem_iff,← hw] at hword
    exact hs ((Bytes.infix_of_mem_splitOn hword).subset hm)

/-- Whether a program is accepted does not depend on the order of its lines, nor on the order of the
words after the first in a line without a declare lexeme, and programs that are accepted may be
joined, for every table. -/
theorem isValid_rearranged_joined (t : Table) :
    (∀ (lexemes : Bytes) (lines : List Bytes),
      lines.Perm (Bytes.splitOn Lexeme.separator lexemes) →
      isValid t (Bytes.joinWith [Lexeme.separator] lines) = isValid t lexemes) ∧
    (∀ (lexemes line first : Bytes) (before after rest rest' : List Bytes),
      Bytes.splitOn Lexeme.separator lexemes = before ++ line :: after →
      lineWords line = first :: rest → Lexeme.declare ∉ lineWords line → rest'.Perm rest →
      isValid t (Bytes.joinWith [Lexeme.separator]
        (before ++ Bytes.joinWith [Ascii.space] (first :: rest') :: after)) =
          isValid t lexemes) ∧
    ∀ a b : Bytes, isValid t a = true → isValid t b = true →
      isValid t (a ++ Lexeme.separator :: b) = true := by
  have hcut : ∀ lexemes, ∀ line ∈ Bytes.splitOn Lexeme.separator lexemes,
      Lexeme.separator ∉ line := fun _ _ hl => Bytes.not_mem_of_mem_splitOn hl
  refine ⟨fun lexemes lines hp => ?_,fun lexemes line first before after rest rest' hs hw hd hp => ?_,
    fun a b ha hb => ?_⟩
  · have hne : lines ≠ [] := by
      rintro rfl
      exact Bytes.splitOn_ne_nil _ lexemes (List.nil_perm.mp hp)
    have hjoin := isValid_joinWith_iff t hne fun line hl => hcut lexemes line (hp.mem_iff.mp hl)
    rw [Bool.eq_iff_iff,hjoin,isValid_iff]
    exact ⟨fun h => h.perm (hp.map _),fun h => h.perm (hp.symm.map _)⟩
  · have hold := hcut lexemes
    rw [hs] at hold
    have hnew : lineWords (Bytes.joinWith [Ascii.space] (first :: rest')) = first :: rest' := by
      refine Bytes.splitOn_joinWith (by simp) fun word hm => ?_
      rw [(hp.cons first).mem_iff,← hw] at hm
      exact Bytes.not_mem_of_mem_splitOn hm
    have hseps : ∀ other ∈ before ++ Bytes.joinWith [Ascii.space] (first :: rest') :: after,
        Lexeme.separator ∉ other := by
      intro other hm
      obtain hm | hm := List.mem_append.mp hm
      · exact hold other (by simp [hm])
      · obtain rfl | hm := List.mem_cons.mp hm
        · exact separator_not_mem_joinWith (hold line (by simp)) hw hp
        · exact hold other (by simp [hm])
    have hjoin := isValid_joinWith_iff t (by simp) hseps
    rw [Bool.eq_iff_iff,hjoin,isValid_iff,hs]
    simp only [List.map_append,List.map_cons,hnew,hw]
    rw [hw] at hd
    have hd' : Lexeme.declare ∉ first :: rest' := fun hm => hd ((hp.cons first).mem_iff.mp hm)
    exact ⟨fun h => h.rearrange hd' hp,fun h => h.rearrange hd hp.symm⟩
  · rw [isValid_iff] at ha hb ⊢
    rw [Bytes.splitOn_append,List.map_append]
    exact ha.append hb

/-- A declare lexeme at a line's end declares a name or not, as the lines come; the verdict stays. -/
theorem isValid_rearranged_joined_dangling :
    isValid Table.standard "x = 1;#" = isValid Table.standard "#;x = 1" ∧
    isValid Table.standard "# x = 2;> + 1 x" = isValid Table.standard "# x = 2;> x + 1" ∧
    isValid Table.standard ("> y ^ 2;# y = 1" ++ Lexeme.separator :: Bytes.ofString "# x = 2") =
      true := by
  obtain ⟨hlines,hwords,hjoin⟩ := isValid_rearranged_joined Table.standard
  refine ⟨hlines "#;x = 1" ["x = 1","#"] (by decide),
    hwords "# x = 2;> x + 1" "> x + 1" ">" ["# x = 2"] [] ["x","+","1"] ["+","1","x"] (by decide)
      (by decide) (by decide) (by decide),
    hjoin _ _ (by decide) (by decide)⟩

end DefOut
