import DefOut.Proofs.Acceptance
import DefOut.Proofs.Translation
import Mathlib.Tactic.TFAE

set_option autoImplicit false

/-!
What is generated, line by line. The substitutions of the standard targets leave each other's
texts alone, so a program is the translation of its logical lines one by one, in whatever order
the table lists the targets (`generate_line_by_line`). In a program that passes the check, the lines
that get the end-of-output marker are the output statements (`end_marked_iff_output`).
-/
namespace DefOut

def writtenByte (c : UInt8) : Bytes :=
  if c = Ascii.hash then "Number"
  else if c = Ascii.greater then "cout <<"
  else if c = Ascii.pipe then "<< endl"
  else if c = Ascii.caret then "%"
  else [c]

/-- A logical line byte by byte; one that starts with the output lexeme prints a line end. -/
def writtenLine (line : Bytes) : Bytes :=
  line.flatMap writtenByte ++ if line.head? = some Ascii.greater then " << endl" else ""

theorem targetOf_eq_writtenByte {c : UInt8} (h : c ≠ Lexeme.separator) :
    targetOf c = writtenByte c := by
  have hs : c ≠ Ascii.semicolon := h
  simp only [targetOf,writtenByte,hs,if_false]

theorem markOutputEnd_eq_append_iff (line : Bytes) :
    markOutputEnd line = line ++ " |" ↔ line.head? = some Ascii.greater := by
  constructor
  · intro h
    by_contra hg
    rw [markOutputEnd_of_head?_ne hg] at h
    exact absurd (List.self_eq_append_right.mp h) (by decide)
  · exact markOutputEnd_of_head?

theorem markOutputEnd_eq_self_iff (line : Bytes) :
    markOutputEnd line = line ↔ line.head? ≠ some Ascii.greater := by
  constructor
  · intro h hg
    rw [markOutputEnd_of_head? hg] at h
    exact absurd (List.append_right_eq_self.mp h) (by decide)
  · exact markOutputEnd_of_head?_ne

theorem translateLine_eq_writtenLine {line : Bytes} (h : Lexeme.separator ∉ line) :
    translateLine line = writtenLine line := by
  have hbytes : line.flatMap targetOf = line.flatMap writtenByte := by
    rw [List.flatMap_def,List.flatMap_def]
    congr 1
    apply List.map_congr_left
    intro c hc
    exact targetOf_eq_writtenByte fun he => h (he ▸ hc)
  by_cases hg : line.head? = some Ascii.greater
  · rw [translateLine,markOutputEnd_of_head? hg,List.flatMap_append,hbytes,writtenLine,if_pos hg]
    rfl
  · rw [translateLine,markOutputEnd_of_head?_ne hg,hbytes,writtenLine,if_neg hg]
    exact (List.append_nil _).symm

/-- The generated statements are the logical lines, each written on its own, for every lexeme
text; another order of the standard targets generates the same program. -/
theorem generate_line_by_line (lexemes : Bytes) :
    generate Table.standard lexemes = preamble ++ " " ++
      Bytes.joinWith ";\n\t" ((Bytes.splitOn Lexeme.separator lexemes).map writtenLine) ++
      " " ++ postamble ∧
    ∀ t : Table, t.targets.Perm Table.standard.targets →
      generate t lexemes = generate Table.standard lexemes := by
  constructor
  · have hne := Bytes.splitOn_ne_nil Lexeme.separator lexemes
    have hlines := translate_joinWith hne fun line hl => Bytes.not_mem_of_mem_splitOn hl
    rw [Bytes.joinWith_splitOn] at hlines
    rw [generate,hlines,List.map_congr_left fun line hl =>
      translateLine_eq_writtenLine (Bytes.not_mem_of_mem_splitOn hl)]
  · intro t ht
    have htargets := apart_standard_targets.substitute_perm ht.symm (markOutputEnds lexemes)
    have htranslate : translate t lexemes = translate Table.standard lexemes := htargets.symm
    rw [generate,generate,htranslate]

theorem generate_line_by_line_reversed :
    let t : Table := ⟨[],Table.standard.targets.reverse,[]⟩
    let lexemes : Bytes := "# x = 2;> x ^ ># |"
    t.targets.Perm Table.standard.targets ∧ generate t lexemes = preamble ++ " " ++
      "Number x = 2;\n\tcout << x % cout <<Number << endl << endl" ++ " " ++ postamble := by
  intro t lexemes
  have ht : t.targets.Perm Table.standard.targets := List.reverse_perm _
  have hbody : Bytes.joinWith ";\n\t"
      ((Bytes.splitOn Lexeme.separator lexemes).map writtenLine) =
        Bytes.ofString "Number x = 2;\n\tcout << x % cout <<Number << endl << endl" := by decide
  obtain ⟨hstandard,hperm⟩ := generate_line_by_line lexemes
  rw [hperm t ht,hstandard,hbody]
  exact ⟨ht,rfl⟩

theorem splitOn_markOutputEnds (lexemes : Bytes) :
    Bytes.splitOn Lexeme.separator (markOutputEnds lexemes) =
      (Bytes.splitOn Lexeme.separator lexemes).map markOutputEnd := by
  apply Bytes.splitOn_joinWith
  · simpa using Bytes.splitOn_ne_nil Lexeme.separator lexemes
  · intro marked hm
    obtain ⟨line,hl,rfl⟩ := List.mem_map.mp hm
    have hn := Bytes.not_mem_of_mem_splitOn hl
    by_cases hg : line.head? = some Ascii.greater
    · rw [markOutputEnd_of_head? hg,List.mem_append,not_or]
      exact ⟨hn,by decide⟩
    · rwa [markOutputEnd_of_head?_ne hg]

theorem head?_eq_of_lineWords {line word : Bytes} (h : (lineWords line)[0]? = some word)
    (hne : word ≠ []) : line.head? = word.head? := by
  obtain ⟨rest,hw⟩ : ∃ rest, lineWords line = word :: rest := by
    cases hl : lineWords line with
    | nil => simp [hl] at h
    | cons first rest =>
      obtain rfl : first = word := by simpa [hl] using h
      exact ⟨rest,rfl⟩
  obtain ⟨tail,ht⟩ := Bytes.exists_joinWith_eq_append [Ascii.space] word rest
  rw [← hw,Bytes.joinWith_splitOn] at ht
  obtain ⟨c,word,rfl⟩ := List.exists_cons_of_ne_nil hne
  rw [ht]
  rfl

theorem head?_of_first_output {line : Bytes} (h : (lineWords line)[0]? = some Lexeme.output) :
    line.head? = some Ascii.greater := by
  rw [head?_eq_of_lineWords h (by decide)]
  decide

theorem IsDeclaration.head?_ne {t : Table} {name literal line : Bytes}
    (h : IsDeclaration t name literal line) : line.head? ≠ some Ascii.greater := by
  have hf : (lineWords line)[0]? = some Lexeme.declare := by simp [h.words]
  rw [head?_eq_of_lineWords hf (by decide)]
  decide

theorem IsAssignment.head?_ne {t : Table} {line : Bytes} (h : IsAssignment t (lineWords line)) :
    line.head? ≠ some Ascii.greater := by
  obtain ⟨name,hf,hn⟩ := h.first
  rw [head?_eq_of_lineWords hf hn.nonempty]
  intro hg
  exact not_mem_of_isVariableName hn.isVariableName (by decide) (List.mem_of_head? hg)

theorem head?_iff_isOutput {t : Table} {line : Bytes} (h : ShapedWords t (lineWords line)) :
    line.head? = some Ascii.greater ↔ IsOutput t (lineWords line) := by
  constructor
  · intro hg
    obtain ⟨name,literal,hd⟩ | ha | ho := (shapedWords_iff t line).mp h
    · exact absurd hg hd.head?_ne
    · exact absurd hg ha.head?_ne
    · exact ho
  · exact fun ho => head?_of_first_output ho.first

theorem head?_ne_iff {t : Table} {line : Bytes} (h : ShapedWords t (lineWords line)) :
    line.head? ≠ some Ascii.greater ↔
      (∃ name literal, IsDeclaration t name literal line) ∨ IsAssignment t (lineWords line) := by
  constructor
  · intro hg
    obtain hd | ha | ho := (shapedWords_iff t line).mp h
    · exact .inl hd
    · exact .inr ha
    · exact absurd (head?_of_first_output ho.first) hg
  · rintro (⟨name,literal,hd⟩ | ha)
    · exact hd.head?_ne
    · exact ha.head?_ne

/-- For every table and every program that passes the check: a line gets the end marker where it is
an output statement, and stays as it is where it is a declaration or an assignment. -/
theorem end_marked_iff_output {t : Table} {lexemes : Bytes} (h : check t lexemes = none) :
    (Bytes.splitOn Lexeme.separator (markOutputEnds lexemes)).length =
      (Bytes.splitOn Lexeme.separator lexemes).length ∧
    ∀ (i : Nat) (line : Bytes), (Bytes.splitOn Lexeme.separator lexemes)[i]? = some line →
      List.TFAE [
        (Bytes.splitOn Lexeme.separator (markOutputEnds lexemes))[i]? = some (line ++ " |"),
        IsOutput t (lineWords line),
        Lexeme.declare ∉ lineWords line ∧ Lexeme.assign ∉ lineWords line ∧
          (lineWords line)[0]? = some Lexeme.output] ∧
      ((Bytes.splitOn Lexeme.separator (markOutputEnds lexemes))[i]? = some line ↔
        (∃ name literal, IsDeclaration t name literal line) ∨ IsAssignment t (lineWords line)) := by
  rw [splitOn_markOutputEnds]
  refine ⟨List.length_map _,?_⟩
  intro i line hline
  have hmarked : ((Bytes.splitOn Lexeme.separator lexemes).map markOutputEnd)[i]? =
      some (markOutputEnd line) := by
    rw [List.getElem?_map,hline]
    rfl
  have hshaped : ShapedWords t (lineWords line) :=
    ((check_eq_none_iff t lexemes).mp h).1 line (List.mem_of_getElem? hline)
  rw [hmarked,Option.some.injEq,Option.some.injEq]
  constructor
  · tfae_have 1 → 2 := fun hm =>
      (head?_iff_isOutput hshaped).mp ((markOutputEnd_eq_append_iff line).mp hm)
    tfae_have 2 → 3 := fun ho => ⟨ho.declare,ho.assign,ho.first⟩
    tfae_have 3 → 1 := fun ho => markOutputEnd_of_head? (head?_of_first_output ho.2.2)
    tfae_finish
  · rw [markOutputEnd_eq_self_iff]
    exact head?_ne_iff hshaped

/-- An output lexeme inside an assignment marks nothing. -/
theorem end_marked_iff_output_inside :
    let lexemes : Bytes := "# x = 1;x = x + > 2;> x"
    check Table.standard lexemes = none ∧
    (Bytes.splitOn Lexeme.separator (markOutputEnds lexemes))[1]? =
      some (Bytes.ofString "x = x + > 2") ∧
    (Bytes.splitOn Lexeme.separator (markOutputEnds lexemes))[2]? = some (Bytes.ofString "> x |") := by
  intro lexemes
  have h : check Table.standard lexemes = none := by decide
  have hlines := (end_marked_iff_output h).2
  have hassign : IsAssignment Table.standard (lineWords "x = x + > 2") :=
    ⟨by decide,by decide,⟨"x",by decide,by decide⟩,by decide⟩
  refine ⟨h,((hlines 1 "x = x + > 2" (by decide)).2).mpr (.inr hassign),?_⟩
  exact ((hlines 2 "> x" (by decide)).1.out 0 2).mpr (by decide)

end DefOut
