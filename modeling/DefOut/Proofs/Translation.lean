import DefOut.Target
import DefOut.Proofs.Lexing

set_option autoImplicit false

/-!
Code generation with the standard table. Its targets hold no lexeme that is still to be replaced,
so the substitutions, one after the other, write every byte of the marked lexemes on its own.
-/
namespace DefOut

def targetOf (c : UInt8) : Bytes :=
  if c = Ascii.hash then "Number"
  else if c = Ascii.semicolon then ";\n\t"
  else if c = Ascii.greater then "cout <<"
  else if c = Ascii.pipe then "<< endl"
  else if c = Ascii.caret then "%"
  else [c]

theorem targetOf_other {c : UInt8} (h : c ∉ [Ascii.hash,Ascii.semicolon,Ascii.greater,
    Ascii.pipe,Ascii.caret]) : targetOf c = [c] := by
  simp only [List.mem_cons,List.not_mem_nil,or_false,not_or] at h
  simp [targetOf,h]

theorem flatMap_targetOf_self {word : Bytes} (h : ∀ c ∈ [Ascii.hash,Ascii.semicolon,
    Ascii.greater,Ascii.pipe,Ascii.caret], c ∉ word) : word.flatMap targetOf = word := by
  induction word with
  | nil => rfl
  | cons c word ih =>
    have hc : c ∉ [Ascii.hash,Ascii.semicolon,Ascii.greater,Ascii.pipe,Ascii.caret] :=
      fun hm => h c hm (by simp)
    have ht := ih (fun b hb hm => h b hb (List.mem_cons_of_mem c hm))
    rw [List.flatMap_cons,targetOf_other hc,ht]
    rfl

theorem apart_standard_targets : Apart Table.standard.targets :=
  ⟨by decide,by decide,by decide⟩

theorem translate_standard (lexemes : Bytes) :
    translate Table.standard lexemes = (markOutputEnds lexemes).flatMap targetOf := by
  have hsources : ∀ c ∈ [Ascii.hash,Ascii.semicolon,Ascii.greater,Ascii.pipe,Ascii.caret],
      [c] ∈ Table.standard.targets.map Mapping.source := by decide +kernel
  apply apart_standard_targets.substitute_eq
  · decide
  · intro c hc
    exact targetOf_other fun hm => hc (hsources c hm)

def translateLine (line : Bytes) : Bytes :=
  (markOutputEnd line).flatMap targetOf

theorem translate_joinWith {lines : List Bytes} (hne : lines ≠ [])
    (h : ∀ line ∈ lines, Lexeme.separator ∉ line) :
    translate Table.standard (Bytes.joinWith [Lexeme.separator] lines) =
      Bytes.joinWith ";\n\t" (lines.map translateLine) := by
  have hcut : ∀ a b : Bytes, (a ++ Lexeme.separator :: b).flatMap targetOf =
      a.flatMap targetOf ++ (";\n\t" ++ b.flatMap targetOf) := by
    intro a b
    rw [List.flatMap_append,List.flatMap_cons,
      show targetOf Lexeme.separator = Bytes.ofString ";\n\t" by decide]
  rw [translate_standard,markOutputEnds,Bytes.splitOn_joinWith hne h]
  have hj := Bytes.joinWith_of_cut hcut
    (show lines.map markOutputEnd ≠ [] by simpa using hne)
  rw [hj,List.map_map]
  rfl

theorem flatMap_targetOf_joinWith {words : List Bytes} (hne : words ≠ []) :
    (Bytes.joinWith [Ascii.space] words).flatMap targetOf =
      Bytes.joinWith [Ascii.space] (words.map fun word => word.flatMap targetOf) := by
  have hcut : ∀ a b : Bytes, (a ++ Ascii.space :: b).flatMap targetOf =
      a.flatMap targetOf ++ ([Ascii.space] ++ b.flatMap targetOf) := by
    intro a b
    rw [List.flatMap_append,List.flatMap_cons,targetOf_other (by decide)]
  exact Bytes.joinWith_of_cut hcut hne

theorem startsWith_output_iff (line : Bytes) :
    line.startsWith Lexeme.output = true ↔ line.head? = some Ascii.greater := by
  rw [Bytes.startsWith,List.isPrefixOf_iff_prefix,show Lexeme.output = [Ascii.greater] by decide]
  cases line with
  | nil => simp
  | cons c line => simp [eq_comm]

theorem markOutputEnd_of_head? {line : Bytes} (h : line.head? = some Ascii.greater) :
    markOutputEnd line = line ++ " |" := by
  rw [markOutputEnd,if_pos ((startsWith_output_iff line).mpr h),List.append_assoc]
  rfl

theorem markOutputEnd_of_head?_ne {line : Bytes} (h : line.head? ≠ some Ascii.greater) :
    markOutputEnd line = line := by
  rw [markOutputEnd,if_neg fun hs => h ((startsWith_output_iff line).mp hs)]

theorem translateLine_of_not_output {first : Bytes} (hne : first ≠ [])
    (h : Ascii.greater ∉ first) (rest : List Bytes) :
    translateLine (Bytes.joinWith [Ascii.space] (first :: rest)) =
      Bytes.joinWith [Ascii.space] ((first :: rest).map fun word => word.flatMap targetOf) := by
  obtain ⟨tail,ht⟩ := Bytes.exists_joinWith_eq_append [Ascii.space] first rest
  have hhead : (Bytes.joinWith [Ascii.space] (first :: rest)).head? ≠ some Ascii.greater := by
    obtain ⟨c,word,rfl⟩ := List.exists_cons_of_ne_nil hne
    rw [ht]
    intro he
    exact h (by simp [Option.some.inj he])
  rw [translateLine,markOutputEnd_of_head?_ne hhead,flatMap_targetOf_joinWith (by simp)]

theorem translateLine_of_output (rest : List Bytes) :
    translateLine (Bytes.joinWith [Ascii.space] (Lexeme.output :: rest)) =
      Bytes.joinWith [Ascii.space]
        ((Lexeme.output :: (rest ++ [Lexeme.endOutput])).map fun word => word.flatMap targetOf) := by
  obtain ⟨tail,ht⟩ := Bytes.exists_joinWith_eq_append [Ascii.space] Lexeme.output rest
  have hhead : (Bytes.joinWith [Ascii.space] (Lexeme.output :: rest)).head? =
      some Ascii.greater := by
    rw [ht]
    rfl
  have hj := Bytes.joinWith_append_singleton [Ascii.space]
    (List.cons_ne_nil Lexeme.output rest) Lexeme.endOutput
  rw [translateLine,markOutputEnd_of_head? hhead,← flatMap_targetOf_joinWith (by simp),
    ← List.cons_append,hj]
  rfl

end DefOut
