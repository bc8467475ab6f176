import DefOut.Lexeme
import DefOut.Proofs.Splitting
import DefOut.Proofs.Substitution

set_option autoImplicit false

/-!
Lexing with the standard table. Its four substitutions, each of them over the whole text, do the
same as one pass from left to right (`lex_standard`). So lexing acts apart on both sides of every
byte that continues no keyword (`lexOnce_append_cons`), and a lexed text is cut into lines and words
just where its source is (`splitOn_separator_lex`, `splitOn_space_lex`).
-/
namespace DefOut

theorem ofString_def : Bytes.ofString "def" = [0x64,0x65,0x66] := by decide

theorem ofString_out : Bytes.ofString "out" = [0x6F,0x75,0x74] := by decide

/-- The standard lexing in one pass: `def`, `out` and the line feed are written as their
lexemes, every other byte as itself. -/
def lexOnce : Bytes → Bytes
  | 0x64 :: 0x65 :: 0x66 :: s => Ascii.hash :: lexOnce s
  | 0x6F :: 0x75 :: 0x74 :: s => Ascii.greater :: lexOnce s
  | 0x0A :: s => Ascii.semicolon :: lexOnce s
  | c :: s => c :: lexOnce s
  | [] => []

def lexedButOutput (s : Bytes) : Bytes :=
  (Bytes.replaceAll [0x64,0x65,0x66] [Ascii.hash] s).map fun c =>
    if c = Ascii.newline then Ascii.semicolon else c

theorem lex_eq_replaceAll (s : Bytes) :
    lex Table.standard s =
      Bytes.replaceAll [0x6F,0x75,0x74] [Ascii.greater] (lexedButOutput s) := by
  have hk : Table.standard.keywords =
      [⟨[0x64,0x65,0x66],[Ascii.hash]⟩,⟨[Ascii.equals],[Ascii.equals]⟩,
        ⟨[Ascii.newline],[Ascii.semicolon]⟩,⟨[0x6F,0x75,0x74],[Ascii.greater]⟩] := by decide
  have he : ∀ s : Bytes, Bytes.replaceAll [Ascii.equals] [Ascii.equals] s = s :=
    Bytes.replaceAll_self (by decide)
  have hn : ∀ s : Bytes, Bytes.replaceAll [Ascii.newline] [Ascii.semicolon] s =
      s.map fun c => if c = Ascii.newline then Ascii.semicolon else c := by
    intro s
    rw [Bytes.replaceAll_singleton,List.map_eq_flatMap]
    congr 1
    funext c
    split <;> rfl
  simp only [lex,hk,List.foldl_cons,List.foldl_nil,he,hn,lexedButOutput]

theorem lexedButOutput_def (s : Bytes) :
    lexedButOutput (0x64 :: 0x65 :: 0x66 :: s) = Ascii.hash :: lexedButOutput s := by
  have h := Bytes.replaceAll_append (List.cons_ne_nil 0x64 [0x65,0x66]) [Ascii.hash] s
  simp only [List.cons_append,List.nil_append] at h
  rw [lexedButOutput,h]
  rfl

theorem lexedButOutput_cons {c : UInt8} {s : Bytes} (h : ¬ [0x64,0x65,0x66] <+: c :: s) :
    lexedButOutput (c :: s) =
      (if c = Ascii.newline then Ascii.semicolon else c) :: lexedButOutput s := by
  rw [lexedButOutput,Bytes.replaceAll_cons h]
  rfl

theorem eq_cons_of_lexedButOutput {s rest : Bytes} {c : UInt8} (hh : c ≠ Ascii.hash)
    (hs : c ≠ Ascii.semicolon) (h : lexedButOutput s = c :: rest) :
    ∃ s', s = c :: s' ∧ lexedButOutput s' = rest := by
  cases s with
  | nil => simp [lexedButOutput] at h
  | cons b s =>
    by_cases hp : [0x64,0x65,0x66] <+: b :: s
    · obtain ⟨s',hs'⟩ := hp
      simp only [List.cons_append,List.nil_append] at hs'
      rw [← hs',lexedButOutput_def] at h
      exact absurd (List.cons.inj h).1.symm hh
    · rw [lexedButOutput_cons hp] at h
      obtain ⟨hb,rfl⟩ := List.cons.inj h
      split at hb
      · exact absurd hb.symm hs
      · exact ⟨s,by rw [hb],rfl⟩

theorem not_prefix_of_forall {x y z c : UInt8} {s : Bytes}
    (h : ∀ r, c = x → s = y :: z :: r → False) : ¬ [x,y,z] <+: c :: s := by
  rintro ⟨r,hr⟩
  simp only [List.cons_append,List.nil_append,List.cons.injEq] at hr
  exact h r hr.1.symm hr.2.symm

theorem lex_standard (s : Bytes) : lex Table.standard s = lexOnce s := by
  rw [lex_eq_replaceAll]
  fun_induction lexOnce s with
  | case1 s ih =>
    rw [lexedButOutput_def,Bytes.replaceAll_cons_ne (by decide),ih]
  | case2 s ih =>
    have h := Bytes.replaceAll_append (List.cons_ne_nil 0x6F [0x75,0x74]) [Ascii.greater]
      (lexedButOutput s)
    rw [lexedButOutput_cons (by simp),lexedButOutput_cons (by simp),lexedButOutput_cons (by simp),
      if_neg (by decide),if_neg (by decide),if_neg (by decide)]
    simpa [ih] using h
  | case3 s ih =>
    rw [lexedButOutput_cons (by simp),if_pos rfl,Bytes.replaceAll_cons_ne (by decide),ih]
  | case4 c s hdef hout hnl ih =>
    rw [lexedButOutput_cons (not_prefix_of_forall hdef),if_neg hnl,
      Bytes.replaceAll_cons ?_,ih]
    -- `out` cannot come into being: its letters stand in the source already.
    rintro ⟨r,hr⟩
    simp only [List.cons_append,List.nil_append,List.cons.injEq] at hr
    obtain ⟨s₁,rfl,h₁⟩ := eq_cons_of_lexedButOutput (by decide) (by decide) hr.2.symm
    obtain ⟨s₂,rfl,_⟩ := eq_cons_of_lexedButOutput (by decide) (by decide) h₁
    exact hout s₂ hr.1.symm rfl
  | case5 => rfl

theorem lexOnce_cons {c : UInt8} (hd : c ≠ 0x64) (ho : c ≠ 0x6F) (hn : c ≠ 0x0A) (s : Bytes) :
    lexOnce (c :: s) = c :: lexOnce s :=
  lexOnce.eq_4 c s (fun _ h _ => hd h) (fun _ h _ => ho h) hn

/-- No keyword goes on at a byte other than `e`, `f`, `u` and `t`, so lexing may stop and start
again there. -/
theorem lexOnce_append_cons {c : UInt8} (hc : c ∉ [0x65,0x66,0x75,0x74]) (a b : Bytes) :
    lexOnce (a ++ c :: b) = lexOnce a ++ lexOnce (c :: b) := by
  simp only [List.mem_cons,List.not_mem_nil,or_false,not_or] at hc
  obtain ⟨he,hf,hu,ht⟩ := hc
  fun_induction lexOnce a with
  | case1 s ih => simp [lexOnce,ih]
  | case2 s ih => simp [lexOnce,ih]
  | case3 s ih => simp [lexOnce,ih]
  | case4 x s hdef hout hnl ih =>
    rw [List.cons_append,List.cons_append,← ih]
    apply lexOnce.eq_4
    · intro r hx hr
      match s with
      | [] => exact he (List.cons.inj hr).1
      | [_] => exact hf (List.cons.inj (List.cons.inj hr).2).1
      | y :: z :: s =>
        simp only [List.cons_append,List.cons.injEq] at hr
        exact hdef s hx (by rw [hr.1,hr.2.1])
    · intro r hx hr
      match s with
      | [] => exact hu (List.cons.inj hr).1
      | [_] => exact ht (List.cons.inj (List.cons.inj hr).2).1
      | y :: z :: s =>
        simp only [List.cons_append,List.cons.injEq] at hr
        exact hout s hx (by rw [hr.1,hr.2.1])
    · exact hnl
  | case5 => rfl

theorem lex_append_space (a b : Bytes) :
    lex Table.standard (a ++ Ascii.space :: b) =
      lex Table.standard a ++ Ascii.space :: lex Table.standard b := by
  simp only [lex_standard]
  rw [lexOnce_append_cons (by decide),lexOnce_cons (by decide) (by decide) (by decide)]

theorem lex_append_separator (a b : Bytes) :
    lex Table.standard (a ++ Lexeme.separator :: b) =
      lex Table.standard a ++ Lexeme.separator :: lex Table.standard b := by
  simp only [lex_standard]
  rw [lexOnce_append_cons (by decide),lexOnce_cons (by decide) (by decide) (by decide)]

theorem lex_append_newline (a b : Bytes) :
    lex Table.standard (a ++ Ascii.newline :: b) =
      lex Table.standard a ++ Lexeme.separator :: lex Table.standard b := by
  simp only [lex_standard]
  rw [lexOnce_append_cons (by decide)]
  rfl

theorem lex_joinWith_separator {pieces : List Bytes} (hne : pieces ≠ []) :
    lex Table.standard (Bytes.joinWith [Lexeme.separator] pieces) =
      Bytes.joinWith [Lexeme.separator] (pieces.map (lex Table.standard)) :=
  Bytes.joinWith_of_cut lex_append_separator hne

theorem lex_joinWith_newline {pieces : List Bytes} (hne : pieces ≠ []) :
    lex Table.standard (Bytes.joinWith [Ascii.newline] pieces) =
      Bytes.joinWith [Lexeme.separator] (pieces.map (lex Table.standard)) :=
  Bytes.joinWith_of_cut lex_append_newline hne

theorem mem_of_mem_lex {c : UInt8} {s : Bytes} (h : c ∈ lex Table.standard s)
    (hh : c ≠ Ascii.hash) (hg : c ≠ Ascii.greater) (hs : c = Ascii.semicolon → 0x0A ∉ s) :
    c ∈ s := by
  rw [lex_standard] at h
  fun_induction lexOnce s with
  | case1 s ih =>
    have ht := ih ((List.mem_cons.mp h).resolve_left hh) (fun hc hm => hs hc (by simp [hm]))
    simp [ht]
  | case2 s ih =>
    have ht := ih ((List.mem_cons.mp h).resolve_left hg) (fun hc hm => hs hc (by simp [hm]))
    simp [ht]
  | case3 s ih =>
    have hne : c ≠ Ascii.semicolon := fun hc => hs hc (by simp)
    have ht := ih ((List.mem_cons.mp h).resolve_left hne) (fun hc => absurd hc hne)
    simp [ht]
  | case4 x s hdef hout hnl ih =>
    obtain rfl | h := List.mem_cons.mp h
    · simp
    · have ht := ih h (fun hc hm => hs hc (by simp [hm]))
      simp [ht]
  | case5 => simp at h

theorem lex_eq_self {s : Bytes} (hd : Bytes.containsText "def" s = false)
    (ho : Bytes.containsText "out" s = false) (hn : Ascii.newline ∉ s) :
    lex Table.standard s = s := by
  rw [lex_standard]
  fun_induction lexOnce s with
  | case1 s ih => simp [ofString_def,Bytes.containsText] at hd
  | case2 s ih => simp [ofString_out,Bytes.containsText] at ho
  | case3 s ih => simp at hn
  | case4 c s hdef hout hnl ih =>
    simp only [Bytes.containsText,Bool.or_eq_false_iff] at hd ho
    simp only [List.mem_cons,not_or] at hn
    rw [ih hd.2 ho.2 hn.2]
  | case5 => rfl

theorem splitOn_space_lex (s : Bytes) :
    Bytes.splitOn Ascii.space (lex Table.standard s) =
      (Bytes.splitOn Ascii.space s).map (lex Table.standard) := by
  apply Bytes.splitOn_of_cut lex_append_space
  intro piece hp hm
  exact Bytes.not_mem_of_mem_splitOn hp
    (mem_of_mem_lex hm (by decide) (by decide) (fun h => absurd h (by decide)))

def statements (source : Bytes) : List Bytes :=
  (Bytes.splitOn Ascii.newline source).flatMap (Bytes.splitOn Lexeme.separator)

theorem splitOn_separator_lex (s : Bytes) :
    Bytes.splitOn Lexeme.separator (lex Table.standard s) =
      (statements s).map (lex Table.standard) := by
  have hne := Bytes.splitOn_ne_nil Ascii.newline s
  have hj := lex_joinWith_newline hne
  rw [Bytes.joinWith_splitOn] at hj
  rw [hj,Bytes.splitOn_joinWith_flatMap (by simpa using hne),statements,List.flatMap_map,
    List.map_flatMap,List.flatMap_def,List.flatMap_def]
  congr 1
  apply List.map_congr_left
  intro line hl
  apply Bytes.splitOn_of_cut lex_append_separator
  intro piece hp hm
  refine Bytes.not_mem_of_mem_splitOn hp (mem_of_mem_lex hm (by decide) (by decide) ?_)
  intro _ hn
  exact Bytes.not_mem_of_mem_splitOn hl ((Bytes.infix_of_mem_splitOn hp).subset hn)

theorem statements_of_separator_not_mem {source : Bytes} (h : Lexeme.separator ∉ source) :
    statements source = Bytes.splitOn Ascii.newline source := by
  rw [statements,List.flatMap_congr (g := fun line => [line])]
  · simp
  · intro line hl
    have hline : Lexeme.separator ∉ line := fun hm => h ((Bytes.infix_of_mem_splitOn hl).subset hm)
    exact Bytes.splitOn_of_not_mem hline

/-- Lexing acts apart on both sides of a line feed and of a space. So the logical lines of a lexed
source without separators are its lines, each of them lexed, in order and numbered from one, and
their words are the words of these lines, each of them lexed. -/
theorem lex_line_by_line_word_by_word (a b source : Bytes) :
    lex Table.standard (a ++ Ascii.newline :: b) =
      lex Table.standard a ++ Lexeme.separator :: lex Table.standard b ∧
    lex Table.standard (a ++ Ascii.space :: b) =
      lex Table.standard a ++ Ascii.space :: lex Table.standard b ∧
    (Lexeme.separator ∉ source →
      let sourceLines := Bytes.splitOn Ascii.newline source
      let lexedLines := logicalLines (lex Table.standard source)
      lexedLines.map LogicalLine.number = List.range' 1 sourceLines.length ∧
      lexedLines.map LogicalLine.text = sourceLines.map (lex Table.standard) ∧
      lexedLines.map LogicalLine.words =
        sourceLines.map fun line => (Bytes.splitOn Ascii.space line).map (lex Table.standard)) := by
  refine ⟨lex_append_newline a b,lex_append_space a b,?_⟩
  intro hs sourceLines lexedLines
  have hpieces : Bytes.splitOn Lexeme.separator (lex Table.standard source) =
      sourceLines.map (lex Table.standard) := by
    rw [splitOn_separator_lex,statements_of_separator_not_mem hs]
  have htext : lexedLines.map LogicalLine.text = sourceLines.map (lex Table.standard) :=
    (LogicalLine.map_text_enumerate 1 0 _).trans hpieces
  have hwords : lexedLines.map LogicalLine.words =
      (lexedLines.map LogicalLine.text).map (Bytes.splitOn Ascii.space) :=
    List.map_map.symm
  refine ⟨?_,htext,?_⟩
  · have hnumber := LogicalLine.map_number_enumerate 1 0
      (Bytes.splitOn Lexeme.separator (lex Table.standard source))
    rwa [hpieces,List.length_map,← hpieces] at hnumber
  · rw [hwords,htext,List.map_map]
    exact List.map_congr_left fun line _ => splitOn_space_lex line

/-- Keywords that are cut by the end of a line and by a space, a blank line and a double space. -/
theorem lex_line_by_line_word_by_word_cut :
    Lexeme.separator ∉ Bytes.ofString "def de\nf\n\nx  = o ut" ∧
    (logicalLines (lex Table.standard "def de\nf\n\nx  = o ut")).map LogicalLine.words =
      ([["#","de"],["f"],[""],["x","","=","o","ut"]] : List (List Bytes)) := by
  have hs : Lexeme.separator ∉ Bytes.ofString "def de\nf\n\nx  = o ut" := by decide
  obtain ⟨_,_,hwhole⟩ := lex_line_by_line_word_by_word [] [] "def de\nf\n\nx  = o ut"
  obtain ⟨_,_,hwords⟩ := hwhole hs
  exact ⟨hs,hwords.trans (by decide +kernel)⟩

end DefOut
