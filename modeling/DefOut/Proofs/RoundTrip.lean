import DefOut.Proofs.Lexing
import DefOut.Proofs.Tables
import Mathlib.Tactic.TFAE

set_option autoImplicit false

/-!
Lexing and unlexing undo each other. Where every lexeme is a single byte that the source does not
hold, each substitution of the lexer can be taken back, the last one first (`Fresh.undo_all`). With
the standard table unlexing writes every byte on its own (`unlex_standard`), and the lexed texts
are the ones without a keyword: there lexing changes nothing and undoes unlexing
(`lex_unlex_of_keywordFree`).
-/
namespace DefOut

/-- No byte of the text is the lexeme of a keyword that is written differently. -/
def Fresh (keywords : List Mapping) (text : Bytes) : Prop :=
  ∀ m ∈ keywords, m.source ≠ m.target → ∀ b ∈ text, m.target ≠ [b]

section
variable {m : Mapping} {rest : List Mapping} (hrules : Table.KeywordRules (m :: rest))
  (hone : ∀ k ∈ m :: rest, k.target.length = 1) {text : Bytes} (hfresh : Fresh (m :: rest) text)
include hrules hone hfresh

theorem Fresh.step : Fresh rest (Bytes.replaceAll m.source m.target text) := by
  intro k hk hne b hb he
  -- The byte is the lexeme just written, which is none of the later ones, or it was there before.
  obtain hb | hb := Bytes.mem_of_mem_replaceAll (hrules.source_ne_nil m (by simp)) hb
  · obtain ⟨c,hc⟩ := List.length_eq_one_iff.mp (hone m (by simp))
    have hbc : b = c := by simpa [hc] using hb
    have hsame : k.target = m.target := by rw [he,hc,hbc]
    exact (List.nodup_cons.mp hrules.targets).1 (List.mem_map.mpr ⟨k,hk,hsame⟩)
  · exact hfresh k (List.mem_cons_of_mem m hk) hne b hb he

theorem Fresh.undo :
    Bytes.replaceAll m.target m.source (Bytes.replaceAll m.source m.target text) = text := by
  by_cases hsame : m.source = m.target
  · have hself := Bytes.replaceAll_self (hrules.target_ne_nil m (by simp))
    rw [hsame,hself,hself]
  · obtain ⟨b,hb⟩ := List.length_eq_one_iff.mp (hone m (by simp))
    have hnot : b ∉ text := fun hm => hfresh m (by simp) hsame b hm hb
    rw [hb]
    exact Bytes.replaceAll_replaceAll (hrules.source_ne_nil m (by simp)) hnot

end

theorem Fresh.undo_all {keywords : List Mapping} (hrules : Table.KeywordRules keywords)
    (hone : ∀ m ∈ keywords, m.target.length = 1) {text : Bytes} (hfresh : Fresh keywords text) :
    keywords.foldr (fun m text => Bytes.replaceAll m.target m.source text)
      (substitute keywords text) = text := by
  induction keywords generalizing text with
  | nil => rfl
  | cons m rest ih =>
    have hrest := ih hrules.tail (fun k hk => hone k (List.mem_cons_of_mem m hk))
      (hfresh.step hrules hone)
    have hstep := hfresh.undo hrules hone
    calc (m :: rest).foldr (fun m text => Bytes.replaceAll m.target m.source text)
          (substitute (m :: rest) text)
        = Bytes.replaceAll m.target m.source
            (rest.foldr (fun m text => Bytes.replaceAll m.target m.source text)
              (substitute rest (Bytes.replaceAll m.source m.target text))) := rfl
      _ = Bytes.replaceAll m.target m.source (Bytes.replaceAll m.source m.target text) := by
        rw [hrest]
      _ = text := hstep

theorem fresh_standard {text : Bytes} (hh : Ascii.hash ∉ text) (hs : Ascii.semicolon ∉ text)
    (hg : Ascii.greater ∉ text) : Fresh Table.standard.keywords text := by
  intro m hm hne b hb he
  have hl : ∀ m ∈ Table.standard.keywords, m.source ≠ m.target →
      m.target ∈ [[Ascii.hash],[Ascii.semicolon],[Ascii.greater]] := by decide
  have hmem := hl m hm hne
  rw [he] at hmem
  simp only [List.mem_cons,List.cons.injEq,and_true,List.not_mem_nil,or_false] at hmem
  obtain rfl | rfl | rfl := hmem
  · exact hh hb
  · exact hs hb
  · exact hg hb

def Mapping.reversed (m : Mapping) : Mapping := ⟨m.target,m.source⟩

theorem unlex_eq_substitute (t : Table) (lexemes : Bytes) :
    unlex t lexemes = substitute (t.keywords.map Mapping.reversed).reverse lexemes := by
  simp only [unlex,substitute,List.foldl_reverse,List.foldr_map,Mapping.reversed]

abbrev lexemeBytes : List UInt8 := [Ascii.hash,Ascii.semicolon,Ascii.greater]

def keywordOf (c : UInt8) : Bytes :=
  if c = Ascii.hash then "def"
  else if c = Ascii.semicolon then "\n"
  else if c = Ascii.greater then "out"
  else [c]

theorem keywordOf_other {c : UInt8} (h : c ∉ lexemeBytes) :
    keywordOf c = [c] := by
  simp only [List.mem_cons,List.not_mem_nil,or_false,not_or] at h
  simp [keywordOf,h]

theorem unlex_standard (lexemes : Bytes) :
    unlex Table.standard lexemes = lexemes.flatMap keywordOf := by
  have hapart : Apart (Table.standard.keywords.map Mapping.reversed).reverse :=
    ⟨by decide,by decide,by decide⟩
  have hsources : ∀ c ∈ lexemeBytes,
      [c] ∈ (Table.standard.keywords.map Mapping.reversed).reverse.map Mapping.source := by
    decide +kernel
  rw [unlex_eq_substitute]
  apply hapart.substitute_eq
  · decide
  · intro c hc
    exact keywordOf_other fun hm => hc (hsources c hm)

theorem lexeme_not_mem_unlex {c : UInt8} (hc : c ∈ lexemeBytes)
    (lexemes : Bytes) : c ∉ unlex Table.standard lexemes := by
  rw [unlex_standard]
  intro h
  obtain ⟨b,_,hb⟩ := List.mem_flatMap.mp h
  have hkeyword : ∀ b ∈ lexemeBytes, ∀ c ∈ lexemeBytes, c ∉ keywordOf b := by decide +kernel
  by_cases hl : b ∈ lexemeBytes
  · exact hkeyword b hl c hc hb
  · rw [keywordOf_other hl,List.mem_singleton] at hb
    exact hl (hb ▸ hc)

/-- A source comes back from its lexemes when it holds none of them itself, for every accepted
table with lexemes of one byte; with the standard table it comes back in no other case. -/
theorem unlex_lex_eq_source :
    (∀ (keywords targets : List Mapping) (operators : List Bytes) (t : Table),
      Table.ofParts keywords targets operators = .ok t →
      (∀ m ∈ t.keywords, m.target.length = 1) →
      ∀ source : Bytes, Fresh t.keywords source → unlex t (lex t source) = source) ∧
    ∀ source : Bytes, unlex Table.standard (lex Table.standard source) = source ↔
      Ascii.hash ∉ source ∧ Ascii.semicolon ∉ source ∧ Ascii.greater ∉ source := by
  constructor
  · intro keywords targets operators t ht hone source hfresh
    obtain ⟨rfl,hrules⟩ := Table.keywords_of_ofParts ht
    exact hfresh.undo_all hrules hone
  · intro source
    constructor
    · intro h
      rw [← h]
      exact ⟨lexeme_not_mem_unlex (by simp) _,lexeme_not_mem_unlex (by simp) _,
        lexeme_not_mem_unlex (by simp) _⟩
    · rintro ⟨hh,hs,hg⟩
      exact (fresh_standard hh hs hg).undo_all Table.keywordRules_standard (by decide)

/-- The second keyword begins with the lexeme of the first, and the third is its own lexeme. -/
theorem unlex_lex_eq_source_chained :
    let keywords : List Mapping := [⟨"ab","x"⟩,⟨"xc","y"⟩,⟨"q","q"⟩]
    let t : Table := ⟨keywords,[],[]⟩
    let source : Bytes := "abcqb"
    Table.ofParts keywords [] [] = .ok t ∧ (∀ m ∈ t.keywords, m.target.length = 1) ∧
      Fresh t.keywords source ∧ lex t source = Bytes.ofString "yqb" ∧
      unlex t (lex t source) = source := by
  intro keywords t source
  have ht : Table.ofParts keywords [] [] = .ok t := by decide +kernel
  have hone : ∀ m ∈ t.keywords, m.target.length = 1 := by decide
  have hfresh : Fresh t.keywords source := by
    unfold Fresh
    decide +kernel
  exact ⟨ht,hone,hfresh,by decide,unlex_lex_eq_source.1 keywords [] [] t ht hone source hfresh⟩

/-- A function that brings in only the bytes of `new` has the beginnings without them from its
argument. -/
theorem prefix_of_prefix_image {g : Bytes → Bytes} {new : List UInt8}
    (hg : ∀ {s rest : Bytes} {c : UInt8}, c ∉ new → g s = c :: rest →
      ∃ s', s = c :: s' ∧ g s' = rest)
    {start s : Bytes} (hn : ∀ c ∈ start, c ∉ new) (h : start <+: g s) : start <+: s := by
  induction start generalizing s with
  | nil => exact List.nil_prefix
  | cons c start ih =>
    obtain ⟨rest,hr⟩ := h
    obtain ⟨s',rfl,hs'⟩ := hg (hn c (by simp)) hr.symm
    have ht := ih (fun b hb => hn b (List.mem_cons_of_mem c hb)) ⟨rest,hs'.symm⟩
    exact List.cons_prefix_cons.mpr ⟨rfl,ht⟩

theorem eq_cons_of_lexOnce {s rest : Bytes} {c : UInt8}
    (hc : c ∉ lexemeBytes) (h : lexOnce s = c :: rest) :
    ∃ s', s = c :: s' ∧ lexOnce s' = rest := by
  simp only [List.mem_cons,List.not_mem_nil,or_false,not_or] at hc
  obtain ⟨hh,hs,hg⟩ := hc
  fun_cases lexOnce s with
  | case1 s => exact absurd (List.cons.inj h).1.symm hh
  | case2 s => exact absurd (List.cons.inj h).1.symm hg
  | case3 s => exact absurd (List.cons.inj h).1.symm hs
  | case4 b s hdef hout hnl =>
    rw [lexOnce.eq_4 b s hdef hout hnl] at h
    obtain ⟨rfl,hr⟩ := List.cons.inj h
    exact ⟨s,rfl,hr⟩
  | case5 => simp [lexOnce] at h

theorem eq_cons_of_flatMap_keywordOf {s rest : Bytes} {c : UInt8} (hc : c ∉ [0x64,0x6F,0x0A])
    (h : s.flatMap keywordOf = c :: rest) : ∃ s', s = c :: s' ∧ s'.flatMap keywordOf = rest := by
  simp only [List.mem_cons,List.not_mem_nil,or_false,not_or] at hc
  obtain ⟨hd,ho,hn⟩ := hc
  cases s with
  | nil => simp at h
  | cons b s =>
    rw [List.flatMap_cons] at h
    by_cases hb : b ∈ lexemeBytes
    · simp only [List.mem_cons,List.not_mem_nil,or_false] at hb
      obtain rfl | rfl | rfl := hb
      · exact absurd (List.cons.inj h).1.symm hd
      · exact absurd (List.cons.inj h).1.symm hn
      · exact absurd (List.cons.inj h).1.symm ho
    · rw [keywordOf_other hb] at h
      obtain ⟨rfl,hr⟩ := List.cons.inj h
      exact ⟨s,rfl,hr⟩

abbrev changedKeywords : List Bytes := [[0x64,0x65,0x66],[0x6F,0x75,0x74],[Ascii.newline]]

theorem not_prefix_lexOnce {keyword : Bytes}
    (hk : keyword ∈ changedKeywords) (s : Bytes) :
    ¬ keyword <+: lexOnce s := by
  intro h
  have hnew : ∀ keyword ∈ changedKeywords, ∀ c ∈ keyword, c ∉ lexemeBytes := by decide +kernel
  have hs : keyword <+: s := prefix_of_prefix_image eq_cons_of_lexOnce (hnew keyword hk) h
  obtain ⟨rest,rfl⟩ := hs
  simp only [List.mem_cons,List.not_mem_nil,or_false] at hk
  obtain rfl | rfl | rfl := hk
  · exact absurd (List.cons_prefix_cons.mp h).1 (by decide)
  · exact absurd (List.cons_prefix_cons.mp h).1 (by decide)
  · exact absurd (List.cons_prefix_cons.mp h).1 (by decide)

theorem suffix_lexOnce {s tail : Bytes} (h : tail <:+ lexOnce s) : ∃ s', tail = lexOnce s' := by
  fun_induction lexOnce s with
  | case1 s ih =>
    obtain rfl | h := List.suffix_cons_iff.mp h
    · exact ⟨0x64 :: 0x65 :: 0x66 :: s,by rw [lexOnce]⟩
    · exact ih h
  | case2 s ih =>
    obtain rfl | h := List.suffix_cons_iff.mp h
    · exact ⟨0x6F :: 0x75 :: 0x74 :: s,by rw [lexOnce]⟩
    · exact ih h
  | case3 s ih =>
    obtain rfl | h := List.suffix_cons_iff.mp h
    · exact ⟨0x0A :: s,by rw [lexOnce]⟩
    · exact ih h
  | case4 c s hdef hout hnl ih =>
    obtain rfl | h := List.suffix_cons_iff.mp h
    · exact ⟨c :: s,(lexOnce.eq_4 c s hdef hout hnl).symm⟩
    · exact ih h
  | case5 => exact ⟨[],by simpa [lexOnce] using h⟩

structure KeywordFree (text : Bytes) : Prop where
  declare : ¬ Bytes.ofString "def" <:+: text
  output : ¬ Bytes.ofString "out" <:+: text
  newline : ¬ Bytes.ofString "\n" <:+: text

theorem KeywordFree.newline_not_mem {text : Bytes} (h : KeywordFree text) :
    Ascii.newline ∉ text :=
  fun hm => h.newline ((List.singleton_infix_iff Ascii.newline text).mpr hm)

theorem keywordFree_lex (source : Bytes) : KeywordFree (lex Table.standard source) := by
  have hno : ∀ keyword ∈ changedKeywords, ¬ keyword <:+: lexOnce source := by
    intro keyword hk hi
    obtain ⟨tail,hp,hs⟩ := List.infix_iff_prefix_suffix.mp hi
    obtain ⟨s,rfl⟩ := suffix_lexOnce hs
    exact not_prefix_lexOnce hk s hp
  rw [lex_standard]
  exact ⟨hno _ (by decide),hno _ (by decide),hno _ (by decide)⟩

theorem KeywordFree.lex_eq_self {text : Bytes} (h : KeywordFree text) :
    lex Table.standard text = text := by
  apply DefOut.lex_eq_self
  · rw [← Bool.not_eq_true,Bytes.containsText_iff]
    exact h.declare
  · rw [← Bool.not_eq_true,Bytes.containsText_iff]
    exact h.output
  · exact h.newline_not_mem

theorem KeywordFree.tail {c : UInt8} {text : Bytes} (h : KeywordFree (c :: text)) :
    KeywordFree text :=
  ⟨fun hi => h.declare (List.infix_cons hi),fun hi => h.output (List.infix_cons hi),
    fun hi => h.newline (List.infix_cons hi)⟩

theorem lex_unlex_of_keywordFree {lexemes : Bytes} (h : KeywordFree lexemes) :
    lex Table.standard (unlex Table.standard lexemes) = lexemes := by
  rw [lex_standard,unlex_standard]
  induction lexemes with
  | nil => rfl
  | cons c text ih =>
    have ht := ih h.tail
    rw [List.flatMap_cons]
    by_cases hc : c ∈ lexemeBytes
    · simp only [List.mem_cons,List.not_mem_nil,or_false] at hc
      obtain rfl | rfl | rfl := hc
      · exact congrArg (Ascii.hash :: ·) ht
      · exact congrArg (Ascii.semicolon :: ·) ht
      · exact congrArg (Ascii.greater :: ·) ht
    · rw [keywordOf_other hc,List.singleton_append,lexOnce.eq_4,ht]
      -- A keyword begun by `c` would go on in the text itself: no written-out lexeme starts with
      -- `e` or `u`.
      · intro rest hd he
        have hp : [0x65,0x66] <+: text :=
          prefix_of_prefix_image eq_cons_of_flatMap_keywordOf (by simp) ⟨rest,he.symm⟩
        rw [hd] at h
        exact h.declare (List.cons_prefix_cons.mpr ⟨rfl,hp⟩).isInfix
      · intro rest ho he
        have hp : [0x75,0x74] <+: text :=
          prefix_of_prefix_image eq_cons_of_flatMap_keywordOf (by simp) ⟨rest,he.symm⟩
        rw [ho] at h
        exact h.output (List.cons_prefix_cons.mpr ⟨rfl,hp⟩).isInfix
      · intro hn
        rw [hn] at h
        exact h.newline_not_mem (by simp)

/-- The lexed texts are those without a keyword, which lexing leaves as they are; on them lexing
undoes unlexing, so nothing is lost by going back to a source, whatever the first source was. -/
theorem lexed_tfae_and_lex_unlex (lexemes source : Bytes) :
    List.TFAE [
      ∃ s, lexemes = lex Table.standard s,
      KeywordFree lexemes,
      lex Table.standard lexemes = lexemes] ∧
    (KeywordFree lexemes → lex Table.standard (unlex Table.standard lexemes) = lexemes) ∧
    lex Table.standard (lex Table.standard source) = lex Table.standard source ∧
    lex Table.standard (unlex Table.standard (lex Table.standard source)) =
      lex Table.standard source := by
  refine ⟨?_,lex_unlex_of_keywordFree,(keywordFree_lex source).lex_eq_self,
    lex_unlex_of_keywordFree (keywordFree_lex source)⟩
  tfae_have 1 → 2 := by
    rintro ⟨s,rfl⟩
    exact keywordFree_lex s
  tfae_have 2 → 3 := fun h => h.lex_eq_self
  tfae_have 3 → 1 := fun h => ⟨lexemes,h.symm⟩
  tfae_finish

/-- Pieces of keywords stand on both sides of a lexeme. -/
theorem lexed_tfae_and_lex_unlex_seams :
    let lexemes : Bytes := "de#ef o>ut ;="
    KeywordFree lexemes ∧ unlex Table.standard lexemes = Bytes.ofString "dedefef ooutut \n=" ∧
      lex Table.standard (unlex Table.standard lexemes) = lexemes := by
  intro lexemes
  have hfree : KeywordFree lexemes := ⟨by decide,by decide,by decide⟩
  exact ⟨hfree,by decide,(lexed_tfae_and_lex_unlex lexemes []).2.1 hfree⟩

end DefOut
