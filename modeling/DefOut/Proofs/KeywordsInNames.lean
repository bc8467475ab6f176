import DefOut.Compile
import DefOut.Proofs.Acceptance
import DefOut.Proofs.Lexing

set_option autoImplicit false

/-!
Keywords inside names. Lexing breaks such a name into a word that is neither name nor operand, and
the check passes over words of that class. So a program is rejected for such a name only where it
stands first in its statement or in a declaration; anywhere else it counts as nothing.
-/
namespace DefOut

/-- Letters only, with a keyword inside, and more than the keyword. -/
def hidesKeyword (word : Bytes) : Bool :=
  isVariableName word && word != "def" && word != "out" &&
    (Bytes.containsText "def" word || Bytes.containsText "out" word)

theorem lexeme_mem_lexOnce {s : Bytes} (h : [0x64,0x65,0x66] <:+: s ∨ [0x6F,0x75,0x74] <:+: s) :
    Ascii.hash ∈ lexOnce s ∨ Ascii.greater ∈ lexOnce s := by
  fun_induction lexOnce s with
  | case1 s ih => simp
  | case2 s ih => simp
  | case3 s ih =>
    have ht := ih (by simpa [List.infix_cons_iff] using h)
    exact ht.imp (List.mem_cons_of_mem _) (List.mem_cons_of_mem _)
  | case4 c s hdef hout hnl ih =>
    have hd := not_prefix_of_forall hdef
    have ho := not_prefix_of_forall hout
    rw [List.infix_cons_iff,List.infix_cons_iff] at h
    have ht := ih (h.imp (fun h => h.resolve_left hd) (fun h => h.resolve_left ho))
    exact ht.imp (List.mem_cons_of_mem _) (List.mem_cons_of_mem _)
  | case5 => simp at h

theorem lexOnce_eq_nil {s : Bytes} (h : lexOnce s = []) : s = [] := by
  fun_cases lexOnce s <;> simp_all [lexOnce]

theorem lexOnce_eq_singleton {s : Bytes} {c : UInt8} (h : lexOnce s = [c]) :
    s = [c] ∨ (s = [0x64,0x65,0x66] ∧ c = Ascii.hash) ∨
      (s = [0x6F,0x75,0x74] ∧ c = Ascii.greater) ∨ s = [Ascii.newline] := by
  fun_cases lexOnce s with
  | case1 s =>
    rw [lexOnce] at h
    obtain ⟨rfl,hs⟩ := List.cons.inj h
    simp [lexOnce_eq_nil hs]
  | case2 s =>
    rw [lexOnce] at h
    obtain ⟨rfl,hs⟩ := List.cons.inj h
    simp [lexOnce_eq_nil hs]
  | case3 s =>
    rw [lexOnce] at h
    obtain ⟨rfl,hs⟩ := List.cons.inj h
    simp [lexOnce_eq_nil hs]
  | case4 x s hdef hout hnl =>
    rw [lexOnce.eq_4 x s hdef hout hnl] at h
    obtain ⟨rfl,hs⟩ := List.cons.inj h
    simp [lexOnce_eq_nil hs]
  | case5 => simp [lexOnce] at h

theorem lex_eq_declare_iff (word : Bytes) :
    lex Table.standard word = Lexeme.declare ↔
      word = Bytes.ofString "def" ∨ word = Lexeme.declare := by
  constructor
  · intro h
    rw [lex_standard] at h
    obtain rfl | ⟨rfl,_⟩ | ⟨_,hc⟩ | rfl := lexOnce_eq_singleton h
    · exact .inr rfl
    · exact .inl ofString_def.symm
    · exact absurd hc (by decide)
    · revert h
      decide
  · rintro (rfl | rfl) <;> decide

structure Uncounted (t : Table) (word : Bytes) : Prop where
  lexeme : word ∉ [Lexeme.declare,Lexeme.assign,Lexeme.output]
  operator : t.isOperator word = false
  letters : isVariableName word = false
  digits : isNumber word = false

theorem uncounted_lex {word : Bytes} (h : hidesKeyword word = true) :
    Uncounted Table.standard (lex Table.standard word) := by
  simp only [hidesKeyword,Bool.and_eq_true,Bool.or_eq_true,bne_iff_ne,
    Bytes.containsText_iff,ofString_def,ofString_out] at h
  obtain ⟨⟨⟨hl,hd⟩,ho⟩,hk⟩ := h
  rw [lex_standard]
  -- It is no single byte, as only a keyword and the byte itself lex to one.
  have hs : (lexOnce word).length ≠ 1 := by
    intro he
    obtain ⟨c,hc⟩ := List.length_eq_one_iff.mp he
    obtain rfl | ⟨rfl,_⟩ | ⟨rfl,_⟩ | rfl := lexOnce_eq_singleton hc
    · obtain h | h := hk
      · exact absurd h.length_le (by simp)
      · exact absurd h.length_le (by simp)
    · exact hd rfl
    · exact ho rfl
    · exact not_mem_of_isVariableName hl (show Ascii.isLetter Ascii.newline = false by decide)
        (by simp)
  have hlex : ∀ w ∈ [Lexeme.declare,Lexeme.assign,Lexeme.output], w.length = 1 := by decide
  have hops : ∀ w ∈ Table.standard.operators, w.length = 1 := by decide
  have hm := lexeme_mem_lexOnce hk
  refine ⟨fun h => hs (hlex _ h),?_,?_,?_⟩
  · rw [← Bool.not_eq_true]
    exact fun h => hs (hops _ (by simpa [Table.isOperator] using h))
  · rw [← Bool.not_eq_true]
    intro h
    exact hm.elim (not_mem_of_isVariableName h (by decide)) (not_mem_of_isVariableName h (by decide))
  · rw [← Bool.not_eq_true]
    intro h
    exact hm.elim (not_mem_of_isNumber h (by decide)) (not_mem_of_isNumber h (by decide))

theorem Uncounted.not_isName {t : Table} {word : Bytes} (h : Uncounted t word) :
    ¬ t.IsName word := by
  intro hn
  have hl := h.letters
  rw [hn.isVariableName] at hl
  contradiction

theorem Uncounted.not_isLiteral {t : Table} {word : Bytes} (h : Uncounted t word) :
    ¬ t.IsLiteral word := by
  intro hn
  have hd := h.digits
  rw [hn.isNumber] at hd
  contradiction

theorem Uncounted.isOperandWord {t : Table} {word : Bytes} (h : Uncounted t word) :
    t.isOperandWord word = false := by
  simp [Table.isOperandWord,h.letters,h.digits]

theorem shapedWords_iff_of_not_declare {t : Table} {first : Bytes} {rest : List Bytes}
    (hd : Lexeme.declare ∉ first :: rest) :
    ShapedWords t (first :: rest) ↔
      t.operandCount (first :: rest) = t.operatorCount (first :: rest) + 1 ∧
      (t.IsName first ∧ Lexeme.assign ∈ first :: rest ∨
        first = Lexeme.output ∧ Lexeme.assign ∉ first :: rest) := by
  constructor
  · intro h
    cases h with
    | declaration hn hl => simp at hd
    | assignment hn hd ha hc => exact ⟨hc,.inl ⟨hn,ha⟩⟩
    | output hd ha hp hc => exact ⟨hc,.inr ⟨rfl,ha⟩⟩
  · rintro ⟨hc,⟨hn,ha⟩ | ⟨rfl,ha⟩⟩
    · exact .assignment hn hd ha hc
    · exact .output hd ha (by omega) hc

/-- A name with a keyword inside stands first, or in a statement with a declare keyword. -/
def Misplaced (words : List Bytes) : Prop :=
  ∃ word ∈ words, hidesKeyword word = true ∧
    (words.head? = some word ∨ Bytes.ofString "def" ∈ words ∨ Lexeme.declare ∈ words)

instance (words : List Bytes) : Decidable (Misplaced words) :=
  inferInstanceAs (Decidable (∃ word ∈ words, _))

theorem declare_mem_map_lex_iff (words : List Bytes) :
    Lexeme.declare ∈ words.map (lex Table.standard) ↔
      Bytes.ofString "def" ∈ words ∨ Lexeme.declare ∈ words := by
  rw [List.mem_map]
  simp only [lex_eq_declare_iff]
  constructor
  · rintro ⟨word,hm,rfl | rfl⟩
    · exact .inl hm
    · exact .inr hm
  · rintro (hm | hm)
    · exact ⟨_,hm,.inl rfl⟩
    · exact ⟨_,hm,.inr rfl⟩

theorem not_hidesKeyword_of_declaration {words : List Bytes} {name literal word : Bytes}
    (hn : Table.standard.IsName name) (hl : Table.standard.IsLiteral literal)
    (h : words.map (lex Table.standard) = [Lexeme.declare,name,Lexeme.assign,literal])
    (hw : word ∈ words) : hidesKeyword word = false := by
  rw [← Bool.not_eq_true]
  intro hh
  have hu := uncounted_lex hh
  have hx := hu.lexeme
  have hm : lex Table.standard word ∈ words.map (lex Table.standard) := List.mem_map_of_mem hw
  simp only [h,List.mem_cons,List.not_mem_nil,or_false] at hm
  obtain he | he | he | he := hm
  · simp [he] at hx
  · exact hu.not_isName (he ▸ hn)
  · simp [he] at hx
  · exact hu.not_isLiteral (he ▸ hl)

theorem ShapedWords.not_uncounted {t : Table} {first : Bytes} {rest : List Bytes}
    (h : ShapedWords t (first :: rest)) : ¬ Uncounted t first := by
  intro hu
  have hx := hu.lexeme
  cases h with
  | declaration hn hl => simp at hx
  | assignment hn hd ha hc => exact hu.not_isName hn
  | output hd ha hp hc => simp at hx

theorem not_misplaced_of_shapedWords {words : List Bytes}
    (h : ShapedWords Table.standard (words.map (lex Table.standard))) : ¬ Misplaced words := by
  rintro ⟨word,hw,hh,hfirst | hd⟩
  · cases words with
    | nil => simp at hw
    | cons first rest =>
      obtain rfl := Option.some.inj hfirst
      exact h.not_uncounted (uncounted_lex hh)
  · rw [← declare_mem_map_lex_iff] at hd
    generalize hg : words.map (lex Table.standard) = lexed at h hd
    cases h with
    | declaration hn hl => simp [not_hidesKeyword_of_declaration hn hl hg hw] at hh
    | assignment hn hnd ha hc => exact hnd hd
    | output hnd ha hp hc => exact hnd hd

def plainWords (words : List Bytes) : List Bytes :=
  words.filter fun word => !hidesKeyword word

theorem plainWords_eq_self {words : List Bytes}
    (h : ∀ word ∈ words, hidesKeyword word = false) : plainWords words = words :=
  List.filter_eq_self.mpr fun word hw => by simp [h word hw]

theorem plainWords_cons {first : Bytes} {rest : List Bytes} (h : ¬ Misplaced (first :: rest)) :
    plainWords (first :: rest) = first :: plainWords rest := by
  have hf : hidesKeyword first = false := by
    rw [← Bool.not_eq_true]
    exact fun hf => h ⟨first,by simp,hf,.inl rfl⟩
  simp [plainWords,hf]

theorem map_lex_plainWords_subset (words : List Bytes) :
    (plainWords words).map (lex Table.standard) ⊆ words.map (lex Table.standard) :=
  List.map_subset _ List.filter_sublist.subset

theorem mem_map_lex_plainWords_iff {x : Bytes} (hx : ¬ Uncounted Table.standard x)
    (words : List Bytes) :
    x ∈ (plainWords words).map (lex Table.standard) ↔ x ∈ words.map (lex Table.standard) := by
  constructor
  · exact fun h => map_lex_plainWords_subset words h
  · intro h
    obtain ⟨word,hw,rfl⟩ := List.mem_map.mp h
    have hh : hidesKeyword word = false := by
      rw [← Bool.not_eq_true]
      exact fun hh => hx (uncounted_lex hh)
    exact List.mem_map_of_mem (List.mem_filter.mpr ⟨hw,by simp [hh]⟩)

theorem countP_map_lex_plainWords {p : Bytes → Bool}
    (hp : ∀ x, Uncounted Table.standard x → p x = false) (words : List Bytes) :
    ((plainWords words).map (lex Table.standard)).countP p =
      (words.map (lex Table.standard)).countP p := by
  rw [plainWords,List.countP_map,List.countP_map,List.countP_filter]
  apply List.countP_congr
  intro word _
  have hu : hidesKeyword word = true → p (lex Table.standard word) = false :=
    fun h => hp _ (uncounted_lex h)
  cases h : hidesKeyword word <;> simp_all

theorem shapedWords_plainWords_iff {words : List Bytes} (h : ¬ Misplaced words) :
    ShapedWords Table.standard ((plainWords words).map (lex Table.standard)) ↔
      ShapedWords Table.standard (words.map (lex Table.standard)) := by
  by_cases hx : ∃ word ∈ words, hidesKeyword word = true
  · obtain ⟨word,hw,hh⟩ := hx
    have hd : Lexeme.declare ∉ words.map (lex Table.standard) := by
      rw [declare_mem_map_lex_iff]
      exact fun hd => h ⟨word,hw,hh,.inr hd⟩
    have hd' : Lexeme.declare ∉ (plainWords words).map (lex Table.standard) :=
      fun hm => hd (map_lex_plainWords_subset words hm)
    have ha := mem_map_lex_plainWords_iff
      (fun hu : Uncounted Table.standard Lexeme.assign => hu.lexeme (by simp)) words
    have hc : ∀ {p : Bytes → Bool}, (∀ x, Uncounted Table.standard x → p x = false) → _ :=
      fun hp => countP_map_lex_plainWords hp words
    have hoperands := hc fun _ hu => hu.isOperandWord
    have hoperators := hc fun _ hu => hu.operator
    cases words with
    | nil => simp at hw
    | cons first rest =>
      rw [plainWords_cons h,List.map_cons] at hd' ha hoperands hoperators
      rw [List.map_cons] at hd ha hoperands hoperators
      rw [plainWords_cons h,List.map_cons,List.map_cons,shapedWords_iff_of_not_declare hd,
        shapedWords_iff_of_not_declare hd',ha]
      simp only [Table.operandCount_eq,Table.operatorCount_eq]
      rw [hoperands,hoperators]
  · rw [plainWords_eq_self]
    intro word hw
    rw [← Bool.not_eq_true]
    exact fun hh => hx ⟨word,hw,hh⟩

theorem plainWords_ne_nil {words : List Bytes} (hne : words ≠ []) (h : ¬ Misplaced words) :
    plainWords words ≠ [] := by
  cases words with
  | nil => contradiction
  | cons first rest => simp [plainWords_cons h]

theorem declaration_plainWords_iff {words : List Bytes} (h : ¬ Misplaced words)
    {name literal : Bytes} (hn : Table.standard.IsName name)
    (hl : Table.standard.IsLiteral literal) :
    (plainWords words).map (lex Table.standard) = [Lexeme.declare,name,Lexeme.assign,literal] ↔
      words.map (lex Table.standard) = [Lexeme.declare,name,Lexeme.assign,literal] := by
  have hs : ∀ lexed, (plainWords words).map (lex Table.standard) = lexed →
      Lexeme.declare ∈ lexed → plainWords words = words := by
    rintro _ rfl hd
    apply plainWords_eq_self
    intro word hw
    rw [← Bool.not_eq_true]
    intro hh
    have hm := map_lex_plainWords_subset words hd
    exact h ⟨word,hw,hh,.inr ((declare_mem_map_lex_iff words).mp hm)⟩
  constructor
  · intro he
    rw [← hs _ he (by simp)]
    exact he
  · intro he
    rw [plainWords_eq_self fun word hw => not_hidesKeyword_of_declaration hn hl he hw]
    exact he

def sourceWords (source : Bytes) : List Bytes :=
  (Bytes.splitOn Ascii.newline source).flatMap (Bytes.splitOn Ascii.space)

theorem exists_statement_of_mem_sourceWords {source word : Bytes} (h : word ∈ sourceWords source)
    (hs : Lexeme.separator ∉ word) : ∃ statement ∈ statements source, word ∈ lineWords statement := by
  obtain ⟨line,hl,hw⟩ := List.mem_flatMap.mp h
  obtain ⟨statement,hst,hwst⟩ := Bytes.exists_mem_splitOn hw hs
  exact ⟨statement,List.mem_flatMap.mpr ⟨line,hl,hst⟩,hwst⟩

def plainStatement (statement : Bytes) : Bytes :=
  Bytes.joinWith [Ascii.space] (plainWords (lineWords statement))

def withoutHidden (source : Bytes) : Bytes :=
  Bytes.joinWith [Ascii.newline] ((statements source).map plainStatement)

theorem lineWords_plainStatement {statement : Bytes} (h : ¬ Misplaced (lineWords statement)) :
    lineWords (plainStatement statement) = plainWords (lineWords statement) := by
  apply Bytes.splitOn_joinWith
  · exact plainWords_ne_nil (Bytes.splitOn_ne_nil _ _) h
  · exact fun word hw => Bytes.not_mem_of_mem_splitOn (List.mem_filter.mp hw).1

theorem not_mem_of_mem_statements {source statement : Bytes} (h : statement ∈ statements source) :
    Ascii.newline ∉ statement ∧ Lexeme.separator ∉ statement := by
  obtain ⟨line,hl,hs⟩ := List.mem_flatMap.mp h
  constructor
  · exact fun hm => Bytes.not_mem_of_mem_splitOn hl ((Bytes.infix_of_mem_splitOn hs).subset hm)
  · exact Bytes.not_mem_of_mem_splitOn hs

theorem mem_of_mem_plainStatement {statement : Bytes} {c : UInt8}
    (h : c ∈ plainStatement statement) : c = Ascii.space ∨ c ∈ statement := by
  obtain hc | ⟨word,hw,hc⟩ := Bytes.mem_joinWith h
  · exact .inl (List.mem_singleton.mp hc)
  · exact .inr ((Bytes.infix_of_mem_splitOn (List.mem_filter.mp hw).1).subset hc)

theorem statements_ne_nil (source : Bytes) : statements source ≠ [] := by
  have h := Bytes.splitOn_ne_nil Lexeme.separator (lex Table.standard source)
  rw [splitOn_separator_lex] at h
  simpa using h

theorem statements_joinWith {pieces : List Bytes} (hne : pieces ≠ [])
    (h : ∀ piece ∈ pieces, Ascii.newline ∉ piece ∧ Lexeme.separator ∉ piece) :
    statements (Bytes.joinWith [Ascii.newline] pieces) = pieces := by
  rw [statements,Bytes.splitOn_joinWith hne fun piece hp => (h piece hp).1]
  have hp : ∀ piece ∈ pieces, Bytes.splitOn Lexeme.separator piece = [piece] :=
    fun piece hp => Bytes.splitOn_of_not_mem (h piece hp).2
  rw [List.flatMap_def,List.map_congr_left hp,← List.flatMap_def]
  simp

theorem statements_withoutHidden (source : Bytes) :
    statements (withoutHidden source) = (statements source).map plainStatement := by
  apply statements_joinWith
  · simpa using statements_ne_nil source
  · intro piece hp
    obtain ⟨statement,hs,rfl⟩ := List.mem_map.mp hp
    have hn := not_mem_of_mem_statements hs
    constructor
    · intro hm
      exact (mem_of_mem_plainStatement hm).elim (absurd · (by decide)) hn.1
    · intro hm
      exact (mem_of_mem_plainStatement hm).elim (absurd · (by decide)) hn.2

theorem compile_error_iff (t : Table) (source : Bytes) :
    (∃ rejection, compile t source = .error rejection) ↔ check t (lex t source) ≠ none := by
  simp only [compile,accept]
  cases check t (lex t source) <;> simp [Except.map]

structure Accepted (program : List (List Bytes)) : Prop where
  shaped : ∀ words ∈ program, ShapedWords Table.standard (words.map (lex Table.standard))
  declared : ∀ words ∈ program, ∀ name ∈ words.map (lex Table.standard),
    Table.standard.IsName name → ∃ declaration ∈ program, ∃ literal,
      Table.standard.IsLiteral literal ∧
        declaration.map (lex Table.standard) = [Lexeme.declare,name,Lexeme.assign,literal]

theorem check_lex_eq_none_iff (source : Bytes) :
    check Table.standard (lex Table.standard source) = none ↔
      Accepted ((statements source).map lineWords) := by
  have hw : ∀ statement, lineWords (lex Table.standard statement) =
      (lineWords statement).map (lex Table.standard) := splitOn_space_lex
  rw [check_eq_none_iff]
  constructor
  · rintro ⟨hs,hd⟩
    simp only [mem_names_iff_of_shaped hs] at hd
    rw [splitOn_separator_lex] at hs hd
    refine ⟨List.forall_mem_map.mpr ?_,List.forall_mem_map.mpr ?_⟩
    · intro statement hst
      rw [← hw]
      exact hs _ (List.mem_map_of_mem hst)
    · intro statement hst name hm hname
      rw [← hw] at hm
      obtain ⟨_,hl,literal,_,hlit,he⟩ := hd _ (List.mem_map_of_mem hst) name hm hname
      obtain ⟨declaration,hdecl,rfl⟩ := List.mem_map.mp hl
      exact ⟨_,List.mem_map_of_mem hdecl,literal,hlit,by rw [← hw,he]⟩
  · intro h
    have hs : ∀ line ∈ Bytes.splitOn Lexeme.separator (lex Table.standard source),
        ShapedWords Table.standard (lineWords line) := by
      rw [splitOn_separator_lex]
      refine List.forall_mem_map.mpr ?_
      intro statement hst
      rw [hw]
      exact h.shaped _ (List.mem_map_of_mem hst)
    refine ⟨hs,?_⟩
    simp only [mem_names_iff_of_shaped hs]
    rw [splitOn_separator_lex]
    refine List.forall_mem_map.mpr ?_
    intro statement hst name hm hname
    rw [hw] at hm
    obtain ⟨_,hp,literal,hlit,he⟩ := h.declared _ (List.mem_map_of_mem hst) name hm hname
    obtain ⟨declaration,hdecl,rfl⟩ := List.mem_map.mp hp
    exact ⟨_,List.mem_map_of_mem hdecl,literal,hname,hlit,by rw [hw,he]⟩

theorem accepted_plainWords_iff {program : List (List Bytes)}
    (h : ∀ words ∈ program, ¬ Misplaced words) :
    Accepted (program.map plainWords) ↔ Accepted program := by
  constructor
  · intro ha
    refine ⟨?_,?_⟩
    · intro words hw
      exact (shapedWords_plainWords_iff (h words hw)).mp (ha.shaped _ (List.mem_map_of_mem hw))
    · intro words hw name hm hn
      have hm' := (mem_map_lex_plainWords_iff (fun hu => hu.not_isName hn) words).mpr hm
      obtain ⟨_,hp,literal,hl,he⟩ := ha.declared _ (List.mem_map_of_mem hw) name hm' hn
      obtain ⟨declaration,hd,rfl⟩ := List.mem_map.mp hp
      exact ⟨declaration,hd,literal,hl,(declaration_plainWords_iff (h _ hd) hn hl).mp he⟩
  · intro ha
    refine ⟨?_,?_⟩
    · refine List.forall_mem_map.mpr ?_
      intro words hw
      exact (shapedWords_plainWords_iff (h words hw)).mpr (ha.shaped words hw)
    · refine List.forall_mem_map.mpr ?_
      intro words hw name hm hn
      have hm' := map_lex_plainWords_subset words hm
      obtain ⟨declaration,hd,literal,hl,he⟩ := ha.declared words hw name hm' hn
      exact ⟨_,List.mem_map_of_mem hd,literal,hl,
        (declaration_plainWords_iff (h _ hd) hn hl).mpr he⟩

/-- A name that hides a keyword stands in one of the statements, and it gets the program rejected
exactly where one such name is misplaced; else the program is judged as if they were not there. -/
theorem compile_rejects_hidden_keyword_iff {source word : Bytes} (hw : word ∈ sourceWords source)
    (hh : hidesKeyword word = true) :
    (∃ statement ∈ statements source, word ∈ lineWords statement) ∧
    ((∃ rejection, compile Table.standard source = .error rejection) ↔
      (∃ statement ∈ statements source, Misplaced (lineWords statement)) ∨
      ∃ rejection, compile Table.standard (withoutHidden source) = .error rejection) := by
  constructor
  · have hl : isVariableName word = true := by
      simp only [hidesKeyword,Bool.and_eq_true] at hh
      exact hh.1.1.1
    exact exists_statement_of_mem_sourceWords hw (not_mem_of_isVariableName hl (by decide))
  · simp only [compile_error_iff,ne_eq,check_lex_eq_none_iff]
    by_cases hm : ∃ statement ∈ statements source, Misplaced (lineWords statement)
    · refine iff_of_true ?_ (.inl hm)
      obtain ⟨statement,hs,hx⟩ := hm
      exact fun ha => not_misplaced_of_shapedWords (ha.shaped _ (List.mem_map_of_mem hs)) hx
    · have hp : ∀ statement ∈ statements source, ¬ Misplaced (lineWords statement) :=
        fun statement hs hx => hm ⟨statement,hs,hx⟩
      have he : (statements (withoutHidden source)).map lineWords =
          ((statements source).map lineWords).map plainWords := by
        rw [statements_withoutHidden,List.map_map,List.map_map]
        exact List.map_congr_left fun statement hs => lineWords_plainStatement (hp statement hs)
      rw [he,accepted_plainWords_iff (List.forall_mem_map.mpr hp),or_iff_right hm]

def trailingHiddenKeyword : Bytes := "def x = 1\nout x undefined"

theorem compile_rejects_hidden_keyword_iff_trailing :
    Bytes.ofString "undefined" ∈ sourceWords trailingHiddenKeyword ∧
    hidesKeyword "undefined" = true ∧
    (∃ statement ∈ statements trailingHiddenKeyword,
      Bytes.ofString "undefined" ∈ lineWords statement) ∧
    ((∃ rejection, compile Table.standard trailingHiddenKeyword = .error rejection) ↔
      (∃ statement ∈ statements trailingHiddenKeyword, Misplaced (lineWords statement)) ∨
      ∃ rejection,
        compile Table.standard (withoutHidden trailingHiddenKeyword) = .error rejection) := by
  have hw : Bytes.ofString "undefined" ∈ sourceWords trailingHiddenKeyword := by decide +kernel
  have hh : hidesKeyword "undefined" = true := by decide
  exact ⟨hw,hh,compile_rejects_hidden_keyword_iff hw hh⟩

/-- After the operand of an output statement such a name is compiled. -/
theorem trailing_hidden_keyword_compiles :
    Bytes.ofString "undefined" ∈ sourceWords trailingHiddenKeyword ∧
    hidesKeyword "undefined" = true ∧
    ∃ artifact, compile Table.standard trailingHiddenKeyword = .ok artifact ∧
      artifact.lexemes = Bytes.ofString "# x = 1;> x un#ined" :=
  ⟨by decide +kernel,by decide,_,rfl,by decide⟩

end DefOut
