import DefOut.Compile
import DefOut.Proofs.Acceptance
import DefOut.Proofs.Translation

set_option autoImplicit false

/-!
The language as it is documented: declarations, assignments and output statements over names,
digits and five operators. Every program of it whose names are declared compiles, statement by
statement.
-/
namespace DefOut.Language

structure Name where
  text : Bytes
  letters : isVariableName text = true
  noDef : Bytes.containsText "def" text = false
  noOut : Bytes.containsText "out" text = false

structure Literal where
  text : Bytes
  digits : isNumber text = true

inductive Operand where
  | name : Name → Operand
  | literal : Literal → Operand

inductive Operator where
  | plus | minus | times | divided | power
  deriving DecidableEq, Repr

/-- An operand, then operators with an operand each. -/
structure Expression where
  first : Operand
  rest : List (Operator × Operand)

inductive Statement where
  | declare : Name → Literal → Statement
  | assign : Name → Expression → Statement
  | output : Expression → Statement

def Operand.text : Operand → Bytes
  | .name n => n.text
  | .literal d => d.text

def Operand.names : Operand → List Bytes
  | .name n => [n.text]
  | .literal _ => []

def Operator.text : Operator → Bytes
  | .plus => "+"
  | .minus => "-"
  | .times => "*"
  | .divided => "/"
  | .power => "^"

/-- The operator in the generated code, where `%` is the power. -/
def Operator.target : Operator → Bytes
  | .power => "%"
  | op => op.text

def Expression.words (e : Expression) : List Bytes :=
  e.first.text :: e.rest.flatMap fun p => [p.1.text,p.2.text]

def Expression.targetWords (e : Expression) : List Bytes :=
  e.first.text :: e.rest.flatMap fun p => [p.1.target,p.2.text]

def Expression.operands (e : Expression) : List Operand :=
  e.first :: e.rest.map Prod.snd

def Expression.names (e : Expression) : List Bytes :=
  e.operands.flatMap Operand.names

def Statement.words : Statement → List Bytes
  | .declare n d => ["def",n.text,"=",d.text]
  | .assign n e => n.text :: "=" :: e.words
  | .output e => "out" :: e.words

def Statement.source (s : Statement) : Bytes :=
  Bytes.joinWith " " s.words

def Statement.target : Statement → Bytes
  | .declare n d => "Number " ++ n.text ++ " = " ++ d.text
  | .assign n e => n.text ++ " = " ++ Bytes.joinWith " " e.targetWords
  | .output e => "cout << " ++ Bytes.joinWith " " e.targetWords ++ " << endl"

def Statement.names : Statement → List Bytes
  | .declare n _ => [n.text]
  | .assign n e => n.text :: e.names
  | .output e => e.names

def Statement.declared : Statement → List Bytes
  | .declare n _ => [n.text]
  | _ => []

def source (p : List Statement) : Bytes :=
  Bytes.joinWith "\n" (p.map Statement.source)

def Statement.lexemes : Statement → List Bytes
  | .declare n d => [Lexeme.declare,n.text,Lexeme.assign,d.text]
  | .assign n e => n.text :: Lexeme.assign :: e.words
  | .output e => Lexeme.output :: e.words

theorem Operand.not_mem_text (x : Operand) {c : UInt8} (hl : Ascii.isLetter c = false)
    (hd : Ascii.isDigit c = false) : c ∉ x.text := by
  cases x with
  | name n => exact not_mem_of_isVariableName n.letters hl
  | literal d => exact not_mem_of_isNumber d.digits hd

theorem not_infix_of_not_mem {needle word : Bytes} {c : UInt8} (hc : c ∈ needle)
    (h : c ∉ word) : Bytes.containsText needle word = false := by
  rw [← Bool.not_eq_true,Bytes.containsText_iff]
  exact fun hi => h (hi.subset hc)

theorem Name.lex_text (n : Name) : lex Table.standard n.text = n.text :=
  lex_eq_self n.noDef n.noOut (not_mem_of_isVariableName n.letters (by decide))

theorem Literal.lex_text (d : Literal) : lex Table.standard d.text = d.text := by
  apply lex_eq_self
  · exact not_infix_of_not_mem (show 0x64 ∈ _ by decide) (not_mem_of_isNumber d.digits (by decide))
  · exact not_infix_of_not_mem (show 0x6F ∈ _ by decide) (not_mem_of_isNumber d.digits (by decide))
  · exact not_mem_of_isNumber d.digits (by decide)

theorem Operand.lex_text (x : Operand) : lex Table.standard x.text = x.text := by
  cases x with
  | name n => exact n.lex_text
  | literal d => exact d.lex_text

theorem Operator.lex_text (op : Operator) : lex Table.standard op.text = op.text := by
  cases op <;> decide

theorem Expression.mem_words {e : Expression} {word : Bytes} (h : word ∈ e.words) :
    (∃ op : Operator, word = op.text) ∨ ∃ x ∈ e.operands, word = x.text := by
  simp only [words,List.mem_cons,List.mem_flatMap] at h
  obtain rfl | ⟨p,hp,rfl | rfl | h⟩ := h
  · exact .inr ⟨e.first,by simp [operands],rfl⟩
  · exact .inl ⟨p.1,rfl⟩
  · exact .inr ⟨p.2,List.mem_cons_of_mem _ (List.mem_map_of_mem hp),rfl⟩
  · simp at h

theorem Expression.map_lex_words (e : Expression) :
    e.words.map (lex Table.standard) = e.words := by
  refine (List.map_congr_left ?_).trans (List.map_id _)
  intro word hw
  obtain ⟨op,rfl⟩ | ⟨x,_,rfl⟩ := mem_words hw
  · exact op.lex_text
  · exact x.lex_text

theorem Statement.map_lex_words (s : Statement) :
    s.words.map (lex Table.standard) = s.lexemes := by
  have hd : lex Table.standard "def" = Lexeme.declare := by decide
  have ha : lex Table.standard "=" = Lexeme.assign := by decide
  have ho : lex Table.standard "out" = Lexeme.output := by decide
  cases s with
  | declare n d => simp [words,lexemes,hd,ha,n.lex_text,d.lex_text]
  | assign n e => simp [words,lexemes,ha,n.lex_text,e.map_lex_words]
  | output e => simp [words,lexemes,ho,e.map_lex_words]

theorem Statement.words_ne_nil (s : Statement) : s.words ≠ [] := by
  cases s <;> simp [words]

theorem Statement.lex_source (s : Statement) :
    lex Table.standard s.source = Bytes.joinWith [Ascii.space] s.lexemes := by
  rw [← s.map_lex_words]
  exact Bytes.joinWith_of_cut lex_append_space s.words_ne_nil

theorem Statement.mem_lexemes {s : Statement} {word : Bytes} (h : word ∈ s.lexemes) :
    word ∈ [Lexeme.declare,Lexeme.assign,Lexeme.output] ∨ (∃ op : Operator, word = op.text) ∨
      ∃ x : Operand, word = x.text := by
  have he : ∀ e : Expression, word ∈ e.words →
      (∃ op : Operator, word = op.text) ∨ ∃ x : Operand, word = x.text := by
    intro e hw
    obtain ho | ⟨x,_,hx⟩ := Expression.mem_words hw
    · exact .inl ho
    · exact .inr ⟨x,hx⟩
  cases s with
  | declare n d =>
    simp only [lexemes,List.mem_cons,List.not_mem_nil,or_false] at h
    obtain rfl | rfl | rfl | rfl := h
    · exact .inl (by simp)
    · exact .inr (.inr ⟨.name n,rfl⟩)
    · exact .inl (by simp)
    · exact .inr (.inr ⟨.literal d,rfl⟩)
  | assign n e =>
    simp only [lexemes,List.mem_cons] at h
    obtain rfl | rfl | h := h
    · exact .inr (.inr ⟨.name n,rfl⟩)
    · exact .inl (by simp)
    · exact .inr (he e h)
  | output e =>
    simp only [lexemes,List.mem_cons] at h
    obtain rfl | h := h
    · exact .inl (by simp)
    · exact .inr (he e h)

theorem Statement.not_mem_lexemes {s : Statement} {word : Bytes} {c : UInt8}
    (h : word ∈ s.lexemes) (hl : Ascii.isLetter c = false) (hd : Ascii.isDigit c = false)
    (hf : ∀ w ∈ [Lexeme.declare,Lexeme.assign,Lexeme.output], c ∉ w)
    (ho : ∀ op : Operator, c ∉ op.text) : c ∉ word := by
  obtain hw | ⟨op,rfl⟩ | ⟨x,rfl⟩ := mem_lexemes h
  · exact hf word hw
  · exact ho op
  · exact x.not_mem_text hl hd

theorem Statement.space_not_mem {s : Statement} {word : Bytes} (h : word ∈ s.lexemes) :
    Ascii.space ∉ word :=
  not_mem_lexemes h (by decide) (by decide) (by decide) (fun op => by cases op <;> decide)

theorem Statement.separator_not_mem (s : Statement) :
    Lexeme.separator ∉ Bytes.joinWith [Ascii.space] s.lexemes := by
  intro h
  obtain hc | ⟨word,hw,hm⟩ := Bytes.mem_joinWith h
  · exact absurd hc (by decide)
  · exact not_mem_lexemes hw (by decide) (by decide) (by decide)
      (fun op => by cases op <;> decide) hm

theorem Statement.lineWords_lexemes (s : Statement) :
    lineWords (Bytes.joinWith [Ascii.space] s.lexemes) = s.lexemes := by
  apply Bytes.splitOn_joinWith
  · cases s <;> simp [lexemes]
  · exact fun word hw => space_not_mem hw

theorem isOperator_eq_false {word : Bytes} (h : isVariableName word = true ∨ isNumber word = true) :
    Table.standard.isOperator word = false := by
  rw [← Bool.not_eq_true]
  intro ho
  have hall : ∀ w ∈ Table.standard.operators, isVariableName w = false ∧ isNumber w = false := by
    decide
  have hf := hall word (by simpa [Table.isOperator] using ho)
  simp [hf] at h

theorem Name.isName (n : Name) : Table.standard.IsName n.text :=
  (Table.isName_iff _ _).mpr ⟨n.letters,isOperator_eq_false (.inl n.letters)⟩

theorem Literal.isLiteral (d : Literal) : Table.standard.IsLiteral d.text :=
  (Table.isLiteral_iff _ _).mpr ⟨d.digits,isOperator_eq_false (.inr d.digits)⟩

theorem Operand.isOperator_text (x : Operand) : Table.standard.isOperator x.text = false := by
  cases x with
  | name n => exact n.isName.isOperator
  | literal d => exact d.isLiteral.isOperator

theorem Operand.text_ne (x : Operand) {word : Bytes} {c : UInt8} (hc : c ∈ word)
    (hl : Ascii.isLetter c = false) (hd : Ascii.isDigit c = false) : x.text ≠ word :=
  fun h => x.not_mem_text hl hd (h ▸ hc)

theorem Operand.text_not_lexeme (x : Operand) :
    x.text ∉ [Lexeme.declare,Lexeme.assign,Lexeme.output] := by
  have hd := x.text_ne (show Ascii.hash ∈ Lexeme.declare by decide) (by decide) (by decide)
  have ha := x.text_ne (show Ascii.equals ∈ Lexeme.assign by decide) (by decide) (by decide)
  have ho := x.text_ne (show Ascii.greater ∈ Lexeme.output by decide) (by decide) (by decide)
  simp [hd,ha,ho]

theorem Operand.isOperandWord_text (x : Operand) :
    Table.standard.isOperandWord x.text = true := by
  cases x with
  | name n => exact n.isName.isOperandWord
  | literal d => exact d.isLiteral.isOperandWord

theorem Operator.isOperator_text (op : Operator) : Table.standard.isOperator op.text = true := by
  cases op <;> decide

theorem Operator.isOperandWord_text (op : Operator) :
    Table.standard.isOperandWord op.text = false := by
  cases op <;> decide

theorem Expression.counts (e : Expression) :
    Table.standard.operatorCount e.words = e.rest.length ∧
      Table.standard.operandCount e.words = e.rest.length + 1 := by
  have hr : ∀ rest : List (Operator × Operand),
      (rest.flatMap fun p => [p.1.text,p.2.text]).countP Table.standard.isOperator = rest.length ∧
      (rest.flatMap fun p => [p.1.text,p.2.text]).countP Table.standard.isOperandWord =
        rest.length := by
    intro rest
    induction rest with
    | nil => exact ⟨rfl,rfl⟩
    | cons p rest ih =>
      simp [ih,p.1.isOperator_text,p.2.isOperator_text,
        p.1.isOperandWord_text,p.2.isOperandWord_text]
  obtain ⟨h₁,h₂⟩ := hr e.rest
  simp [Table.operatorCount_eq,Table.operandCount_eq,words,h₁,h₂,
    e.first.isOperator_text,e.first.isOperandWord_text]

theorem Expression.lexeme_not_mem (e : Expression) {word : Bytes}
    (h : word ∈ [Lexeme.declare,Lexeme.assign,Lexeme.output]) : word ∉ e.words := by
  intro hw
  obtain ⟨op,rfl⟩ | ⟨x,_,rfl⟩ := mem_words hw
  · revert h
    cases op <;> decide
  · exact x.text_not_lexeme h

theorem Statement.shaped (s : Statement) : ShapedWords Table.standard s.lexemes := by
  cases s with
  | declare n d => exact .declaration n.isName d.isLiteral
  | assign n e =>
    obtain ⟨ho,hx⟩ := e.counts
    refine .assignment n.isName ?_ (by simp) ?_
    · simp only [List.mem_cons,not_or]
      exact ⟨Ne.symm n.isName.ne_declare,by decide,e.lexeme_not_mem (by simp)⟩
    · have hn := (Operand.name n).isOperandWord_text
      have hn' := (Operand.name n).isOperator_text
      have ha : Table.standard.isOperator Lexeme.assign = true := by decide
      have ha' : Table.standard.isOperandWord Lexeme.assign = false := by decide
      simp only [Operand.text,Table.operandCount_eq,Table.operatorCount_eq] at *
      simp [hn,hn',ha,ha',ho,hx]
  | output e =>
    obtain ⟨ho,hx⟩ := e.counts
    have hc : Table.standard.operandCount (Lexeme.output :: e.words) =
        Table.standard.operatorCount (Lexeme.output :: e.words) + 1 := by
      have hg : Table.standard.isOperator Lexeme.output = false := by decide
      have hg' : Table.standard.isOperandWord Lexeme.output = false := by decide
      simp only [Table.operandCount_eq,Table.operatorCount_eq] at *
      simp [hg,hg',ho,hx]
    refine .output ?_ ?_ (by omega) hc
    · simp only [List.mem_cons,not_or]
      exact ⟨by decide,e.lexeme_not_mem (by simp)⟩
    · simp only [List.mem_cons,not_or]
      exact ⟨by decide,e.lexeme_not_mem (by simp)⟩

theorem Statement.followers_lexemes (s : Statement) :
    SymbolTable.followers s.lexemes = s.declared := by
  cases s with
  | declare n d =>
    rw [lexemes,SymbolTable.followers_cons_declare,
      SymbolTable.followers_cons_ne n.isName.ne_declare,
      SymbolTable.followers_cons_ne (by decide),
      SymbolTable.followers_cons_ne d.isLiteral.ne_declare]
    rfl
  | assign n e =>
    rw [lexemes,SymbolTable.followers_cons_ne n.isName.ne_declare,
      SymbolTable.followers_cons_ne (by decide),SymbolTable.followers_eq_nil (e.lexeme_not_mem (by simp))]
    rfl
  | output e =>
    rw [lexemes,SymbolTable.followers_cons_ne (by decide),
      SymbolTable.followers_eq_nil (e.lexeme_not_mem (by simp))]
    rfl

theorem Operand.mem_names {x : Operand} (h : Table.standard.IsName x.text) :
    x.text ∈ x.names := by
  cases x with
  | name n => simp [names,text]
  | literal d =>
    have hn := not_isVariableName_of_isNumber d.digits
    exact absurd h.isVariableName (by simp [text,hn])

theorem Expression.mem_names {e : Expression} {word : Bytes} (hw : word ∈ e.words)
    (h : Table.standard.IsName word) : word ∈ e.names := by
  obtain ⟨op,rfl⟩ | ⟨x,hx,rfl⟩ := mem_words hw
  · have ho := op.isOperator_text
    rw [h.isOperator] at ho
    contradiction
  · exact List.mem_flatMap.mpr ⟨x,hx,x.mem_names h⟩

theorem Statement.mem_names {s : Statement} {word : Bytes} (hw : word ∈ s.lexemes)
    (h : Table.standard.IsName word) : word ∈ s.names := by
  have hf : ¬ (word = Lexeme.declare ∨ word = Lexeme.assign ∨ word = Lexeme.output) := by
    intro he
    have hn := (lexeme_not_operand he).1
    rw [h.isVariableName] at hn
    contradiction
  simp only [not_or] at hf
  cases s with
  | declare n d =>
    simp only [lexemes,List.mem_cons,List.not_mem_nil,or_false,hf,false_or] at hw
    obtain rfl | rfl := hw
    · simp [names]
    · have hn := not_isVariableName_of_isNumber d.digits
      rw [h.isVariableName] at hn
      contradiction
  | assign n e =>
    simp only [lexemes,List.mem_cons,hf,false_or] at hw
    obtain rfl | hw := hw
    · simp [names]
    · exact List.mem_cons_of_mem _ (Expression.mem_names hw h)
  | output e =>
    simp only [lexemes,List.mem_cons,hf,false_or] at hw
    exact Expression.mem_names hw h

theorem Operand.target_text (x : Operand) : x.text.flatMap targetOf = x.text := by
  apply flatMap_targetOf_self
  intro c hc
  have hk : Ascii.isLetter c = false ∧ Ascii.isDigit c = false := by
    simp only [List.mem_cons,List.not_mem_nil,or_false] at hc
    rcases hc with rfl | rfl | rfl | rfl | rfl <;> decide
  exact x.not_mem_text hk.1 hk.2

theorem Operator.target_text (op : Operator) : op.text.flatMap targetOf = op.target := by
  cases op <;> decide

theorem Expression.target_words (e : Expression) :
    (e.words.map fun word => word.flatMap targetOf) = e.targetWords := by
  simp only [words,targetWords,List.map_cons,List.map_flatMap,List.map_nil,
    Operand.target_text,Operator.target_text]

theorem Statement.translateLine_lexemes (s : Statement) :
    translateLine (Bytes.joinWith [Ascii.space] s.lexemes) = s.target := by
  have hd : Lexeme.declare.flatMap targetOf = Bytes.ofString "Number" := by decide
  have ha : Lexeme.assign.flatMap targetOf = Bytes.ofString "=" := by decide
  cases s with
  | declare n d =>
    have hn := (Operand.name n).target_text
    have hl := (Operand.literal d).target_text
    simp only [Operand.text] at hn hl
    rw [lexemes,translateLine_of_not_output (by decide) (by decide)]
    simp only [List.map_cons,List.map_nil,hd,ha,hn,hl,Bytes.joinWith,target,List.append_assoc]
    rfl
  | assign n e =>
    have hne : n.text ≠ [] := by
      intro he
      have hl := n.letters
      simp [he,isVariableName] at hl
    have hg : Ascii.greater ∉ n.text := not_mem_of_isVariableName n.letters (by decide)
    have hn := (Operand.name n).target_text
    simp only [Operand.text] at hn
    obtain ⟨word,words,hw⟩ : ∃ word words, e.targetWords = word :: words := ⟨_,_,rfl⟩
    rw [lexemes,translateLine_of_not_output hne hg]
    simp only [List.map_cons,hn,ha,e.target_words,target]
    rw [hw,Bytes.joinWith_cons_cons,Bytes.joinWith_cons_cons,List.append_assoc]
    rfl
  | output e =>
    have ho : Lexeme.output.flatMap targetOf = Bytes.ofString "cout <<" := by decide
    have he : Lexeme.endOutput.flatMap targetOf = Bytes.ofString "<< endl" := by decide
    obtain ⟨word,words,hw⟩ : ∃ word words, e.targetWords = word :: words := ⟨_,_,rfl⟩
    rw [lexemes,translateLine_of_output]
    simp only [List.map_cons,List.map_append,List.map_nil,ho,he,e.target_words,target]
    rw [← List.cons_append,Bytes.joinWith_append_singleton _ (by simp),hw,
      Bytes.joinWith_cons_cons]
    simp only [List.append_assoc]
    rfl

theorem lex_source (p : List Statement) (hne : p ≠ []) :
    lex Table.standard (source p) = Bytes.joinWith [Lexeme.separator]
      (p.map fun s => Bytes.joinWith [Ascii.space] s.lexemes) := by
  have h : lex Table.standard (source p) = Bytes.joinWith [Lexeme.separator]
      ((p.map Statement.source).map (lex Table.standard)) :=
    lex_joinWith_newline (by simpa using hne)
  rw [h,List.map_map]
  congr 1
  exact List.map_congr_left fun s _ => s.lex_source

theorem splitOn_lex_source (p : List Statement) (hne : p ≠ []) :
    Bytes.splitOn Lexeme.separator (lex Table.standard (source p)) =
      p.map fun s => Bytes.joinWith [Ascii.space] s.lexemes := by
  rw [lex_source p hne]
  apply Bytes.splitOn_joinWith (by simpa using hne)
  intro line hl
  obtain ⟨s,_,rfl⟩ := List.mem_map.mp hl
  exact s.separator_not_mem

theorem names_lex_source (p : List Statement) (hne : p ≠ []) :
    (declaredNames (lex Table.standard (source p))).names =
      (p.flatMap Statement.declared).eraseDups := by
  have hl := splitOn_lex_source p hne
  rw [names_declaredNames,hl,List.flatMap_map]
  · simp only [Statement.lineWords_lexemes,Statement.followers_lexemes]
  · rw [hl]
    intro line hm
    obtain ⟨s,_,rfl⟩ := List.mem_map.mp hm
    rw [s.lineWords_lexemes]
    exact s.shaped.getLast?_ne

theorem check_lex_source (p : List Statement) (hne : p ≠ [])
    (hd : ∀ s ∈ p, ∀ name ∈ s.names, name ∈ p.flatMap Statement.declared) :
    check Table.standard (lex Table.standard (source p)) = none := by
  rw [check_eq_none_iff,splitOn_lex_source p hne,names_lex_source p hne]
  constructor
  · intro line hl
    obtain ⟨s,_,rfl⟩ := List.mem_map.mp hl
    rw [s.lineWords_lexemes]
    exact s.shaped
  · intro line hl word hw hn
    obtain ⟨s,hs,rfl⟩ := List.mem_map.mp hl
    rw [s.lineWords_lexemes] at hw
    rw [List.mem_eraseDups]
    exact hd s hs word (Statement.mem_names hw hn)

theorem generate_lex_source (p : List Statement) (hne : p ≠ []) :
    generate Table.standard (lex Table.standard (source p)) =
      preamble ++ " " ++ Bytes.joinWith ";\n\t" (p.map Statement.target) ++ " " ++ postamble := by
  rw [generate,lex_source p hne,translate_joinWith (by simpa using hne),List.map_map]
  · simp only [Function.comp_def,Statement.translateLine_lexemes]
  · intro line hl
    obtain ⟨s,_,rfl⟩ := List.mem_map.mp hl
    exact s.separator_not_mem

/-- Every program of the language whose names are declared, before or after their use, compiles:
its declared names are listed once in the order of their first declaration, and its code is the
translation of its statements, one after the other. -/
theorem compile_source (p : List Statement) (hne : p ≠ [])
    (hd : ∀ s ∈ p, ∀ name ∈ s.names, name ∈ p.flatMap Statement.declared) :
    ∃ artifact, compile Table.standard (source p) = .ok artifact ∧
      artifact.declared = (p.flatMap Statement.declared).eraseDups ∧
      artifact.code = preamble ++ " " ++ Bytes.joinWith ";\n\t" (p.map Statement.target) ++ " " ++
        postamble := by
  refine ⟨⟨lex Table.standard (source p),_,_⟩,?_,names_lex_source p hne,generate_lex_source p hne⟩
  simp only [compile,accept,check_lex_source p hne hd]
  rfl

/-- A name that is used before it is declared, and declared twice. -/
theorem compile_source_used_before_declared :
    ∃ artifact, compile Table.standard "out x ^ 2\ndef x = 7\ndef x = 3" = .ok artifact ∧
      artifact.declared = [Bytes.ofString "x"] ∧
      artifact.code = preamble ++ " " ++
        "cout << x % 2 << endl;\n\tNumber x = 7;\n\tNumber x = 3" ++ " " ++ postamble := by
  let x : Name := ⟨"x",by decide,by decide,by decide⟩
  let p : List Statement :=
    [.output ⟨.name x,[(.power,.literal ⟨"2",by decide⟩)]⟩,.declare x ⟨"7",by decide⟩,
      .declare x ⟨"3",by decide⟩]
  have hs : source p = Bytes.ofString "out x ^ 2\ndef x = 7\ndef x = 3" := by decide
  have ht : Bytes.joinWith ";\n\t" (p.map Statement.target) =
      Bytes.ofString "cout << x % 2 << endl;\n\tNumber x = 7;\n\tNumber x = 3" := by decide
  have hd : (p.flatMap Statement.declared).eraseDups = [Bytes.ofString "x"] := by decide
  have h := compile_source p (List.cons_ne_nil _ _) (by decide)
  rw [hs,ht,hd] at h
  exact h

end DefOut.Language
