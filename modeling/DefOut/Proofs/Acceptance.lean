import DefOut.Check
import DefOut.Proofs.Declarations

set_option autoImplicit false

/-!
What the check accepts. A logical line is judged by the classes of its words and by counting
them; the names are looked up in one list over all lines. Together this is a grammar of single
lines, and every name of the program is declared by a line of its own.
-/
namespace DefOut

namespace Table

/-- Letters only, `A` to `Z` and `a` to `z`, and no operator of the table. -/
structure IsName (t : Table) (word : Bytes) : Prop where
  nonempty : word ≠ []
  letters : ∀ c ∈ word, (0x41 ≤ c ∧ c ≤ 0x5A) ∨ (0x61 ≤ c ∧ c ≤ 0x7A)
  not_operator : word ∉ t.operators

structure IsLiteral (t : Table) (word : Bytes) : Prop where
  nonempty : word ≠ []
  digits : ∀ c ∈ word, 0x30 ≤ c ∧ c ≤ 0x39
  not_operator : word ∉ t.operators

theorem isOperator_eq_false_iff (t : Table) (word : Bytes) :
    t.isOperator word = false ↔ word ∉ t.operators := by
  rw [← Bool.not_eq_true,isOperator_iff]

theorem isName_iff (t : Table) (word : Bytes) :
    t.IsName word ↔ isVariableName word = true ∧ t.isOperator word = false := by
  rw [isVariableName_iff,isOperator_eq_false_iff]
  exact ⟨fun h => ⟨⟨h.nonempty,h.letters⟩,h.not_operator⟩,fun h => ⟨h.1.1,h.1.2,h.2⟩⟩

theorem isLiteral_iff (t : Table) (word : Bytes) :
    t.IsLiteral word ↔ isNumber word = true ∧ t.isOperator word = false := by
  rw [isNumber_iff,isOperator_eq_false_iff]
  exact ⟨fun h => ⟨⟨h.nonempty,h.digits⟩,h.not_operator⟩,fun h => ⟨h.1.1,h.1.2,h.2⟩⟩

instance (t : Table) (word : Bytes) : Decidable (t.IsName word) :=
  decidable_of_iff _ (t.isName_iff word).symm

instance (t : Table) (word : Bytes) : Decidable (t.IsLiteral word) :=
  decidable_of_iff _ (t.isLiteral_iff word).symm

theorem IsName.isVariableName {t : Table} {word : Bytes} (h : t.IsName word) :
    isVariableName word = true := ((t.isName_iff word).mp h).1

theorem IsName.isOperator {t : Table} {word : Bytes} (h : t.IsName word) :
    t.isOperator word = false := ((t.isName_iff word).mp h).2

theorem IsLiteral.isNumber {t : Table} {word : Bytes} (h : t.IsLiteral word) :
    isNumber word = true := ((t.isLiteral_iff word).mp h).1

theorem IsLiteral.isOperator {t : Table} {word : Bytes} (h : t.IsLiteral word) :
    t.isOperator word = false := ((t.isLiteral_iff word).mp h).2

def operatorCount (t : Table) (words : List Bytes) : Nat :=
  words.countP fun word => decide (word ∈ t.operators)

def operandCount (t : Table) (words : List Bytes) : Nat :=
  words.countP fun word => decide (t.IsName word ∨ t.IsLiteral word)

def isOperandWord (t : Table) (word : Bytes) : Bool :=
  !t.isOperator word && (isVariableName word || isNumber word)

theorem isOperandWord_eq (t : Table) (word : Bytes) :
    t.isOperandWord word = decide (t.IsName word ∨ t.IsLiteral word) := by
  rw [Bool.eq_iff_iff,decide_eq_true_eq,isName_iff,isLiteral_iff]
  cases ho : t.isOperator word <;> simp [isOperandWord,ho]

theorem operatorCount_eq (t : Table) (words : List Bytes) :
    t.operatorCount words = words.countP t.isOperator := by
  refine List.countP_congr fun word _ => ?_
  rw [decide_eq_true_eq,isOperator_iff]

theorem operandCount_eq (t : Table) (words : List Bytes) :
    t.operandCount words = words.countP t.isOperandWord := by
  refine List.countP_congr fun word _ => ?_
  rw [isOperandWord_eq]

end Table

theorem not_mem_of_isVariableName {word : Bytes} {c : UInt8} (h : isVariableName word = true)
    (hc : Ascii.isLetter c = false) : c ∉ word := by
  intro hm
  simp only [isVariableName,Bool.and_eq_true,List.all_eq_true] at h
  have hl := h.2 c hm
  rw [hc] at hl
  contradiction

theorem not_mem_of_isNumber {word : Bytes} {c : UInt8} (h : isNumber word = true)
    (hc : Ascii.isDigit c = false) : c ∉ word := by
  intro hm
  simp only [isNumber,Bool.and_eq_true,List.all_eq_true] at h
  have hd := h.2 c hm
  rw [hc] at hd
  contradiction

theorem not_isVariableName_of_isNumber {word : Bytes} (h : isNumber word = true) :
    isVariableName word = false := by
  cases word with
  | nil => rfl
  | cons c word =>
    simp only [isNumber,isVariableName,List.isEmpty_cons,Bool.not_false,Bool.true_and,
      List.all_cons,Bool.and_eq_true] at *
    have hl : Ascii.isLetter c = false := by
      have hd := h.1
      simp only [Ascii.isDigit,Ascii.isLetter,decide_eq_true_eq,decide_eq_false_iff_not,
        UInt8.le_iff_toNat_le,UInt8.reduceToNat] at *
      omega
    simp [hl]

theorem lexeme_not_operand {word : Bytes}
    (h : word = Lexeme.declare ∨ word = Lexeme.assign ∨ word = Lexeme.output) :
    isVariableName word = false ∧ isNumber word = false := by
  obtain rfl | rfl | rfl := h <;> decide

theorem classify_eq_declare_iff (t : Table) (word : Bytes) :
    t.classify word = .declare ↔ word = Lexeme.declare := by
  unfold Table.classify
  repeat' split
  all_goals simp_all

theorem classify_eq_assign_iff (t : Table) (word : Bytes) :
    t.classify word = .assign ↔ word = Lexeme.assign := by
  unfold Table.classify
  repeat' split
  all_goals simp_all [show Lexeme.declare ≠ Lexeme.assign by decide]

theorem classify_eq_output_iff (t : Table) (word : Bytes) :
    t.classify word = .output ↔ word = Lexeme.output := by
  unfold Table.classify
  repeat' split
  all_goals simp_all [show Lexeme.declare ≠ Lexeme.output by decide,
    show Lexeme.assign ≠ Lexeme.output by decide]

theorem classify_eq_name_iff (t : Table) (word : Bytes) :
    t.classify word = .name ↔ t.IsName word := by
  have hf := @lexeme_not_operand word
  rw [Table.isName_iff]
  unfold Table.classify
  repeat' split
  all_goals simp_all

theorem classify_eq_number_iff (t : Table) (word : Bytes) :
    t.classify word = .number ↔ t.IsLiteral word := by
  have hf := @lexeme_not_operand word
  have hn := @not_isVariableName_of_isNumber word
  rw [Table.isLiteral_iff]
  unfold Table.classify
  repeat' split
  all_goals simp_all

theorem isOperator_of_classify {t : Table} {word : Bytes} (h : t.classify word = .operator) :
    t.isOperator word = true := by
  unfold Table.classify at h
  repeat' split at h
  all_goals simp_all

inductive ShapedWords (t : Table) : List Bytes → Prop where
  | declaration {name literal : Bytes} : t.IsName name → t.IsLiteral literal →
      ShapedWords t [Lexeme.declare,name,Lexeme.assign,literal]
  | assignment {name : Bytes} {rest : List Bytes} : t.IsName name →
      Lexeme.declare ∉ name :: rest → Lexeme.assign ∈ name :: rest →
      t.operandCount (name :: rest) = t.operatorCount (name :: rest) + 1 →
      ShapedWords t (name :: rest)
  | output {rest : List Bytes} :
      Lexeme.declare ∉ Lexeme.output :: rest → Lexeme.assign ∉ Lexeme.output :: rest →
      0 < t.operandCount (Lexeme.output :: rest) →
      t.operandCount (Lexeme.output :: rest) = t.operatorCount (Lexeme.output :: rest) + 1 →
      ShapedWords t (Lexeme.output :: rest)

theorem contains_classify_iff {t : Table} {kind : TokenKind} {lexeme : Bytes}
    (h : ∀ word, t.classify word = kind ↔ word = lexeme) (words : List Bytes) :
    (words.map t.classify).contains kind = true ↔ lexeme ∈ words := by
  simp [h]

theorem isOperand_classify (t : Table) (word : Bytes) :
    (!t.isOperator word && (t.classify word).isOperand) = t.isOperandWord word := by
  have hf := @lexeme_not_operand word
  unfold Table.classify Table.isOperandWord
  repeat' split
  all_goals simp_all [TokenKind.isOperand]

theorem Table.IsName.isOperandWord {t : Table} {word : Bytes} (h : t.IsName word) :
    t.isOperandWord word = true := by
  rw [← isOperand_classify,(classify_eq_name_iff t word).mpr h,h.isOperator]
  rfl

theorem Table.IsLiteral.isOperandWord {t : Table} {word : Bytes} (h : t.IsLiteral word) :
    t.isOperandWord word = true := by
  rw [← isOperand_classify,(classify_eq_number_iff t word).mpr h,h.isOperator]
  rfl

theorem isOperation_iff (t : Table) (words : List Bytes) :
    isOperation t words = true ↔ t.operandCount words = t.operatorCount words + 1 := by
  have hc : words.countP (fun w => !t.isOperator w && (t.classify w).isOperand) =
      t.operandCount words := by
    simp only [isOperand_classify,Table.operandCount_eq]
  simp only [isOperation,hc,decide_eq_true_eq,Table.operatorCount_eq]
  omega

theorem map_classify_eq_declaration_iff (t : Table) (words : List Bytes) :
    words.map t.classify = [.declare,.name,.assign,.number] ↔
      ∃ name literal, t.IsName name ∧ t.IsLiteral literal ∧
        words = [Lexeme.declare,name,Lexeme.assign,literal] := by
  constructor
  · intro h
    match words with
    | [a,b,c,d] =>
      simp only [List.map_cons,List.map_nil,List.cons.injEq,and_true,classify_eq_declare_iff,
        classify_eq_name_iff,classify_eq_assign_iff,classify_eq_number_iff] at h
      obtain ⟨rfl,hb,rfl,hd⟩ := h
      exact ⟨b,d,hb,hd,rfl⟩
    | [] | [_] | [_,_] | [_,_,_] | _ :: _ :: _ :: _ :: _ :: _ => simp at h
  · rintro ⟨name,literal,hn,hl,rfl⟩
    simp only [List.map_cons,List.map_nil,List.cons.injEq,and_true]
    exact ⟨(classify_eq_declare_iff t _).mpr rfl,(classify_eq_name_iff t _).mpr hn,
      (classify_eq_assign_iff t _).mpr rfl,(classify_eq_number_iff t _).mpr hl⟩

theorem head?_classify_iff {t : Table} {kind : TokenKind} {words : List Bytes} :
    (words.map t.classify).head? = some kind ↔
      ∃ word rest, words = word :: rest ∧ t.classify word = kind := by
  cases words <;> simp

theorem shapeFault?_eq_none_iff (t : Table) (words : List Bytes) :
    shapeFault? t words = none ↔ ShapedWords t words := by
  have hdecl := contains_classify_iff (classify_eq_declare_iff t) words
  have hassign := contains_classify_iff (classify_eq_assign_iff t) words
  have hout := contains_classify_iff (classify_eq_output_iff t) words
  constructor
  · intro h
    unfold shapeFault? at h
    simp only [hdecl,hassign,hout] at h
    split at h
    · split at h
      · next hk =>
        obtain ⟨name,literal,hn,hl,rfl⟩ := (map_classify_eq_declaration_iff t words).mp hk
        exact .declaration hn hl
      · contradiction
    · next hd =>
      split at h
      · next ha =>
        split at h
        · next hk =>
          obtain ⟨name,rest,rfl,hn⟩ := head?_classify_iff.mp hk.1
          exact .assignment ((classify_eq_name_iff t name).mp hn) hd ha
            ((isOperation_iff t _).mp hk.2)
        · contradiction
      · next ha =>
        split at h
        · split at h
          · next hk =>
            obtain ⟨first,rest,rfl,hf⟩ := head?_classify_iff.mp hk.1
            obtain rfl := (classify_eq_output_iff t first).mp hf
            have hc := (isOperation_iff t _).mp hk.2
            exact .output hd ha (by omega) hc
          · contradiction
        · contradiction
  · intro h
    unfold shapeFault?
    simp only [hdecl,hassign,hout]
    cases h with
    | @declaration name literal hn hl =>
      have hk := (map_classify_eq_declaration_iff t _).mpr ⟨name,literal,hn,hl,rfl⟩
      rw [if_pos (by simp),if_pos hk]
    | @assignment name rest hn hd ha hc =>
      have hk : ((name :: rest).map t.classify).head? = some .name := by
        simpa using (classify_eq_name_iff t name).mpr hn
      rw [if_neg hd,if_pos ha,if_pos ⟨hk,(isOperation_iff t _).mpr hc⟩]
    | @output rest hd ha hp hc =>
      have hk : ((Lexeme.output :: rest).map t.classify).head? = some .output := by
        simpa using (classify_eq_output_iff t Lexeme.output).mpr rfl
      rw [if_neg hd,if_neg ha,if_pos (by simp),if_pos ⟨hk,(isOperation_iff t _).mpr hc⟩]

theorem Table.IsName.ne_declare {t : Table} {word : Bytes} (h : t.IsName word) :
    word ≠ Lexeme.declare := by
  intro he
  have hf := (lexeme_not_operand (.inl he)).1
  rw [h.isVariableName] at hf
  contradiction

theorem Table.IsLiteral.ne_declare {t : Table} {word : Bytes} (h : t.IsLiteral word) :
    word ≠ Lexeme.declare := by
  intro he
  have hf := (lexeme_not_operand (.inl he)).2
  rw [h.isNumber] at hf
  contradiction

theorem ShapedWords.getLast?_ne {t : Table} {words : List Bytes} (h : ShapedWords t words) :
    words.getLast? ≠ some Lexeme.declare := by
  cases h with
  | declaration hn hl => exact fun he => hl.ne_declare (by simpa using he)
  | assignment hn hd ha hc => exact fun he => hd (List.mem_of_getLast? he)
  | output hd ha hp hc => exact fun he => hd (List.mem_of_getLast? he)

theorem ShapedWords.mem_followers_iff {t : Table} {words : List Bytes} (h : ShapedWords t words)
    (name : Bytes) : name ∈ SymbolTable.followers words ↔
      ∃ literal, t.IsName name ∧ t.IsLiteral literal ∧
        words = [Lexeme.declare,name,Lexeme.assign,literal] := by
  cases h with
  | @declaration name' literal hn hl =>
    rw [SymbolTable.followers_cons_declare,SymbolTable.followers_cons_ne hn.ne_declare,
      SymbolTable.followers_cons_ne (by decide),SymbolTable.followers_cons_ne hl.ne_declare]
    simp only [SymbolTable.followers,List.mem_singleton,List.cons.injEq,and_true,true_and]
    constructor
    · rintro rfl
      exact ⟨literal,hn,hl,rfl,rfl⟩
    · rintro ⟨_,_,_,he,_⟩
      exact he.symm
  | assignment hn hd ha hc =>
    rw [SymbolTable.followers_eq_nil hd]
    constructor
    · simp
    · rintro ⟨literal,_,_,hw⟩
      rw [hw] at hd
      simp at hd
  | output hd ha hp hc =>
    rw [SymbolTable.followers_eq_nil hd]
    constructor
    · simp
    · rintro ⟨literal,_,_,hw⟩
      rw [hw] at hd
      simp at hd

theorem forall_logicalLines_iff {P : Bytes → Prop} (lexemes : Bytes) :
    (∀ l ∈ logicalLines lexemes, P l.text) ↔
      ∀ line ∈ Bytes.splitOn Lexeme.separator lexemes, P line := by
  rw [← LogicalLine.map_text_enumerate 1 0 (Bytes.splitOn Lexeme.separator lexemes)]
  simp [logicalLines]

theorem undeclaredFrom?_eq_none_iff (t : Table) (declared : SymbolTable) (l : LogicalLine)
    (start : Nat) (words : List Bytes) :
    undeclaredFrom? t declared l start words = none ↔
      ∀ word ∈ words, t.IsName word → declared.declares word = true := by
  induction words generalizing start with
  | nil => simp [undeclaredFrom?]
  | cons word rest ih =>
    have hn := classify_eq_name_iff t word
    by_cases h : t.classify word = .name ∧ !declared.declares word
    · have hd : declared.declares word = false := by simpa using h.2
      simp [undeclaredFrom?,h,hd,← hn]
    · have hd : t.IsName word → declared.declares word = true := by
        intro hw
        rw [← hn] at hw
        simpa [hw] using h
      rw [undeclaredFrom?,if_neg h,ih,List.forall_mem_cons]
      exact (and_iff_right hd).symm

theorem check_eq_none_iff (t : Table) (lexemes : Bytes) :
    check t lexemes = none ↔
      (∀ line ∈ Bytes.splitOn Lexeme.separator lexemes, ShapedWords t (lineWords line)) ∧
      ∀ line ∈ Bytes.splitOn Lexeme.separator lexemes, ∀ word ∈ lineWords line,
        t.IsName word → word ∈ (declaredNames lexemes).names := by
  have hs : (logicalLines lexemes).findSome? (shapeRejection? t) = none ↔
      ∀ line ∈ Bytes.splitOn Lexeme.separator lexemes, ShapedWords t (lineWords line) := by
    rw [← forall_logicalLines_iff]
    simp [shapeRejection?,shapeFault?_eq_none_iff,LogicalLine.words]
  have hu : ((logicalLines lexemes).findSome? fun l =>
        undeclaredFrom? t (declaredNames lexemes) l 0 l.words) = none ↔
      ∀ line ∈ Bytes.splitOn Lexeme.separator lexemes, ∀ word ∈ lineWords line,
        t.IsName word → word ∈ (declaredNames lexemes).names := by
    rw [← forall_logicalLines_iff]
    simp [undeclaredFrom?_eq_none_iff,LogicalLine.words]
  rw [← hs,← hu,check]
  cases (logicalLines lexemes).findSome? (shapeRejection? t) <;> simp

theorem mem_names_iff_of_shaped {t : Table} {lexemes : Bytes}
    (h : ∀ line ∈ Bytes.splitOn Lexeme.separator lexemes, ShapedWords t (lineWords line))
    (name : Bytes) : name ∈ (declaredNames lexemes).names ↔
      ∃ line ∈ Bytes.splitOn Lexeme.separator lexemes, ∃ literal, t.IsName name ∧
        t.IsLiteral literal ∧ lineWords line = [Lexeme.declare,name,Lexeme.assign,literal] := by
  rw [names_declaredNames (fun line hl => (h line hl).getLast?_ne),List.mem_eraseDups,
    List.mem_flatMap]
  constructor
  · rintro ⟨line,hl,hm⟩
    exact ⟨line,hl,((h line hl).mem_followers_iff name).mp hm⟩
  · rintro ⟨line,hl,hm⟩
    exact ⟨line,hl,((h line hl).mem_followers_iff name).mpr hm⟩

/-- A declaration line: exactly the four words, which is to say the text `# NAME = DIGITS`. -/
structure IsDeclaration (t : Table) (name literal line : Bytes) : Prop where
  words : lineWords line = [Lexeme.declare,name,Lexeme.assign,literal]
  text : line = "# " ++ name ++ " = " ++ literal
  isName : t.IsName name
  isLiteral : t.IsLiteral literal

/-- A line with a name first, an assign lexeme and no declare lexeme. -/
structure IsAssignment (t : Table) (words : List Bytes) : Prop where
  declare : Lexeme.declare ∉ words
  assign : Lexeme.assign ∈ words
  first : ∃ name, words[0]? = some name ∧ t.IsName name
  counts : t.operandCount words = t.operatorCount words + 1

/-- A line with an output lexeme first, and neither a declare nor an assign lexeme. -/
structure IsOutput (t : Table) (words : List Bytes) : Prop where
  declare : Lexeme.declare ∉ words
  assign : Lexeme.assign ∉ words
  first : words[0]? = some Lexeme.output
  operand : 0 < t.operandCount words
  counts : t.operandCount words = t.operatorCount words + 1

theorem isDeclaration_iff (t : Table) (name literal line : Bytes) :
    IsDeclaration t name literal line ↔ t.IsName name ∧ t.IsLiteral literal ∧
      lineWords line = [Lexeme.declare,name,Lexeme.assign,literal] := by
  constructor
  · intro h
    exact ⟨h.isName,h.isLiteral,h.words⟩
  · rintro ⟨hn,hl,hw⟩
    have ht := Bytes.joinWith_splitOn Ascii.space line
    rw [show Bytes.splitOn Ascii.space line = _ from hw] at ht
    refine ⟨hw,?_,hn,hl⟩
    rw [← ht]
    simp only [Bytes.joinWith,List.append_assoc]
    rfl

theorem shapedWords_iff (t : Table) (line : Bytes) :
    ShapedWords t (lineWords line) ↔ (∃ name literal, IsDeclaration t name literal line) ∨
      IsAssignment t (lineWords line) ∨ IsOutput t (lineWords line) := by
  simp only [isDeclaration_iff]
  generalize lineWords line = words
  constructor
  · intro h
    cases h with
    | @declaration name literal hn hl => exact .inl ⟨name,literal,hn,hl,rfl⟩
    | @assignment name rest hn hd ha hc => exact .inr (.inl ⟨hd,ha,⟨name,rfl,hn⟩,hc⟩)
    | @output rest hd ha hp hc => exact .inr (.inr ⟨hd,ha,rfl,hp,hc⟩)
  · rintro (⟨name,literal,hn,hl,rfl⟩ | h | h)
    · exact .declaration hn hl
    · obtain ⟨name,hf,hn⟩ := h.first
      obtain ⟨rest,rfl⟩ : ∃ rest, words = name :: rest := by
        cases words <;> simp_all
      exact .assignment hn h.declare h.assign h.counts
    · have hf := h.first
      obtain ⟨rest,rfl⟩ : ∃ rest, words = Lexeme.output :: rest := by
        cases words <;> simp_all
      exact .output h.declare h.assign h.operand h.counts

/-- The check accepts exactly its grammar, for every table and every text: each logical line is a
declaration, an assignment or an output statement, and each name is the second word of one of the
declarations, before or after its use. -/
theorem check_accepts_iff_grammar (t : Table) (lexemes : Bytes) :
    check t lexemes = none ↔
      (∀ line ∈ Bytes.splitOn Lexeme.separator lexemes,
        (∃ name literal, IsDeclaration t name literal line) ∨
          IsAssignment t (lineWords line) ∨ IsOutput t (lineWords line)) ∧
      ∀ line ∈ Bytes.splitOn Lexeme.separator lexemes, ∀ word ∈ lineWords line, t.IsName word →
        ∃ declaration ∈ Bytes.splitOn Lexeme.separator lexemes, ∃ literal,
          IsDeclaration t word literal declaration := by
  rw [check_eq_none_iff]
  simp only [← shapedWords_iff]
  refine and_congr_right fun hs => ?_
  simp only [mem_names_iff_of_shaped hs,isDeclaration_iff]

end DefOut
