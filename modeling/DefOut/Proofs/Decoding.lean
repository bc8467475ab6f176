import DefOut.Proofs.Generation

set_option autoImplicit false

/-!
Reading generated code back. The words of a line are written one by one, and all but the output
lexeme as one word of the code. The second word of an output lexeme is written for no other word,
so the words of a line can be read from its code (`readWords_flatMap_codeWords`), whatever its
names are, up to the declare lexeme, which is written as a name would be. A declaration read that
way has an operand too many for an assignment, and only output statements have no assign lexeme.
-/
namespace DefOut

def IsLexeme (word : Bytes) : Prop :=
  Table.standard.classify word ≠ .other

instance (word : Bytes) : Decidable (IsLexeme word) :=
  inferInstanceAs (Decidable (_ ≠ _))

namespace IsLexeme

variable {word : Bytes}

theorem cases (h : IsLexeme word) : word = Lexeme.declare ∨ word = Lexeme.output ∨
    word ∈ Table.standard.operators ∨ isVariableName word = true ∨ isNumber word = true := by
  cases hk : Table.standard.classify word with
  | other => exact absurd hk h
  | declare => exact .inl ((classify_eq_declare_iff _ word).mp hk)
  | assign =>
    obtain rfl := (classify_eq_assign_iff _ word).mp hk
    exact .inr (.inr (.inl (by decide)))
  | output => exact .inr (.inl ((classify_eq_output_iff _ word).mp hk))
  | operator =>
    have ho := isOperator_of_classify hk
    exact .inr (.inr (.inl (by simpa [Table.isOperator] using ho)))
  | name => exact .inr (.inr (.inr (.inl ((classify_eq_name_iff _ word).mp hk).isVariableName)))
  | number => exact .inr (.inr (.inr (.inr ((classify_eq_number_iff _ word).mp hk).isNumber)))

theorem not_mem (h : IsLexeme word) (hd : word ≠ Lexeme.declare) (ho : word ≠ Lexeme.output)
    (hp : word ≠ Lexeme.power) {c : UInt8} (hl : Ascii.isLetter c = false)
    (hn : Ascii.isDigit c = false) (hs : c ∉ Bytes.ofString "*+-/=") : c ∉ word := by
  obtain he | he | hop | hname | hnum := h.cases
  · exact absurd he hd
  · exact absurd he ho
  · have hsub : ∀ op ∈ Table.standard.operators, op ≠ Lexeme.power →
        op ⊆ Bytes.ofString "*+-/=" := by decide
    exact fun hm => hs (hsub word hop hp hm)
  · exact not_mem_of_isVariableName hname hl
  · exact not_mem_of_isNumber hnum hn

theorem target_eq_self (h : IsLexeme word) (hd : word ≠ Lexeme.declare)
    (ho : word ≠ Lexeme.output) (hp : word ≠ Lexeme.power) : word.flatMap targetOf = word := by
  apply flatMap_targetOf_self
  intro c hc
  have hk : Ascii.isLetter c = false ∧ Ascii.isDigit c = false ∧
      c ∉ Bytes.ofString "*+-/=" := by
    simp only [List.mem_cons,List.not_mem_nil,or_false] at hc
    obtain rfl | rfl | rfl | rfl | rfl := hc <;> decide
  exact h.not_mem hd ho hp hk.1 hk.2.1 hk.2.2

end IsLexeme

def codeWords (word : Bytes) : List Bytes :=
  lineWords (word.flatMap targetOf)

def streaming : Bytes := "<<"

def readWord (word : Bytes) : Bytes :=
  if word = Bytes.ofString "%" then Lexeme.power else word

def readWords : List Bytes → List Bytes
  | [] => []
  | word :: rest =>
    if word = streaming then readWords rest
    else if rest.head? = some streaming then Lexeme.output :: readWords rest
    else readWord word :: readWords rest

def readAs (word : Bytes) : Bytes :=
  if word = Lexeme.declare then "Number" else word

theorem codeWords_output : codeWords Lexeme.output = [Bytes.ofString "cout",streaming] := by
  decide

theorem codeWords_of_ne_output {word : Bytes} (h : IsLexeme word) (ho : word ≠ Lexeme.output) :
    ∃ written, codeWords word = [written] ∧ written ≠ streaming ∧
      readWord written = readAs word := by
  by_cases hd : word = Lexeme.declare
  · subst hd
    exact ⟨"Number",by decide⟩
  by_cases hp : word = Lexeme.power
  · subst hp
    exact ⟨"%",by decide⟩
  have hs : Ascii.space ∉ word := h.not_mem hd ho hp (by decide) (by decide) (by decide)
  have hne : ∀ v, ¬ IsLexeme v → word ≠ v := fun v hv he => hv (he ▸ h)
  refine ⟨word,?_,hne _ (by decide),?_⟩
  · rw [codeWords,h.target_eq_self hd ho hp]
    exact Bytes.splitOn_of_not_mem hs
  · rw [readWord,if_neg (hne _ (by decide)),readAs,if_neg hd]

section

variable {words : List Bytes}

theorem head?_flatMap_codeWords (h : ∀ word ∈ words, IsLexeme word) :
    (words.flatMap codeWords).head? ≠ some streaming := by
  cases words with
  | nil => simp
  | cons word rest =>
    rw [List.flatMap_cons]
    by_cases ho : word = Lexeme.output
    · subst ho
      rw [codeWords_output]
      exact fun he => absurd (Option.some.inj he) (by decide)
    · obtain ⟨written,hc,hne,_⟩ := codeWords_of_ne_output (h word (by simp)) ho
      rw [hc]
      exact fun he => hne (Option.some.inj he)

theorem readWords_flatMap_codeWords (h : ∀ word ∈ words, IsLexeme word) :
    readWords (words.flatMap codeWords) = words.map readAs := by
  induction words with
  | nil => rfl
  | cons word rest ih =>
    rw [List.forall_mem_cons] at h
    have hrest := ih h.2
    have hhead := head?_flatMap_codeWords h.2
    rw [List.flatMap_cons,List.map_cons]
    by_cases ho : word = Lexeme.output
    · subst ho
      have hcout : Bytes.ofString "cout" ≠ streaming := by decide
      rw [codeWords_output]
      simp only [List.cons_append,List.nil_append,readWords,if_neg hcout,List.head?_cons,if_true,
        hrest]
      rfl
    · obtain ⟨written,hc,hne,hr⟩ := codeWords_of_ne_output h.1 ho
      rw [hc,List.singleton_append,readWords,if_neg hne,if_neg hhead,hrest,hr]

theorem assign_mem_codeWords_iff {word : Bytes} (h : IsLexeme word) :
    Lexeme.assign ∈ codeWords word ↔ word = Lexeme.assign := by
  by_cases ho : word = Lexeme.output
  · subst ho
    decide
  · obtain ⟨written,hc,_,hr⟩ := codeWords_of_ne_output h ho
    rw [hc,List.mem_singleton]
    constructor
    · rintro rfl
      by_cases hd : word = Lexeme.declare
      · subst hd
        exact absurd hr (by decide)
      · rw [readAs,if_neg hd] at hr
        exact hr.symm
    · rintro rfl
      unfold readWord at hr
      split at hr
      · exact absurd hr (by decide)
      · exact hr.symm

theorem assign_mem_flatMap_codeWords_iff (h : ∀ word ∈ words, IsLexeme word) :
    Lexeme.assign ∈ words.flatMap codeWords ↔ Lexeme.assign ∈ words := by
  rw [List.mem_flatMap]
  constructor
  · rintro ⟨word,hw,hm⟩
    exact (assign_mem_codeWords_iff (h word hw)).mp hm ▸ hw
  · exact fun hm => ⟨_,hm,(assign_mem_codeWords_iff (h _ hm)).mpr rfl⟩

end

theorem lineWords_flatMap_targetOf (line : Bytes) :
    lineWords (line.flatMap targetOf) = (lineWords line).flatMap codeWords := by
  have hne := Bytes.splitOn_ne_nil Ascii.space line
  have hj := flatMap_targetOf_joinWith hne
  rw [Bytes.joinWith_splitOn] at hj
  rw [hj]
  refine (Bytes.splitOn_joinWith_flatMap (by simpa using hne)).trans ?_
  rw [List.flatMap_map]
  rfl

theorem lineWords_translateLine (line : Bytes) :
    lineWords (translateLine line) = (lineWords line).flatMap codeWords ++
      if line.head? = some Ascii.greater then [streaming,Bytes.ofString "endl"] else [] := by
  rw [← lineWords_flatMap_targetOf,translateLine]
  by_cases hg : line.head? = some Ascii.greater
  · rw [markOutputEnd_of_head? hg,if_pos hg,List.flatMap_append]
    exact Bytes.splitOn_append Ascii.space (line.flatMap targetOf) "<< endl"
  · rw [markOutputEnd_of_head?_ne hg,if_neg hg,List.append_nil]

theorem map_readAs_eq_self {words : List Bytes} (h : Lexeme.declare ∉ words) :
    words.map readAs = words := by
  refine (List.map_congr_left fun word hw => ?_).trans (List.map_id words)
  have hne : word ≠ Lexeme.declare := fun he => h (he ▸ hw)
  exact if_neg hne

theorem IsDeclaration.map_readAs {t : Table} {name literal line : Bytes}
    (h : IsDeclaration t name literal line) :
    (lineWords line).map readAs = [Bytes.ofString "Number",name,Lexeme.assign,literal] := by
  have hn : Lexeme.declare ∉ [name,Lexeme.assign,literal] := by
    simp only [List.mem_cons,List.not_mem_nil,or_false,not_or]
    exact ⟨h.isName.ne_declare.symm,by decide,h.isLiteral.ne_declare.symm⟩
  rw [h.words,List.map_cons,map_readAs_eq_self hn,readAs,if_pos rfl]

theorem IsDeclaration.not_isAssignment {name literal line : Bytes} {words : List Bytes}
    (h : IsDeclaration Table.standard name literal line)
    (hr : (lineWords line).map readAs = words) : ¬ IsAssignment Table.standard words := by
  intro ha
  have hnumber : Table.standard.isOperandWord "Number" = true ∧
      Table.standard.isOperator "Number" = false := by decide
  have hassign : Table.standard.isOperandWord Lexeme.assign = false ∧
      Table.standard.isOperator Lexeme.assign = true := by decide
  have hc := ha.counts
  rw [← hr,h.map_readAs,Table.operandCount_eq,Table.operatorCount_eq] at hc
  simp [hnumber,hassign,h.isName.isOperandWord,h.isName.isOperator,
    h.isLiteral.isOperandWord,h.isLiteral.isOperator] at hc

theorem head?_iff_assign_not_mem {t : Table} {line : Bytes}
    (h : ShapedWords t (lineWords line)) :
    line.head? = some Ascii.greater ↔ Lexeme.assign ∉ lineWords line := by
  constructor
  · exact fun hg => ((head?_iff_isOutput h).mp hg).assign
  · intro hn
    by_contra hg
    obtain ⟨name,literal,hd⟩ | ha := (head?_ne_iff h).mp hg
    · exact hn (by simp [hd.words])
    · exact hn ha.assign

/-- The shape of lines with an assign lexeme tells apart those that are read alike. -/
theorem lineWords_eq_of_map_readAs {a b : Bytes}
    (ha : (∃ name literal, IsDeclaration Table.standard name literal a) ∨
      IsAssignment Table.standard (lineWords a))
    (hb : (∃ name literal, IsDeclaration Table.standard name literal b) ∨
      IsAssignment Table.standard (lineWords b))
    (h : (lineWords a).map readAs = (lineWords b).map readAs) : lineWords a = lineWords b := by
  obtain ⟨name,literal,hda⟩ | haa := ha
  · obtain ⟨name',literal',hdb⟩ | hab := hb
    · rw [hda.map_readAs,hdb.map_readAs] at h
      rw [hda.words,hdb.words,(List.cons.inj h).2]
    · rw [map_readAs_eq_self hab.declare] at h
      exact absurd hab (hda.not_isAssignment h)
  · rw [map_readAs_eq_self haa.declare] at h
    obtain ⟨name',literal',hdb⟩ | hab := hb
    · exact absurd haa (hdb.not_isAssignment h.symm)
    · rwa [map_readAs_eq_self hab.declare] at h

structure IsStatement (line : Bytes) : Prop where
  shaped : ShapedWords Table.standard (lineWords line)
  lexemes : ∀ word ∈ lineWords line, IsLexeme word

namespace IsStatement

variable {line a b : Bytes}

theorem assign_mem_translateLine_iff (h : IsStatement line) :
    Lexeme.assign ∈ lineWords (translateLine line) ↔ Lexeme.assign ∈ lineWords line := by
  have hend : ∀ c : Option UInt8, Lexeme.assign ∉
      if c = some Ascii.greater then [streaming,Bytes.ofString "endl"] else [] := by
    intro c
    split <;> decide
  rw [lineWords_translateLine,List.mem_append,assign_mem_flatMap_codeWords_iff h.lexemes]
  simp only [hend,or_false]

theorem readWords_translateLine (h : IsStatement line) (hg : line.head? ≠ some Ascii.greater) :
    readWords (lineWords (translateLine line)) = (lineWords line).map readAs := by
  rw [lineWords_translateLine,if_neg hg,List.append_nil,readWords_flatMap_codeWords h.lexemes]

theorem eq_of_translateLine_eq (ha : IsStatement a) (hb : IsStatement b)
    (h : translateLine a = translateLine b) : a = b := by
  suffices hw : lineWords a = lineWords b by
    have hj := congrArg (Bytes.joinWith [Ascii.space]) hw
    simpa only [lineWords,Bytes.joinWith_splitOn] using hj
  have hcode := congrArg lineWords h
  have hhead : a.head? = some Ascii.greater ↔ b.head? = some Ascii.greater := by
    rw [head?_iff_assign_not_mem ha.shaped,head?_iff_assign_not_mem hb.shaped,
      ← ha.assign_mem_translateLine_iff,← hb.assign_mem_translateLine_iff,h]
  by_cases hg : a.head? = some Ascii.greater
  · -- both end with the marker, which reads as part of the last word
    have hg' := hhead.mp hg
    rw [lineWords_translateLine,lineWords_translateLine,if_pos hg,if_pos hg'] at hcode
    have hread := congrArg readWords (List.append_cancel_right hcode)
    rw [readWords_flatMap_codeWords ha.lexemes,readWords_flatMap_codeWords hb.lexemes,
      map_readAs_eq_self ((head?_iff_isOutput ha.shaped).mp hg).declare,
      map_readAs_eq_self ((head?_iff_isOutput hb.shaped).mp hg').declare] at hread
    exact hread
  · have hg' := mt hhead.mpr hg
    have hread := congrArg readWords hcode
    rw [ha.readWords_translateLine hg,hb.readWords_translateLine hg'] at hread
    exact lineWords_eq_of_map_readAs ((head?_ne_iff ha.shaped).mp hg)
      ((head?_ne_iff hb.shaped).mp hg') hread

theorem eq_of_map_translateLine {as bs : List Bytes} (ha : ∀ line ∈ as, IsStatement line)
    (hb : ∀ line ∈ bs, IsStatement line) (h : as.map translateLine = bs.map translateLine) :
    as = bs := by
  induction as generalizing bs with
  | nil => exact (List.map_eq_nil_iff.mp h.symm).symm
  | cons a as ih =>
    obtain ⟨b,bs,rfl,hhead,htail⟩ := List.map_eq_cons_iff.mp h.symm
    rw [List.forall_mem_cons] at ha hb
    rw [ha.1.eq_of_translateLine_eq hb.1 hhead.symm,ih ha.2 hb.2 htail.symm]

theorem of_mem_splitOn {lexemes : Bytes} (h : check Table.standard lexemes = none)
    (ht : ∀ word ∈ programWords lexemes, IsLexeme word)
    (hl : line ∈ Bytes.splitOn Lexeme.separator lexemes) : IsStatement line where
  shaped := ((check_eq_none_iff Table.standard lexemes).mp h).1 line hl
  lexemes word hw := by
    rw [programWords_eq] at ht
    exact ht word (List.mem_flatMap.mpr ⟨line,hl,hw⟩)

end IsStatement

theorem separator_not_mem_translateLine {line : Bytes} (h : Lexeme.separator ∉ line) :
    Lexeme.separator ∉ translateLine line := by
  have hbyte : ∀ c ∈ line, Lexeme.separator ∉ writtenByte c := by
    intro c hc
    unfold writtenByte
    repeat' split
    case isFalse => exact fun hm => h (List.mem_singleton.mp hm ▸ hc)
    all_goals decide
  rw [translateLine_eq_writtenLine h,writtenLine,List.mem_append,List.mem_flatMap]
  rintro (⟨c,hc,hm⟩ | hm)
  · exact hbyte c hc hm
  · revert hm
    split <;> decide

theorem map_translateLine_eq {a b : Bytes}
    (h : translate Table.standard a = translate Table.standard b) :
    (Bytes.splitOn Lexeme.separator a).map translateLine =
      (Bytes.splitOn Lexeme.separator b).map translateLine := by
  have hne : ∀ lexemes, (Bytes.splitOn Lexeme.separator lexemes).map translateLine ≠ [] := by
    simp [Bytes.splitOn_ne_nil]
  have hjoin : ∀ lexemes, translate Table.standard lexemes = Bytes.joinWith ";\n\t"
      ((Bytes.splitOn Lexeme.separator lexemes).map translateLine) := by
    intro lexemes
    have ht := translate_joinWith (Bytes.splitOn_ne_nil Lexeme.separator lexemes)
      fun line hl => Bytes.not_mem_of_mem_splitOn hl
    rwa [Bytes.joinWith_splitOn] at ht
  have hsep : ∀ lexemes, ∀ line ∈ (Bytes.splitOn Lexeme.separator lexemes).map translateLine,
      Lexeme.separator ∉ line := by
    intro lexemes
    exact List.forall_mem_map.mpr fun line hl =>
      separator_not_mem_translateLine (Bytes.not_mem_of_mem_splitOn hl)
  rw [hjoin,hjoin] at h
  exact Bytes.joinWith_injective (by decide) (hne a) (hne b) (hsep a) (hsep b) h

/-- Programs of the language are not merged: the same code is generated for two of them where they
are the same, also when their names are words of the code. -/
theorem generate_eq_iff {a b : Bytes} (ha : check Table.standard a = none)
    (hb : check Table.standard b = none)
    (hta : ∀ word ∈ programWords a, Table.standard.classify word ≠ .other)
    (htb : ∀ word ∈ programWords b, Table.standard.classify word ≠ .other) :
    generate Table.standard a = generate Table.standard b ↔ a = b := by
  refine ⟨fun h => ?_,fun h => h ▸ rfl⟩
  have htranslate : translate Table.standard a = translate Table.standard b :=
    List.append_cancel_left (List.append_cancel_right (List.append_cancel_right h))
  have hlines := IsStatement.eq_of_map_translateLine
    (fun line hl => IsStatement.of_mem_splitOn ha hta hl)
    (fun line hl => IsStatement.of_mem_splitOn hb htb hl) (map_translateLine_eq htranslate)
  rw [← Bytes.joinWith_splitOn Lexeme.separator a,hlines,Bytes.joinWith_splitOn]

theorem generate_eq_iff_named_like_code :
    let a : Bytes := "# Number = 1;# cout = 2;# endl = 3;Number = 2;> cout + > endl"
    let b : Bytes := "# Number = 1;# cout = 2;# endl = 3;Number = 2;> cout + cout"
    check Table.standard a = none ∧ check Table.standard b = none ∧
      generate Table.standard a ≠ generate Table.standard b := by
  intro a b
  have ha : check Table.standard a = none := by decide
  have hb : check Table.standard b = none := by decide
  refine ⟨ha,hb,fun h => ?_⟩
  exact absurd ((generate_eq_iff ha hb (by decide) (by decide)).mp h) (by decide)

end DefOut
