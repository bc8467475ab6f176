import DefOut.Proofs.Acceptance
import Mathlib.Data.List.Induction

set_option autoImplicit false

/-!
The declared names as a list and as a set. Reading one word more adds its name or changes nothing
(`ofWords_concat`), so at every moment the list has the words that come right after a declare
lexeme, each once and in the order of their first places (`records_ofWords`). In a program that is
accepted these are the second words of its declaration lines (`followers_lines`).
-/
namespace DefOut

def DeclaredAt (words : List Bytes) (place : Nat) (name : Bytes) : Prop :=
  words[place]? = some Lexeme.declare ∧ words[place+1]? = some name

/-- One name is declared before the other one is declared for the first time. -/
def DeclaredBefore (words : List Bytes) (a b : Bytes) : Prop :=
  ∃ place, DeclaredAt words place a ∧ ∀ other, DeclaredAt words other b → place < other

/-- The names that are declared in the words, each once, in the order of their first places. -/
structure Records (words names : List Bytes) : Prop where
  nodup : names.Nodup
  mem_iff : ∀ name, name ∈ names ↔ ∃ place, DeclaredAt words place name
  inOrder : names.Pairwise (DeclaredBefore words)

section reading
variable {words : List Bytes} {word name : Bytes}

theorem lt_of_declaredAt {place : Nat} (h : DeclaredAt words place name) :
    place+1 < words.length := by
  obtain ⟨hlt,_⟩ := List.getElem?_eq_some_iff.mp h.2
  exact hlt

theorem declaredAt_concat {place : Nat} : DeclaredAt (words ++ [word]) place name ↔
    DeclaredAt words place name ∨
      words.getLast? = some Lexeme.declare ∧ place+1 = words.length ∧ name = word := by
  obtain hlt | heq | hgt := Nat.lt_trichotomy (place+1) words.length
  · have hne : place+1 ≠ words.length := by omega
    simp [DeclaredAt,List.getElem?_append_left hlt,
      List.getElem?_append_left (by omega : place < words.length),hne]
  · have hlast : words.getLast? = words[place]? := by
      rw [List.getLast?_eq_getElem?,← heq,Nat.add_sub_cancel]
    simp [DeclaredAt,hlast,heq,List.getElem?_append_left (by omega : place < words.length),eq_comm]
  · have hne : place+1 ≠ words.length := by omega
    have hnot : ∀ others : List Bytes, others.length ≤ words.length+1 →
        ¬ DeclaredAt others place name := fun others hl h => by
      have hlt := lt_of_declaredAt h
      omega
    simp [hne,hnot words (by omega),hnot (words ++ [word]) (by simp)]

theorem exists_declaredAt_concat (hl : words.getLast? = some Lexeme.declare) :
    (∃ place, DeclaredAt (words ++ [word]) place name) ↔
      (∃ place, DeclaredAt words place name) ∨ name = word := by
  have hne : words ≠ [] := by
    rintro rfl
    simp at hl
  have hlen : words.length-1+1 = words.length := by
    have hpos := List.length_pos_iff.mpr hne
    omega
  simp only [declaredAt_concat,hl,true_and,exists_or]
  exact or_congr_right ⟨fun ⟨_,_,hn⟩ => hn,fun hn => ⟨_,hlen,hn⟩⟩

theorem DeclaredBefore.concat {a b : Bytes} (h : DeclaredBefore words a b) (word : Bytes) :
    DeclaredBefore (words ++ [word]) a b := by
  obtain ⟨place,ha,hb⟩ := h
  refine ⟨place,declaredAt_concat.mpr (.inl ha),fun other ho => ?_⟩
  obtain ho | ⟨_,hlen,_⟩ := declaredAt_concat.mp ho
  · exact hb other ho
  · have hlt := lt_of_declaredAt ha
    omega

theorem declaredBefore_last (ha : ∃ place, DeclaredAt words place name)
    (hw : ¬ ∃ place, DeclaredAt words place word) : DeclaredBefore (words ++ [word]) name word := by
  obtain ⟨place,ha⟩ := ha
  refine ⟨place,declaredAt_concat.mpr (.inl ha),fun other ho => ?_⟩
  obtain ho | ⟨_,hlen,_⟩ := declaredAt_concat.mp ho
  · exact absurd ⟨other,ho⟩ hw
  · have hlt := lt_of_declaredAt ha
    omega

namespace SymbolTable

theorem followers_concat_declare (h : words.getLast? = some Lexeme.declare) (word : Bytes) :
    followers (words ++ [word]) = followers words ++ [word] := by
  induction words with
  | nil => simp at h
  | cons first rest ih =>
    cases rest with
    | nil =>
      obtain rfl : first = Lexeme.declare := by simpa using h
      rfl
    | cons next rest =>
      have hr := ih (by simpa using h)
      simp only [List.cons_append] at hr ⊢
      by_cases hf : first = Lexeme.declare
      · rw [hf,followers_cons_declare,followers_cons_declare,hr]
        rfl
      · rw [followers_cons_ne hf,followers_cons_ne hf,hr]

theorem ofWords_concat (words : List Bytes) (word : Bytes) :
    ofWords (words ++ [word]) =
      if words.getLast? = some Lexeme.declare then (ofWords words).insert word
      else ofWords words := by
  by_cases h : words.getLast? = some Lexeme.declare
  · rw [if_pos h,ofWords,followers_concat_declare h,List.foldl_append]
    rfl
  · have hf : followers [word] = [] := rfl
    rw [if_neg h,ofWords,followers_append h,hf,List.append_nil]
    rfl

end SymbolTable

theorem Records.insert {t : SymbolTable} (ht : t.Agrees) (h : Records words t.names)
    (hl : words.getLast? = some Lexeme.declare) (word : Bytes) :
    Records (words ++ [word]) (t.insert word).names := by
  have hkept : t.names.Pairwise (DeclaredBefore (words ++ [word])) :=
    h.inOrder.imp fun hab => hab.concat word
  rw [ht.names_insert]
  split
  · next hm =>
    refine ⟨h.nodup,fun name => ?_,hkept⟩
    rw [exists_declaredAt_concat hl,← h.mem_iff]
    exact ⟨.inl,fun hn => hn.elim id fun he => he ▸ hm⟩
  · next hm =>
    refine ⟨?_,fun name => ?_,List.pairwise_append.mpr ⟨hkept,by simp,fun a ha b hb => ?_⟩⟩
    · have hd : ∀ a ∈ t.names, ∀ b ∈ [word], a ≠ b := by
        rintro a ha b hb rfl
        exact hm (List.mem_singleton.mp hb ▸ ha)
      exact List.nodup_append.mpr ⟨h.nodup,by simp,hd⟩
    · rw [exists_declaredAt_concat hl,← h.mem_iff,List.mem_append,List.mem_singleton]
    · obtain rfl := List.mem_singleton.mp hb
      rw [h.mem_iff] at ha hm
      exact declaredBefore_last ha hm

theorem Records.concat {names : List Bytes} (h : Records words names)
    (hl : words.getLast? ≠ some Lexeme.declare) (word : Bytes) :
    Records (words ++ [word]) names where
  nodup := h.nodup
  mem_iff name := by simp [h.mem_iff,declaredAt_concat,hl]
  inOrder := h.inOrder.imp fun hab => hab.concat word

theorem records_ofWords (words : List Bytes) :
    Records words (SymbolTable.ofWords words).names := by
  -- word by word from the first one: what is declared depends on the words before it only
  induction words using List.reverseRecOn with
  | nil =>
    have hn : (SymbolTable.ofWords []).names = [] := rfl
    exact ⟨by simp [hn],by simp [hn,DeclaredAt],by simp [hn]⟩
  | append_singleton words word ih =>
    rw [SymbolTable.ofWords_concat]
    split
    · next hl => exact ih.insert (SymbolTable.agrees_ofWords words) hl word
    · next hl => exact ih.concat hl word

end reading

/-! ### Programs that are accepted -/

def declarationLines (lexemes : Bytes) : List (List Bytes) :=
  ((Bytes.splitOn Lexeme.separator lexemes).map lineWords).filter (·.contains Lexeme.declare)

theorem ShapedWords.eq_of_declare_mem {t : Table} {words : List Bytes} (h : ShapedWords t words)
    (hd : Lexeme.declare ∈ words) : ∃ name literal, t.IsName name ∧ t.IsLiteral literal ∧
      words = [Lexeme.declare,name,Lexeme.assign,literal] := by
  cases h with
  | declaration hn hl => exact ⟨_,_,hn,hl,rfl⟩
  | assignment _ hnot => exact absurd hd hnot
  | output hnot => exact absurd hd hnot

theorem ShapedWords.followers_eq {t : Table} {words : List Bytes} (h : ShapedWords t words) :
    SymbolTable.followers words =
      if Lexeme.declare ∈ words then words[1]?.toList else [] := by
  split
  · next hd =>
    obtain ⟨name,literal,hn,hl,rfl⟩ := h.eq_of_declare_mem hd
    rw [SymbolTable.followers_cons_declare,SymbolTable.followers_cons_ne hn.ne_declare,
      SymbolTable.followers_cons_ne (by decide),SymbolTable.followers_cons_ne hl.ne_declare]
    rfl
  · next hd => exact SymbolTable.followers_eq_nil hd

theorem followers_lines {t : Table} {lines : List Bytes}
    (h : ∀ line ∈ lines, ShapedWords t (lineWords line)) :
    lines.flatMap (fun line => SymbolTable.followers (lineWords line)) =
      ((lines.map lineWords).filter (·.contains Lexeme.declare)).filterMap (·[1]?) := by
  induction lines with
  | nil => rfl
  | cons line rest ih =>
    have hr := ih fun other ho => h other (by simp [ho])
    have hf := (h line (by simp)).followers_eq
    rw [List.flatMap_cons,hr,hf,List.map_cons,List.filter_cons]
    by_cases hd : Lexeme.declare ∈ lineWords line
    · rw [if_pos hd,if_pos (by simpa using hd),List.filterMap_cons]
      cases (lineWords line)[1]? <;> rfl
    · rw [if_neg hd,if_neg (by simpa using hd)]
      rfl

/-- The symbol table of any text lists the words that come right after a declare lexeme in the words
of all its lines, each once and in the order of their first places, and it declares exactly the
names it lists. Of a program that is accepted it lists the second words of the declaration lines,
each once. -/
theorem declaredNames_views (lexemes : Bytes) :
    let words := (Bytes.splitOn Lexeme.separator lexemes).flatMap lineWords
    let table := declaredNames lexemes
    table.names.Nodup ∧
    (∀ name, name ∈ table.names ↔ ∃ place, DeclaredAt words place name) ∧
    table.names.Pairwise (DeclaredBefore words) ∧
    (∀ name, table.declares name = true ↔ name ∈ table.names) ∧
    table.size = table.names.length ∧
    ∀ t : Table, check t lexemes = none →
      table.names = ((declarationLines lexemes).filterMap (·[1]?)).eraseDups ∧
      ∀ line ∈ declarationLines lexemes, ∃ name literal, t.IsName name ∧ t.IsLiteral literal ∧
        line = [Lexeme.declare,name,Lexeme.assign,literal] := by
  intro words table
  have hw : words = programWords lexemes := (programWords_eq lexemes).symm
  have hr : Records words table.names := by
    rw [hw]
    exact records_ofWords _
  refine ⟨hr.nodup,hr.mem_iff,hr.inOrder,declares_declaredNames lexemes,rfl,fun t hc => ?_⟩
  have hs := ((check_eq_none_iff t lexemes).mp hc).1
  constructor
  · have hn := names_declaredNames fun line hl => (hs line hl).getLast?_ne
    rw [hn,followers_lines hs]
    rfl
  · intro line hl
    obtain ⟨hm,hd⟩ := List.mem_filter.mp hl
    obtain ⟨text,ht,rfl⟩ := List.mem_map.mp hm
    exact (hs text ht).eq_of_declare_mem (by simpa using hd)

/-- A name that is declared twice, and one that is used before it is declared. -/
theorem declaredNames_views_redeclared :
    check Table.standard "> x + y;# y = 2;x = y;# x = 3;# y = 4" = none ∧
    (declaredNames "> x + y;# y = 2;x = y;# x = 3;# y = 4").names =
      [("y" : Bytes),"x"] ∧
    (declaredNames "> x + y;# y = 2;x = y;# x = 3;# y = 4").names =
      [("y" : Bytes),"x","y"].eraseDups := by
  have hc : check Table.standard "> x + y;# y = 2;x = y;# x = 3;# y = 4" = none := by decide
  obtain ⟨_,_,_,_,_,haccepted⟩ := declaredNames_views "> x + y;# y = 2;x = y;# x = 3;# y = 4"
  exact ⟨hc,by decide,(haccepted Table.standard hc).1⟩

end DefOut
