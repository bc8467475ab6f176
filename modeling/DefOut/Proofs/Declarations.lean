import DefOut.Symbols
import DefOut.Proofs.Entries
import DefOut.Proofs.Splitting

set_option autoImplicit false

/-!
Declared names. The symbol table of a program holds the followers of its declare lexemes, each
once and in the order they are first met; the followers are looked for in the words of all logical
lines as one list, where a declare lexeme at a line's end reaches into the next line.
-/
namespace DefOut

abbrev lineWords (line : Bytes) : List Bytes := Bytes.splitOn Ascii.space line

theorem programWords_eq (lexemes : Bytes) :
    programWords lexemes = (Bytes.splitOn Lexeme.separator lexemes).flatMap lineWords :=
  Bytes.splitOn_map_eq_flatMap Lexeme.separator Ascii.space lexemes

namespace SymbolTable

theorem followers_cons_ne {word : Bytes} (h : word ≠ Lexeme.declare) (words : List Bytes) :
    followers (word :: words) = followers words := by
  cases words with
  | nil => simp [followers]
  | cons next rest => simp [followers,h]

theorem followers_cons_declare (name : Bytes) (words : List Bytes) :
    followers (Lexeme.declare :: name :: words) = name :: followers (name :: words) := by
  simp [followers]

theorem followers_eq_nil {words : List Bytes} (h : Lexeme.declare ∉ words) :
    followers words = [] := by
  induction words with
  | nil => rfl
  | cons word words ih =>
    simp only [List.mem_cons,not_or] at h
    rw [followers_cons_ne (Ne.symm h.1),ih h.2]

theorem followers_append {words : List Bytes} (h : words.getLast? ≠ some Lexeme.declare)
    (rest : List Bytes) : followers (words ++ rest) = followers words ++ followers rest := by
  induction words with
  | nil => rfl
  | cons word words ih =>
    cases words with
    | nil =>
      have hw : word ≠ Lexeme.declare := by simpa using h
      simp only [List.cons_append,List.nil_append]
      rw [followers_cons_ne hw,followers_cons_ne hw]
      rfl
    | cons next words =>
      have ht := ih (by simpa using h)
      rw [List.cons_append,List.cons_append] at *
      by_cases hw : word = Lexeme.declare
      · subst word
        rw [followers_cons_declare,followers_cons_declare,ht]
        rfl
      · rw [followers_cons_ne hw,followers_cons_ne hw,ht]

theorem followers_flatMap {lines : List Bytes}
    (h : ∀ line ∈ lines, (lineWords line).getLast? ≠ some Lexeme.declare) :
    followers (lines.flatMap lineWords) = lines.flatMap fun line => followers (lineWords line) := by
  induction lines with
  | nil => rfl
  | cons line lines ih =>
    rw [List.flatMap_cons,List.flatMap_cons,followers_append (h line (by simp)),
      ih (fun l hl => h l (by simp [hl]))]

theorem names_foldl {t : SymbolTable} (h : t.Agrees) {names : List Bytes}
    (hn : t.names = names.eraseDups) (more : List Bytes) :
    (more.foldl insert t).names = (names ++ more).eraseDups := by
  induction more generalizing t names with
  | nil => simpa using hn
  | cons name more ih =>
    have hi : (t.insert name).names = (names ++ [name]).eraseDups := by
      rw [eraseDups_concat,h.names_insert,hn]
      simp
    rw [List.foldl_cons,ih (h.insert name) hi,List.append_assoc]
    rfl

theorem names_ofWords (words : List Bytes) : (ofWords words).names = (followers words).eraseDups :=
  names_foldl agrees_empty List.eraseDups_nil.symm (followers words)

end SymbolTable

theorem names_declaredNames {lexemes : Bytes}
    (h : ∀ line ∈ Bytes.splitOn Lexeme.separator lexemes,
      (lineWords line).getLast? ≠ some Lexeme.declare) :
    (declaredNames lexemes).names =
      ((Bytes.splitOn Lexeme.separator lexemes).flatMap fun line =>
        SymbolTable.followers (lineWords line)).eraseDups := by
  rw [declaredNames,SymbolTable.names_ofWords,programWords_eq,SymbolTable.followers_flatMap h]

end DefOut
