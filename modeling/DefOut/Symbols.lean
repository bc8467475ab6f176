import DefOut.Lexeme
import DefOut.Registry

set_option autoImplicit false

/-!
Declared names. A word is declared where it directly follows a declare lexeme in the words of
the whole program, also when that lexeme ends a line. A symbol table keeps its names twice, in a
registry that is asked whether a name is declared and in a list that has them in order. Main
statement: the two have the same names after any sequence of words (`SymbolTable.agrees_ofWords`).
-/
namespace DefOut

structure SymbolTable where
  known : Registry Unit
  names : List Bytes

namespace SymbolTable

def followers : List Bytes → List Bytes
  | word :: next :: rest =>
    if word = Lexeme.declare then next :: followers (next :: rest)
    else followers (next :: rest)
  | _ => []

def empty : SymbolTable := ⟨.empty, []⟩

/-- A name that is known already is in the list as well, so it is not added again. -/
def insert (t : SymbolTable) (name : Bytes) : SymbolTable :=
  if (t.known.get? name).isSome then t else ⟨t.known.set name (), t.names ++ [name]⟩

def ofWords (words : List Bytes) : SymbolTable :=
  (followers words).foldl insert empty

def declares (t : SymbolTable) (name : Bytes) : Bool :=
  (t.known.get? name).isSome

def size (t : SymbolTable) : Nat :=
  t.names.length

def Agrees (t : SymbolTable) : Prop :=
  ∀ name, t.declares name = true ↔ name ∈ t.names

theorem agrees_empty : empty.Agrees := by
  simp [Agrees, declares, empty]

theorem declares_insert (t : SymbolTable) (name other : Bytes) :
    (t.insert name).declares other = true ↔ t.declares other = true ∨ other = name := by
  unfold insert declares
  split
  · next hk => exact ⟨.inl, fun ho => ho.elim id (· ▸ hk)⟩
  · rw [Registry.get?_set]
    by_cases ho : name = other
    · simp [ho]
    · simp [ho, Ne.symm ho]

theorem Agrees.names_insert {t : SymbolTable} (h : t.Agrees) (name : Bytes) :
    (t.insert name).names = if name ∈ t.names then t.names else t.names ++ [name] := by
  have hk : (t.known.get? name).isSome ↔ name ∈ t.names := h name
  by_cases hm : name ∈ t.names <;> simp [insert, hk, hm]

theorem Agrees.insert {t : SymbolTable} (h : t.Agrees) (name : Bytes) : (t.insert name).Agrees := by
  intro other
  rw [declares_insert, h.names_insert, h other]
  split
  · next hm => exact ⟨fun ho => ho.elim id (· ▸ hm), .inl⟩
  · simp

theorem agrees_foldl {t : SymbolTable} (h : t.Agrees) (names : List Bytes) :
    (names.foldl SymbolTable.insert t).Agrees := by
  induction names generalizing t with
  | nil => exact h
  | cons name rest ih => exact ih (h.insert name)

theorem agrees_ofWords (words : List Bytes) : (ofWords words).Agrees :=
  agrees_foldl agrees_empty _

end SymbolTable

def declaredNames (lexemes : Bytes) : SymbolTable :=
  SymbolTable.ofWords (programWords lexemes)

@[simp] theorem declares_declaredNames (lexemes name : Bytes) :
    (declaredNames lexemes).declares name = true ↔ name ∈ (declaredNames lexemes).names :=
  SymbolTable.agrees_ofWords _ name

end DefOut
