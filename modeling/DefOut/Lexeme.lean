import DefOut.Table

set_option autoImplicit false

/-!
Lexeme texts. Lexing writes every keyword as its lexeme by plain substitution, one keyword
after the other in table order; there are no word boundaries, so a keyword inside a name is
replaced as well. Unlexing undoes the substitutions in the opposite order.
-/
namespace DefOut

def lex (t : Table) (source : Bytes) : Bytes :=
  t.keywords.foldl (fun text m => Bytes.replaceAll m.source m.target text) source

def unlex (t : Table) (lexemes : Bytes) : Bytes :=
  t.keywords.foldr (fun m text => Bytes.replaceAll m.target m.source text) lexemes

structure LogicalLine where
  number : Nat
  offset : Nat
  text : Bytes
  deriving DecidableEq, Repr

namespace LogicalLine

def words (l : LogicalLine) : List Bytes :=
  Bytes.splitOn Ascii.space l.text

def enumerate (number offset : Nat) : List Bytes → List LogicalLine
  | [] => []
  | text :: rest =>
    ⟨number, offset, text⟩ :: enumerate (number + 1) (offset + text.length + 1) rest

theorem map_text_enumerate (number offset : Nat) (pieces : List Bytes) :
    (enumerate number offset pieces).map text = pieces := by
  induction pieces generalizing number offset with
  | nil => rfl
  | cons piece rest ih => simp [enumerate, ih]

theorem map_number_enumerate (number offset : Nat) (pieces : List Bytes) :
    (enumerate number offset pieces).map LogicalLine.number =
      List.range' number pieces.length := by
  induction pieces generalizing number offset with
  | nil => rfl
  | cons piece rest ih => simp [enumerate, ih, List.range'_succ]

end LogicalLine

def logicalLines (lexemes : Bytes) : List LogicalLine :=
  LogicalLine.enumerate 1 0 (Bytes.splitOn Lexeme.separator lexemes)

def programWords (lexemes : Bytes) : List Bytes :=
  Bytes.splitOn Ascii.space
    (lexemes.map fun c => if c = Lexeme.separator then Ascii.space else c)

end DefOut
