import DefOut.Diagnostic
import DefOut.Text.Quoted

set_option autoImplicit false

/-!
Rejections: which rule a program breaks, on which line, and the text that breaks it.
-/
namespace DefOut

inductive RejectionKind where
  | unrecognizedLine
  | malformedDeclaration
  | malformedAssignment
  | malformedOutput
  | undeclaredVariable
  deriving DecidableEq, Repr

namespace RejectionKind

def label : RejectionKind → Bytes
  | unrecognizedLine => "unrecognized line"
  | malformedDeclaration => "malformed declaration"
  | malformedAssignment => "malformed assignment"
  | malformedOutput => "malformed output"
  | undeclaredVariable => "undeclared variable"

def summary : RejectionKind → Bytes
  | unrecognizedLine => "Unrecognized statement"
  | malformedDeclaration => "Malformed declaration"
  | malformedAssignment => "Malformed assignment"
  | malformedOutput => "Malformed output statement"
  | undeclaredVariable => "Undeclared variable"

def detail (text : Bytes) : RejectionKind → Bytes
  | unrecognizedLine =>
    "Each line must be a declaration, an assignment or an output statement."
  | malformedDeclaration => "A declaration must have the form \"def NAME = DIGITS\"."
  | malformedAssignment =>
    "An assignment must start with a variable and hold one more operand than operators."
  | malformedOutput =>
    "An output statement must start with out and hold one more operand than operators."
  | undeclaredVariable =>
    "Variable " ++ Text.quoted text ++ " is used but never declared with def."

end RejectionKind

/-- Why a program is rejected: the line (from one), the rule, the offending line or variable
name, and where in the lexeme text it stands. -/
structure Rejection where
  line : Int
  kind : RejectionKind
  text : Bytes
  first : Position
  last : Position
  deriving DecidableEq, Repr

namespace Rejection

/-- The message of a rejection. A rejection without a line number does not name one. -/
def message (r : Rejection) : Bytes :=
  "program rejected: "
    ++ (if r.line = 0 then ([] : Bytes) else "line " ++ Bytes.ofInt r.line ++ ": ")
    ++ r.kind.label ++ " " ++ Text.quoted r.text

def diagnostic (file : Bytes) (r : Rejection) : Diagnostic where
  summary := r.kind.summary
  detail := r.kind.detail r.text
  subject := some ⟨file, r.first, r.last⟩

end Rejection
end DefOut
