import DefOut.Position

set_option autoImplicit false

/-!
Diagnostics: what is wrong, in a short and a long form, and where.
-/
namespace DefOut

structure Diagnostic where
  summary : Bytes
  detail : Bytes
  subject : Option Range
  deriving DecidableEq, Repr

namespace Diagnostic

def message (d : Diagnostic) : Bytes :=
  (match d.subject with
    | some r => r.render
    | none => "<nil>") ++ ": " ++ d.summary ++ "; " ++ d.detail

def messageAll : List Diagnostic → Bytes
  | [] => "no diagnostics"
  | [d] => d.message
  | d :: rest =>
    d.message ++ ", and " ++ Bytes.ofNat rest.length ++ " other diagnostic(s)"

end Diagnostic
end DefOut
