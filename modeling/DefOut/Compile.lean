import DefOut.Check
import DefOut.Log
import DefOut.Target

set_option autoImplicit false

/-!
Compiling one program: lexing, checking as a gate, and generating code.
-/
namespace DefOut

structure Artifact where
  lexemes : Bytes
  declared : List Bytes
  code : Bytes
  deriving DecidableEq, Repr

def accept (t : Table) (source : Bytes) : Except Rejection Bytes :=
  let lexemes := lex t source
  match check t lexemes with
  | some r => .error r
  | none => .ok lexemes

def compile (t : Table) (source : Bytes) : Except Rejection Artifact :=
  (accept t source).map fun lexemes =>
    ⟨lexemes, (declaredNames lexemes).names, generate t lexemes⟩

namespace Logged

def accept (t : Table) (source : Bytes) : Logged (Except Rejection Bytes) := do
  log .debug "Source lexed." [⟨"lexemes", lex t source⟩]
  match DefOut.accept t source with
  | .error r =>
    log .debug "Program rejected." [⟨"error", r.message⟩]
    return .error r
  | .ok lexemes =>
    log .debug "Program validated."
    return .ok lexemes

def compile (t : Table) (source : Bytes) : Logged (Except Rejection Artifact) := do
  match ← accept t source with
  | .error r => return .error r
  | .ok _ =>
    match DefOut.compile t source with
    | .error r => return .error r
    | .ok artifact =>
      log .debug "Code generated." [⟨"bytes", artifact.code.length⟩]
      return .ok artifact

end Logged

def Rejection.messageFor (name : Bytes) (r : Rejection) : Bytes :=
  "program " ++ Text.quoted name ++ ": " ++ r.message

end DefOut
