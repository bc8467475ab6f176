import DefOut.Files
import DefOut.Text.Quoted

set_option autoImplicit false

/-!
Programs of a project, and where their source text comes from.
-/
namespace DefOut

/-- A source program and the destination of its code. The source text is read from
`sourceFile` when that is not empty, else it is `source`. `definedIn` is the project file that
declares the program, if any. -/
structure Program where
  name : Bytes
  source : Bytes := []
  sourceFile : Bytes := []
  output : Bytes := []
  definedIn : Bytes := []
  deriving DecidableEq, Repr

structure SourceError where
  program : Bytes
  cause : FileError
  deriving DecidableEq, Repr

def SourceError.message (e : SourceError) : Bytes :=
  "failed to read source of program " ++ Text.quoted e.program ++ ": " ++ e.cause.message

def Program.readSource (fs : Files) (p : Program) : Except SourceError Bytes :=
  if p.sourceFile.isEmpty then .ok p.source
  else
    match fs.read p.sourceFile with
    | .ok text => .ok text
    | .error e => .error ⟨p.name, e⟩

/-- The source text without the line ends at its end, so that a final newline is not an empty
last line. -/
def trimLineEnds (source : Bytes) : Bytes :=
  source.trimRight fun c => c = Ascii.newline ∨ c = Ascii.carriageReturn

/-- `kept` is what is left of a text when the line ends at its end are cut off. -/
structure Trimmed (text kept : Bytes) : Prop where
  cut : ∃ ends, text = kept ++ ends ∧ ∀ c ∈ ends, c = Ascii.carriageReturn ∨ c = Ascii.newline
  last : ∀ c, kept.getLast? = some c → c ≠ Ascii.carriageReturn ∧ c ≠ Ascii.newline

theorem trimmed_trimLineEnds (text : Bytes) : Trimmed text (trimLineEnds text) where
  cut := by
    obtain ⟨ends, hs, he⟩ := Bytes.exists_trimRight_append _ text
    exact ⟨ends, hs, fun c hc => (of_decide_eq_true (he c hc)).symm⟩
  last c hc := by
    have hn := of_decide_eq_false (Bytes.getLast?_trimRight hc)
    exact ⟨fun h => hn (.inr h), fun h => hn (.inl h)⟩

theorem trimmed_iff {text kept : Bytes} : Trimmed text kept ↔ kept = trimLineEnds text := by
  constructor
  · rintro ⟨⟨ends, rfl, he⟩, hl⟩
    refine (Bytes.trimRight_append (fun c hc => ?_) fun c hc => ?_).symm
    · exact decide_eq_true (he c hc).symm
    · exact decide_eq_false fun h => h.elim (hl c hc).2 (hl c hc).1
  · rintro rfl
    exact trimmed_trimLineEnds text

structure Model where
  programs : List Program
  deriving DecidableEq, Repr

def Model.program? (m : Model) (name : Bytes) : Option Program :=
  m.programs.find? fun p => p.name == name

end DefOut
