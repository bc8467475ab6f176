import DefOut.Log
import DefOut.Settings
import DefOut.Table

set_option autoImplicit false

/-!
The command line. Arguments start with options, each `-name`, `-name=value` or `-name value`
with one or two hyphens, up to the first argument that is none or to `--`; then at most one
source path may follow.
-/
namespace DefOut

namespace Numeral

inductive Fault where
  | malformed
  | outOfRange
  deriving DecidableEq, Repr

def Fault.message : Fault → Bytes
  | malformed => "parse error"
  | outOfRange => "value out of range"

def digit? (c : UInt8) : Option Nat :=
  if Ascii.isDigit c then some (c.toNat - 0x30)
  else if Ascii.isLetter c then some ((Ascii.lower c).toNat - 0x57)
  else none

/-- The base of a numeral, from its first characters, and the characters after the base's
mark. A lone leading zero is itself the mark of base eight. -/
def splitBase : Bytes → Nat × Bytes
  | Ascii.zero :: mark :: d :: rest =>
    if Ascii.lower mark = 0x62 then (2, d :: rest)
    else if Ascii.lower mark = 0x6F then (8, d :: rest)
    else if Ascii.lower mark = 0x78 then (16, d :: rest)
    else (8, mark :: d :: rest)
  | Ascii.zero :: rest => (8, rest)
  | s => (10, s)

/-- The value of a run of digits, underscores passed over, after the value `n` of the digits
before it. The first fault from the left counts, and a value of 64 bits or more is one. -/
def magnitudeFrom (base : Nat) : Nat → Bytes → Except Fault Nat
  | n, [] => .ok n
  | n, c :: s =>
    if c = Ascii.underscore then magnitudeFrom base n s
    else
      match digit? c with
      | none => .error .malformed
      | some d =>
        if base ≤ d then .error .malformed
        else if 0x10000000000000000 ≤ n * base + d then .error .outOfRange
        else magnitudeFrom base (n * base + d) s

inductive Before where
  | start
  | digit
  | underscore
  | other
  deriving DecidableEq, Repr

def underscoresFit (hex : Bool) : Before → Bytes → Bool
  | before, [] => before ≠ .underscore
  | before, c :: s =>
    if Ascii.isDigit c || (hex && decide (0x61 ≤ Ascii.lower c ∧ Ascii.lower c ≤ 0x66)) then
      underscoresFit hex .digit s
    else if c = Ascii.underscore then
      before == .digit && underscoresFit hex .underscore s
    else before != .underscore && underscoresFit hex .other s

/-- The rule on underscores for a whole unsigned numeral; a base mark counts as a digit. -/
def underscoresAllowed : Bytes → Bool
  | Ascii.zero :: mark :: rest =>
    if [0x62, 0x6F, 0x78].contains (Ascii.lower mark) then
      underscoresFit (Ascii.lower mark = 0x78) .digit rest
    else underscoresFit false .start (Ascii.zero :: mark :: rest)
  | s => underscoresFit false .start s

def magnitude (s : Bytes) : Except Fault Nat :=
  if s.isEmpty then .error .malformed
  else
    let (base, digits) := splitBase s
    match magnitudeFrom base 0 digits with
    | .error e => .error e
    | .ok n =>
      if digits.contains Ascii.underscore && !underscoresAllowed s then .error .malformed
      else .ok n

def parse (s : Bytes) : Except Fault Int :=
  let (negative, unsigned) : Bool × Bytes :=
    match s with
    | Ascii.plus :: rest => (false, rest)
    | Ascii.minus :: rest => (true, rest)
    | rest => (false, rest)
  match magnitude unsigned with
  | .error e => .error e
  | .ok n =>
    if negative then (if 0x8000000000000000 < n then .error .outOfRange else .ok (-(n : Int)))
    else if 0x8000000000000000 ≤ n then .error .outOfRange
    else .ok n

end Numeral

def truthValue? (s : Bytes) : Option Bool :=
  if (["1", "t", "T", "TRUE", "true", "True"] : List Bytes).contains s then some true
  else if (["0", "f", "F", "FALSE", "false", "False"] : List Bytes).contains s then some false
  else none

/-- A text in small letters, as far as the words it is compared with can tell: the capital
letters of ASCII, and the two other characters whose small form is an ASCII letter. -/
def lowerCase (s : Bytes) : Bytes :=
  (Text.symbols s).flatMap fun x =>
    if x.code = some 0x130 then "i"
    else if x.code = some 0x212A then "k"
    else x.raw.map Ascii.lower

structure Options where
  project : Bytes := []
  p : Bytes := []
  output : Bytes := defaultOutputPath
  sample : Bool := false
  check : Bool := false
  stdout : Bool := false
  logFormat : Bytes := "text"
  logLevel : Bytes := "info"
  workers : Int := 4
  deriving DecidableEq, Repr

inductive OptionKind where
  | text (default : Bytes) (set : Bytes → Options → Options)
  | flag (set : Bool → Options → Options)
  | number (default : Int) (set : Int → Options → Options)

structure OptionSpec where
  name : Bytes
  usage : Bytes
  kind : OptionKind

def optionSpecs : List OptionSpec := [
  ⟨"check", "Validate programs without generating code.",
    .flag fun b o => { o with check := b }⟩,
  ⟨"log-format", "Log output format. Options: 'text' or 'json'.",
    .text "text" fun s o => { o with logFormat := s }⟩,
  ⟨"log-level", "Set the logging level. Options: 'debug', 'info', 'warn', 'error'.",
    .text "info" fun s o => { o with logLevel := s }⟩,
  ⟨"o", "Output path for single-program runs.",
    .text defaultOutputPath fun s o => { o with output := s }⟩,
  ⟨"p", "Path to a project .hcl file or directory (shorthand).",
    .text [] fun s o => { o with p := s }⟩,
  ⟨"project", "Path to a project .hcl file or a directory of .hcl files.",
    .text [] fun s o => { o with project := s }⟩,
  ⟨"sample", "Compile the built-in sample program.",
    .flag fun b o => { o with sample := b }⟩,
  ⟨"stdout", "Print generated code instead of writing files.",
    .flag fun b o => { o with stdout := b }⟩,
  ⟨"workers", "Number of programs compiled concurrently.",
    .number 4 fun n o => { o with workers := n }⟩]

def OptionSpec.help (spec : OptionSpec) : Bytes :=
  let (type, default) : Bytes × Bytes :=
    match spec.kind with
    | .text d _ => (" string", if d.isEmpty then [] else " (default " ++ Text.quoted d ++ ")")
    | .flag _ => ([], [])
    | .number d _ => (" int", if d = 0 then [] else " (default " ++ Bytes.ofInt d ++ ")")
  "  -" ++ spec.name ++ type ++ "\n    \t" ++ spec.usage ++ default ++ "\n"

def usage : Bytes :=
  "\nlexc - translates def/out programs into C++.\n" ++
  "\nUsage:\n" ++
  "  lexc [options] [SOURCE]\n" ++
  "  lexc [options] -project PATH\n" ++
  "  lexc [options] -sample\n" ++
  "\nArguments:\n" ++
  "  SOURCE\n" ++
  "    Path to a single program file.\n" ++
  "\nLanguage:\n" ++
  "  def NAME = DIGITS    declare a variable\n" ++
  "  NAME = EXPR          assign to a declared variable\n" ++
  "  out EXPR             print an expression\n" ++
  "  Operators: " ++ Bytes.joinWith " " Table.standard.operators ++ "\n" ++
  "\nOptions:\n" ++ optionSpecs.flatMap OptionSpec.help

inductive UsageError where
  | badSyntax (argument : Bytes)
  | undefined (name : Bytes)
  | badFlag (value name : Bytes)
  | missingValue (name : Bytes)
  | badNumber (value name : Bytes) (fault : Numeral.Fault)
  | severalSources
  | badLogFormat
  | badLogLevel
  | settings (cause : SettingsError)
  deriving DecidableEq, Repr

def UsageError.message : UsageError → Bytes
  | badSyntax argument => "bad flag syntax: " ++ argument
  | undefined name => "flag provided but not defined: -" ++ name
  | badFlag value name =>
    "invalid boolean value " ++ Text.quoted value ++ " for -" ++ name ++ ": parse error"
  | missingValue name => "flag needs an argument: -" ++ name
  | badNumber value name fault =>
    "invalid value " ++ Text.quoted value ++ " for flag -" ++ name ++ ": " ++ fault.message
  | severalSources => "only one SOURCE path may be given"
  | badLogFormat => "invalid log-format: must be 'text' or 'json'"
  | badLogLevel => "invalid log-level: must be 'debug', 'info', 'warn', or 'error'"
  | settings cause => cause.message

def UsageError.exitCode : Nat := 2

inductive OptionsResult where
  | help
  | refused (error : UsageError)
  | read (options : Options) (rest : List Bytes)

/-- An argument taken as an option: its name and the value after an equals sign. `none` when
the argument is no option. -/
def splitOption (argument : Bytes) : Option (Except UsageError (Bytes × Option Bytes)) :=
  match argument with
  | Ascii.minus :: c :: rest =>
    let body := if c = Ascii.minus then rest else c :: rest
    match body with
    | [] => some (.error (.badSyntax argument))
    | first :: tail =>
      if first = Ascii.minus ∨ first = Ascii.equals then some (.error (.badSyntax argument))
      else
        let name := first :: tail.takeWhile (· ≠ Ascii.equals)
        match tail.dropWhile (· ≠ Ascii.equals) with
        | [] => some (.ok (name, none))
        | _ :: value => some (.ok (name, some value))
  | _ => none

def readOptions (options : Options) : List Bytes → OptionsResult
  | [] => .read options []
  | argument :: rest =>
    if argument = "--" then .read options rest
    else
      match splitOption argument with
      | none => .read options (argument :: rest)
      | some (.error e) => .refused e
      | some (.ok (name, value)) =>
        match optionSpecs.find? fun spec => spec.name == name with
        | none => if name = "help" ∨ name = "h" then .help else .refused (.undefined name)
        | some ⟨_, _, .flag set⟩ =>
          match value with
          | none => readOptions (set true options) rest
          | some v =>
            match truthValue? v with
            | none => .refused (.badFlag v name)
            | some b => readOptions (set b options) rest
        | some ⟨_, _, .text _ set⟩ =>
          match value, rest with
          | some v, rest => readOptions (set v options) rest
          | none, v :: rest => readOptions (set v options) rest
          | none, [] => .refused (.missingValue name)
        | some ⟨_, _, .number _ set⟩ =>
          match value, rest with
          | some v, rest =>
            match Numeral.parse v with
            | .ok n => readOptions (set n options) rest
            | .error e => .refused (.badNumber v name e)
          | none, v :: rest =>
            match Numeral.parse v with
            | .ok n => readOptions (set n options) rest
            | .error e => .refused (.badNumber v name e)
          | none, [] => .refused (.missingValue name)

inductive Request where
  | leave
  | refuse (error : UsageError)
  | run (settings : Settings)
  deriving DecidableEq, Repr

/-- The project path of the options: the long spelling wins unless it is empty. -/
def Options.projectPath (o : Options) : Bytes :=
  if o.project.isEmpty then o.p else o.project

def isLogFormat (s : Bytes) : Bool :=
  (["text", "json"] : List Bytes).contains s

def isLogLevel (s : Bytes) : Bool :=
  (["debug", "info", "warn", "error"] : List Bytes).contains s

def Options.settings (o : Options) (source : Bytes) : Settings where
  projectPath := o.projectPath
  sourcePath := source
  useSample := o.sample
  outputPath := o.output
  checkOnly := o.check
  stdout := o.stdout
  logFormat := lowerCase o.logFormat
  logLevel := lowerCase o.logLevel
  workerCount := o.workers

/-- Read a command line: the request, what is printed meanwhile, and the records. -/
def parseArguments (arguments : List Bytes) : Logged (Request × Bytes) := do
  Logged.log .debug "CLI parser started."
  match readOptions {} arguments with
  | .help => return (.leave, usage)
  | .refused e => return (.refuse e, e.message ++ "\n" ++ usage)
  | .read options rest =>
    Logged.log .debug "Arguments parsed successfully."
    if 1 < rest.length then return (.refuse .severalSources, [])
    let source := rest.headD []
    let project := options.projectPath
    Logged.log .debug "Input determined."
      [⟨"project", project⟩, ⟨"source", source⟩, ⟨"sample", options.sample⟩]
    if project.isEmpty && source.isEmpty && !options.sample then
      Logged.log .debug "No input provided, printing usage and exiting."
      return (.leave, usage)
    let settings := options.settings source
    if !isLogFormat settings.logFormat then return (.refuse .badLogFormat, [])
    if !isLogLevel settings.logLevel then return (.refuse .badLogLevel, [])
    Logged.log .debug "CLI parameter validation complete."
    match settings.validate with
    | .error e => return (.refuse (.settings e), [])
    | .ok settings =>
      Logged.log .debug "CLI parser finished successfully." [⟨"config", settings.describe⟩]
      return (.run settings, [])

end DefOut
