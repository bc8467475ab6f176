import DefOut.Text.Quoted

set_option autoImplicit false

/-!
Log records as data. A stage of the work returns its result together with the records it made
(`Logged`); what is shown of them, and in which spelling, is decided once at the end
(`LogFormat.line`, `Logged.lines`).
-/
namespace DefOut

inductive Level where
  | debug
  | info
  | warn
  | error
  deriving DecidableEq, Repr

namespace Level

def rank : Level → Nat
  | debug => 0
  | info => 1
  | warn => 2
  | error => 3

def label : Level → Bytes
  | debug => "DEBUG"
  | info => "INFO"
  | warn => "WARN"
  | error => "ERROR"

end Level

inductive LogValue where
  | text (s : Bytes)
  | number (n : Int)
  | flag (b : Bool)
  deriving DecidableEq, Repr

structure Attribute where
  key : Bytes
  value : LogValue
  deriving DecidableEq, Repr

instance : Coe Bytes LogValue := ⟨.text⟩
instance : Coe String LogValue := ⟨fun s => .text s⟩
instance : Coe Int LogValue := ⟨.number⟩
instance : Coe Nat LogValue := ⟨fun n => .number n⟩
instance : Coe Bool LogValue := ⟨.flag⟩

structure Record where
  level : Level
  message : Bytes
  attributes : List Attribute := []
  deriving DecidableEq, Repr

/-- A result with the records made on the way, oldest first. -/
structure Logged (α : Type) where
  value : α
  records : List Record

namespace Logged

instance : Monad Logged where
  pure a := ⟨a, []⟩
  bind m f := ⟨(f m.value).value, m.records ++ (f m.value).records⟩

theorem value_bind {α β : Type} (m : Logged α) (f : α → Logged β) :
    (m >>= f).value = (f m.value).value := rfl

def log (level : Level) (message : Bytes) (attributes : List Attribute := []) : Logged Unit :=
  ⟨(), [⟨level, message, attributes⟩]⟩

def within {α : Type} (attributes : List Attribute) (m : Logged α) : Logged α :=
  ⟨m.value, m.records.map fun r => { r with attributes := attributes ++ r.attributes }⟩

end Logged

inductive LogFormat where
  | text
  | json
  deriving DecidableEq, Repr

/-- Whether a value has to be quoted in a text line: when it is empty, or when it holds a
space, a quote, an equals sign, something unprintable or a stray byte. -/
def needsQuotes (s : Bytes) : Bool :=
  s.isEmpty || (Text.symbols s).any fun x =>
    match x.code with
    | none => true
    | some c =>
      if c < 0x80 then decide (c ≤ 0x20 ∨ c = 0x22 ∨ c = 0x3D)
      else c == 0xFFFD || !Text.isPrintable c

def plainOrQuoted (s : Bytes) : Bytes :=
  if needsQuotes s then Text.quoted s else s

def LogValue.inText : LogValue → Bytes
  | .text s => plainOrQuoted s
  | .number n => Bytes.ofInt n
  | .flag b => Bytes.ofBool b

def LogValue.inJson : LogValue → Bytes
  | .text s => Text.jsonQuoted s
  | .number n => Bytes.ofInt n
  | .flag b => Bytes.ofBool b

def Record.fields (r : Record) : List Attribute :=
  ⟨"level", .text r.level.label⟩ :: ⟨"msg", .text r.message⟩ :: r.attributes

def LogFormat.line : LogFormat → Record → Bytes
  | .text, r =>
    Bytes.joinWith " " (r.fields.map fun a => plainOrQuoted a.key ++ "=" ++ a.value.inText)
  | .json, r =>
    "\x7b" ++ Bytes.joinWith ","
      (r.fields.map fun a => Text.jsonQuoted a.key ++ ":" ++ a.value.inJson) ++ "\x7d"

structure LogView where
  level : Level
  format : LogFormat
  deriving DecidableEq, Repr

def LogView.everything : LogView := ⟨.debug, .text⟩

def LogView.lines (v : LogView) (records : List Record) : List Bytes :=
  (records.filter fun r => decide (v.level.rank ≤ r.level.rank)).map v.format.line

end DefOut
