import DefOut.Project.Operation
import DefOut.Project.Selection
import DefOut.Project.Suggestion
import DefOut.Text.Grapheme

set_option autoImplicit false

/-!
The value of an expression in a scope. Evaluation always has a result: what fails has a value
that is not known, and the faults are listed in the order in which they are found. Of a
conditional both branches are evaluated, but only the faults of the chosen one count.
-/
namespace DefOut.Project

/-- The names that can be referred to, innermost loop first, and the current item of a splat.
Without any frame no names are allowed at all. -/
structure Scope where
  frames : List (List (Bytes × Value)) := []
  item : Option Value := none

structure Outcome where
  value : Value
  faults : List Diagnostic := []

namespace Outcome

def ofExcept : Except Diagnostic Value → Outcome
  | .ok v => ⟨v, []⟩
  | .error d => ⟨.nothing, [d]⟩

def after (faults : List Diagnostic) (o : Outcome) : Outcome :=
  ⟨o.value, faults ++ o.faults⟩

end Outcome

namespace Scope

def bind (s : Scope) (names : LoopNames) (key value : Value) : Scope :=
  let frame := (names.key.toList.map fun n => (n, key)) ++ [(names.value, value)]
  { s with frames := frame :: s.frames }

/-- The value of a name. When a loop binds one name twice, the value hides the key. -/
def find? (s : Scope) (name : Bytes) : Option Value :=
  s.frames.findSome? fun frame => Value.entryOf name frame.reverse

def resolve (s : Scope) (name : Bytes) (place : Range) (steps : List Step) : Outcome :=
  match s.find? name with
  | some v => .ofExcept (v.follow steps)
  | none =>
    if s.frames.isEmpty then
      ⟨.nothing, [⟨"Variables not allowed", "Variables may not be used here.", some place⟩]⟩
    else
      let known := s.frames.flatMap fun frame => frame.map Prod.fst
      ⟨.nothing, [⟨"Unknown variable",
        "There is no variable named " ++ Text.quoted name ++ "." ++ didYouMean name known,
        some place⟩]⟩

end Scope

def operandValue (v : Value) (kind : Kind) (which : Bytes) (place : Range) : Outcome :=
  match v.convert kind with
  | .ok w => ⟨w, []⟩
  | .error e =>
    ⟨.ofKind kind, [⟨"Invalid operand",
      "Unsuitable value for " ++ which ++ " operand: " ++ e ++ ".", some place⟩]⟩

def operationResult (result : Except Bytes Value) (kind : Kind) (place : Range) : Outcome :=
  match result with
  | .ok v => ⟨v, []⟩
  | .error e =>
    ⟨.ofKind kind, [⟨"Operation failed", "Error during operation: " ++ e ++ ".", some place⟩]⟩

def unaryOutcome (operator : UnaryOperator) (o : Outcome) (operandRange range : Range) :
    Outcome :=
  let kind := operator.operandKind
  let v := operandValue o.value kind "unary" operandRange
  let faults := o.faults ++ v.faults
  if faults.isEmpty then operationResult (operator.apply v.value) kind range
  else ⟨.ofKind kind, faults⟩

def binaryOutcome (operator : BinaryOperator) (l r : Outcome)
    (leftRange rightRange range : Range) : Outcome :=
  let v := operandValue l.value operator.operandKind "left" leftRange
  let w := operandValue r.value operator.operandKind "right" rightRange
  let faults := l.faults ++ r.faults ++ v.faults ++ w.faults
  if faults.isEmpty then
    operationResult (operator.apply v.value w.value) operator.resultKind range
  else ⟨.ofKind operator.resultKind, faults⟩

/-! ### Conditionals -/

mutual

def describeMismatch : Kind → Kind → Bytes
  | .object as, .object bs =>
    match attributeMismatch as bs with
    | some words => words
    | none =>
      match bs.find? fun e => (Value.entryOf e.1 as).isNone with
      | some (name, _) =>
        "The 'false' value includes object attribute " ++ Text.quoted name
          ++ ", which is absent in the 'true' value"
      | none => sameNameMismatch
  | .tuple as, .tuple bs =>
    if as.length ≠ bs.length then
      "The 'true' tuple has length " ++ Bytes.ofNat as.length
        ++ ", but the 'false' tuple has length " ++ Bytes.ofNat bs.length
    else (elementMismatch 0 as bs).getD sameNameMismatch
  | .list a, .list b => collectionMismatch "list" (.list a) (.list b) a b
  | .map a, .map b => collectionMismatch "map" (.map a) (.map b) a b
  | a, b => plainMismatch a b

def sameNameMismatch : Bytes :=
  "At least one deeply-nested attribute or element is not compatible across both the 'true' and the 'false' value"

def plainMismatch (a b : Kind) : Bytes :=
  if a.label = b.label then sameNameMismatch
  else "The 'true' value is " ++ a.label ++ ", but the 'false' value is " ++ b.label

def collectionMismatch (noun : Bytes) (whole other a b : Kind) : Bytes :=
  match a, b with
  | .object as, .object bs =>
    "Mismatched " ++ noun ++ " element types: " ++ describeMismatch (.object as) (.object bs)
  | .tuple as, .tuple bs =>
    "Mismatched " ++ noun ++ " element types: " ++ describeMismatch (.tuple as) (.tuple bs)
  | _, _ => plainMismatch whole other

def attributeMismatch : List (Bytes × Kind) → List (Bytes × Kind) → Option Bytes
  | [], _ => none
  | (name, a) :: as, bs =>
    match Value.entryOf name bs with
    | none =>
      some ("The 'true' value includes object attribute " ++ Text.quoted name
        ++ ", which is absent in the 'false' value")
    | some b =>
      if a.same b then attributeMismatch as bs
      else
        some ("Type mismatch for object attribute " ++ Text.quoted name ++ ": "
          ++ describeMismatch a b)

def elementMismatch (i : Nat) : List Kind → List Kind → Option Bytes
  | a :: as, b :: bs =>
    if a.same b then elementMismatch (i + 1) as bs
    else some ("Type mismatch for tuple element " ++ Bytes.ofNat i ++ ": " ++ describeMismatch a b)
  | _, _ => none

end

/-- The kind that the branches of a conditional have in common. A bare null takes the kind of
the other branch, and nothing is said beside a branch whose kind is not fixed. -/
def branchKind (yes no : Value) : Option Kind :=
  match yes, no with
  | .null .any, no => some no.kind
  | yes, .null .any => some yes.kind
  | yes, no =>
    if yes.kind.isAny || no.kind.isAny then some .any else Kind.unify [yes.kind, no.kind]

def branchOutcome (o : Outcome) (kind : Kind) (which : Bytes) (place : Range) : Outcome :=
  match o.value.convert kind with
  | .ok v => ⟨v, o.faults⟩
  | .error e =>
    ⟨.ofKind kind, o.faults ++ [⟨"Inconsistent conditional result types",
      "The " ++ which ++ " result value has the wrong type: " ++ e ++ ".", some place⟩]⟩

def outermost (order : Ordering) (m n : Option Number) : Option Number := do
  let m ← m
  let n ← n
  return if n.compare m == order then n else m

/-- What can be said of a number that is one of two. -/
def eitherNumber (yes no : Value) (notNull : Bool) : Value :=
  let least := outermost .lt yes.least? no.least?
  let greatest := outermost .gt yes.greatest? no.greatest?
  match notNull, least, greatest with
  | true, some m, some n =>
    if m.compare n == .eq then .number m else .unknown .number { notNull, least, greatest }
  | _, _, _ => .unknown .number { notNull, least, greatest }

def eitherValue (yes no : Value) (kind : Kind) : Value :=
  let notNull := yes.isPresent && no.isPresent
  let undecided : Value := if notNull then .presentOf kind else .ofKind kind
  if yes.isNull && no.isNull then .null kind
  else
    match yes, no with
    | .list j as, .list k bs =>
      if j.same k && as.length == bs.length then .list k (as.map fun _ => .ofKind k)
      else undecided
    | .map j [], .map k [] => if j.same k then .map k [] else undecided
    | yes, no =>
      match yes.kind, no.kind with
      | .number, .number => eitherNumber yes no notNull
      | _, _ => undecided

def conditionalOutcome (condition yes no : Outcome) (conditionRange yesRange noRange : Range) :
    Outcome :=
  match branchKind yes.value no.value with
  | none =>
    ⟨.nothing, [⟨"Inconsistent conditional result types",
      "The true and false result expressions must have consistent types. "
        ++ describeMismatch yes.value.kind no.value.kind ++ ".",
      some (yesRange.between noRange)⟩]⟩
  | some kind =>
    let fail (summary detail : Bytes) : Outcome :=
      ⟨.ofKind kind, condition.faults ++ [⟨summary, detail, some conditionRange⟩]⟩
    if condition.value.isNull then
      fail "Null condition" "The condition value is null. Conditions must either be true or false."
    else if !condition.value.isKnown then
      ⟨eitherValue yes.value no.value kind, condition.faults⟩
    else
      match condition.value.convert .bool with
      | .ok (.bool true) => (branchOutcome yes kind "true" yesRange).after condition.faults
      | .ok (.bool false) => (branchOutcome no kind "false" noRange).after condition.faults
      | _ =>
        fail "Incorrect condition type" "The condition expression must be of type bool."

/-! ### Texts -/

structure TextSoFar where
  /-- The text up to the first part that is not known. -/
  text : Bytes := []
  known : Bool := true
  faults : List Diagnostic := []

def TextSoFar.add (s : TextSoFar) (o : Outcome) (place : Range) : TextSoFar :=
  let summary : Bytes := "Invalid template interpolation value"
  let faults := s.faults ++ o.faults
  if o.value.isNull then
    { s with faults := faults ++ [⟨summary,
      "The expression result is null. Cannot include a null value in a string template.",
      some place⟩] }
  else if !o.value.isKnown then { s with known := false, faults }
  else
    match o.value.text? with
    | .ok t => { s with text := if s.known then s.text ++ t else s.text, faults }
    | .error e =>
      { s with faults := faults ++ [⟨summary,
        "Cannot include the given value in a string template: " ++ e ++ ".", some place⟩] }

/-- The part of a text that nothing added at its end can change: all but its last character.
Not more than a few words are kept. -/
def safeStart (text : Bytes) : Bytes :=
  (Text.clusters (Text.composed (text.take 128))).dropLast.flatten

/-- The value of a text. One that is not known still starts with what comes before its first
unknown part, unless there were faults. -/
def TextSoFar.outcome (s : TextSoFar) : Outcome :=
  let start := if s.faults.isEmpty then safeStart s.text else []
  ⟨if s.known then .ofText s.text else .unknown .string { notNull := true, start }, s.faults⟩

def joinItems (place : Range) : List Value → TextSoFar → Outcome
  | [], s => s.outcome
  | v :: rest, s =>
    let summary : Bytes := "Invalid template interpolation value"
    if v.isNull then
      joinItems place rest { s with faults := s.faults ++ [⟨summary,
        "An iteration result is null. Cannot include a null value in a string template.",
        some place⟩] }
    else if v.kind.isAny then ⟨.ofKind .string, s.faults⟩
    else
      match v.convert .string with
      | .ok (.string t) => joinItems place rest { s with text := s.text ++ t }
      | .ok _ => ⟨.ofKind .string, s.faults⟩
      | .error e =>
        joinItems place rest { s with faults := s.faults ++ [⟨summary,
          "Cannot include one of the interpolation results into the string template: "
            ++ e ++ ".", some place⟩] }

def joinOutcome (o : Outcome) (place : Range) : Outcome :=
  match o.value with
  | .tuple items => joinItems place items { faults := o.faults }
  | _ => ⟨.ofKind .string, o.faults⟩

/-! ### Loops -/

structure LoopCondition where
  range : Range
  eval : Scope → Outcome

/-- The elements that a loop goes through, with the faults so far; or the outcome if the loop
cannot start. The condition is tried once with nothing known about the element, so that a
condition that can never hold is reported only once. -/
def loopElements (collection : Outcome) (place : Range) (names : LoopNames) (scope : Scope)
    (condition : Option LoopCondition) :
    Except Outcome (List (Value × Value) × List Diagnostic) :=
  let stop (summary detail : Bytes) (faults : List Diagnostic) (r : Range) :
      Except Outcome (List (Value × Value) × List Diagnostic) :=
    .error ⟨.nothing, faults ++ [⟨summary, detail, some r⟩]⟩
  let v := collection.value
  if v.isNull then
    stop "Iteration over null value"
      "A null value cannot be used as the collection in a 'for' expression."
      collection.faults place
  else if v.kind.isAny then .error ⟨.nothing, collection.faults⟩
  else if !v.kind.isIterable then
    stop "Iteration over non-iterable value"
      ("A value of type " ++ v.kind.label
        ++ " cannot be used as the collection in a 'for' expression.")
      collection.faults place
  else
    let start (faults : List Diagnostic) :
        Except Outcome (List (Value × Value) × List Diagnostic) :=
      match v.elements? with
      | some elements => .ok (elements, faults)
      | none => .error ⟨.nothing, faults⟩
    match condition with
    | none => start collection.faults
    | some c =>
      let o := c.eval (scope.bind names .nothing .nothing)
      let faults := collection.faults ++ o.faults
      if o.value.isNull then
        stop "Condition is null" "The value of the 'if' clause must not be null." faults c.range
      else
        match o.value.convert .bool with
        | .error e =>
          stop "Invalid 'for' condition" ("The 'if' clause value is invalid: " ++ e ++ ".")
            faults c.range
        | .ok _ => if o.faults.isEmpty then start faults else .error ⟨.nothing, faults⟩

inductive Taken where
  | yes
  | no
  | unknown
  deriving DecidableEq, Repr

/-- Whether an element takes part in a loop, and the faults found. While `known` holds, faults
of the condition's value are reported. -/
def takes (condition : Option LoopCondition) (scope : Scope) (known : Bool) :
    Taken × List Diagnostic :=
  match condition with
  | none => (.yes, [])
  | some c =>
    let o := c.eval scope
    let fail (detail : Bytes) : Taken × List Diagnostic :=
      (.unknown,
        o.faults ++ (if known then [⟨"Invalid 'for' condition", detail, some c.range⟩] else []))
    if o.value.isNull then fail "The value of the 'if' clause must not be null."
    else
      match o.value.convert .bool with
      | .error e => fail ("The 'if' clause value is invalid: " ++ e ++ ".")
      | .ok (.bool b) => (if b then .yes else .no, o.faults)
      | .ok _ => (.unknown, o.faults)

/-- The results of a loop so far; `known` says that it is known which elements took part. -/
structure LoopSoFar (α : Type) where
  results : α
  known : Bool := true
  faults : List Diagnostic := []

def tupleLoop (elements : List (Value × Value)) (faults : List Diagnostic) (names : LoopNames)
    (scope : Scope) (condition : Option LoopCondition) (value : Scope → Outcome) : Outcome :=
  let start : LoopSoFar (List Value) := { results := [], faults }
  let done := elements.foldl (fun s e =>
    let inner := scope.bind names e.1 e.2
    match takes condition inner s.known with
    | (.unknown, faults) => { s with known := false, faults := s.faults ++ faults }
    | (.no, faults) => { s with faults := s.faults ++ faults }
    | (.yes, faults) =>
      let o := value inner
      { s with results := o.value :: s.results, faults := s.faults ++ faults ++ o.faults }) start
  ⟨if done.known then .tuple done.results.reverse else .nothing, done.faults⟩

/-- The text of a key; `none`, with a fault while `known` holds, if the value is no key. -/
def keyText (v : Value) (known : Bool) (place : Range) : Option Bytes × List Diagnostic :=
  let fail (detail : Bytes) : Option Bytes × List Diagnostic :=
    (none, if known then [⟨"Invalid object key", detail, some place⟩] else [])
  if v.isNull then fail "Key expression in 'for' expression must not produce a null value."
  else if !v.isKnown then (none, [])
  else
    match v.text? with
    | .ok s => (some s, [])
    | .error e => fail ("The key expression produced an invalid result: " ++ e ++ ".")

/-- An object with an attribute for every element that takes part. The values of one key are
gathered in order; without `grouped` there must be only one of them. -/
def objectLoop (elements : List (Value × Value)) (faults : List Diagnostic) (names : LoopNames)
    (scope : Scope) (condition : Option LoopCondition) (key value : Scope → Outcome)
    (keyRange : Range) (grouped : Bool) : Outcome :=
  let start : LoopSoFar (List (Bytes × List Value)) := { results := [], faults }
  let done := elements.foldl (fun s e =>
    let inner := scope.bind names e.1 e.2
    match takes condition inner s.known with
    | (.unknown, faults) => { s with known := false, faults := s.faults ++ faults }
    | (.no, faults) => { s with faults := s.faults ++ faults }
    | (.yes, faults) =>
      let k := key inner
      let (name, keyFaults) := keyText k.value s.known keyRange
      let faults := s.faults ++ faults ++ k.faults ++ keyFaults
      match name with
      | none => { s with known := false, faults }
      | some name =>
        let o := value inner
        let faults := faults ++ o.faults
        match Value.entryOf name s.results with
        | none => { s with results := Value.insertEntry name [o.value] s.results, faults }
        | some values =>
          if grouped then
            { s with results := Value.insertEntry name (values ++ [o.value]) s.results, faults }
          else
            { s with faults := faults ++ [⟨"Duplicate object key",
              "Two different items produced the key " ++ Text.quoted name
                ++ " in this 'for' expression. If duplicates are expected, use the ellipsis (...) after the value expression to enable grouping by key.",
              some keyRange⟩] }) start
  let attributes := done.results.map fun e =>
    (e.1, if grouped then .tuple e.2 else e.2.headD .nothing)
  ⟨if done.known then .object attributes else .nothing, done.faults⟩

/-! ### Objects and splats -/

structure ObjectSoFar where
  attributes : List (Bytes × Value) := []
  known : Bool := true
  faults : List Diagnostic := []

def ObjectSoFar.add (s : ObjectSoFar) (key value : Outcome) (keyRange valueRange : Range) :
    ObjectSoFar :=
  let faults := s.faults ++ key.faults ++ value.faults
  if !key.faults.isEmpty then { s with known := false, faults }
  else if key.value.isNull then
    { s with
      known := false
      faults := faults ++ [⟨"Null value as key", "Can't use a null value as a key.",
        some valueRange⟩] }
  else
    match key.value.convert .string with
    | .error e =>
      { s with
        known := false
        faults := faults ++ [⟨"Incorrect key type",
          "Can't use this value as a key: " ++ e ++ ".", some keyRange⟩] }
    | .ok (.string name) =>
      { s with attributes := Value.insertEntry name value.value s.attributes, faults }
    | .ok _ => { s with known := false, faults }

def ObjectSoFar.outcome (s : ObjectSoFar) : Outcome :=
  ⟨if s.known then .object s.attributes else .nothing, s.faults⟩

/-- The key of an attribute: a bare name stands for itself unless it is computed, and a name
with steps is refused, because it could be meant either way. -/
def objectKey (computed : Bool) (key : Expression) (eval : Outcome) : Outcome :=
  if computed then eval
  else
    match key with
    | .reference _ _ (_ :: _) r =>
      ⟨.nothing, [⟨"Ambiguous attribute key",
        "If this expression is intended to be a reference, wrap it in parentheses. If it's instead intended as a literal name containing periods, wrap it in quotes to create a string literal.",
        some r⟩]⟩
    | key =>
      match key.bareName? with
      | some name => ⟨.ofText name, []⟩
      | none => eval

def splatItems (items : List Value) (scope : Scope) (each : Scope → Outcome) :
    List Value × List Diagnostic :=
  let results := items.map fun v => each { scope with item := some v }
  (results.map Outcome.value, results.flatMap Outcome.faults)

/-- The kind of the results of a splat over a tuple or a list of a kind, found by trying it on
some items of that kind, and the faults of that. -/
def splatKind (source : Kind) (scope : Scope) (each : Scope → Outcome) :
    Kind × List Diagnostic :=
  let (values, faults) := splatItems (source.parts.map .ofKind) scope each
  match source, values with
  | .list _, v :: _ => (.list v.kind, faults)
  | _, values => (.tuple (Value.kinds values), faults)

/-- The value of a splat over the items of a tuple or a list. A fault makes the whole unknown. -/
def splatOver (source : Kind) (items : List Value) (scope : Scope) (each : Scope → Outcome) :
    Outcome :=
  let (values, faults) := splatItems items scope each
  if !faults.isEmpty then ⟨.ofKind (splatKind source scope each).1, faults⟩
  else
    match source, values with
    | .list _, [] =>
      match splatKind source scope each with
      | (.list k, faults) => ⟨.list k [], faults⟩
      | (_, faults) => ⟨.nothing, faults⟩
    | .list _, values =>
      match Value.ofItems values with
      | .ok v => ⟨v, []⟩
      | .error _ => ⟨.nothing, []⟩
    | _, values => ⟨.tuple values, []⟩

/-- The value of a splat. A value that is no sequence counts as a sequence of one item, and a
null as one of none. -/
def splatOutcome (source : Outcome) (sourceRange : Range) (scope : Scope)
    (each : Scope → Outcome) : Outcome :=
  if !source.faults.isEmpty then ⟨.nothing, source.faults⟩
  else
    match source.value with
    | .null (.tuple _) | .null (.list _) =>
      ⟨.nothing, [⟨"Splat of null value",
        "Splat expressions (with the * symbol) cannot be applied to null sequences.",
        some sourceRange⟩]⟩
    | .null _ => ⟨.tuple [], []⟩
    | .unknown .any _ => ⟨.nothing, []⟩
    | .unknown (.tuple ks) _ =>
      let (k, faults) := splatKind (.tuple ks) scope each
      ⟨.presentOf k, faults⟩
    | .unknown (.list k) _ =>
      let (k, faults) := splatKind (.list k) scope each
      ⟨.presentOf k, faults⟩
    | .unknown k facts => ⟨.nothing, (splatItems [.unknown k facts] scope each).2⟩
    | .list k items => splatOver (.list k) items scope each
    | .tuple items => splatOver (Value.tuple items).kind items scope each
    | v => splatOver (.tuple [v.kind]) [v] scope each

/-! ### Expressions -/

namespace Expression

mutual

def eval : Expression → Scope → Outcome
  | literal v _, _ => ⟨v, []⟩
  | reference name r steps _, scope => scope.resolve name r steps
  | path source steps _, scope =>
    let o := source.eval scope
    (Outcome.ofExcept (o.value.follow steps)).after o.faults
  | index collection key bracket _, scope =>
    let c := collection.eval scope
    let k := key.eval scope
    (Outcome.ofExcept (c.value.element k.value bracket)).after (c.faults ++ k.faults)
  | splat source each _, scope =>
    splatOutcome (source.eval scope) source.range scope (fun s => each.eval s)
  | item _, scope => ⟨scope.item.getD .nothing, []⟩
  | call _ _ r, _ =>
    ⟨.nothing, [⟨"Function calls not allowed", "Functions may not be called here.", some r⟩]⟩
  | unary operator operand r, scope => unaryOutcome operator (operand.eval scope) operand.range r
  | binary operator left right r, scope =>
    binaryOutcome operator (left.eval scope) (right.eval scope) left.range right.range r
  | conditional condition yes no _, scope =>
    conditionalOutcome (condition.eval scope) (yes.eval scope) (no.eval scope)
      condition.range yes.range no.range
  | tuple items _, scope =>
    let (values, faults) := evalAll items scope
    ⟨.tuple values, faults⟩
  | object items _, scope => (evalItems items scope {}).outcome
  | tupleFor names collection value condition _, scope =>
    let condition := conditionOf condition
    match loopElements (collection.eval scope) collection.range names scope condition with
    | .error o => o
    | .ok (elements, faults) =>
      tupleLoop elements faults names scope condition (fun s => value.eval s)
  | objectFor names collection key value condition grouped _, scope =>
    let condition := conditionOf condition
    match loopElements (collection.eval scope) collection.range names scope condition with
    | .error o => o
    | .ok (elements, faults) =>
      objectLoop elements faults names scope condition (fun s => key.eval s)
        (fun s => value.eval s) key.range grouped
  | template parts _, scope => (evalParts parts scope {}).outcome
  | wrapped inner _, scope => inner.eval scope
  | joined inner, scope => joinOutcome (inner.eval scope) inner.range
  | parenthesized inner _, scope => inner.eval scope

def evalAll : List Expression → Scope → List Value × List Diagnostic
  | [], _ => ([], [])
  | e :: rest, scope =>
    let o := e.eval scope
    let (values, faults) := evalAll rest scope
    (o.value :: values, o.faults ++ faults)

def evalItems : List ObjectItem → Scope → ObjectSoFar → ObjectSoFar
  | [], _, s => s
  | .mk computed key value :: rest, scope, s =>
    evalItems rest scope
      (s.add (objectKey computed key (key.eval scope)) (value.eval scope) key.range value.range)

def evalParts : List Expression → Scope → TextSoFar → TextSoFar
  | [], _, s => s
  | e :: rest, scope, s => evalParts rest scope (s.add (e.eval scope) e.range)

def conditionOf : Option Expression → Option LoopCondition
  | none => none
  | some c => some ⟨c.range, fun s => c.eval s⟩

end

end Expression
end DefOut.Project
