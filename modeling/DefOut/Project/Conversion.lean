import DefOut.Project.Unification
import DefOut.Text.Quoted

set_option autoImplicit false

/-!
Values as values of another kind, where there is a conversion between the kinds, and the
comparison of values.
-/
namespace DefOut.Project

namespace Value

def readBool (s : Bytes) : Except Bytes Value :=
  if s = "true" ∨ s = "1" then .ok (bool true)
  else if s = "false" ∨ s = "0" then .ok (bool false)
  else if s.map Ascii.lower = "true" then
    .error "a bool is required; to convert from string, use lowercase \"true\""
  else if s.map Ascii.lower = "false" then
    .error "a bool is required; to convert from string, use lowercase \"false\""
  else .error "a bool is required"

/-- A value that is not known as one of the wanted kind. What was a tuple keeps its length when
it is certainly there. -/
def unknownAs (given : Kind) (facts : Facts) (want : Kind) : Value :=
  let want := given.filled want
  match given, want with
  | .tuple ks, .list k =>
    if facts.notNull then list k (ks.map fun _ => ofKind k) else ofKind want
  | .object [], .map k => if facts.notNull then map k [] else ofKind want
  | _, _ => if facts.notNull then presentOf want else ofKind want

/-- The kind that values in a collection share: what is not fixed counts as any other kind. -/
def sharedKind? (values : List Value) : Option Kind :=
  let fixed := (kinds values).filter fun k => !k.isAny
  match fixed with
  | [] => some .any
  | k :: rest => if rest.all k.same then some k else none

def settled (k : Kind) : Value → Value
  | null .any => null k
  | unknown .any _ => ofKind k
  | v => v

def ofItems (items : List Value) : Except Bytes Value :=
  match sharedKind? items with
  | some k => .ok (list k (items.map (settled k)))
  | none => .error "element types must all match for conversion to list"

def ofEntries (entries : List (Bytes × Value)) : Except Bytes Value :=
  let values := entries.map Prod.snd
  match sharedKind? values with
  | some k => .ok (map k (entries.map fun e => (e.1, settled k e.2)))
  | none => .error (((kinds values).headD .any).label ++ " is required")

def convertWithin : Nat → Value → Kind → Except Bytes Value
  | 0, v, _ => .ok v
  | n + 1, v, want =>
    let settle (k : Kind) (v : Value) : Except Bytes Value :=
      if v.kind.same k then .ok v else convertWithin n v k
    let alike (items : List Value) : Except Bytes (List Value) :=
      match Kind.unify (kinds items) with
      | some k => items.mapM (settle k)
      | none => .error "collection elements cannot be unified"
    let gathered (items : List Value) (k : Kind) : Kind :=
      (Kind.gathered Kind.unify (kinds items) k).getD k
    let entriesAs (entries : List (Bytes × Value)) (k : Kind) : Except Bytes Value := do
      let values ← (entries.map Prod.snd).mapM (settle k)
      let values ← if k.isList || k.isMap || k.isObject then alike values else pure values
      ofEntries ((entries.map Prod.fst).zip values)
    match v, want with
    | v, .any => .ok v
    | unknown k facts, want => .ok (unknownAs k facts want)
    | null k, want => .ok (null (k.filled want))
    | string s, .number =>
      match Number.read? s with
      | some n => .ok (number n)
      | none => .error "a number is required"
    | string s, .bool => readBool s
    | number n, .string => .ok (string n.text)
    | bool b, .string => .ok (string (Bytes.ofBool b))
    | tuple items, .tuple ks => do
      return tuple (← (items.zip ks).mapM fun e => settle e.2 e.1)
    | tuple [], .list k => .ok (list k [])
    | tuple items, .list k => do
      ofItems (← alike (← items.mapM (settle (gathered items k))))
    | list j [], .list k => .ok (list (if k.isAny then j else k) [])
    | list _ items, .list k => do ofItems (← items.mapM (settle k))
    | map j [], .map k => .ok (map (if k.isAny then j else k) [])
    | map _ entries, .map k => entriesAs entries k
    | object [], .map k => .ok (map k [])
    | object entries, .map k => entriesAs entries (gathered (entries.map Prod.snd) k)
    | object entries, .object ks | map _ entries, .object ks => do
      return object (← ks.mapM fun e =>
        match entryOf e.1 entries with
        | some v => do return (e.1, ← settle e.2 v)
        | none => .error ("map has no element for required attribute " ++ Text.quoted e.1))
    | v, _ => .ok v

def convert (v : Value) (want : Kind) : Except Bytes Value :=
  if v.kind.same want then .ok v
  else if v.kind.converts want then
    v.convertWithin (Kind.steps (max v.kind.depth want.depth)) want
  else .error (v.kind.mismatch want)

def text? (v : Value) : Except Bytes Bytes :=
  match v.convert .string with
  | .ok (string s) => .ok s
  | .ok _ => .ok []
  | .error e => .error e

/-- Whether the facts about a value that is not known rule out a known value. -/
def ruledOut (facts : Facts) : Value → Bool
  | null _ => facts.notNull
  | string s => !facts.start.isPrefixOf s
  | number n =>
    facts.least.any (fun m => n.compare m == .lt) || facts.greatest.any (n.compare · == .gt)
  | _ => false

def equalsUnknown (k : Kind) (facts : Facts) (v : Value) : Option Bool :=
  if ruledOut facts v then some false
  else if v.isNull || k.hasAny || k.same v.kind then none
  else some false

/-- Whether values can be equal as far as their kinds go: `none` while these can still change
so that they agree. -/
def sameKinds (v w : Value) : Option Bool :=
  if v.hasFixedKind && w.hasFixedKind then some (v.kind.same w.kind)
  else if v.kind.conforms w.kind || w.kind.conforms v.kind then none
  else some false

mutual

/-- Whether two values are equal; `none` when that is not known. Values of different kinds are
different, but all nulls are equal. -/
def equals : Value → Value → Option Bool
  | unknown _ _, unknown _ _ => none
  | unknown k facts, w => equalsUnknown k facts w
  | v, unknown k facts => equalsUnknown k facts v
  | null _, w => some w.isNull
  | _, null _ => some false
  | string s, string t => some (s == t)
  | number m, number n => some (m.same n)
  | bool a, bool b => some (a == b)
  | tuple as, tuple bs =>
    match sameKinds (tuple as) (tuple bs) with
    | some true => equalAll as bs
    | r => r
  | list j as, list k bs =>
    match sameKinds (list j as) (list k bs) with
    | some true => if as.length == bs.length then equalAll as bs else some false
    | r => r
  | object as, object bs =>
    match sameKinds (object as) (object bs) with
    | some true => equalEntries as bs
    | r => r
  | map j as, map k bs =>
    match sameKinds (map j as) (map k bs) with
    | some true => if as.map Prod.fst == bs.map Prod.fst then equalEntries as bs else some false
    | r => r
  | _, _ => some false

def equalAll : List Value → List Value → Option Bool
  | v :: vs, w :: ws =>
    match v.equals w with
    | some true => equalAll vs ws
    | r => r
  | _, _ => some true

def equalEntries : List (Bytes × Value) → List (Bytes × Value) → Option Bool
  | (_, v) :: vs, (_, w) :: ws =>
    match v.equals w with
    | some true => equalEntries vs ws
    | r => r
  | _, _ => some true

end

end Value
end DefOut.Project
