import DefOut.Number.Decimal
import DefOut.Text.NormalForm

set_option autoImplicit false

/-!
The values of expressions in project files, and their kinds. Every value has a kind, also one
that is null or not known; an expression that failed has a value that is not known, so that the
rest of the work can go on and find more faults.
-/
namespace DefOut.Project

inductive Kind where
  /-- Any kind; the kind of a bare null. -/
  | any
  | string
  | number
  | bool
  | list (element : Kind)
  | map (element : Kind)
  | tuple (elements : List Kind)
  /-- An object with its attributes in the order of their names. -/
  | object (attributes : List (Bytes × Kind))
  deriving Repr

structure Facts where
  notNull : Bool := false
  /-- What a text starts with. -/
  start : Bytes := []
  least : Option Number := none
  greatest : Option Number := none
  deriving DecidableEq, Repr

inductive Value where
  | unknown (kind : Kind) (facts : Facts)
  | null (kind : Kind)
  | string (text : Bytes)
  | number (n : Number)
  | bool (b : Bool)
  | list (element : Kind) (items : List Value)
  /-- Values by key, in the order of the keys. -/
  | map (element : Kind) (entries : List (Bytes × Value))
  | tuple (items : List Value)
  /-- Attributes in the order of their names. -/
  | object (attributes : List (Bytes × Value))
  deriving Repr

namespace Kind

mutual

def same : Kind → Kind → Bool
  | any, any => true
  | string, string => true
  | number, number => true
  | bool, bool => true
  | list a, list b => a.same b
  | map a, map b => a.same b
  | tuple as, tuple bs => sameAll as bs
  | object as, object bs => sameAttributes as bs
  | _, _ => false

def sameAll : List Kind → List Kind → Bool
  | [], [] => true
  | a :: as, b :: bs => a.same b && sameAll as bs
  | _, _ => false

def sameAttributes : List (Bytes × Kind) → List (Bytes × Kind) → Bool
  | [], [] => true
  | (m, a) :: as, (n, b) :: bs => m == n && a.same b && sameAttributes as bs
  | _, _ => false

end

mutual

/-- Whether values of the first kind do where the second is wanted, with anything for what is
not fixed there. -/
def conforms : Kind → Kind → Bool
  | _, any => true
  | list a, list b | map a, map b => a.conforms b
  | tuple as, tuple bs => conformsAll as bs
  | object as, object bs => conformsAttributes as bs
  | a, b => a.same b

def conformsAll : List Kind → List Kind → Bool
  | [], [] => true
  | a :: as, b :: bs => a.conforms b && conformsAll as bs
  | _, _ => false

def conformsAttributes : List (Bytes × Kind) → List (Bytes × Kind) → Bool
  | [], [] => true
  | (m, a) :: as, (n, b) :: bs => m == n && a.conforms b && conformsAttributes as bs
  | _, _ => false

end

def label : Kind → Bytes
  | any => "dynamic"
  | string => "string"
  | number => "number"
  | bool => "bool"
  | list k => "list of " ++ k.label
  | map k => "map of " ++ k.label
  | tuple _ => "tuple"
  | object _ => "object"

def isPrimitive : Kind → Bool
  | string | number | bool => true
  | _ => false

def isAny : Kind → Bool
  | any => true
  | _ => false

mutual

def hasAny : Kind → Bool
  | any => true
  | list k | map k => k.hasAny
  | tuple ks => anyAny ks
  | object as => anyAttribute as
  | _ => false

def anyAny : List Kind → Bool
  | [] => false
  | k :: ks => k.hasAny || anyAny ks

def anyAttribute : List (Bytes × Kind) → Bool
  | [] => false
  | (_, k) :: as => k.hasAny || anyAttribute as

end

end Kind

namespace Value

mutual

def kind : Value → Kind
  | unknown k _ | null k => k
  | string _ => .string
  | number _ => .number
  | bool _ => .bool
  | list k _ => .list k
  | map k _ => .map k
  | tuple items => .tuple (kinds items)
  | object as => .object (attributeKinds as)

def kinds : List Value → List Kind
  | [] => []
  | v :: vs => v.kind :: kinds vs

def attributeKinds : List (Bytes × Value) → List (Bytes × Kind)
  | [] => []
  | (name, v) :: as => (name, v.kind) :: attributeKinds as

end

def isNull : Value → Bool
  | null _ => true
  | _ => false

/-- Whether the value itself is known; parts of it may not be. -/
def isKnown : Value → Bool
  | unknown _ _ => false
  | _ => true

mutual

def isWhollyKnown : Value → Bool
  | unknown _ _ => false
  | list _ items | tuple items => allKnown items
  | map _ entries | object entries => entriesKnown entries
  | _ => true

def allKnown : List Value → Bool
  | [] => true
  | v :: vs => v.isWhollyKnown && allKnown vs

def entriesKnown : List (Bytes × Value) → Bool
  | [] => true
  | (_, v) :: as => v.isWhollyKnown && entriesKnown as

end

mutual

def hasFixedKind : Value → Bool
  | unknown k _ => !k.hasAny
  | list _ items | tuple items => allFixed items
  | map _ entries | object entries => entriesFixed entries
  | _ => true

def allFixed : List Value → Bool
  | [] => true
  | v :: vs => v.hasFixedKind && allFixed vs

def entriesFixed : List (Bytes × Value) → Bool
  | [] => true
  | (_, v) :: as => v.hasFixedKind && entriesFixed as

end

def ofKind (k : Kind) : Value := unknown k {}

def nothing : Value := ofKind .any

/-- Some value of a kind that is known not to be null. While the kind is not fixed, that is
forgotten. -/
def presentOf (k : Kind) : Value :=
  if k.isAny then nothing else unknown k { notNull := true }

def isPresent : Value → Bool
  | unknown _ facts => facts.notNull
  | null _ => false
  | _ => true

def least? : Value → Option Number
  | number n => some n
  | unknown _ facts => facts.least
  | _ => none

def greatest? : Value → Option Number
  | number n => some n
  | unknown _ facts => facts.greatest
  | _ => none

def ofText (s : Bytes) : Value :=
  string (Text.composed s)

/-- Put a named value into its place in the order of names, over one of the same name. -/
def insertEntry {α : Type} (name : Bytes) (v : α) : List (Bytes × α) → List (Bytes × α)
  | [] => [(name, v)]
  | (n, w) :: rest =>
    if n = name then (name, v) :: rest
    else if Bytes.le name n then (name, v) :: (n, w) :: rest
    else (n, w) :: insertEntry name v rest

def entryOf {α : Type} (name : Bytes) (entries : List (Bytes × α)) : Option α :=
  (entries.find? fun e => e.1 == name).map Prod.snd

/-- An object with attributes given in any order; a later one replaces an earlier one of the
same name. -/
def ofAttributes (attributes : List (Bytes × Value)) : Value :=
  object (attributes.foldl (fun as e => insertEntry (Text.composed e.1) e.2 as) [])

/-- Keys and values of what can be gone through, in order; `none` for what cannot, or what is
not known. Tuples and lists have counted keys. -/
def elements? : Value → Option (List (Value × Value))
  | list _ items | tuple items =>
    some ((List.range items.length).zip items |>.map fun e => (number (.ofNat e.1), e.2))
  | map _ entries | object entries => some (entries.map fun e => (string e.1, e.2))
  | _ => none

end Value

def Kind.isIterable : Kind → Bool
  | .list _ | .map _ | .tuple _ | .object _ => true
  | _ => false

end DefOut.Project
