import DefOut.Diagnostic
import DefOut.Project.Conversion
import DefOut.Project.Expression

set_option autoImplicit false

/-!
Parts of values: attributes by name and elements by key, and why there is no such part.
-/
namespace DefOut.Project

namespace Value

def refuse {α : Type} (summary detail : Bytes) (place : Range) : Except Diagnostic α :=
  .error ⟨summary, detail, some place⟩

def member (v : Value) (name : Bytes) (place : Range) : Except Diagnostic Value :=
  let unsupported (detail : Bytes) : Except Diagnostic Value :=
    refuse "Unsupported attribute" detail place
  let key := Text.composed name
  match v with
  | null _ =>
    refuse "Attempt to get attribute from null value"
      "This value is null, so it does not have any attributes." place
  | object as =>
    match entryOf key as with
    | some w => .ok w
    | none =>
      unsupported ("This object does not have an attribute named " ++ Text.quoted name ++ ".")
  | map _ entries =>
    match entryOf key entries with
    | some w => .ok w
    | none =>
      refuse "Missing map element"
        ("This map does not have an element with the key " ++ Text.quoted name ++ ".") place
  | v =>
    match v.kind with
    | .any => .ok nothing
    | .object as =>
      match entryOf key as with
      | some k => .ok (ofKind k)
      | none =>
        unsupported ("This object does not have an attribute named " ++ Text.quoted name ++ ".")
    | .map k => .ok (ofKind k)
    | .list (.object as) =>
      if (entryOf key as).isSome then
        unsupported ("Can't access attributes on a list of objects. Did you mean to access attribute "
          ++ Text.quoted name
          ++ " for a specific element of the list, or across all elements of the list?")
      else
        unsupported "Can't access attributes on a list of objects. Did you mean to access an attribute for a specific element of the list, or across all elements of the list?"
    | k =>
      if k.isPrimitive then
        unsupported ("Can't access attributes on a primitive-typed value (" ++ k.label ++ ").")
      else unsupported "This value does not have any attributes."

def invalidIndex : Bytes := "Invalid index"

def noElement (reason : Bytes) : Bytes :=
  let why : Bytes := if reason.isEmpty then [] else ": " ++ reason
  "The given key does not identify an element in this collection value" ++ why ++ "."

/-- Why a number leads to no element of a sequence with so many elements. Only an index right
behind the last element is told to be too large. -/
def outOfBounds (n : Number) (length : Nat) : Bytes :=
  match n.integer? with
  | none =>
    noElement
      "indexing a sequence requires a whole number, but the given index has a fractional part"
  | some i =>
    if i < 0 then noElement "a negative number is not a valid index for a sequence"
    else if i ≤ length then
      if length = 0 then noElement "the collection has no elements"
      else noElement
        "the given index is greater than or equal to the length of the collection"
    else noElement []

/-- The element of a sequence at a key; `unsure` is what there is to say when the key is not
known. -/
def sequenceElement (items : List Value) (key unsure : Value) (place : Range) :
    Except Diagnostic Value :=
  match key.convert .number with
  | .error e => refuse invalidIndex (noElement e) place
  | .ok (number n) =>
    match n.integer? with
    | some (.ofNat i) =>
      match items[i]? with
      | some v => .ok v
      | none => refuse invalidIndex (outOfBounds n items.length) place
    | _ => refuse invalidIndex (outOfBounds n items.length) place
  | .ok _ => .ok unsure

/-- The value of a key among named ones; `hint` follows when there is none, and `unsure` is what
there is to say when the key is not known. -/
def namedElement (entries : List (Bytes × Value)) (key unsure : Value) (hint : Bytes)
    (place : Range) : Except Diagnostic Value :=
  match key.convert .string with
  | .error e => refuse invalidIndex (noElement e) place
  | .ok (string s) =>
    match entryOf (Text.composed s) entries with
    | some v => .ok v
    | none => refuse invalidIndex (noElement [] ++ hint) place
  | .ok _ => .ok unsure

/-- Some element of a collection that is not known, if the key can be one of its keys. -/
def someElement (key : Value) (wanted element : Kind) (place : Range) :
    Except Diagnostic Value :=
  match key.convert wanted with
  | .error e => refuse invalidIndex (noElement e) place
  | .ok _ => .ok (ofKind element)

/-- The element at a key. A tuple that is not known still has its length. -/
def element (v key : Value) (place : Range) : Except Diagnostic Value :=
  if v.isNull then
    refuse "Attempt to index null value"
      "This value is null, so it does not have any indices." place
  else if key.isNull then
    refuse invalidIndex "Can't use a null value as an indexing key." place
  else if v.kind.isAny || key.kind.isAny then .ok nothing
  else
    match v with
    | tuple items => sequenceElement items key nothing place
    | unknown (.tuple ks) _ => sequenceElement (ks.map ofKind) key nothing place
    | list k items => sequenceElement items key (ofKind k) place
    | unknown (.list k) _ => someElement key .number k place
    | map k entries => namedElement entries key (ofKind k) [] place
    | unknown (.map k) _ => someElement key .string k place
    | object entries =>
      let hint : Bytes := match key.kind with
        | .number =>
          " An object only supports looking up attributes by name, not by numeric index."
        | _ => []
      namedElement entries key nothing hint place
    | unknown (.object _) _ => someElement key .string .any place
    | _ => refuse invalidIndex "This value does not have any indices." place

def follow (v : Value) : List Step → Except Diagnostic Value
  | [] => .ok v
  | .member name r :: steps =>
    match v.member name r with
    | .ok w => w.follow steps
    | .error d => .error d
  | .index key r :: steps =>
    match v.element key r with
    | .ok w => w.follow steps
    | .error d => .error d

end Value
end DefOut.Project
