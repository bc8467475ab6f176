import DefOut.Project.Value

set_option autoImplicit false

/-!
What kinds have in common. Whether values of one kind can become values of another one is a
question about kinds (`Kind.converts`); it may still fail on a value, such as a text that spells
no number. The kind that several kinds have in common (`Kind.unify`) is one that all of them
convert to: a text is the most general of the simple kinds, and tuples and objects are taken
part by part, or else become lists and maps. The two questions need each other, because a tuple
can become a list whose elements have the common kind of its parts; a bound on the depth, which
kinds never reach, keeps the answers finite.
-/
namespace DefOut.Project

namespace Kind

mutual

def depth : Kind → Nat
  | list k | map k => k.depth + 1
  | tuple ks => depthAll ks + 1
  | object as => depthAttributes as + 1
  | _ => 0

def depthAll : List Kind → Nat
  | [] => 0
  | k :: ks => max k.depth (depthAll ks)

def depthAttributes : List (Bytes × Kind) → Nat
  | [] => 0
  | (_, k) :: as => max k.depth (depthAttributes as)

end

/-- A number of steps that suffices for kinds nested so deeply: at each depth one step looks
for the common kind, one does so again with tuples or objects replaced, and one asks whether the
kinds convert to it. -/
def steps (depth : Nat) : Nat :=
  4 * depth + 4

/-! ### Generality -/

/-- What comparisons of parts say about the whole: nothing if they disagree. -/
def combined (parts : List Ordering) : Ordering :=
  if parts.contains .lt && !parts.contains .gt then .lt
  else if parts.contains .gt && !parts.contains .lt then .gt
  else .eq

def generality : Nat → Kind → Kind → Ordering
  | 0, _, _ => .eq
  | n + 1, a, b =>
    match a, b with
    | any, any => .eq
    | _, any => .lt
    | any, _ => .gt
    | string, number | string, bool => .lt
    | number, string | bool, string => .gt
    | list a, list b | map a, map b => generality n a b
    | list _, tuple _ | map _, object _ => .lt
    | tuple _, list _ | object _, map _ => .gt
    | tuple as, tuple bs =>
      if as.length = bs.length then combined (List.zipWith (generality n) as bs) else .eq
    | object as, object bs =>
      if as.map Prod.fst = bs.map Prod.fst then
        combined (List.zipWith (fun a b => generality n a.2 b.2) as bs)
      else .eq
    | _, _ => .eq

/-- Visit nodes so that each one comes after all that are above it. `queue` has the nodes that
can be visited, and `waiting` the others with the number of nodes they wait for. -/
def visit (isAbove : Nat → Nat → Bool) : Nat → (queue : List Nat) →
    (waiting : List (Nat × Nat)) → List Nat
  | 0, _, _ | _, [], _ => []
  | n + 1, i :: queue, waiting =>
    let lowered := waiting.map fun e => if isAbove i e.1 then (e.1, e.2 - 1) else e
    let ready := lowered.filter fun e => e.2 == 0
    i :: visit isAbove n (queue ++ ready.map Prod.fst) (lowered.filter fun e => e.2 != 0)

/-- The kinds in the order in which they are tried as a common kind: more general ones first,
and otherwise as they are given. -/
def byGenerality (kinds : List Kind) : List Kind :=
  let kindAt (i : Nat) : Kind := kinds[i]?.getD any
  let bound := steps (depthAll kinds)
  let isAbove (i j : Nat) : Bool :=
    if i < j then generality bound (kindAt i) (kindAt j) == .lt
    else generality bound (kindAt j) (kindAt i) == .gt
  let nodes := List.range kinds.length
  let counts := nodes.map fun j => (j, (nodes.filter fun i => i != j && isAbove i j).length)
  let queue := (counts.filter fun e => e.2 == 0).map Prod.fst
  (visit isAbove kinds.length queue (counts.filter fun e => e.2 != 0)).map kindAt

/-! ### Conversions and common kinds -/

def parts : Kind → List Kind
  | list k | map k => [k]
  | tuple ks => ks
  | object as => as.map Prod.snd
  | _ => []

def isTuple : Kind → Bool
  | tuple _ => true
  | _ => false

def isObject : Kind → Bool
  | object _ => true
  | _ => false

def isList : Kind → Bool
  | list _ => true
  | _ => false

def isMap : Kind → Bool
  | map _ => true
  | _ => false

inductive Shape where
  | lists
  | listsAndTuples
  | maps
  | mapsAndObjects
  | tuples
  | objects
  | clash
  | mixed
  deriving DecidableEq, Repr

/-- Which rule applies to some kinds, those that are not fixed left out. -/
def shapeOf (kinds : List Kind) : Shape :=
  let fixed := kinds.filter fun k => !k.isAny
  if fixed.isEmpty then .mixed
  else if fixed.all isMap then .maps
  else if fixed.all isObject then .objects
  else if fixed.all (fun k => isMap k || isObject k) then .mapsAndObjects
  else if fixed.all isList then .lists
  else if fixed.all isTuple then .tuples
  else if fixed.all (fun k => isList k || isTuple k) then .listsAndTuples
  else if fixed.any isObject && fixed.any isTuple then .clash
  else .mixed

def columns? (rows : List (List Kind)) : Option (List (List Kind)) :=
  match rows with
  | [] => some []
  | first :: _ =>
    if rows.all fun row => row.length == first.length then
      some ((List.range first.length).map fun i => rows.filterMap fun row => row[i]?)
    else none

def sharedNames? (kinds : List Kind) : Option (List Bytes) :=
  let names : Kind → List Bytes
    | object as => as.map Prod.fst
    | _ => []
  match kinds with
  | [] => some []
  | first :: _ => if kinds.all fun k => names k == names first then some (names first) else none

/-- The kind that parts get when they are gathered under one kind; if that is not fixed, it is
the common kind of the parts, which have to be all unfixed if it is not fixed either. -/
def gathered (unify : List Kind → Option Kind) (kinds : List Kind) (want : Kind) : Option Kind :=
  if !want.isAny then some want
  else
    match unify kinds with
    | some any => if kinds.all isAny then some any else none
    | found => found

mutual

def convertsWithin : Nat → Kind → Kind → Bool
  | 0, a, b => a.same b
  | n + 1, a, b =>
    let goes (a b : Kind) : Bool := a.same b || convertsWithin n a b
    let gathers (kinds : List Kind) (want : Kind) : Bool :=
      kinds.isEmpty || (gathered (unifyWithin n) kinds want).any fun k => kinds.all (goes · k)
    match a, b with
    | _, any => true
    | any, _ => true
    | string, string | string, number | string, bool => true
    | number, string | number, number => true
    | bool, string | bool, bool => true
    | list a, list b | map a, map b => goes a b
    | tuple as, tuple bs => as.length == bs.length && (as.zip bs).all fun e => goes e.1 e.2
    | tuple as, list b => gathers as b
    | object as, map b => gathers (as.map Prod.snd) b
    | object as, object bs => bs.all fun e => (Value.entryOf e.1 as).any (goes · e.2)
    | map a, object bs => bs.all fun e => goes a e.2
    | _, _ => false

/-- The kind that all of the given kinds convert to. Tuples of one length are taken place by
place, objects with the same names attribute by attribute; otherwise tuples become lists and
objects become maps. With a kind that is not fixed among such kinds, nothing can be said. The
number bounds the depth. -/
def unifyWithin : Nat → List Kind → Option Kind
  | 0, _ => none
  | n + 1, kinds =>
    let unfixed := kinds.any isAny
    let fits (want : Kind) (k : Kind) : Bool := k.same want || convertsWithin n k want
    let fallback : Option Kind := (byGenerality kinds).find? fun want => kinds.all (fits want)
    let together (wrap : Kind → Kind) (kinds : List Kind) : Option Kind := do
      let k ← unifyWithin n (kinds.flatMap parts)
      if kinds.all (fits (wrap k)) then some (wrap k) else none
    let replaced (old : Kind → Bool) (wrap : Kind → Kind) : Option Kind := do
      let k ← together wrap (kinds.filter old)
      unifyWithin n (kinds.map fun given => if old given then k else given)
    match shapeOf kinds with
    | .mixed => fallback
    | .clash => none
    | .lists => if unfixed then some any else together list kinds
    | .maps => if unfixed then some any else together map kinds
    | .listsAndTuples =>
      match replaced isTuple list with
      | some (list k) => some (list k)
      | _ => fallback
    | .mapsAndObjects =>
      match replaced isObject map with
      | some (map k) => some (map k)
      | _ => fallback
    | .tuples =>
      if unfixed then some any
      else
        match columns? (kinds.map parts) with
        | none => together list kinds
        | some columns => do
          let k := tuple (← columns.mapM (unifyWithin n))
          if kinds.all (fits k) then some k else together list kinds
    | .objects =>
      if unfixed then some any
      else
        match sharedNames? kinds, columns? (kinds.map parts) with
        | some names, some columns => do
          let k := object (names.zip (← columns.mapM (unifyWithin n)))
          if kinds.all (fits k) then some k else together map kinds
        | _, _ => together map kinds

end

def converts (a b : Kind) : Bool :=
  convertsWithin (steps (max a.depth b.depth)) a b

def unify (kinds : List Kind) : Option Kind :=
  unifyWithin (steps (depthAll kinds)) kinds

/-- The wanted kind, with what is not fixed in it taken from the kind that is converted. -/
def filledWithin : Nat → (given want : Kind) → Kind
  | 0, _, want => want
  | n + 1, given, want =>
    let gather (kinds : List Kind) (want : Kind) : Kind :=
      match unify kinds with
      | some k => filledWithin n k want
      | none => want
    match given, want with
    | any, want => want
    | given, any => given
    | list a, list b => list (filledWithin n a b)
    | tuple as, list b => list (gather as b)
    | map a, map b => map (filledWithin n a b)
    | object as, map b => map (gather (as.map Prod.snd) b)
    | tuple as, tuple bs => tuple (List.zipWith (filledWithin n) as bs)
    | map a, object bs => object (bs.map fun e => (e.1, filledWithin n a e.2))
    | object as, object bs =>
      object (bs.map fun e => (e.1, ((Value.entryOf e.1 as).map (filledWithin n · e.2)).getD e.2))
    | _, want => want

def filled (given want : Kind) : Kind :=
  filledWithin (steps (max given.depth want.depth)) given want

def mismatch (got want : Kind) : Bytes :=
  want.label ++ " required, but have " ++ got.label

end Kind
end DefOut.Project
