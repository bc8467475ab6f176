import DefOut.Bytes

set_option autoImplicit false

/-!
Values by name, one for each name. Main statement: a name reads back what was set for it last
(`Registry.get?_set`).
-/
namespace DefOut

structure Registry (α : Type) where
  entries : List (Bytes × α)

namespace Registry
variable {α : Type}

def empty : Registry α := ⟨[]⟩

def get? (r : Registry α) (name : Bytes) : Option α :=
  (r.entries.find? fun e => e.1 == name).map Prod.snd

def setIn (name : Bytes) (a : α) : List (Bytes × α) → List (Bytes × α)
  | [] => [(name, a)]
  | e :: rest => if e.1 = name then (name, a) :: rest else e :: setIn name a rest

def set (r : Registry α) (name : Bytes) (a : α) : Registry α :=
  ⟨setIn name a r.entries⟩

def names (r : Registry α) : List Bytes :=
  Bytes.sort (r.entries.map Prod.fst)

@[simp] theorem get?_empty (name : Bytes) : (empty : Registry α).get? name = none := rfl

theorem get?_set (r : Registry α) (name other : Bytes) (a : α) :
    (r.set name a).get? other = if name = other then some a else r.get? other := by
  obtain ⟨entries⟩ := r
  simp only [get?, set]
  induction entries with
  | nil => by_cases h : name = other <;> simp [setIn, h]
  | cons e rest ih =>
    by_cases he : e.1 = name
    · by_cases h : name = other
      · simp [setIn, he, h]
      · simp [setIn, he, h]
    · by_cases ho : e.1 = other
      · subst ho
        simpa [setIn, he] using fun h : name = e.1 => absurd h.symm he
      · simpa [setIn, he, ho, List.find?_cons] using ih

theorem keys_set (r : Registry α) (name : Bytes) (a : α) :
    (r.set name a).entries.map Prod.fst =
      if name ∈ r.entries.map Prod.fst then r.entries.map Prod.fst
      else r.entries.map Prod.fst ++ [name] := by
  obtain ⟨entries⟩ := r
  simp only [set]
  induction entries with
  | nil => rfl
  | cons e rest ih =>
    by_cases he : e.1 = name
    · simp [setIn, he]
    · simp only [setIn, he, if_false, List.map_cons, ih, List.mem_cons, Ne.symm he, false_or]
      split <;> rfl

end Registry

end DefOut
