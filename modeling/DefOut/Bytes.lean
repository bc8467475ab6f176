set_option autoImplicit false

/-!
Texts as sequences of bytes. Sources, names, paths and file contents may hold any bytes, so
nothing here assumes an encoding; a string literal stands for its UTF-8 bytes.

Main operations: cutting at a byte (`splitOn`), joining (`joinWith`), and replacing every
occurrence of a text from left to right without overlaps (`replaceAll`).
-/
namespace DefOut

/-- A text: any sequence of bytes. -/
abbrev Bytes := List UInt8

namespace Bytes

def ofString (s : String) : Bytes :=
  s.toList.flatMap String.utf8EncodeChar

instance : Coe String Bytes := ⟨ofString⟩

/-- The pieces between the occurrences of `sep`. There is always at least one piece. -/
def splitOn (sep : UInt8) : Bytes → List Bytes
  | [] => [[]]
  | c :: s =>
    if c = sep then [] :: splitOn sep s
    else
      match splitOn sep s with
      | [] => [[c]]
      | piece :: rest => (c :: piece) :: rest

theorem splitOn_ne_nil (sep : UInt8) (s : Bytes) : splitOn sep s ≠ [] := by
  cases s with
  | nil => simp [splitOn]
  | cons c s =>
    unfold splitOn
    split
    · simp
    · split <;> simp

def joinWith (sep : Bytes) : List Bytes → Bytes
  | [] => []
  | [piece] => piece
  | piece :: rest => piece ++ sep ++ joinWith sep rest

theorem joinWith_splitOn (sep : UInt8) (s : Bytes) : joinWith [sep] (splitOn sep s) = s := by
  induction s with
  | nil => rfl
  | cons c s ih =>
    unfold splitOn
    split
    · next h =>
      subst h
      cases hs : splitOn c s with
      | nil => exact absurd hs (splitOn_ne_nil c s)
      | cons p r => rw [hs] at ih; simp [joinWith, ih]
    · cases hs : splitOn sep s with
      | nil => exact absurd hs (splitOn_ne_nil sep s)
      | cons p r =>
        rw [hs] at ih
        cases r with
        | nil => simpa [joinWith] using ih
        | cons q r => simpa [joinWith] using ih

/-- Replacement while `skip` bytes of the last match are still to be passed over. -/
def replaceFrom (old new : Bytes) : Nat → Bytes → Bytes
  | _, [] => []
  | skip + 1, _ :: s => replaceFrom old new skip s
  | 0, c :: s =>
    if old.isPrefixOf (c :: s) && !old.isEmpty then
      new ++ replaceFrom old new (old.length - 1) s
    else c :: replaceFrom old new 0 s

/-- Every occurrence of `old`, found from the left and without overlaps, written as `new`.
An empty `old` occurs nowhere. -/
def replaceAll (old new s : Bytes) : Bytes :=
  replaceFrom old new 0 s

def startsWith (s start : Bytes) : Bool :=
  start.isPrefixOf s

def endsWith (s ending : Bytes) : Bool :=
  ending.isSuffixOf s

def dropEnding (ending s : Bytes) : Bytes :=
  if s.endsWith ending then s.take (s.length - ending.length) else s

def trimRight (p : UInt8 → Bool) (s : Bytes) : Bytes :=
  (s.reverse.dropWhile p).reverse

theorem exists_trimRight_append (p : UInt8 → Bool) (s : Bytes) :
    ∃ ends, s = trimRight p s ++ ends ∧ ∀ c ∈ ends, p c = true := by
  refine ⟨(s.reverse.takeWhile p).reverse, ?_, fun c hc => ?_⟩
  · rw [trimRight, ← List.reverse_append, List.takeWhile_append_dropWhile, List.reverse_reverse]
  · exact List.all_eq_true.mp List.all_takeWhile c (List.mem_reverse.mp hc)

theorem getLast?_trimRight {p : UInt8 → Bool} {s : Bytes} {c : UInt8}
    (h : (trimRight p s).getLast? = some c) : p c = false := by
  have hd := List.head?_dropWhile_not p s.reverse
  rw [trimRight, List.getLast?_reverse] at h
  rwa [h] at hd

theorem trimRight_append {p : UInt8 → Bool} {kept ends : Bytes} (he : ∀ c ∈ ends, p c = true)
    (hk : ∀ c, kept.getLast? = some c → p c = false) : trimRight p (kept ++ ends) = kept := by
  have hends : ∀ c ∈ ends.reverse, p c = true := fun c hc => he c (List.mem_reverse.mp hc)
  have hkept : kept.reverse.dropWhile p = kept.reverse := by
    cases h : kept.reverse with
    | nil => rfl
    | cons c rest =>
      have hc : kept.getLast? = some c := by simp [← List.head?_reverse, h]
      simp [hk c hc]
  rw [trimRight, List.reverse_append, List.dropWhile_append_of_pos hends, hkept,
    List.reverse_reverse]

def containsText (needle : Bytes) : Bytes → Bool
  | [] => needle.isEmpty
  | c :: s => needle.isPrefixOf (c :: s) || containsText needle s

def le (a b : Bytes) : Bool :=
  decide (a ≤ b)

def sort (texts : List Bytes) : List Bytes :=
  texts.mergeSort le

def ofNat (n : Nat) : Bytes :=
  (Nat.toDigits 10 n).flatMap String.utf8EncodeChar

def ofInt : Int → Bytes
  | .ofNat n => ofNat n
  | .negSucc n => "-" ++ ofNat (n + 1)

def ofBool (b : Bool) : Bytes :=
  if b then "true" else "false"

end Bytes
end DefOut
