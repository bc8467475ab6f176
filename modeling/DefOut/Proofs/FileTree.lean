import DefOut.Files
import Mathlib.Data.List.Infix

set_option autoImplicit false

/-!
Trees of files as maps from places to what stands there (`Node.item?`). A path that leads somewhere
leads there also in a tree with more directories (`locate_of_folders`). Making directories only adds
directories (`grown_makeFolders`), and writing a file adds directories and, if it succeeds, changes
the place that the path leads to (`written_write`).
-/
namespace DefOut

inductive Item where
  | file (content : Bytes)
  | folder
  deriving DecidableEq

def Item.content? : Item → Option Bytes
  | file content => some content
  | folder => none

namespace Node

def item : Node → Item
  | file content => .file content
  | folder _ => .folder

def item? (n : Node) (place : List Bytes) : Option Item := (n.get? place).map item

theorem child?_setEntry (name other : Bytes) (node : Node) (entries : List (Bytes × Node)) :
    child? other (setEntry name node entries) =
      if name = other then some node else child? other entries := by
  unfold child?
  induction entries with
  | nil => by_cases h : name = other <;> simp [setEntry,h]
  | cons e rest ih =>
    by_cases he : e.1 = name
    · by_cases h : name = other <;> simp [setEntry,he,h]
    · by_cases ho : e.1 = other
      · subst ho
        simpa [setEntry,he] using fun h : name = e.1 => absurd h.symm he
      · simpa [setEntry,he,ho,List.find?_cons] using ih

theorem get?_append (n : Node) (outer inner : List Bytes) :
    n.get? (outer ++ inner) = (n.get? outer).bind (get? inner) := by
  induction outer generalizing n with
  | nil => rfl
  | cons name rest ih =>
    cases n with
    | file content => rfl
    | folder entries =>
      simp only [List.cons_append,get?]
      cases child? name entries with
      | none => rfl
      | some child => exact ih child

theorem item?_eq_folder_iff {n : Node} {place : List Bytes} :
    n.item? place = some .folder ↔ ∃ entries, n.get? place = some (folder entries) := by
  unfold item?
  cases n.get? place with
  | none => simp
  | some node => cases node <;> simp [item]

theorem item?_eq_file_iff {n : Node} {place : List Bytes} {content : Bytes} :
    n.item? place = some (.file content) ↔ n.get? place = some (file content) := by
  unfold item?
  cases n.get? place with
  | none => simp
  | some node => cases node <;> simp [item]

theorem item?_parent {n : Node} {place : List Bytes} {name : Bytes}
    (h : n.item? (place ++ [name]) ≠ none) : n.item? place = some .folder := by
  rw [item?,get?_append] at h
  rw [item?_eq_folder_iff]
  cases hp : n.get? place with
  | none => simp [hp] at h
  | some node =>
    cases node with
    | file content => simp [hp,get?] at h
    | folder entries => exact ⟨entries,rfl⟩

def IsLeaf (n : Node) : Prop := ∀ name rest, n.get? (name :: rest) = none

theorem isLeaf_file (content : Bytes) : (file content).IsLeaf := fun _ _ => rfl

theorem isLeaf_folder : (folder []).IsLeaf := fun _ _ => rfl

theorem item?_below {n : Node} {place : List Bytes} (h : n.item? place ≠ some .folder)
    (name : Bytes) (rest : List Bytes) : n.item? (place ++ name :: rest) = none := by
  rw [List.append_cons,item?,get?_append,Option.map_eq_none_iff]
  have hn : n.get? (place ++ [name]) = none := by
    by_contra hne
    have hi : n.item? (place ++ [name]) ≠ none := by simpa [item?] using hne
    exact h (item?_parent hi)
  rw [hn]
  rfl

/-- A file or an empty directory is put into a directory, where no directory is: nothing else
changes. -/
theorem item?_set {n node : Node} {parent : List Bytes} {name : Bytes} (hl : node.IsLeaf)
    (hp : n.item? parent = some .folder) (ht : n.item? (parent ++ [name]) ≠ some .folder)
    (place : List Bytes) :
    (n.set (parent ++ [name]) node).item? place =
      if place = parent ++ [name] then some node.item else n.item? place := by
  -- down the parents: at each of them only the entry on the way is another
  induction parent generalizing n place with
  | nil =>
    obtain ⟨entries,he⟩ := item?_eq_folder_iff.mp hp
    obtain rfl : n = folder entries := by simpa [get?] using he
    cases place with
    | nil => rfl
    | cons first rest =>
      simp only [List.nil_append,set,item?,get?,child?_setEntry]
      by_cases hn : name = first
      · subst hn
        cases rest with
        | nil => simp [get?]
        | cons second rest =>
          have hb := item?_below ht second rest
          simp only [List.nil_append,List.cons_append,item?,get?] at hb
          simp [hl second rest,hb]
      · simp [hn,Ne.symm hn]
  | cons outer parent ih =>
    obtain ⟨entries,he⟩ := item?_eq_folder_iff.mp hp
    cases n with
    | file content => simp [get?] at he
    | folder own =>
      cases hc : child? outer own with
      | none => simp [get?,hc] at he
      | some child =>
        have hin : ∀ rest, (folder own).item? (outer :: rest) = child.item? rest := by
          intro rest
          simp [item?,get?,hc]
        rw [hin] at hp
        rw [List.cons_append,hin] at ht
        cases place with
        | nil => rfl
        | cons first rest =>
          by_cases hf : outer = first
          · subst hf
            have hi := ih hp ht rest
            rw [hin]
            simpa [set,hc,item?,get?,child?_setEntry] using hi
          · simp [set,item?,get?,child?_setEntry,hf,Ne.symm hf]

end Node

namespace Files

def item? (fs : Files) (place : List Bytes) : Option Item := fs.root.item? place

def fileAt? (fs : Files) (place : List Bytes) : Option Bytes := (fs.item? place).bind Item.content?

/-- A path leads to a place, whether something stands there or could be put there. -/
def Leads (fs : Files) (path : Bytes) (place : List Bytes) : Prop :=
  ∃ node, fs.locate path = .ok (place,node)

theorem fileAt?_eq_some_iff {fs : Files} {place : List Bytes} {content : Bytes} :
    fs.fileAt? place = some content ↔ fs.item? place = some (.file content) := by
  unfold fileAt?
  cases fs.item? place with
  | none => simp
  | some item => cases item <;> simp [Item.content?]

/-! ### Where paths lead -/

section lookup
variable {root other : Node} {here place parts : List Bytes} {node : Option Node}

def enter (here : List Bytes) (part : Bytes) : List Bytes :=
  if part = [] ∨ part = "." then here else if part = ".." then here.tail else part :: here

theorem length_le_of_not_plain {part : Bytes} (h : part = [] ∨ part = "." ∨ part = "..") :
    part.length ≤ 255 := by
  obtain rfl | rfl | rfl := h <;> decide

theorem lookupFrom_cons_iff {part : Bytes} {rest : List Bytes} :
    lookupFrom root here (part :: rest) = .ok (place,node) ↔
      root.item? here.reverse = some .folder ∧ part.length ≤ 255 ∧
        lookupFrom root (enter here part) rest = .ok (place,node) := by
  rw [lookupFrom,Node.item?_eq_folder_iff]
  cases hn : root.get? here.reverse with
  | none => simp
  | some found =>
    cases found with
    | file content => simp
    | folder entries =>
      simp only [Option.some.injEq,Node.folder.injEq,exists_eq',true_and,enter]
      by_cases hb : part = [] ∨ part = "."
      · simp [if_pos hb,length_le_of_not_plain (hb.imp_right .inl)]
      · by_cases hp : part = ".."
        · simp [if_neg hb,if_pos hp,length_le_of_not_plain (.inr (.inr hp))]
        · rw [if_neg hb,if_neg hp,if_neg hb,if_neg hp]
          by_cases hl : 255 < part.length
          · simp [hl,Nat.not_le.mpr hl]
          · rw [if_neg hl]
            have hchild : root.get? (here.reverse ++ [part]) = Node.child? part entries := by
              rw [Node.get?_append,hn]
              simp only [Option.bind_some,Node.get?]
              cases Node.child? part entries <;> rfl
            cases hc : Node.child? part entries with
            | some child => simp [Nat.not_lt.mp hl]
            | none =>
              -- a missing entry can only be the last
              cases rest with
              | nil => simp [lookupFrom,hchild,hc,Nat.not_lt.mp hl]
              | cons next rest => simp [lookupFrom,hchild,hc]

/-- A place where a path can lead: a directory, or something that is or could be in one. -/
def IsSite (root : Node) (place : List Bytes) : Prop :=
  root.item? place = some .folder ∨
    ∃ parent name, place = parent ++ [name] ∧ root.item? parent = some .folder

theorem isSite_enter (h : root.item? here.reverse = some .folder) (part : Bytes) :
    IsSite root (enter here part).reverse := by
  unfold enter
  split
  · exact .inl h
  · split
    · cases here with
      | nil => exact .inl h
      | cons name rest =>
        rw [List.reverse_cons] at h
        exact .inl (Node.item?_parent (by simp [h] : root.item? (rest.reverse ++ [name]) ≠ none))
    · exact .inr ⟨here.reverse,part,List.reverse_cons,h⟩

theorem lookupFrom_spec (hh : parts = [] → IsSite root here.reverse)
    (h : lookupFrom root here parts = .ok (place,node)) :
    node = root.get? place.reverse ∧ IsSite root place.reverse := by
  induction parts generalizing here with
  | nil =>
    obtain ⟨rfl,rfl⟩ : here = place ∧ root.get? here.reverse = node := by
      simpa [lookupFrom] using h
    exact ⟨rfl,hh rfl⟩
  | cons part rest ih =>
    obtain ⟨hf,_,hrest⟩ := lookupFrom_cons_iff.mp h
    exact ih (fun _ => isSite_enter hf part) hrest

theorem lookupFrom_of_folders
    (hk : ∀ place, root.item? place = some .folder → other.item? place = some .folder)
    (h : lookupFrom root here parts = .ok (place,node)) :
    lookupFrom other here parts = .ok (place,other.get? place.reverse) := by
  induction parts generalizing here with
  | nil =>
    obtain ⟨rfl,_⟩ : here = place ∧ root.get? here.reverse = node := by simpa [lookupFrom] using h
    rfl
  | cons part rest ih =>
    obtain ⟨hf,hl,hrest⟩ := lookupFrom_cons_iff.mp h
    exact lookupFrom_cons_iff.mpr ⟨hk _ hf,hl,ih hrest⟩

end lookup

section locate
variable {fs other : Files} {path : Bytes} {place : List Bytes} {node : Option Node}

theorem locate_eq_ok_iff : fs.locate path = .ok (place,node) ↔
    path ≠ [] ∧ 0 ∉ path ∧ path.length < 4096 ∧
      lookupFrom fs.root [] (Path.parts path) = .ok (place.reverse,node) := by
  unfold locate
  split
  · next he => simp [List.isEmpty_iff.mp he]
  · next he =>
    split
    · next hz => simp_all
    · next hz =>
      split
      · next hl => simp [Nat.not_lt.mpr hl]
      · next hl =>
        have hne : path ≠ [] := by simpa using he
        have hnz : 0 ∉ path := by simpa using hz
        simp only [hne,hnz,Nat.not_le.mp hl,ne_eq,not_false_eq_true,true_and]
        cases lookupFrom fs.root [] (Path.parts path) with
        | error e => simp
        | ok found =>
          obtain ⟨here,there⟩ := found
          simp [List.reverse_eq_iff]

theorem locate_spec (h : fs.locate path = .ok (place,node)) :
    node = fs.root.get? place ∧ IsSite fs.root place := by
  obtain ⟨_,_,_,hl⟩ := locate_eq_ok_iff.mp h
  have hs := lookupFrom_spec (fun he => absurd he (Bytes.splitOn_ne_nil _ _)) hl
  rwa [List.reverse_reverse] at hs

theorem locate_of_folders
    (hk : ∀ place, fs.item? place = some .folder → other.item? place = some .folder)
    (h : fs.locate path = .ok (place,node)) :
    other.locate path = .ok (place,other.root.get? place) := by
  obtain ⟨hne,hz,hlen,hl⟩ := locate_eq_ok_iff.mp h
  have ho := lookupFrom_of_folders hk hl
  rw [List.reverse_reverse] at ho
  exact locate_eq_ok_iff.mpr ⟨hne,hz,hlen,ho⟩

theorem Leads.mono (hk : ∀ place, fs.item? place = some .folder → other.item? place = some .folder)
    (h : fs.Leads path place) : other.Leads path place := by
  obtain ⟨node,hn⟩ := h
  exact ⟨_,locate_of_folders hk hn⟩

theorem Leads.read_eq {content : Bytes} (h : fs.Leads path place)
    (hc : fs.fileAt? place = some content) : fs.read path = .ok content := by
  obtain ⟨node,hn⟩ := h
  obtain ⟨rfl,_⟩ := locate_spec hn
  rw [Node.item?_eq_file_iff.mp (fileAt?_eq_some_iff.mp hc)] at hn
  simp [read,find,hn]

theorem item?_put {leaf : Node} (hl : leaf.IsLeaf) (h : fs.locate path = .ok (place,node))
    (hn : ∀ entries, node ≠ some (.folder entries)) (other : List Bytes) :
    item? ⟨fs.root.set place leaf⟩ other =
      if other = place then some leaf.item else fs.item? other := by
  obtain ⟨rfl,hs⟩ := locate_spec h
  have hf : fs.root.item? place ≠ some .folder := by
    rw [ne_eq,Node.item?_eq_folder_iff]
    exact fun ⟨entries,he⟩ => hn entries he
  obtain hs | ⟨parent,name,rfl,hp⟩ := hs
  · exact absurd hs hf
  · exact Node.item?_set hl hp hf other

end locate

/-! ### Making directories and writing files -/

/-- What stood in `fs` stands in `other`, and what is new there are directories that some of the
paths lead to. -/
structure Grown (paths : List Bytes) (fs other : Files) : Prop where
  kept : ∀ place item, fs.item? place = some item → other.item? place = some item
  made : ∀ place item, other.item? place = some item → fs.item? place = some item ∨
    item = .folder ∧ ∃ path ∈ paths, other.Leads path place

namespace Grown
variable {paths : List Bytes} {fs mid other : Files}

theorem refl (paths : List Bytes) (fs : Files) : Grown paths fs fs :=
  ⟨fun _ _ h => h,fun _ _ h => .inl h⟩

theorem trans (h : Grown paths fs mid) (h' : Grown paths mid other) : Grown paths fs other where
  kept place item hi := h'.kept place item (h.kept place item hi)
  made place item hi := by
    obtain hm | hnew := h'.made place item hi
    · obtain hf | ⟨rfl,path,hp,hl⟩ := h.made place item hm
      · exact .inl hf
      · exact .inr ⟨rfl,path,hp,hl.mono fun place => h'.kept place .folder⟩
    · exact .inr hnew

theorem fileAt?_eq (h : Grown paths fs other) (place : List Bytes) :
    other.fileAt? place = fs.fileAt? place := by
  apply Option.ext
  intro content
  rw [fileAt?_eq_some_iff,fileAt?_eq_some_iff]
  refine ⟨fun ho => ?_,h.kept place _⟩
  obtain hf | ⟨hd,_⟩ := h.made place _ ho
  · exact hf
  · cases hd

end Grown

theorem grown_set {fs : Files} {paths : List Bytes} {path : Bytes} {place : List Bytes}
    (hm : path ∈ paths) (h : fs.locate path = .ok (place,none)) :
    Grown paths fs ⟨fs.root.set place (.folder [])⟩ := by
  have hset := item?_put Node.isLeaf_folder h (by simp)
  have hnone : fs.item? place = none := by
    simp [item?,Node.item?,← (locate_spec h).1]
  have hk : ∀ other item, fs.item? other = some item →
      item? ⟨fs.root.set place (.folder [])⟩ other = some item := by
    intro other item hi
    rw [hset,if_neg]
    · exact hi
    · rintro rfl
      simp [hnone] at hi
  refine ⟨hk,fun other item hi => ?_⟩
  rw [hset] at hi
  split at hi
  · next he =>
    subst he
    exact .inr ⟨(Option.some.inj hi).symm,path,hm,
      Leads.mono (fun place => hk place .folder) ⟨none,h⟩⟩
  · exact .inl hi

theorem grown_makeFolders (fs : Files) (paths : List Bytes) :
    Grown paths fs (fs.makeFolders paths).1 := by
  -- the paths still to be made become fewer, those that may lead to new directories stay
  suffices h : ∀ rest, rest ⊆ paths → Grown paths fs (fs.makeFolders rest).1 from
    h paths (List.Subset.refl _)
  intro rest hr
  induction rest generalizing fs with
  | nil => exact .refl paths fs
  | cons path rest ih =>
    have hm : path ∈ paths := hr (by simp)
    have hrest : rest ⊆ paths := fun other ho => hr (by simp [ho])
    unfold makeFolders
    split
    · exact ih fs hrest
    · exact .refl paths fs
    · next hl => exact (grown_set hm hl).trans (ih _ hrest)
    · exact .refl paths fs

inductive Written {ε : Type} (path content : Bytes) (fs : Files) : Files → Except ε Unit → Prop
  | failed {other : Files} {e : ε} : Grown (ancestry (Path.directory path)) fs other →
      Written path content fs other (.error e)
  | done {mid other : Files} {place : List Bytes} :
      Grown (ancestry (Path.directory path)) fs mid → mid.Leads path place →
      mid.item? place ≠ some .folder →
      (∀ spot, other.item? spot = if spot = place then some (.file content) else mid.item? spot) →
      Written path content fs other (.ok ())

theorem written_write (fs : Files) (path content : Bytes) :
    Written path content fs (fs.write path content).1 (fs.write path content).2 := by
  have hg := grown_makeFolders fs (ancestry (Path.directory path))
  unfold write
  simp only
  generalize fs.makeFolders (ancestry (Path.directory path)) = r at hg ⊢
  obtain ⟨mid,e | u⟩ := r
  · exact .failed hg
  · simp only at hg ⊢
    split
    · exact .failed hg
    · exact .failed hg
    · next place node hl =>
      split
      · exact .failed hg
      · split
        · exact .failed hg
        · next hnf =>
          refine .done hg ⟨node,hl⟩ ?_ (item?_put (Node.isLeaf_file content) hl hnf)
          rw [item?,ne_eq,Node.item?_eq_folder_iff,← (locate_spec hl).1]
          exact fun ⟨entries,he⟩ => hnf entries he

/-- No directory is lost, and new ones are where the parents of a path lead. -/
structure ParentsMade (path : Bytes) (fs other : Files) : Prop where
  kept : ∀ place, fs.item? place = some .folder → other.item? place = some .folder
  made : ∀ place, other.item? place = some .folder → fs.item? place = some .folder ∨
    ∃ parent ∈ ancestry (Path.directory path), other.Leads parent place

theorem ParentsMade.refl (path : Bytes) (fs : Files) : ParentsMade path fs fs :=
  ⟨fun _ h => h,fun _ h => .inl h⟩

theorem Grown.parentsMade {path : Bytes} {fs other : Files}
    (h : Grown (ancestry (Path.directory path)) fs other) : ParentsMade path fs other where
  kept place := h.kept place .folder
  made place hi := (h.made place .folder hi).imp_right And.right

namespace Written
variable {ε : Type} {path content : Bytes} {fs mid other : Files} {e : ε}

theorem folder_of_set {place : List Bytes} (hn : mid.item? place ≠ some .folder)
    (hset : ∀ spot, other.item? spot =
      if spot = place then some (.file content) else mid.item? spot) (spot : List Bytes)
    (h : mid.item? spot = some .folder) : other.item? spot = some .folder := by
  rw [hset,if_neg]
  · exact h
  · rintro rfl
    exact hn h

theorem parentsMade {result : Except ε Unit} (h : Written path content fs other result) :
    ParentsMade path fs other := by
  cases h with
  | failed hg => exact hg.parentsMade
  | done hg hl hn hset =>
    have hk := folder_of_set hn hset
    refine ⟨fun spot hi => hk spot (hg.kept spot .folder hi),fun spot hi => ?_⟩
    rw [hset] at hi
    split at hi
    · cases hi
    · obtain hf | ⟨parent,hp,hl⟩ := hg.parentsMade.made spot hi
      · exact .inl hf
      · exact .inr ⟨parent,hp,hl.mono hk⟩

theorem fileAt?_of_error (h : Written path content fs other (.error e : Except ε Unit))
    (place : List Bytes) : other.fileAt? place = fs.fileAt? place := by
  cases h with
  | failed hg => exact hg.fileAt?_eq place

theorem fileAt?_of_ok (h : Written path content fs other (.ok () : Except ε Unit)) :
    ∃ place, other.Leads path place ∧ other.fileAt? place = some content ∧
      ∀ spot, spot ≠ place → other.fileAt? spot = fs.fileAt? spot := by
  cases h with
  | @done _ _ place hg hl hn hset =>
    refine ⟨place,hl.mono (folder_of_set hn hset),?_,fun spot hne => ?_⟩
    · rw [fileAt?_eq_some_iff,hset,if_pos rfl]
    · rw [← hg.fileAt?_eq,fileAt?,hset,if_neg hne,fileAt?]

end Written
end Files
end DefOut
