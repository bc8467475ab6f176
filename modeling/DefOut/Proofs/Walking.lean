import DefOut.Proofs.CleanPaths
import DefOut.Proofs.Entries
import DefOut.Proofs.FileTree

set_option autoImplicit false

/-!
Walks through directory trees. In a tree in which no directory has two entries of one name
(`Node.IsTree`) a walk meets every file once (`mem_walk_iff`), in the order in which the components
of their places come byte by byte (`pairwise_walk`). That is not the order of the paths as texts: a
directory comes where its own name stands, so `a/b` is before `a.x`. A search of a directory for
files of an ending finds just these, in that order (`ListsFiles`).
-/
namespace DefOut
namespace Node

/-- A directory tree: the entries of a directory have distinct names that paths can have as
components. -/
inductive IsTree : Node → Prop
  | file (content : Bytes) : IsTree (file content)
  | folder {entries : List (Bytes × Node)} : (∀ e ∈ entries, Path.IsPlain e.1) →
      (entries.map Prod.fst).Nodup → (∀ e ∈ entries, IsTree e.2) → IsTree (folder entries)

variable {n node : Node} {entries : List (Bytes × Node)} {name : Bytes}

/-! ### What is in a tree -/

theorem child?_eq_some_iff (h : (entries.map Prod.fst).Nodup) :
    child? name entries = some node ↔ (name,node) ∈ entries :=
  find?_name_eq_some_iff h

theorem IsTree.get? (h : n.IsTree) {place : List Bytes} (hp : n.get? place = some node) :
    node.IsTree := by
  induction place generalizing n with
  | nil =>
    obtain rfl : n = node := by simpa [Node.get?] using hp
    exact h
  | cons name rest ih =>
    cases h with
    | file content => simp [Node.get?] at hp
    | @folder entries hplain hn ht =>
      cases hc : child? name entries with
      | none => simp [Node.get?,hc] at hp
      | some child =>
        have hm := (child?_eq_some_iff hn).mp hc
        exact ih (ht _ hm) (by simpa [Node.get?,hc] using hp)

theorem IsTree.plain (h : n.IsTree) {place : List Bytes} (hp : n.get? place = some node) :
    ∀ part ∈ place, Path.IsPlain part := by
  induction place generalizing n with
  | nil => simp
  | cons name rest ih =>
    cases h with
    | file content => simp [Node.get?] at hp
    | @folder entries hplain hn ht =>
      cases hc : child? name entries with
      | none => simp [Node.get?,hc] at hp
      | some child =>
        have hm := (child?_eq_some_iff hn).mp hc
        have hr := ih (ht _ hm) (by simpa [Node.get?,hc] using hp)
        exact List.forall_mem_cons.mpr ⟨hplain _ hm,hr⟩

/-! ### Putting something into a tree -/

theorem mem_setEntry {e : Bytes × Node} (h : e ∈ setEntry name node entries) :
    e = (name,node) ∨ e ∈ entries := by
  induction entries with
  | nil => simpa [setEntry] using h
  | cons first rest ih =>
    rw [setEntry] at h
    split at h
    · exact (List.mem_cons.mp h).imp_right (List.mem_cons_of_mem _)
    · obtain rfl | h := List.mem_cons.mp h
      · exact .inr List.mem_cons_self
      · exact (ih h).imp_right (List.mem_cons_of_mem _)

theorem nodup_setEntry (h : (entries.map Prod.fst).Nodup) :
    ((setEntry name node entries).map Prod.fst).Nodup := by
  induction entries with
  | nil => simp [setEntry]
  | cons first rest ih =>
    obtain ⟨hn,hr⟩ := List.nodup_cons.mp h
    rw [setEntry]
    split
    · next he => simpa [← he] using h
    · next he =>
      refine List.nodup_cons.mpr ⟨fun hm => ?_,ih hr⟩
      obtain ⟨e,hm,hf⟩ := List.mem_map.mp hm
      obtain rfl | hm := mem_setEntry hm
      · exact he hf.symm
      · exact hn (hf ▸ List.mem_map_of_mem hm)

theorem IsTree.set (h : n.IsTree) (hnode : node.IsTree) {place : List Bytes}
    (hp : ∀ part ∈ place, Path.IsPlain part) : (n.set place node).IsTree := by
  induction place generalizing n with
  | nil => simpa [Node.set] using hnode
  | cons name rest ih =>
    obtain ⟨hname,hrest⟩ := List.forall_mem_cons.mp hp
    cases h with
    | file content => exact .file content
    | @folder entries hplain hn ht =>
      have hchild : ((child? name entries).getD (.folder [])).IsTree := by
        cases hc : child? name entries with
        | none => exact .folder (by simp) (by simp) (by simp)
        | some child => exact ht _ ((child?_eq_some_iff hn).mp hc)
      have hset := ih hchild hrest
      refine .folder (fun e he => ?_) (nodup_setEntry hn) fun e he => ?_
      · obtain rfl | he := mem_setEntry he
        · exact hname
        · exact hplain e he
      · obtain rfl | he := mem_setEntry he
        · exact hset
        · exact ht e he

/-! ### Walks -/

theorem perm_inOrder {α : Type} (entries : List (Bytes × α)) : (inOrder entries).Perm entries :=
  List.mergeSort_perm entries _

theorem increasing_inOrder {α : Type} {entries : List (Bytes × α)}
    (h : (entries.map Prod.fst).Nodup) : Increasing (inOrder entries) := by
  have hsorted : (inOrder entries).Pairwise fun a b => a.1 ≤ b.1 :=
    pairwise_mergeSort_le Prod.fst entries
  have hne : (inOrder entries).Pairwise fun a b => a.1 ≠ b.1 := by
    have hn : ((inOrder entries).map Prod.fst).Nodup :=
      ((perm_inOrder entries).map Prod.fst).nodup_iff.mpr h
    exact List.pairwise_map.mp hn
  exact hsorted.imp₂ (fun a b hle hne => Std.lt_of_le_of_ne hle hne) hne

theorem inOrder_eq {α : Type} {entries sorted : List (Bytes × α)} (hp : sorted.Perm entries)
    (hs : Increasing sorted) : inOrder entries = sorted := by
  have hn : (entries.map Prod.fst).Nodup := (hp.map _).nodup_iff.mp hs.nodup
  refine eq_of_increasing (increasing_inOrder hn) hs fun e => ?_
  rw [(perm_inOrder entries).mem_iff,hp.mem_iff]

theorem walk_folder (entries : List (Bytes × Node)) :
    walk (folder entries) =
      (inOrder entries).flatMap fun e => (walk e.2).map fun f => (e.1 :: f.1,f.2) := by
  have hbelow : (entries.attach.map fun e => (e.1.1,walk e.1.2)) =
      entries.map fun e => (e.1,walk e.2) :=
    List.attach_map_val (f := fun e : Bytes × Node => (e.1,walk e.2))
  have hsort : (inOrder entries).map (fun e => (e.1,walk e.2)) =
      inOrder (entries.map fun e => (e.1,walk e.2)) :=
    List.map_mergeSort fun _ _ _ _ => rfl
  rw [walk,hbelow,← hsort,List.flatMap_map]

theorem mem_walk_iff (h : n.IsTree) {place : List Bytes} {content : Bytes} :
    (place,content) ∈ n.walk ↔ n.get? place = some (.file content) := by
  induction h generalizing place with
  | file own => cases place <;> simp [walk,Node.get?,eq_comm]
  | @folder entries hplain hn ht ih =>
    rw [walk_folder,List.mem_flatMap]
    cases place with
    | nil => simp [Node.get?]
    | cons name rest =>
      constructor
      · rintro ⟨e,he,hm⟩
        obtain ⟨f,hf,heq⟩ := List.mem_map.mp hm
        obtain ⟨hfirst,rfl⟩ := Prod.mk.inj heq
        obtain ⟨rfl,rfl⟩ := List.cons.inj hfirst
        have he := (perm_inOrder entries).mem_iff.mp he
        rw [Node.get?,(child?_eq_some_iff hn).mpr he]
        exact (ih e he).mp hf
      · intro hg
        cases hc : child? name entries with
        | none => simp [Node.get?,hc] at hg
        | some child =>
          have hm := (child?_eq_some_iff hn).mp hc
          have hf := (ih _ hm).mpr (by simpa [Node.get?,hc] using hg)
          exact ⟨_,(perm_inOrder entries).mem_iff.mpr hm,List.mem_map_of_mem hf⟩

theorem pairwise_walk (h : n.IsTree) : n.walk.Pairwise fun f g => f.1 < g.1 := by
  induction h with
  | file own => simp [walk]
  | @folder entries hplain hn ht ih =>
    rw [walk_folder,List.pairwise_flatMap]
    constructor
    · intro e he
      have hw := ih e ((perm_inOrder entries).mem_iff.mp he)
      exact List.pairwise_map.mpr (hw.imp fun hlt => List.cons_lt_cons_iff.mpr (.inr ⟨rfl,hlt⟩))
    · refine (increasing_inOrder hn).imp fun hlt f hf g hg => ?_
      obtain ⟨_,_,rfl⟩ := List.mem_map.mp hf
      obtain ⟨_,_,rfl⟩ := List.mem_map.mp hg
      exact List.cons_lt_cons_iff.mpr (.inl hlt)

end Node

/-! ### Searching a directory -/

/-- Places below a node: those of the files whose names have an ending, in the order of their
components. -/
structure ListsFiles (n : Node) (ending : Bytes) (places : List (List Bytes)) : Prop where
  mem_iff : ∀ place, place ∈ places ↔ ∃ content name,
    n.get? place = some (.file content) ∧ place.getLast? = some name ∧ ending <:+ name
  inOrder : places.Pairwise (· < ·)

section places
variable {n : Node} {ending : Bytes} {places : List (List Bytes)}

theorem ListsFiles.nodup (h : ListsFiles n ending places) : places.Nodup := by
  refine h.inOrder.imp ?_
  rintro place _ hlt rfl
  exact List.lt_irrefl place hlt

theorem ListsFiles.ne_nil (h : ListsFiles n ending places) {place : List Bytes}
    (hp : place ∈ places) : place ≠ [] := by
  obtain ⟨_,_,_,hl,_⟩ := (h.mem_iff place).mp hp
  rintro rfl
  cases hl

theorem ListsFiles.plain (h : ListsFiles n ending places) (hn : n.IsTree) {place : List Bytes}
    (hp : place ∈ places) : ∀ part ∈ place, Path.IsPlain part := by
  obtain ⟨_,_,hg,_⟩ := (h.mem_iff place).mp hp
  exact hn.plain hg

end places

namespace Files

def pathBelow (root : Bytes) (place : List Bytes) : Bytes :=
  Path.join root (Bytes.joinWith "/" place)

theorem isTree_put {fs : Files} (h : fs.root.IsTree) (path content : Bytes) :
    (fs.put path content).root.IsTree :=
  h.set (.file content) (Path.plain_cleanParts rfl)

section search
variable {fs : Files} {root ending : Bytes} {n : Node} {entries : List (Bytes × Node)}

theorem isTree_find (h : fs.root.IsTree) (hr : fs.find root = .ok n) : n.IsTree ∧ root ≠ [] := by
  unfold find at hr
  split at hr
  · next place node hl =>
    obtain rfl := Except.ok.inj hr
    exact ⟨h.get? (locate_spec hl).1.symm,(locate_eq_ok_iff.mp hl).1⟩
  · cases hr
  · cases hr

theorem listsFiles_walk (h : n.IsTree) (he : ending ≠ []) :
    ListsFiles n ending
      ((n.walk.filter fun f => (f.1.getLastD []).endsWith ending).map Prod.fst) where
  mem_iff place := by
    have hname : (place.getLastD []).endsWith ending = true ↔
        ∃ name, place.getLast? = some name ∧ ending <:+ name := by
      cases hp : place.getLast? with
      | none => simp [List.getLastD_eq_getLast?,hp,Bytes.endsWith,he]
      | some name => simp [List.getLastD_eq_getLast?,hp,Bytes.endsWith]
    rw [List.mem_map]
    constructor
    · rintro ⟨⟨_,content⟩,hm,rfl⟩
      obtain ⟨hw,hends⟩ := List.mem_filter.mp hm
      obtain ⟨name,hn⟩ := hname.mp hends
      exact ⟨content,name,(Node.mem_walk_iff h).mp hw,hn⟩
    · rintro ⟨content,name,hg,hn⟩
      have hw := (Node.mem_walk_iff h).mpr hg
      exact ⟨_,List.mem_filter.mpr ⟨hw,hname.mpr ⟨name,hn⟩⟩,rfl⟩
  inOrder := List.pairwise_map.mpr ((Node.pairwise_walk h).filter _)

theorem withEnding_of_folder (h : fs.root.IsTree) (hr : fs.find root = .ok (.folder entries))
    (he : ending ≠ []) : ∃ places, ListsFiles (.folder entries) ending places ∧
      fs.withEnding root ending = .ok (places.map (pathBelow root)) := by
  refine ⟨_,listsFiles_walk (isTree_find h hr).1 he,?_⟩
  rw [withEnding,if_neg (by simpa using he),hr,List.map_map]
  rfl

theorem clean_pathBelow (hr : root ≠ []) {place : List Bytes} (hne : place ≠ [])
    (hp : ∀ part ∈ place, Path.IsPlain part) :
    Path.clean (pathBelow root place) = pathBelow root place ∧
      Path.cleanParts (pathBelow root place) = Path.cleanParts root ++ place := by
  refine ⟨?_,Path.cleanParts_join hr hne hp⟩
  rw [pathBelow,Path.join_eq_clean hr,Path.clean_clean]

/-- A search below a directory of any tree finds the files whose names have the ending, at any depth
and nothing else, in the order of the components of their places; every file is found once, under a
cleaned path that has these components behind those of the directory. -/
theorem withEnding_lists_files_in_order (h : fs.root.IsTree)
    (hr : fs.find root = .ok (.folder entries)) (he : ending ≠ []) :
    ∃ places, fs.withEnding root ending = .ok (places.map (pathBelow root)) ∧
      ListsFiles (.folder entries) ending places ∧ (places.map (pathBelow root)).Nodup ∧
      ∀ place ∈ places, Path.clean (pathBelow root place) = pathBelow root place ∧
        Path.cleanParts (pathBelow root place) = Path.cleanParts root ++ place := by
  obtain ⟨places,hl,hs⟩ := withEnding_of_folder h hr he
  obtain ⟨hn,hne⟩ := isTree_find h hr
  have hclean : ∀ place ∈ places, Path.clean (pathBelow root place) = pathBelow root place ∧
      Path.cleanParts (pathBelow root place) = Path.cleanParts root ++ place :=
    fun place hp => clean_pathBelow hne (hl.ne_nil hp) (hl.plain hn hp)
  have hinj : ∀ place ∈ places, ∀ other ∈ places,
      pathBelow root place = pathBelow root other → place = other := by
    intro place hp other ho heq
    have hparts := congrArg Path.cleanParts heq
    rw [(hclean place hp).2,(hclean other ho).2] at hparts
    exact List.append_cancel_left hparts
  exact ⟨places,hs,hl,List.Nodup.map_on hinj hl.nodup,hclean⟩

def nested : List (Bytes × Node) :=
  [("a.hcl",.file []),("a",.folder [("b.hcl",.file [])]),
    ("c.hcl",.folder [("d",.folder [("e.hcl",.file [])])])]

theorem withEnding_lists_files_in_order_nested :
    let fs := ((empty.put "a.hcl" []).put "a/b.hcl" []).put "c.hcl/d/e.hcl" []
    fs.withEnding "." ".hcl" = .ok [("a/b.hcl" : Bytes),"a.hcl","c.hcl/d/e.hcl"] ∧
    ∃ entries places, fs.find "." = .ok (.folder entries) ∧
      fs.withEnding "." ".hcl" = .ok (places.map (pathBelow ".")) ∧
      ListsFiles (.folder entries) ".hcl" places := by
  intro fs
  have hempty : empty.root.IsTree := .folder (by simp) (by simp) (by simp)
  have htree : fs.root.IsTree := isTree_put (isTree_put (isTree_put hempty _ _) _ _) _ _
  have hroot : fs.find "." = .ok (.folder nested) := rfl
  have hwalk : (Node.folder nested).walk =
      [([("a" : Bytes),"b.hcl"],[]),([("a.hcl" : Bytes)],[]),
        ([("c.hcl" : Bytes),"d","e.hcl"],[])] := by
    have hsorted : Node.inOrder nested = ([("a",.folder [("b.hcl",.file [])]),("a.hcl",.file []),
        ("c.hcl",.folder [("d",.folder [("e.hcl",.file [])])])] : List (Bytes × Node)) :=
      Node.inOrder_eq (.swap _ _ _) (by decide)
    rw [Node.walk_folder,hsorted]
    simp [Node.walk_folder,Node.walk,Node.inOrder]
  have hfound : fs.withEnding "." ".hcl" = .ok [("a/b.hcl" : Bytes),"a.hcl","c.hcl/d/e.hcl"] := by
    rw [withEnding,if_neg (by decide),hroot]
    simp only [hwalk]
    decide
  have hending : Bytes.ofString ".hcl" ≠ [] := by decide
  obtain ⟨places,hs,hl,_⟩ := withEnding_lists_files_in_order htree hroot hending
  exact ⟨hfound,_,places,hroot,hs,hl⟩

end search
end Files
end DefOut
