import DefOut.Project.Load
import DefOut.Proofs.Walking
import Mathlib.Data.List.Forall2

set_option autoImplicit false

/-!
The files of a project. They are the files with the right ending at the given paths and below them
(`IsProjectFile`), in the order in which a search at one path after the other meets them first
(`discover_eq_ok_iff`). A path is met again when it is spelled in the same way. Searches below
directories clean the paths, so a file is found twice only where it is given itself, in a spelling
that is not clean (`discovered_once_iff`).
-/
namespace DefOut.Project

/-- A file whose name ends in `.hcl`, at a given path or below it. -/
inductive IsProjectFile (files : Files) (path : Bytes) : Bytes → Prop
  | named {content : Bytes} : files.find path = .ok (.file content) →
      Bytes.ofString ".hcl" <:+ Path.base path → IsProjectFile files path path
  | below {entries : List (Bytes × Node)} {place : List Bytes} {content name : Bytes} :
      files.find path = .ok (.folder entries) →
      (Node.folder entries).get? place = some (.file content) → place.getLast? = some name →
      Bytes.ofString ".hcl" <:+ name → IsProjectFile files path (Files.pathBelow path place)

section search
variable {files : Files} {path file : Bytes} {found : List Bytes}

theorem mem_withEnding_iff (hw : files.root.IsTree) (h : files.withEnding path ".hcl" = .ok found) :
    file ∈ found ↔ IsProjectFile files path file := by
  have hne : Bytes.ofString ".hcl" ≠ [] := by decide
  cases hf : files.find path with
  | error e => simp [Files.withEnding,hf,hne] at h
  | ok node =>
    cases node with
    | file content =>
      have hfound : found = if (Path.base path).endsWith ".hcl" then [path] else [] := by
        have hs := h
        simp only [Files.withEnding,hf,List.isEmpty_iff,hne,if_false] at hs
        exact (Except.ok.inj hs).symm
      rw [hfound]
      constructor
      · intro hm
        split at hm
        · next hends =>
          obtain rfl := List.mem_singleton.mp hm
          exact .named hf (by simpa [Bytes.endsWith] using hends)
        · cases hm
      · intro hp
        cases hp with
        | named _ hends => simp [Bytes.endsWith,hends]
        | below hfolder => cases hf.symm.trans hfolder
    | folder entries =>
      obtain ⟨places,hl,hs⟩ := Files.withEnding_of_folder hw hf hne
      obtain rfl := Except.ok.inj (hs.symm.trans h)
      rw [List.mem_map]
      constructor
      · rintro ⟨place,hp,rfl⟩
        obtain ⟨content,name,hg,hlast,hends⟩ := (hl.mem_iff place).mp hp
        exact .below hf hg hlast hends
      · intro hp
        cases hp with
        | named hfile => cases hf.symm.trans hfile
        | below hfolder hg hlast hends =>
          cases hf.symm.trans hfolder
          exact ⟨_,(hl.mem_iff _).mpr ⟨_,_,hg,hlast,hends⟩,rfl⟩

theorem IsProjectFile.eq_of_not_clean (hw : files.root.IsTree) (h : IsProjectFile files path file)
    (hc : Path.clean file ≠ file) : file = path := by
  cases h with
  | named => rfl
  | @below entries place content name hf hg hlast =>
    obtain ⟨hn,hne⟩ := Files.isTree_find hw hf
    have hplace : place ≠ [] := by
      rintro rfl
      cases hlast
    exact absurd (Files.clean_pathBelow hne hplace (hn.plain hg)).1 hc

end search

/-! ### One path after the other -/

theorem addNew_eraseDups (found new : List Bytes) :
    addNew found.eraseDups new = (found ++ new).eraseDups := by
  unfold addNew
  induction new generalizing found with
  | nil => simp
  | cons path rest ih =>
    rw [List.foldl_cons,← eraseDups_concat,ih,List.append_assoc,List.singleton_append]

theorem foldlM_addNew_eq_ok_iff {search : Bytes → Except SearchError (List Bytes)}
    {paths found : List Bytes} (before : List Bytes) :
    paths.foldlM (fun found path => (search path).map (addNew found)) before.eraseDups =
        .ok found ↔
      ∃ lists, List.Forall₂ (fun path list => search path = .ok list) paths lists ∧
        found = (before ++ lists.flatten).eraseDups := by
  -- What the first search finds is put behind what was found before, and the others go on there.
  induction paths generalizing before with
  | nil => simp [pure,Except.pure,eq_comm]
  | cons path rest ih =>
    rw [List.foldlM_cons]
    cases hs : search path with
    | error e =>
      constructor
      · intro h
        cases h
      · rintro ⟨_,hl,_⟩
        cases hl with
        | cons hpath _ => cases hs.symm.trans hpath
    | ok list =>
      have hadd : (Except.ok list : Except SearchError _).map (addNew before.eraseDups) =
          .ok (before ++ list).eraseDups := congrArg Except.ok (addNew_eraseDups before list)
      rw [hadd]
      refine (ih _).trans ⟨?_,?_⟩
      · rintro ⟨lists,hl,rfl⟩
        exact ⟨list :: lists,.cons hs hl,by simp⟩
      · rintro ⟨_,hl,rfl⟩
        cases hl with
        | @cons _ other _ lists hpath hl =>
          obtain rfl := Except.ok.inj (hs.symm.trans hpath)
          exact ⟨lists,hl,by simp⟩

theorem discover_eq_ok_iff {files : Files} {paths found : List Bytes} :
    discover files paths = .ok found ↔
      ∃ lists, List.Forall₂ (fun path list => files.withEnding path ".hcl" = .ok list) paths lists ∧
        found = lists.flatten.eraseDups :=
  foldlM_addNew_eq_ok_iff []

theorem mem_flatten_of_forall₂ {R : Bytes → List Bytes → Prop} {paths : List Bytes}
    {lists : List (List Bytes)} (h : List.Forall₂ R paths lists) {S : Bytes → Bytes → Prop}
    (hR : ∀ path list, R path list → ∀ file, file ∈ list ↔ S path file) (file : Bytes) :
    file ∈ lists.flatten ↔ ∃ path ∈ paths, S path file := by
  induction h with
  | nil => simp
  | cons hr _ ih => simp [hR _ _ hr,ih]

theorem nodup_map_clean_iff {files : List Bytes} (h : files.Nodup) :
    (files.map Path.clean).Nodup ↔ ∀ file ∈ files, Path.clean file ≠ file →
      ∀ other ∈ files, Path.clean other = Path.clean file → other = file := by
  constructor
  · intro hn file hf _ other ho he
    exact List.inj_on_of_nodup_map hn ho hf he
  · intro hone
    refine List.Nodup.map_on (fun file hf other ho he => ?_) h
    by_cases hc : Path.clean file = file
    · by_cases hd : Path.clean other = other
      · exact hc.symm.trans (he.trans hd)
      · exact hone other ho hd file hf he
    · exact (hone file hf hc other ho he.symm).symm

/-- The discovery finds the project files at the given paths and below them, whatever these are, in
the order in which they are met first. They differ as they are spelled. Only one that is given
itself may be spelled in a way that is not clean, so they differ also when cleaned unless such a one
is met under another path as well. -/
theorem discovered_once_iff {files : Files} (hw : files.root.IsTree) {paths found : List Bytes}
    (h : discover files paths = .ok found) :
    (∃ lists, List.Forall₂ (fun path list => files.withEnding path ".hcl" = .ok list) paths lists ∧
      found = lists.flatten.eraseDups) ∧
    (∀ file, file ∈ found ↔ ∃ path ∈ paths, IsProjectFile files path file) ∧
    found.Nodup ∧
    (∀ file ∈ found, Path.clean file ≠ file → file ∈ paths) ∧
    ((found.map Path.clean).Nodup ↔ ∀ file ∈ found, Path.clean file ≠ file →
      ∀ other ∈ found, Path.clean other = Path.clean file → other = file) := by
  obtain ⟨lists,hl,rfl⟩ := discover_eq_ok_iff.mp h
  have hmem : ∀ file, file ∈ lists.flatten.eraseDups ↔
      ∃ path ∈ paths, IsProjectFile files path file := by
    intro file
    rw [List.mem_eraseDups]
    exact mem_flatten_of_forall₂ hl (fun _ _ hs _ => mem_withEnding_iff hw hs) file
  have hnodup := nodup_eraseDups lists.flatten
  refine ⟨⟨lists,hl,rfl⟩,hmem,hnodup,fun file hf hc => ?_,nodup_map_clean_iff hnodup⟩
  obtain ⟨path,hp,hfile⟩ := (hmem file).mp hf
  exact hfile.eq_of_not_clean hw hc ▸ hp

/-- A directory, a file in it that is given as well, and one that is given in an unclean spelling
only. -/
theorem discovered_once_iff_overlapping :
    let files := (Files.empty.put "d/a.hcl" []).put "b.hcl" []
    discover files ["d","d/a.hcl","./b.hcl","d/"] = .ok [("d/a.hcl" : Bytes),"./b.hcl"] ∧
    ([("d/a.hcl" : Bytes),"./b.hcl"].map Path.clean).Nodup := by
  intro files
  have hempty : Files.empty.root.IsTree := .folder (by simp) (by simp) (by simp)
  have htree : files.root.IsTree := Files.isTree_put (Files.isTree_put hempty _ _) _ _
  have hwalk : (Node.folder [("a.hcl",.file [])]).walk = [([("a.hcl" : Bytes)],[])] := by
    simp [Node.walk_folder,Node.walk,Node.inOrder]
  have hdirectory {path : Bytes} (hp : files.find path = .ok (.folder [("a.hcl",.file [])]))
      (hj : Path.join path "a.hcl" = "d/a.hcl") :
      files.withEnding path ".hcl" = .ok ["d/a.hcl"] := by
    have hending : Bytes.endsWith "a.hcl" ".hcl" = true := by decide
    rw [Files.withEnding,if_neg (by decide),hp]
    simp [hwalk,hj,hending]
  have h : discover files ["d","d/a.hcl","./b.hcl","d/"] = .ok [("d/a.hcl" : Bytes),"./b.hcl"] :=
    discover_eq_ok_iff.mpr ⟨[["d/a.hcl"],["d/a.hcl"],["./b.hcl"],["d/a.hcl"]],
      .cons (hdirectory rfl (by decide)) (.cons rfl (.cons rfl
        (.cons (hdirectory rfl (by decide)) .nil))),by decide⟩
  exact ⟨h,(discovered_once_iff htree h).2.2.2.2.mpr (by decide)⟩

/-- One project file, given in two spellings. -/
theorem file_found_in_two_spellings :
    let files := Files.empty.put "p.hcl" "program \"a\" \x7b\n source = \"1\"\n\x7d\n"
    discover files ["p.hcl","./p.hcl"] = .ok [("p.hcl" : Bytes),"./p.hcl"] ∧
    ¬ ([("p.hcl" : Bytes),"./p.hcl"].map Path.clean).Nodup ∧
    (load files ["p.hcl","./p.hcl"]).value = .error (.duplicateProgram "a" "./p.hcl" "p.hcl") := by
  decide +kernel

end DefOut.Project
