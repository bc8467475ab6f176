import DefOut.Text.Grapheme

set_option autoImplicit false

/-!
Clusters and positions. The clusters of a text are stretches of it that lose nothing, so a
position that has stepped over them stands as many bytes further as the text has, and as many
lines further as it has clusters that end one.
-/
namespace DefOut.Text

theorem formSize_pos (c : UInt8) : 0 < formSize c := by
  unfold formSize
  repeat' split
  all_goals omega

theorem characterSize?_pos {s : Bytes} {n : Nat} (h : characterSize? s = some n) : 0 < n := by
  unfold characterSize? at h
  repeat' split at h
  all_goals grind

theorem graphemeAt_pos (c : UInt8) (s : Bytes) : 0 < (graphemeAt c s).2 := by
  have hf := formSize_pos c
  have hs := @characterSize?_pos (c :: s)
  unfold graphemeAt
  dsimp only
  repeat' split
  all_goals simp_all

theorem clusterStart_pos (c : UInt8) (s : Bytes) : 0 < (clusterStart c s).2 := by
  have hg := graphemeAt_pos c s
  unfold clusterStart
  split <;> simp_all

theorem take_append_drop_pred {size : Nat} (h : 0 < size) (c : UInt8) (s : Bytes) :
    (c :: s).take size ++ s.drop (size - 1) = c :: s := by
  obtain ⟨n,rfl⟩ : ∃ n, size = n+1 := ⟨size-1,by omega⟩
  simp

theorem flatten_clustersFrom (cluster : Bytes) (state : ClusterState) (s : Bytes) :
    (clustersFrom cluster state s).flatten = cluster ++ s := by
  fun_induction clustersFrom cluster state s with
  | case1 => simp
  | case2 cluster state c s k size hg state' hn ih =>
    have hp := graphemeAt_pos c s
    rw [hg] at hp
    rw [ih,List.append_assoc,take_append_drop_pred hp]
  | case3 cluster state c s k size hg hn k' size' hs ih =>
    have hp := clusterStart_pos c s
    rw [hs] at hp
    rw [List.flatten_cons,ih,take_append_drop_pred hp]

theorem clustersFrom_alone (cluster : Bytes) (c : UInt8) (s : Bytes) :
    clustersFrom cluster .alone (c :: s) = cluster :: clusters (c :: s) := by
  rw [clustersFrom]
  rfl

theorem flatten_clusters (s : Bytes) : (clusters s).flatten = s := by
  cases s with
  | nil => rfl
  | cons c s => rw [clusters,flatten_clustersFrom,take_append_drop_pred (clusterStart_pos c s)]

theorem foldl_stepOver_byte (e : LineEnd) (p : Position) (cs : List Bytes) :
    (cs.foldl (stepOver e) p).byte = p.byte+cs.flatten.length := by
  induction cs generalizing p with
  | nil => simp
  | cons c cs ih =>
    rw [List.foldl_cons,ih,List.flatten_cons,List.length_append]
    by_cases h : e.matches c = true
    · simp only [stepOver,h,if_true]
      omega
    · simp only [stepOver,h,Bool.false_eq_true,if_false]
      omega

theorem foldl_stepOver_line (e : LineEnd) (p : Position) (cs : List Bytes) :
    (cs.foldl (stepOver e) p).line = p.line+cs.countP e.matches := by
  induction cs generalizing p with
  | nil => simp
  | cons c cs ih =>
    rw [List.foldl_cons,ih,List.countP_cons]
    by_cases h : e.matches c = true
    · simp only [stepOver,h,if_true]
      omega
    · simp [stepOver,h]

/-- The line ends of a text: line feeds, alone or after a carriage return, and carriage returns
before anything else. -/
def lineEndCount : Bytes → Nat
  | [] => 0
  | 0x0D :: 0x0A :: s => lineEndCount s+1
  | c :: s => lineEndCount s+if c = 0x0A ∨ c = 0x0D then 1 else 0

theorem lineEndCount_return {c : UInt8} (hc : c ≠ 0x0A) (s : Bytes) :
    lineEndCount (0x0D :: c :: s) = lineEndCount (c :: s)+1 := by
  rw [lineEndCount]
  · simp
  · simp [hc]

theorem lineEndCount_cons {c : UInt8} (hc : c ≠ 0x0D) (s : Bytes) :
    lineEndCount (c :: s) = lineEndCount s+if c = 0x0A then 1 else 0 := by
  rw [lineEndCount]
  · simp [hc]
  · simp [hc]

theorem graphemeAt_ascii {c : UInt8} (hc : c < 0x80) (s : Bytes) :
    graphemeAt c s = (if c = 0x0D then .carriageReturn else if c = 0x0A then .lineFeed
      else if c < 0x20 ∨ c = 0x7F then .control else .other,1) := by
  have hd : c < 0x20 ∨ c = 0x7F ∨ c < 0x7F := by
    simp only [UInt8.lt_iff_toNat_lt,← UInt8.toNat_inj,UInt8.reduceToNat] at *
    omega
  unfold graphemeAt
  grind

theorem clusterStart_ascii {c : UInt8} (hc : c < 0x80) (s : Bytes) :
    clusterStart c s = graphemeAt c s := by
  unfold clusterStart
  rw [graphemeAt_ascii hc]
  grind

/-- In a text of ASCII bytes the clusters that end a line are its line ends. The cluster being
read is one that nothing is added to, or a carriage return that may still take in a line feed. -/
theorem countP_clustersFrom_ascii {s : Bytes} (hs : ∀ c ∈ s, c < 0x80) :
    (∀ cluster state, state = .alone ∨ state = .plain →
      (clustersFrom cluster state s).countP LineEnd.anyReturn.matches =
        lineEndCount s+[cluster].countP LineEnd.anyReturn.matches) ∧
    (clustersFrom [0x0D] .afterReturn s).countP LineEnd.anyReturn.matches =
      lineEndCount (0x0D :: s) := by
  induction s with
  | nil =>
    constructor
    · intro cluster state _
      simp [clustersFrom,lineEndCount]
    · simp [clustersFrom,lineEndCount,LineEnd.matches]
  | cons c s ih =>
    obtain ⟨ihp,ihr⟩ := ih fun b hb => hs b (by simp [hb])
    have hc : c < 0x80 := hs c (by simp)
    have hg := graphemeAt_ascii hc s
    -- Whatever cluster is closed before `c`, the one that starts with it is counted alike.
    have hfresh : (clustersFrom [c] (.start (graphemeAt c s).1) s).countP
        LineEnd.anyReturn.matches = lineEndCount (c :: s) := by
      rw [hg]
      by_cases hr : c = 0x0D
      · subst c
        exact ihr
      · rw [lineEndCount_cons hr,ihp _ _ (by grind [ClusterState.start])]
        simp [LineEnd.matches,hr]
    have hcut : ∀ cluster state, ClusterState.next? state (graphemeAt c s).1 = none →
        (clustersFrom cluster state (c :: s)).countP LineEnd.anyReturn.matches =
          lineEndCount (c :: s)+[cluster].countP LineEnd.anyReturn.matches := by
      intro cluster state hn
      have hsize : (graphemeAt c s).2 = 1 := by rw [hg]
      rw [← hfresh,clustersFrom]
      simp only [hn,clusterStart_ascii hc,hsize,List.take_succ_cons,List.take_zero,Nat.sub_self,
        List.drop_zero]
      simp only [List.countP_cons,List.countP_nil]
      omega
    constructor
    · intro cluster state hst
      apply hcut
      rw [hg]
      rcases hst with rfl | rfl <;> grind [ClusterState.next?]
    · by_cases hl : c = 0x0A
      · subst c
        have ha := ihp [0x0D,0x0A] .alone (.inl rfl)
        simpa [clustersFrom,graphemeAt,ClusterState.next?,lineEndCount,LineEnd.matches] using ha
      · rw [lineEndCount_return hl,hcut]
        · rfl
        · rw [hg]
          grind [ClusterState.next?]

theorem countP_clusters_ascii {s : Bytes} (hs : ∀ c ∈ s, c < 0x80) :
    (clusters s).countP LineEnd.anyReturn.matches = lineEndCount s := by
  cases s with
  | nil => rfl
  | cons c s =>
    have h := (countP_clustersFrom_ascii hs).1 [] .alone (.inl rfl)
    rw [clustersFrom_alone] at h
    simpa [LineEnd.matches] using h

end DefOut.Text
