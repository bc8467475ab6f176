import DefOut.Proofs.Clusters
import DefOut.Proofs.Rejections

set_option autoImplicit false

/-!
The line feed at the end of a line among the clusters of the line. It stands there as a cluster of
its own, or a form that the line breaks off in takes it in. A line whose forms have all their bytes
leaves it apart (`lineFeedApart_of_endsWhole`), and a line of well-formed characters is such a line.
-/
namespace DefOut.Text

theorem ne_nil_of_mem_clustersFrom {cluster : Bytes} {state : ClusterState} {s : Bytes}
    (h : cluster ≠ []) : ∀ found ∈ clustersFrom cluster state s, found ≠ [] := by
  fun_induction clustersFrom cluster state s with
  | case1 => simpa using h
  | case2 cluster state c s k size hg state' hn ih => exact ih (by simp [h])
  | case3 cluster state c s k size hg hn k' size' hs ih =>
    have hp := clusterStart_pos c s
    rw [hs] at hp
    rw [List.forall_mem_cons]
    exact ⟨h,ih (by simp [Nat.ne_of_gt hp])⟩

theorem ne_nil_of_mem_clusters {s found : Bytes} (h : found ∈ clusters s) : found ≠ [] := by
  cases s with
  | nil => simp [clusters] at h
  | cons c s =>
    have hp := clusterStart_pos c s
    have htake : (c :: s).take (clusterStart c s).2 ≠ [] := by
      simp [Nat.ne_of_gt hp]
    exact ne_nil_of_mem_clustersFrom htake found h

theorem exists_eq_concat_of_flatten {cs : List Bytes} {s : Bytes} {c : UInt8}
    (hne : ∀ cluster ∈ cs, cluster ≠ []) (h : cs.flatten = s ++ [c]) :
    ∃ init last, cs = init ++ [last ++ [c]] ∧ init.flatten ++ last = s := by
  obtain rfl | ⟨init,cluster,rfl⟩ := List.eq_nil_or_concat cs
  · simp at h
  · rw [List.concat_eq_append] at *
    obtain hnil | ⟨last,d,rfl⟩ := List.eq_nil_or_concat cluster
    · exact absurd hnil (hne cluster (by simp))
    · rw [List.concat_eq_append] at *
      rw [List.flatten_append,List.flatten_singleton,← List.append_assoc] at h
      obtain ⟨hs,hd⟩ := List.append_inj' h rfl
      obtain rfl : d = c := by simpa using hd
      exact ⟨init,last,rfl,hs⟩

/-- The line feed after this line is a cluster of its own. -/
def LineFeedApart (line : Bytes) : Prop :=
  [0x0A] ∈ clusters (line ++ [0x0A])

instance (line : Bytes) : Decidable (LineFeedApart line) :=
  inferInstanceAs (Decidable (_ ∈ _))

theorem exists_clusters_line (line : Bytes) :
    ∃ init last, clusters (line ++ [0x0A]) = init ++ [last ++ [0x0A]] ∧
      init.flatten ++ last = line :=
  exists_eq_concat_of_flatten (fun _ => ne_nil_of_mem_clusters) (flatten_clusters _)

theorem lineFeedApart_iff {line last : Bytes} {init : List Bytes} (hl : 0x0A ∉ line)
    (hc : clusters (line ++ [0x0A]) = init ++ [last ++ [0x0A]])
    (hf : init.flatten ++ last = line) : LineFeedApart line ↔ last = [] := by
  rw [LineFeedApart,hc,List.mem_append,List.mem_singleton]
  constructor
  · rintro (hi | he)
    · have hm : 0x0A ∈ init.flatten := List.mem_flatten.mpr ⟨_,hi,by simp⟩
      exact absurd (hf ▸ List.mem_append_left last hm) hl
    · simpa using he
  · rintro rfl
    exact .inr rfl

theorem matches_cons_of_mem {c : UInt8} {cluster s : Bytes} (hl : 0x0A ∉ s) (hr : 0x0D ∉ s)
    (h : c ∈ s) : LineEnd.anyReturn.matches (c :: cluster) = false := by
  have hcl : c ≠ 0x0A := fun he => hl (he ▸ h)
  have hcr : c ≠ 0x0D := fun he => hr (he ▸ h)
  simp [LineEnd.matches,hcl,hcr]

theorem countP_lineEnds_eq_zero {cs : List Bytes} (hl : 0x0A ∉ cs.flatten)
    (hr : 0x0D ∉ cs.flatten) : cs.countP LineEnd.anyReturn.matches = 0 := by
  rw [List.countP_eq_zero]
  intro cluster hc
  cases cluster with
  | nil => simp [LineEnd.matches]
  | cons c cluster =>
    have hm : c ∈ cs.flatten := List.mem_flatten.mpr ⟨_,hc,by simp⟩
    simp [matches_cons_of_mem hl hr hm]

theorem countP_clusters_line {line : Bytes} (hl : 0x0A ∉ line) (hr : 0x0D ∉ line) :
    (clusters (line ++ [0x0A])).countP LineEnd.anyReturn.matches =
      if LineFeedApart line then 1 else 0 := by
  obtain ⟨init,last,hc,hf⟩ := exists_clusters_line line
  have hi : init.countP LineEnd.anyReturn.matches = 0 :=
    countP_lineEnds_eq_zero (fun h => hl (hf ▸ List.mem_append_left last h))
      (fun h => hr (hf ▸ List.mem_append_left last h))
  rw [hc,List.countP_append,hi]
  simp only [lineFeedApart_iff hl hc hf]
  cases last with
  | nil => simp [LineEnd.matches]
  | cons c last =>
    have hm : c ∈ line := hf ▸ by simp
    simp [matches_cons_of_mem hl hr hm]

/-! ## Forms that a line breaks off in -/

/-- Whether the text has all bytes of the forms that start in it: no byte that announces more of
them stands too near to its end. -/
def endsWhole : Bytes → Bool
  | [] => true
  | c :: s => decide (c < 0xC0 ∨ formSize c ≤ s.length+1) && endsWhole s

theorem endsWhole_of_suffix {s t : Bytes} (h : s <:+ t) (ht : endsWhole t = true) :
    endsWhole s = true := by
  induction t with
  | nil => rwa [List.suffix_nil.mp h]
  | cons c t ih =>
    obtain rfl | h := List.suffix_cons_iff.mp h
    · exact ht
    · rw [endsWhole,Bool.and_eq_true] at ht
      exact ih h ht.2

theorem CharSet.contains_eq_false {set : CharSet} {c : Nat}
    (h : ∀ e ∈ set.edges.toList.head?, c < e) : set.contains c = false := by
  unfold CharSet.contains
  cases hs : set.edges.toList with
  | nil => rfl
  | cons e rest =>
    have he : ¬ e ≤ c := Nat.not_le.mpr (h e (by simp [hs]))
    rw [CharSet.insideAfter,if_neg he]

theorem formClass?_eq_none {form : Nat} (h : form < 0xC280) : formClass? form = none := by
  have hset {set : CharSet} {e : Nat} (he : set.edges.toList.head? = some e) (hle : 0xC280 ≤ e) :
      set.contains form = false :=
    CharSet.contains_eq_false (by simp only [he,Option.mem_some_iff,forall_eq']; omega)
  have hleading : hangulLeading.contains form = false := hset rfl (by decide)
  have hvowel : hangulVowel.contains form = false := hset rfl (by decide)
  have htrailing : hangulTrailing.contains form = false := hset rfl (by decide)
  have hcontrol : graphemeControl.contains form = false := hset rfl (by decide)
  have hextend : graphemeExtend.contains form = false := hset rfl (by decide)
  have hprepend : graphemePrepend.contains form = false := hset rfl (by decide)
  have hpicture : pictographic.contains form = false := hset rfl (by decide)
  have hjoiner : form ≠ 0xE2808D := by omega
  have hreplacement : form ≠ 0xEFBFBD := by omega
  have hregional : ¬ (0xF09F87A6 ≤ form ∧ form ≤ 0xF09F87BF) := by omega
  have hhangul : ¬ (0xEAB080 ≤ form ∧ form ≤ 0xED9EA3) := by omega
  simp only [formClass?,hjoiner,hreplacement,hregional,hleading,hvowel,htrailing,hhangul,hcontrol,
    hextend,hprepend,hpicture,if_false,Bool.false_eq_true]

theorem hangulClass?_eq_some {form : Nat} {k : GraphemeClass} (h : hangulClass? form = some k) :
    k = .hangulLV ∨ k = .hangulLVT := by
  obtain ⟨i,_,hk⟩ := List.exists_of_findSome?_eq_some h
  dsimp only at hk
  split at hk
  · exact .inl (Option.some.inj hk).symm
  · split at hk
    · exact .inr (Option.some.inj hk).symm
    · cases hk

theorem formClass?_ne_return (form : Nat) : formClass? form ≠ some .carriageReturn := by
  have hhangul : hangulClass? form ≠ some .carriageReturn := fun h => by
    simpa using hangulClass?_eq_some h
  fun_cases formClass? form
  all_goals simp_all

theorem graphemeAt_ne_return {c : UInt8} (hc : c ≠ 0x0D) (s : Bytes) :
    (graphemeAt c s).1 ≠ .carriageReturn := by
  have hf := formClass?_ne_return
  unfold graphemeAt
  dsimp only
  repeat' split
  all_goals grind

theorem graphemeAt_size (c : UInt8) (s : Bytes) :
    (graphemeAt c s).2 = 1 ∨
    (formClass? (formNumber ((c :: s).take (formSize c))) ≠ none ∧
      (graphemeAt c s).2 = formSize c) ∨
    characterSize? (c :: s) = some (graphemeAt c s).2 := by
  unfold graphemeAt
  dsimp only
  repeat' split
  all_goals simp_all

theorem characterSize?_concat_le {c e : UInt8} {s : Bytes} {n : Nat}
    (he : isContinuation e = false) (h : characterSize? (c :: (s ++ [e])) = some n) :
    n ≤ s.length+1 := by
  have hfollow (m : Nat) (hm : ((s ++ [e]).take m).length = m ∧
      ((s ++ [e]).take m).all isContinuation = true) : m ≤ s.length := by
    by_contra hlt
    have htake : (s ++ [e]).take m = s ++ [e] := List.take_of_length_le (by simp; omega)
    rw [htake] at hm
    simp [he] at hm
  simp only [characterSize?] at h
  repeat' split at h
  all_goals grind

theorem formSize_le_two {c : UInt8} (h : c < 0xC0) : formSize c ≤ 2 := by
  unfold formSize
  repeat' split
  all_goals grind

theorem graphemeAt_line_le {c : UInt8} {s : Bytes} (h : endsWhole (c :: s) = true) :
    (graphemeAt c (s ++ [0x0A])).2 ≤ s.length+1 := by
  obtain hone | ⟨hclass,hsize⟩ | hshaped := graphemeAt_size c (s ++ [0x0A])
  · omega
  · rw [hsize]
    by_contra hlt
    rw [endsWhole,Bool.and_eq_true,decide_eq_true_eq] at h
    have hstray : c < 0xC0 := h.1.resolve_right hlt
    -- A stray byte right before the line feed: together they have no class.
    have hle : formSize c ≤ 2 := formSize_le_two hstray
    obtain rfl : s = [] := List.length_eq_zero_iff.mp (by omega)
    have htwo : formSize c = 2 := by simp at hlt; omega
    refine hclass (formClass?_eq_none ?_)
    rw [htwo]
    simp only [formNumber,List.nil_append,List.take_succ_cons,List.take_zero,List.foldl_cons,
      List.foldl_nil,UInt8.lt_iff_toNat_lt,UInt8.reduceToNat] at *
    omega
  · exact characterSize?_concat_le (by decide) hshaped

theorem ClusterState.start_ne_afterReturn {k : GraphemeClass} (hk : k ≠ .carriageReturn) :
    ClusterState.start k ≠ .afterReturn := by
  cases k <;> simp_all [ClusterState.start]

theorem ClusterState.extended?_ne_afterReturn (k : GraphemeClass) :
    ClusterState.extended? k ≠ some .afterReturn := by
  cases k <;> simp [ClusterState.extended?]

theorem ClusterState.next?_ne_afterReturn {k : GraphemeClass} (hk : k ≠ .carriageReturn)
    (state : ClusterState) : state.next? k ≠ some .afterReturn := by
  unfold ClusterState.next?
  split
  all_goals simp [ClusterState.start_ne_afterReturn hk,ClusterState.extended?_ne_afterReturn]

theorem ClusterState.next?_lineFeed {state : ClusterState} (h : state ≠ .afterReturn) :
    state.next? .lineFeed = none := by
  cases state <;> simp_all [ClusterState.next?,ClusterState.extended?]

theorem clusterStart_ne_return {c : UInt8} (hc : c ≠ 0x0D) (s : Bytes) :
    (clusterStart c s).1 ≠ .carriageReturn := by
  have hg := graphemeAt_ne_return hc s
  unfold clusterStart
  split <;> simp_all

theorem clusterStart_size_le (c : UInt8) (s : Bytes) :
    (clusterStart c s).2 ≤ (graphemeAt c s).2 := by
  have hp := graphemeAt_pos c s
  unfold clusterStart
  split
  · next hg =>
    rw [hg] at hp ⊢
    exact hp
  · simp_all

/-- Whatever is read of a cluster, unless it is a carriage return, the line feed after a text that
ends whole is not added to it. -/
theorem newline_mem_clustersFrom {cluster : Bytes} {state : ClusterState} {s : Bytes}
    (hs : endsWhole s = true) (hr : 0x0D ∉ s) (hst : state ≠ .afterReturn) :
    [0x0A] ∈ clustersFrom cluster state (s ++ [0x0A]) := by
  induction hn : s.length using Nat.strongRecOn generalizing cluster state s with
  | ind n ih =>
    cases s with
    | nil =>
      have hg : graphemeAt 0x0A [] = (.lineFeed,1) := rfl
      rw [List.nil_append,clustersFrom,hg]
      simp [ClusterState.next?_lineFeed hst,clusterStart,hg,clustersFrom]
    | cons c s =>
      simp only [List.mem_cons,not_or] at hr
      have hc : c ≠ 0x0D := Ne.symm hr.1
      have hsize := graphemeAt_line_le hs
      have hstart := Nat.le_trans (clusterStart_size_le c (s ++ [0x0A])) hsize
      -- Whatever is read next, what follows it is a shorter text of the same kind.
      have hrest {cluster : Bytes} {state : ClusterState} {size : Nat} (hle : size ≤ s.length+1)
          (hst : state ≠ .afterReturn) :
          [0x0A] ∈ clustersFrom cluster state ((s ++ [0x0A]).drop (size-1)) := by
        rw [List.drop_append_of_le_length (by omega)]
        have hsuffix := List.drop_suffix (size-1) s
        refine ih _ ?_ (endsWhole_of_suffix (hsuffix.trans (List.suffix_cons c s)) hs)
          (fun h => hr.2 (hsuffix.subset h)) hst rfl
        simp at hn ⊢
        omega
      rw [List.cons_append,clustersFrom]
      dsimp only
      split
      · next state' hnext =>
        refine hrest hsize ?_
        rintro rfl
        exact ClusterState.next?_ne_afterReturn (graphemeAt_ne_return hc _) state hnext
      · refine List.mem_cons_of_mem _ (hrest hstart ?_)
        exact ClusterState.start_ne_afterReturn (clusterStart_ne_return hc _)

theorem lineFeedApart_of_endsWhole {line : Bytes} (h : endsWhole line = true)
    (hr : 0x0D ∉ line) : LineFeedApart line := by
  have hne : line ++ [0x0A] ≠ [] := by simp
  obtain ⟨c,s,hs⟩ := List.exists_cons_of_ne_nil hne
  have hm : [0x0A] ∈ clustersFrom [] .alone (line ++ [0x0A]) :=
    newline_mem_clustersFrom h hr (by decide)
  rw [LineFeedApart,hs]
  rw [hs,clustersFrom_alone,List.mem_cons] at hm
  exact hm.resolve_left (by simp)

def WellFormed (s : Bytes) : Prop :=
  ∀ symbol ∈ symbols s, symbol.code ≠ none

theorem decodeAt_eq_some {c : UInt8} {s : Bytes} {code more : Nat}
    (h : decodeAt c s = some (code,more)) :
    (c < 0xC0 ∨ formSize c = more+1) ∧ ∀ b ∈ s.take more, b < 0xC0 := by
  unfold decodeAt at h
  repeat' split at h
  all_goals grind [isContinuation,formSize]

theorem endsWhole_of_symbolsFrom {skip : Nat} {s : Bytes} (hskip : ∀ b ∈ s.take skip, b < 0xC0)
    (h : ∀ symbol ∈ symbolsFrom skip s, symbol.code ≠ none) : endsWhole s = true := by
  fun_induction symbolsFrom skip s with
  | case1 => rfl
  | case2 skip c s ih =>
    simp only [List.take_succ_cons,List.forall_mem_cons] at hskip
    rw [endsWhole,ih hskip.2 h]
    simp [hskip.1]
  | case3 c s code more hd ih =>
    obtain ⟨hc,hmore⟩ := decodeAt_eq_some hd
    have hle := decodeAt_more_le hd
    rw [endsWhole,ih hmore fun symbol hm => h symbol (List.mem_cons_of_mem _ hm),Bool.and_true,
      decide_eq_true_eq]
    exact hc.imp_right fun hsize => by omega
  | case4 c s hd ih => exact absurd rfl (h _ List.mem_cons_self)

theorem WellFormed.endsWhole {s : Bytes} (h : WellFormed s) : endsWhole s = true :=
  endsWhole_of_symbolsFrom (by simp) h

theorem symbols_append_newline (a b : Bytes) :
    symbols (a ++ 0x0A :: b) = symbols a ++ ⟨some 0x0A,[0x0A]⟩ :: symbols b :=
  symbolsFrom_append (Nat.zero_le _) (by simp [isContinuation])

theorem WellFormed.of_mem_splitOn {s line : Bytes} (h : WellFormed s)
    (hl : line ∈ Bytes.splitOn 0x0A s) : WellFormed line := by
  rw [← Bytes.joinWith_splitOn 0x0A s] at h
  generalize Bytes.splitOn 0x0A s = pieces at h hl
  induction pieces with
  | nil => simp at hl
  | cons piece rest ih =>
    cases rest with
    | nil =>
      obtain rfl : line = piece := by simpa using hl
      exact h
    | cons next rest =>
      rw [WellFormed,Bytes.joinWith_cons_cons,List.singleton_append,symbols_append_newline] at h
      simp only [List.forall_mem_append,List.forall_mem_cons] at h
      obtain rfl | hl := List.mem_cons.mp hl
      · exact h.1
      · exact ih h.2.2 hl

end DefOut.Text
