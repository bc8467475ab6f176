import DefOut.Proofs.LineFeeds
import DefOut.Proofs.ShownLine

set_option autoImplicit false

/-!
Finding a line by its number in a text without carriage returns. A line is found, with its place
and its bytes, exactly when no line feed up to it is taken in by a form that its line breaks off in
(`findsLine_iff`); the lines of a well-formed text always are.
-/
namespace DefOut

/-- The lines of a text: the pieces between its line feeds, a last one that is empty left out. -/
def lineTexts (source : Bytes) : List Bytes :=
  let pieces := Bytes.splitOn 0x0A source
  if pieces.getLast? = some [] then pieces.dropLast else pieces

def endedLines (source : Bytes) : List Bytes :=
  (Bytes.splitOn 0x0A source).dropLast

/-- The range of line `n`, which is `line`: it names the file, starts and ends on the line, starts
after all bytes of the lines before it and has exactly the bytes of the line. -/
structure IsPlaceOfLine (file source : Bytes) (n : Nat) (line : Bytes) (r : Range) : Prop where
  file_eq : r.file = file
  first_line : r.first.line = n
  last_line : r.last.line = n
  first_byte : r.first.byte = (((lineTexts source).take (n-1)).flatMap (· ++ [0x0A])).length
  last_byte : r.last.byte = r.first.byte+line.length
  slice_eq : r.slice source = line

/-- Line `n` is found if there is one, and what is found is its range. -/
structure FindsLine (file source : Bytes) (n : Nat) : Prop where
  found_iff : (∃ r, sourceLine file source n = some r) ↔ n ≤ (lineTexts source).length
  placed : ∀ r, sourceLine file source n = some r →
    ∃ line, (lineTexts source)[n-1]? = some line ∧ IsPlaceOfLine file source n line r

namespace TextLine

theorem ofPieces_concat (pieces : List Bytes) (last : Bytes) :
    ofPieces (pieces ++ [last]) =
      pieces.map (ofPiece · [0x0A]) ++ if last = [] then [] else [ofPiece last []] := by
  induction pieces with
  | nil => simp [ofPieces]
  | cons piece rest ih =>
    cases rest with
    | nil => simpa [ofPieces_cons_cons] using ih
    | cons next rest => simpa [ofPieces_cons_cons] using ih

theorem ofPiece_of_return_not_mem {piece : Bytes} (h : 0x0D ∉ piece) (lineFeed : Bytes) :
    ofPiece piece lineFeed = ⟨piece,lineFeed⟩ := by
  have he : ¬ piece.endsWith [0x0D] = true := by
    rw [endsWith_return_iff]
    rintro ⟨s,rfl⟩
    simp at h
  rw [ofPiece,if_neg he]

end TextLine

section

variable {file source : Bytes} (hr : 0x0D ∉ source)

include hr

theorem not_mem_of_mem_splitOn_newline {piece : Bytes}
    (h : piece ∈ Bytes.splitOn 0x0A source) : 0x0A ∉ piece ∧ 0x0D ∉ piece :=
  ⟨Bytes.not_mem_of_mem_splitOn h,fun hm => hr ((Bytes.infix_of_mem_splitOn h).subset hm)⟩

theorem not_mem_of_mem_endedLines {line : Bytes} (h : line ∈ endedLines source) :
    0x0A ∉ line ∧ 0x0D ∉ line :=
  not_mem_of_mem_splitOn_newline hr (List.dropLast_subset _ h)

theorem exists_textLines_eq : ∃ rest : List Bytes, rest.length ≤ 1 ∧
    (∀ line ∈ rest, 0x0A ∉ line ∧ 0x0D ∉ line) ∧
    lineTexts source = endedLines source ++ rest ∧
    textLines source = (endedLines source).map (⟨·,[0x0A]⟩) ++ rest.map (⟨·,[]⟩) := by
  obtain ⟨last,hl⟩ : ∃ last, Bytes.splitOn 0x0A source = endedLines source ++ [last] :=
    ⟨_,(List.dropLast_concat_getLast (Bytes.splitOn_ne_nil 0x0A source)).symm⟩
  have hlast : 0x0A ∉ last ∧ 0x0D ∉ last := not_mem_of_mem_splitOn_newline hr (by simp [hl])
  have hended : (endedLines source).map (TextLine.ofPiece · [0x0A]) =
      (endedLines source).map (⟨·,[0x0A]⟩) :=
    List.map_congr_left fun line hm =>
      TextLine.ofPiece_of_return_not_mem (not_mem_of_mem_endedLines hr hm).2 _
  have hsource : lineTexts source = endedLines source ++ if last = [] then [] else [last] := by
    rw [lineTexts,hl]
    by_cases he : last = [] <;> simp [he]
  refine ⟨if last = [] then [] else [last],by split <;> simp,?_,hsource,?_⟩
  · intro line hm
    split at hm
    · simp at hm
    · obtain rfl := List.mem_singleton.mp hm
      exact hlast
  · rw [textLines,hl,TextLine.ofPieces_concat,hended,
      TextLine.ofPiece_of_return_not_mem hlast.2]
    split <;> simp

theorem map_text_textLines : (textLines source).map TextLine.text = lineTexts source := by
  obtain ⟨rest,_,_,hs,ht⟩ := exists_textLines_eq hr
  simp [hs,ht,Function.comp_def]

theorem text_eq_of_getElem? {k : Nat} {line : TextLine} {text : Bytes}
    (hl : (textLines source)[k]? = some line) (ht : (lineTexts source)[k]? = some text) :
    line.text = text := by
  rw [← map_text_textLines hr,List.getElem?_map,hl] at ht
  exact Option.some.inj ht

theorem length_textLines : (textLines source).length = (lineTexts source).length := by
  rw [← map_text_textLines hr,List.length_map]

theorem le_length_endedLines {k : Nat} (h : k < (lineTexts source).length) :
    k ≤ (endedLines source).length := by
  obtain ⟨rest,hl,_,hs,_⟩ := exists_textLines_eq hr
  rw [hs,List.length_append] at h
  omega

theorem take_textLines {k : Nat} (h : k ≤ (endedLines source).length) :
    (textLines source).take k = ((endedLines source).take k).map (⟨·,[0x0A]⟩) := by
  obtain ⟨rest,_,_,_,ht⟩ := exists_textLines_eq hr
  rw [ht,List.take_append_of_le_length (by simpa using h),List.map_take]

theorem take_lineTexts {k : Nat} (h : k ≤ (endedLines source).length) :
    (lineTexts source).take k = (endedLines source).take k := by
  obtain ⟨rest,_,_,hs,_⟩ := exists_textLines_eq hr
  rw [hs,List.take_append_of_le_length h]

theorem textLines_getElem?_eq {k : Nat} {line : TextLine} (h : (textLines source)[k]? = some line) :
    0x0A ∉ line.text ∧ 0x0D ∉ line.text ∧
    (line.ending = [0x0A] ∧ (endedLines source)[k]? = some line.text ∨
      line.ending = [] ∧ (endedLines source)[k]? = none) := by
  obtain ⟨rest,_,hrest,_,ht⟩ := exists_textLines_eq hr
  rw [ht] at h
  by_cases hk : k < (endedLines source).length
  · rw [List.getElem?_append_left (by simpa using hk),List.getElem?_map] at h
    obtain ⟨text,he,rfl⟩ := Option.map_eq_some_iff.mp h
    obtain ⟨hl,hc⟩ := not_mem_of_mem_endedLines hr (List.mem_of_getElem? he)
    exact ⟨hl,hc,.inl ⟨rfl,he⟩⟩
  · rw [List.getElem?_append_right (by simpa using hk),List.getElem?_map] at h
    obtain ⟨text,he,rfl⟩ := Option.map_eq_some_iff.mp h
    obtain ⟨hl,hc⟩ := hrest text (List.mem_of_getElem? he)
    exact ⟨hl,hc,.inr ⟨rfl,List.getElem?_eq_none (by omega)⟩⟩

theorem lineEndsBefore_eq_countP {k : Nat} (h : k ≤ (endedLines source).length) :
    lineEndsBefore (textLines source) k =
      ((endedLines source).take k).countP (Text.LineFeedApart ·) := by
  rw [lineEndsBefore,take_textLines hr h,List.flatMap_map]
  have hline : ∀ line ∈ (endedLines source).take k, 0x0A ∉ line ∧ 0x0D ∉ line :=
    fun _ hm => not_mem_of_mem_endedLines hr (List.mem_of_mem_take hm)
  generalize (endedLines source).take k = lines at hline
  induction lines with
  | nil => rfl
  | cons line rest ih =>
    rw [List.forall_mem_cons] at hline
    rw [List.flatMap_cons,List.countP_append,ih hline.2,List.countP_cons,TextLine.whole,
      Text.countP_clusters_line hline.1.1 hline.1.2]
    simp [Nat.add_comm]

theorem lineEndsBefore_le {k : Nat} (h : k ≤ (endedLines source).length) :
    lineEndsBefore (textLines source) k ≤ k := by
  rw [lineEndsBefore_eq_countP hr h]
  exact Nat.le_trans List.countP_le_length (List.length_take_le _ _)

theorem lineEndsBefore_eq_iff {k : Nat} (h : k ≤ (endedLines source).length) :
    lineEndsBefore (textLines source) k = k ↔
      ∀ line ∈ (endedLines source).take k, Text.LineFeedApart line := by
  have hlen : ((endedLines source).take k).length = k := List.length_take_of_le h
  conv_lhs => rhs; rw [← hlen]
  rw [lineEndsBefore_eq_countP hr h,List.countP_eq_length]
  simp

theorem bytesBefore_textLines {k : Nat} (h : k ≤ (endedLines source).length) :
    bytesBefore (textLines source) k =
      ((lineTexts source).take k).flatMap (· ++ [0x0A]) := by
  rw [bytesBefore,take_textLines hr h,take_lineTexts hr h,List.flatMap_map]
  rfl

end

theorem clustersBefore_append {init rest : List Bytes} (h : ∀ cluster ∈ init, cluster ≠ [])
    (size : Nat) :
    clustersBefore (init.flatten.length+size) (init ++ rest) =
      init ++ clustersBefore size rest := by
  induction init with
  | nil => simp
  | cons cluster init ih =>
    rw [List.forall_mem_cons] at h
    have hpos := List.length_pos_iff.mpr h.1
    rw [List.flatten_cons,List.length_append,Nat.add_assoc,List.cons_append,clustersBefore,
      if_neg (by omega),Nat.add_sub_cancel_left,ih h.2,List.cons_append]

theorem clustersBefore_clusters (s : Bytes) :
    clustersBefore s.length (Text.clusters s) = Text.clusters s := by
  have hne : ∀ cluster ∈ Text.clusters s, cluster ≠ [] := fun _ => Text.ne_nil_of_mem_clusters
  have h : clustersBefore ((Text.clusters s).flatten.length+0) (Text.clusters s ++ []) =
      Text.clusters s ++ clustersBefore 0 [] := clustersBefore_append hne 0
  rw [Text.flatten_clusters,List.append_nil] at h
  simpa [clustersBefore] using h

theorem flatten_clustersBefore_line {line : Bytes} (hl : 0x0A ∉ line) :
    (clustersBefore line.length (Text.clusters (line ++ [0x0A]))).flatten =
      if Text.LineFeedApart line then line else line ++ [0x0A] := by
  obtain ⟨init,last,hc,hf⟩ := Text.exists_clusters_line line
  have hne : ∀ cluster ∈ init, cluster ≠ [] := fun cluster hm =>
    Text.ne_nil_of_mem_clusters (s := line ++ [0x0A]) (by rw [hc]; simp [hm])
  have hlen : line.length = init.flatten.length+last.length := by rw [← hf,List.length_append]
  rw [hc,hlen,clustersBefore_append hne]
  simp only [Text.lineFeedApart_iff hl hc hf]
  cases last with
  | nil => simpa [clustersBefore] using hf
  | cons c last => simp [clustersBefore,← hf]

theorem placeLines_last {start : Position} {file : Bytes} {lines : List TextLine} {k : Nat}
    {line : TextLine} {placed : Range × Bytes}
    (h : (placeLines file start lines)[k]? = some placed) (hl : lines[k]? = some line) :
    placed.1.file = file ∧
    placed.1.last = (clustersBefore line.text.length (Text.clusters line.whole)).foldl
      (Text.stepOver .anyReturn) placed.1.first := by
  induction lines generalizing start k with
  | nil => simp at hl
  | cons first rest ih =>
    cases k with
    | zero =>
      obtain rfl := Option.some.inj h
      obtain rfl := Option.some.inj hl
      exact ⟨rfl,rfl⟩
    | succ k => exact ih h hl

section

variable {file source : Bytes} (hr : 0x0D ∉ source)

include hr

theorem flatten_clustersBefore_textLine {k : Nat} {line : TextLine}
    (h : (textLines source)[k]? = some line) :
    let shown := (clustersBefore line.text.length (Text.clusters line.whole)).flatten
    (shown = line.text ∧ ∀ text ∈ (endedLines source)[k]?, Text.LineFeedApart text) ∨
      (shown = line.text ++ [0x0A] ∧
        ¬ ∀ text ∈ (endedLines source)[k]?, Text.LineFeedApart text) := by
  obtain ⟨hl,_,⟨he,hk⟩ | ⟨he,hk⟩⟩ := textLines_getElem?_eq hr h
  · by_cases ha : Text.LineFeedApart line.text <;>
      simp [TextLine.whole,he,hk,flatten_clustersBefore_line hl,ha]
  · simp [TextLine.whole,he,hk,clustersBefore_clusters,Text.flatten_clusters]

theorem placedLines_lt {k : Nat} {placed : Range × Bytes}
    (h : (placedLines file source)[k]? = some placed) : k < (lineTexts source).length := by
  have hlt := (List.getElem?_eq_some_iff.mp h).1
  rwa [placedLines,length_placeLines,length_textLines hr] at hlt

theorem first_byte_placedLines {k : Nat} {placed : Range × Bytes}
    (h : (placedLines file source)[k]? = some placed) :
    placed.1.first.byte = (((lineTexts source).take k).flatMap (· ++ [0x0A])).length := by
  obtain ⟨_,_,_,hbyte,_⟩ := placeLines_getElem? h
  rw [hbyte,bytesBefore_textLines hr (le_length_endedLines hr (placedLines_lt hr h))]
  exact Int.zero_add _

/-- The place of a line ends with its text, on the same line, exactly when the line feed after it,
if there is one, stands apart; else it holds the line feed as well. -/
theorem placedLines_last_cases {k : Nat} {text : Bytes} {placed : Range × Bytes}
    (hk : (placedLines file source)[k]? = some placed) (ht : (lineTexts source)[k]? = some text) :
    placed.1.file = file ∧
    ((∀ line ∈ (endedLines source)[k]?, Text.LineFeedApart line) ∧
        placed.1.last.line = placed.1.first.line ∧
        placed.1.last.byte = placed.1.first.byte+text.length ∨
      (¬ ∀ line ∈ (endedLines source)[k]?, Text.LineFeedApart line) ∧
        placed.1.last.byte = placed.1.first.byte+text.length+1) := by
  obtain ⟨line,hline,_⟩ := placeLines_getElem? hk
  obtain ⟨hfile,hlast⟩ := placeLines_last hk hline
  obtain ⟨hl,hc,_⟩ := textLines_getElem?_eq hr hline
  obtain rfl := text_eq_of_getElem? hr hline ht
  have hcases := flatten_clustersBefore_textLine hr hline
  generalize clustersBefore line.text.length (Text.clusters line.whole) = shown at hlast hcases
  have hbyte := Text.foldl_stepOver_byte .anyReturn placed.1.first shown
  have hnumber := Text.foldl_stepOver_line .anyReturn placed.1.first shown
  rw [← hlast] at hbyte hnumber
  refine ⟨hfile,?_⟩
  obtain ⟨hshown,hapart⟩ | ⟨hshown,hapart⟩ := hcases
  · have hends : shown.countP Text.LineEnd.anyReturn.matches = 0 :=
      Text.countP_lineEnds_eq_zero (by rwa [hshown]) (by rwa [hshown])
    rw [hshown] at hbyte
    exact .inl ⟨hapart,by omega,hbyte⟩
  · rw [hshown,List.length_append,List.length_singleton] at hbyte
    exact .inr ⟨hapart,by omega⟩

theorem slice_eq_text {k : Nat} {text : Bytes} {placed : Range × Bytes}
    (hk : (placedLines file source)[k]? = some placed) (ht : (lineTexts source)[k]? = some text)
    (h : placed.1.last.byte = placed.1.first.byte+text.length) :
    placed.1.slice source = text := by
  obtain ⟨line,hline,_⟩ := placeLines_getElem? hk
  obtain rfl := text_eq_of_getElem? hr hline ht
  have hle := le_length_endedLines hr (placedLines_lt hr hk)
  have hsource := bytesBefore_append hline
  rw [flatMap_whole_textLines,bytesBefore_textLines hr hle,TextLine.whole,
    List.append_assoc line.text] at hsource
  rw [hsource]
  exact Range.slice_of_append (first_byte_placedLines hr hk) h

theorem isPlaceOfLine_iff {k : Nat} {text : Bytes} {placed : Range × Bytes}
    (hk : (placedLines file source)[k]? = some placed) (ht : (lineTexts source)[k]? = some text) :
    IsPlaceOfLine file source (k+1) text placed.1 ↔
      ∀ line ∈ (endedLines source).take (k+1), Text.LineFeedApart line := by
  obtain ⟨_,_,hnumber,_⟩ := placeLines_getElem? hk
  have hle := le_length_endedLines hr (placedLines_lt hr hk)
  have htake : (∀ line ∈ (endedLines source).take (k+1), Text.LineFeedApart line) ↔
      lineEndsBefore (textLines source) k = k ∧
        ∀ line ∈ (endedLines source)[k]?, Text.LineFeedApart line := by
    rw [lineEndsBefore_eq_iff hr hle,List.take_add_one,List.forall_mem_append]
    simp
  simp only [Position.start] at hnumber
  rw [htake]
  obtain ⟨hfile,⟨hapart,hline,hbyte⟩ | ⟨hapart,hbyte⟩⟩ := placedLines_last_cases hr hk ht
  · constructor
    · intro hplace
      have hfirst := hplace.first_line
      exact ⟨by omega,hapart⟩
    · rintro ⟨hcount,_⟩
      exact ⟨hfile,by omega,by omega,first_byte_placedLines hr hk,hbyte,
        slice_eq_text hr hk ht hbyte⟩
  · constructor
    · intro hplace
      have hlast := hplace.last_byte
      omega
    · exact fun h => absurd h.2 hapart

theorem sourceLine_eq_none {n : Nat} (h : (lineTexts source).length < n) :
    sourceLine file source n = none := by
  rw [Option.eq_none_iff_forall_ne_some]
  intro r hfound
  obtain ⟨k,placed,hk,_,hnumber,_⟩ := sourceLine_eq_some hfound
  have hlt := placedLines_lt hr hk
  have hle := lineEndsBefore_le hr (le_length_endedLines hr hlt)
  omega

theorem sourceLine_eq_some_of_apart {k : Nat} {placed : Range × Bytes}
    (hk : (placedLines file source)[k]? = some placed)
    (h : ∀ line ∈ (endedLines source).take k, Text.LineFeedApart line) :
    sourceLine file source (k+1 : Nat) = some placed.1 := by
  obtain ⟨_,_,hnumber,_⟩ := placeLines_getElem? hk
  have hle := le_length_endedLines hr (placedLines_lt hr hk)
  have hcount := (lineEndsBefore_eq_iff hr hle).mpr h
  obtain ⟨hkl,hkv⟩ := List.getElem?_eq_some_iff.mp hk
  simp only [Position.start] at hnumber
  refine Option.map_eq_some_iff.mpr ⟨placed,?_,rfl⟩
  refine List.find?_eq_some_iff_getElem.mpr ⟨?_,k,hkl,hkv,?_⟩
  · rw [beq_iff_eq]
    omega
  · intro j hj
    obtain ⟨_,_,hearlier,_⟩ := placeLines_getElem? (List.getElem?_eq_getElem (Nat.lt_trans hj hkl))
    have hlej := lineEndsBefore_le hr (Nat.le_trans (Nat.le_of_lt hj) hle)
    simp only [Position.start] at hearlier
    simp only [Bool.not_eq_true',beq_eq_false_iff_ne]
    omega

theorem exists_placed {k : Nat} (h : k < (lineTexts source).length) :
    ∃ placed, (placedLines file source)[k]? = some placed := by
  rw [← length_textLines hr,← length_placeLines file .start] at h
  exact ⟨_,List.getElem?_eq_getElem h⟩

theorem apart_of_found {k : Nat} {text : Bytes} {r : Range}
    (hfound : sourceLine file source (k+1 : Nat) = some r)
    (ht : (lineTexts source)[k]? = some text) (h : IsPlaceOfLine file source (k+1) text r) :
    ∀ line ∈ (endedLines source).take (k+1), Text.LineFeedApart line := by
  obtain ⟨placed,hk⟩ : ∃ placed, (placedLines file source)[k]? = some placed :=
    exists_placed hr (List.getElem?_eq_some_iff.mp ht).1
  -- What is found starts where line `k` starts, so it is the place of this line.
  obtain ⟨j,found,hj,rfl,_⟩ := sourceLine_eq_some hfound
  obtain rfl := eq_of_first_byte_eq hj hk
    (h.first_byte.trans (first_byte_placedLines hr hk).symm)
  exact (isPlaceOfLine_iff hr hj ht).mp h

theorem findsLine_of_length_lt {n : Nat} (h : (lineTexts source).length < n) :
    FindsLine file source n := by
  have hnone : ∀ r, sourceLine file source n ≠ some r := by
    intro r hsome
    rw [sourceLine_eq_none hr h] at hsome
    cases hsome
  constructor
  · constructor
    · rintro ⟨r,hsome⟩
      exact absurd hsome (hnone r)
    · intro hle
      omega
  · exact fun r hsome => absurd hsome (hnone r)

theorem findsLine_iff_apart {n : Nat} (hn : 1 ≤ n) :
    FindsLine file source n ↔ (n ≤ (lineTexts source).length →
      ∀ line ∈ (endedLines source).take n, Text.LineFeedApart line) := by
  obtain ⟨k,rfl⟩ := Nat.exists_eq_add_of_le' hn
  constructor
  · intro hfind hle
    obtain ⟨r,hfound⟩ := hfind.found_iff.mpr hle
    obtain ⟨text,ht,hplace⟩ := hfind.placed r hfound
    exact apart_of_found hr hfound ht hplace
  · intro h
    by_cases hle : k+1 ≤ (lineTexts source).length
    · obtain ⟨placed,hk⟩ : ∃ placed, (placedLines file source)[k]? = some placed :=
        exists_placed hr hle
      have hfound := sourceLine_eq_some_of_apart hr hk
        fun line hm => h hle line (List.take_subset_take_left _ (Nat.le_succ k) hm)
      refine ⟨⟨fun _ => hle,fun _ => ⟨_,hfound⟩⟩,fun r hsome => ?_⟩
      obtain rfl := Option.some.inj (hfound.symm.trans hsome)
      have ht := List.getElem?_eq_getElem hle
      exact ⟨_,ht,(isPlaceOfLine_iff hr hk ht).mpr (h hle)⟩
    · exact findsLine_of_length_lt hr (Nat.lt_of_not_le hle)

end

/-- Line `n` is found, and exactly, unless the line feed of a line up to it is taken in by a form
that this line breaks off in. So it is found where no line up to it breaks off in a form, and in
every text of well-formed characters. -/
theorem findsLine_iff {file source : Bytes} {n : Nat} (hr : 0x0D ∉ source) (hn : 1 ≤ n) :
    (FindsLine file source n ↔ (n ≤ (lineTexts source).length →
      ∀ line ∈ (endedLines source).take n, Text.LineFeedApart line)) ∧
    ((∀ line ∈ (endedLines source).take n, Text.endsWhole line = true) →
      FindsLine file source n) ∧
    (Text.WellFormed source → FindsLine file source n) := by
  have hiff : FindsLine file source n ↔ _ := findsLine_iff_apart hr hn
  have hwhole (h : ∀ line ∈ (endedLines source).take n, Text.endsWhole line = true) :
      FindsLine file source n :=
    hiff.mpr fun _ line hm => Text.lineFeedApart_of_endsWhole (h line hm)
      (not_mem_of_mem_endedLines hr (List.mem_of_mem_take hm)).2
  refine ⟨hiff,hwhole,fun h => hwhole fun line hm => ?_⟩
  exact (h.of_mem_splitOn (List.dropLast_subset _ (List.mem_of_mem_take hm))).endsWhole

def strayBytesInside : Bytes :=
  ("\n\xE9\n" : Bytes) ++ [0xBF,0xCD] ++ ("x\nout q" : Bytes)

theorem findsLine_iff_stray_inside :
    0x0D ∉ strayBytesInside ∧ 1 ≤ 3 ∧ FindsLine "p" strayBytesInside 3 ∧
    sourceLine "p" strayBytesInside 3 = some ⟨"p",⟨3,1,4⟩,⟨3,4,7⟩⟩ := by
  have hr : 0x0D ∉ strayBytesInside := by decide
  exact ⟨hr,by decide,(findsLine_iff hr (by decide)).2.1 (by decide),by decide +kernel⟩

def brokenForm : Bytes :=
  ("def x = 1\nout x " : Bytes) ++ [0xCD] ++ ("\nout q" : Bytes)

/-- The line with the broken form is found with its line feed; the line after it is not found. -/
theorem broken_form_hides_line :
    0x0D ∉ brokenForm ∧ (lineTexts brokenForm)[2]? = some (Bytes.ofString "out q") ∧
    (∃ r, sourceLine "p" brokenForm 2 = some r ∧
      r.slice brokenForm = Bytes.ofString "out x " ++ [0xCD,0x0A]) ∧
    sourceLine "p" brokenForm 3 = none ∧ ¬ FindsLine "p" brokenForm 3 := by
  have hnone : sourceLine "p" brokenForm (3 : Nat) = none := by decide +kernel
  refine ⟨by decide,by decide,⟨⟨"p",⟨2,1,10⟩,⟨2,7,18⟩⟩,by decide +kernel,by decide⟩,hnone,?_⟩
  intro h
  obtain ⟨r,hr⟩ := h.found_iff.mpr (by decide)
  rw [hnone] at hr
  cases hr

end DefOut
