import DefOut.Pool
import DefOut.Snippet
import DefOut.Proofs.Clusters
import DefOut.Proofs.Lexing
import DefOut.Proofs.Rejections

set_option autoImplicit false

/-!
The line shown for a rejected program. The check numbers the statements of the trimmed text, which
separators cut as well as line feeds; the line to show is looked up by that number among the lines
of the whole text, which are numbered by the line ends read on the way. The offending text always
stands in the line that holds its statement, and that line is the one shown exactly when the two
counts agree there.
-/
namespace DefOut

namespace TextLine

def whole (line : TextLine) : Bytes := line.text ++ line.ending

def lineEnds (line : TextLine) : Nat :=
  (Text.clusters line.whole).countP Text.LineEnd.anyReturn.matches

theorem endsWith_return_iff (piece : Bytes) :
    piece.endsWith [0x0D] = true ↔ ∃ s, piece = s ++ [0x0D] := by
  rw [Bytes.endsWith,List.isSuffixOf_iff_suffix]
  exact ⟨fun ⟨s,h⟩ => ⟨s,h.symm⟩,fun ⟨s,h⟩ => ⟨s,h.symm⟩⟩

theorem whole_ofPiece (piece lineFeed : Bytes) :
    (ofPiece piece lineFeed).whole = piece ++ lineFeed := by
  unfold ofPiece whole
  split
  · next h =>
    obtain ⟨s,rfl⟩ := (endsWith_return_iff piece).mp h
    simp
  · rfl

theorem text_ofPiece (piece lineFeed : Bytes) :
    (ofPiece piece lineFeed).text = Bytes.dropEnding [0x0D] piece := by
  unfold ofPiece Bytes.dropEnding
  split
  · simp [List.dropLast_eq_take]
  · rfl

theorem mem_ending_ofPiece {piece lineFeed : Bytes} {c : UInt8}
    (h : c ∈ (ofPiece piece lineFeed).ending) : c = 0x0D ∨ c ∈ lineFeed := by
  unfold ofPiece at h
  split at h
  · simpa using h
  · exact .inr h

theorem ofPieces_cons_cons (piece next : Bytes) (rest : List Bytes) :
    ofPieces (piece :: next :: rest) = ofPiece piece [0x0A] :: ofPieces (next :: rest) := rfl

theorem flatMap_whole_ofPieces (pieces : List Bytes) :
    (ofPieces pieces).flatMap whole = Bytes.joinWith [0x0A] pieces := by
  induction pieces with
  | nil => rfl
  | cons piece rest ih =>
    cases rest with
    | nil => cases piece <;> simp [ofPieces,whole_ofPiece]
    | cons next rest =>
      rw [ofPieces_cons_cons,List.flatMap_cons,ih,whole_ofPiece,Bytes.joinWith_cons_cons,
        List.append_assoc]

theorem ofPieces_getElem? {pieces : List Bytes} {k : Nat} {line : TextLine}
    (h : (ofPieces pieces)[k]? = some line) :
    ∃ piece lineFeed, pieces[k]? = some piece ∧ line = ofPiece piece lineFeed ∧
      (lineFeed = [0x0A] ∨ k+1 = pieces.length ∧ lineFeed = [] ∧ piece ≠ []) := by
  induction pieces generalizing k with
  | nil => simp [ofPieces] at h
  | cons piece rest ih =>
    cases rest with
    | nil =>
      by_cases hp : piece = []
      · simp [ofPieces,hp] at h
      · cases k with
        | zero =>
          have hl : ofPiece piece [] = line := by simpa [ofPieces,hp] using h
          exact ⟨piece,[],rfl,hl.symm,.inr ⟨rfl,rfl,hp⟩⟩
        | succ k => simp [ofPieces,hp] at h
    | cons next rest =>
      cases k with
      | zero =>
        rw [ofPieces_cons_cons,List.getElem?_cons_zero] at h
        exact ⟨piece,[0x0A],rfl,(Option.some.inj h).symm,.inl rfl⟩
      | succ k =>
        obtain ⟨piece',lineFeed,hp,hl,hf⟩ := ih (by simpa [ofPieces_cons_cons] using h)
        exact ⟨piece',lineFeed,by simpa using hp,hl,by simpa using hf⟩

theorem exists_ofPieces_getElem? {pieces : List Bytes} {k : Nat} {piece : Bytes}
    (h : pieces[k]? = some piece) (hne : k+1 = pieces.length → piece ≠ []) :
    ∃ line, (ofPieces pieces)[k]? = some line := by
  induction pieces generalizing k with
  | nil => simp at h
  | cons first rest ih =>
    cases rest with
    | nil =>
      cases k with
      | zero =>
        obtain rfl : first = piece := by simpa using h
        have hp := hne rfl
        exact ⟨ofPiece first [],by simp [ofPieces,hp]⟩
      | succ k => simp at h
    | cons next rest =>
      cases k with
      | zero => exact ⟨_,rfl⟩
      | succ k => exact ih (by simpa using h) (by simpa using hne)

end TextLine

theorem flatMap_whole_textLines (source : Bytes) :
    (textLines source).flatMap TextLine.whole = source := by
  rw [textLines,TextLine.flatMap_whole_ofPieces]
  exact Bytes.joinWith_splitOn 0x0A source

theorem whole_ne_nil {source : Bytes} {k : Nat} {line : TextLine}
    (h : (textLines source)[k]? = some line) : line.whole ≠ [] := by
  obtain ⟨piece,lineFeed,_,rfl,hf⟩ := TextLine.ofPieces_getElem? h
  rw [TextLine.whole_ofPiece]
  obtain rfl | ⟨_,_,hp⟩ := hf
  · simp
  · simp [hp]

theorem mem_ending {source : Bytes} {k : Nat} {line : TextLine}
    (h : (textLines source)[k]? = some line) {c : UInt8} (hc : c ∈ line.ending) :
    c = 0x0D ∨ c = 0x0A := by
  obtain ⟨piece,lineFeed,_,rfl,hf⟩ := TextLine.ofPieces_getElem? h
  obtain hr | hm := TextLine.mem_ending_ofPiece hc
  · exact .inl hr
  · obtain rfl | ⟨_,rfl,_⟩ := hf
    · exact .inr (List.mem_singleton.mp hm)
    · simp at hm

theorem flatten_clustersBefore {size : Nat} {clusters : List Bytes}
    (h : size ≤ clusters.flatten.length) :
    (clustersBefore size clusters).flatten <+: clusters.flatten ∧
      size ≤ (clustersBefore size clusters).flatten.length := by
  induction clusters generalizing size with
  | nil => simpa [clustersBefore] using h
  | cons cluster rest ih =>
    unfold clustersBefore
    split
    · next hz => simp [hz]
    · simp only [List.flatten_cons,List.length_append] at *
      have hs : size-cluster.length ≤ rest.flatten.length := by omega
      obtain ⟨hp,hl⟩ := ih hs
      exact ⟨(List.prefix_append_right_inj cluster).mpr hp,by omega⟩

def lineEndsBefore (lines : List TextLine) (k : Nat) : Nat :=
  ((lines.take k).flatMap fun line => Text.clusters line.whole).countP
    Text.LineEnd.anyReturn.matches

def bytesBefore (lines : List TextLine) (k : Nat) : Bytes :=
  (lines.take k).flatMap TextLine.whole

/-- Line `k` is placed after all that is read before it, and reaches to its ending or into it. -/
theorem placeLines_getElem? {file : Bytes} {start : Position} {lines : List TextLine} {k : Nat}
    {placed : Range × Bytes} (h : (placeLines file start lines)[k]? = some placed) :
    ∃ line, lines[k]? = some line ∧
      placed.1.first.line = start.line+lineEndsBefore lines k ∧
      placed.1.first.byte = start.byte+(bytesBefore lines k).length ∧
      ∃ more, more <+: line.ending ∧
        placed.1.last.byte = placed.1.first.byte+(line.text ++ more).length := by
  induction lines generalizing start k with
  | nil => simp [placeLines] at h
  | cons line rest ih =>
    have hw : (Text.clusters (line.text ++ line.ending)).flatten = line.text ++ line.ending :=
      Text.flatten_clusters _
    cases k with
    | zero =>
      obtain rfl := Option.some.inj h
      refine ⟨line,rfl,by simp [lineEndsBefore],by simp [bytesBefore],?_⟩
      have hs : line.text.length ≤ (Text.clusters (line.text ++ line.ending)).flatten.length := by
        simp [hw]
      obtain ⟨hp,hl⟩ := flatten_clustersBefore hs
      rw [hw] at hp
      obtain ⟨more,hm⟩ := List.prefix_of_prefix_length_le (List.prefix_append _ _) hp hl
      rw [← hm] at hp
      exact ⟨more,(List.prefix_append_right_inj _).mp hp,
        by rw [hm]; exact Text.foldl_stepOver_byte _ _ _⟩
    | succ k =>
      obtain ⟨line',hl,hn,hb,hm⟩ := ih h
      refine ⟨line',hl,?_,?_,hm⟩
      · rw [hn,Text.foldl_stepOver_line]
        simp [lineEndsBefore,TextLine.whole]
        omega
      · rw [hb,Text.foldl_stepOver_byte,hw]
        simp [bytesBefore,TextLine.whole]
        omega

theorem length_placeLines (file : Bytes) (start : Position) (lines : List TextLine) :
    (placeLines file start lines).length = lines.length := by
  induction lines generalizing start with
  | nil => rfl
  | cons line rest ih => simp [placeLines,ih]

theorem bytesBefore_append {lines : List TextLine} {k : Nat} {line : TextLine}
    (h : lines[k]? = some line) :
    lines.flatMap TextLine.whole = bytesBefore lines k ++
      (line.whole ++ (lines.drop (k+1)).flatMap TextLine.whole) := by
  obtain ⟨hk,he⟩ := List.getElem?_eq_some_iff.mp h
  rw [bytesBefore,← List.flatMap_cons,← he,← List.drop_eq_getElem_cons hk,← List.flatMap_append,
    List.take_append_drop]

theorem bytesBefore_succ {lines : List TextLine} {k : Nat} {line : TextLine}
    (h : lines[k]? = some line) :
    bytesBefore lines (k+1) = bytesBefore lines k ++ line.whole := by
  simp [bytesBefore,List.take_add_one,h]

theorem length_bytesBefore_le (lines : List TextLine) {j k : Nat} (h : j ≤ k) :
    (bytesBefore lines j).length ≤ (bytesBefore lines k).length := by
  have hp : lines.take j <+: lines.take k := List.take_prefix_take_left h
  obtain ⟨rest,hr⟩ := hp
  rw [bytesBefore,bytesBefore,← hr,List.flatMap_append,List.length_append]
  omega

theorem Range.slice_of_append {r : Range} {before s after : Bytes}
    (hf : r.first.byte = before.length) (hl : r.last.byte = r.first.byte+s.length) :
    r.slice (before ++ (s ++ after)) = s := by
  have hfirst : r.first.byte.toNat = before.length := by omega
  have hlast : r.last.byte.toNat = before.length+s.length := by omega
  rw [Range.slice,hfirst,hlast,List.drop_take,Nat.add_sub_cancel_left,List.drop_left,List.take_left]

theorem slice_placedLines {file source : Bytes} {k : Nat} {placed : Range × Bytes}
    (h : (placedLines file source)[k]? = some placed) :
    ∃ line more, (textLines source)[k]? = some line ∧ (∀ c ∈ more, c = 0x0D ∨ c = 0x0A) ∧
      placed.1.slice source = line.text ++ more := by
  obtain ⟨line,hl,_,hb,more,hm,he⟩ := placeLines_getElem? h
  refine ⟨line,more,hl,fun c hc => mem_ending hl (hm.subset hc),?_⟩
  have hs := bytesBefore_append hl
  obtain ⟨last,hlast⟩ := hm
  rw [flatMap_whole_textLines,TextLine.whole,← hlast,← List.append_assoc line.text,
    List.append_assoc (line.text ++ more)] at hs
  rw [hs]
  exact Range.slice_of_append (by rw [hb]; exact Int.zero_add _) he

theorem first_byte_lt {file source : Bytes} {j k : Nat} {a b : Range × Bytes}
    (ha : (placedLines file source)[j]? = some a) (hb : (placedLines file source)[k]? = some b)
    (h : j < k) : a.1.first.byte < b.1.first.byte := by
  obtain ⟨line,hl,_,hfa,_⟩ := placeLines_getElem? ha
  obtain ⟨_,_,_,hfb,_⟩ := placeLines_getElem? hb
  have hw := List.length_pos_iff.mpr (whole_ne_nil hl)
  have hs := length_bytesBefore_le (textLines source) (Nat.succ_le_of_lt h)
  rw [bytesBefore_succ hl,List.length_append] at hs
  omega

theorem eq_of_first_byte_eq {file source : Bytes} {j k : Nat} {a b : Range × Bytes}
    (ha : (placedLines file source)[j]? = some a) (hb : (placedLines file source)[k]? = some b)
    (h : a.1.first.byte = b.1.first.byte) : j = k := by
  obtain hjk | rfl | hkj := Nat.lt_trichotomy j k
  · have hlt := first_byte_lt ha hb hjk
    omega
  · rfl
  · have hlt := first_byte_lt hb ha hkj
    omega

theorem placedLines_inj {file source : Bytes} {j k : Nat} {a b : Range × Bytes}
    (ha : (placedLines file source)[j]? = some a) (hb : (placedLines file source)[k]? = some b)
    (h : a.1 = b.1) : j = k :=
  eq_of_first_byte_eq ha hb (by rw [h])

/-- Line `k` is the first that is given the number `n`. -/
def FirstNumbered (lines : List TextLine) (k : Nat) (n : Int) : Prop :=
  1+(lineEndsBefore lines k : Int) = n ∧ ∀ j < k, 1+(lineEndsBefore lines j : Int) ≠ n

theorem FirstNumbered.unique {lines : List TextLine} {j k : Nat} {n : Int}
    (hj : FirstNumbered lines j n) (hk : FirstNumbered lines k n) : j = k := by
  obtain h | h | h := Nat.lt_trichotomy j k
  · exact absurd hj.1 (hk.2 j h)
  · exact h
  · exact absurd hk.1 (hj.2 k h)

theorem sourceLine_eq_some {file source : Bytes} {n : Int} {r : Range}
    (h : sourceLine file source n = some r) :
    ∃ k placed, (placedLines file source)[k]? = some placed ∧ placed.1 = r ∧
      FirstNumbered (textLines source) k n := by
  obtain ⟨placed,hf,rfl⟩ := Option.map_eq_some_iff.mp h
  obtain ⟨hn,k,hk,rfl,hj⟩ := List.find?_eq_some_iff_getElem.mp hf
  have hat : ∀ j (hj : j < (placedLines file source).length),
      (placedLines file source)[j].1.first.line = 1+lineEndsBefore (textLines source) j := by
    intro j hj
    obtain ⟨_,_,hline,_⟩ := placeLines_getElem? (List.getElem?_eq_getElem hj)
    exact hline
  refine ⟨k,_,List.getElem?_eq_getElem hk,rfl,?_,?_⟩
  · rw [← hat k hk]
    exact beq_iff_eq.mp hn
  · intro j hjk
    rw [← hat j (by omega)]
    simpa using hj j hjk

theorem lex_prefix_append {more : Bytes} (h : ∀ c ∈ more, c = 0x0D ∨ c = 0x0A) (s : Bytes) :
    lex Table.standard s <+: lex Table.standard (s ++ more) := by
  cases more with
  | nil => simp
  | cons c more =>
    have hc : c ∉ [0x65,0x66,0x75,0x74] := by
      obtain rfl | rfl := h c (by simp) <;> decide
    simp only [lex_standard]
    rw [lexOnce_append_cons hc]
    exact List.prefix_append _ _

theorem lex_infix_of_mem_splitOn {statement s : Bytes}
    (h : statement ∈ Bytes.splitOn Lexeme.separator s) :
    lex Table.standard statement <:+: lex Table.standard s := by
  have hj := lex_joinWith_separator (Bytes.splitOn_ne_nil Lexeme.separator s)
  rw [Bytes.joinWith_splitOn] at hj
  rw [hj]
  exact Bytes.infix_joinWith (List.mem_map_of_mem h)

theorem dropEnding_isPrefix (ending s : Bytes) : Bytes.dropEnding ending s <+: s := by
  unfold Bytes.dropEnding
  split
  · exact List.take_prefix _ _
  · exact List.prefix_refl s

theorem dropEnding_concat (c : UInt8) (s : Bytes) : Bytes.dropEnding [c] (s ++ [c]) = s := by
  simp [Bytes.dropEnding,Bytes.endsWith]

theorem dropEnding_cons_cons (c b d : UInt8) (s : Bytes) :
    Bytes.dropEnding [c] (b :: d :: s) = b :: Bytes.dropEnding [c] (d :: s) := by
  have he : Bytes.endsWith (b :: d :: s) [c] = Bytes.endsWith (d :: s) [c] := by
    rw [Bool.eq_iff_iff]
    simp [Bytes.endsWith,List.suffix_cons_iff]
  unfold Bytes.dropEnding
  rw [he]
  split <;> simp

theorem dropEnding_infix_lex {x piece : Bytes} (h : x <:+: lex Table.standard piece) :
    Bytes.dropEnding [0x0D] x <:+: lex Table.standard (Bytes.dropEnding [0x0D] piece) := by
  by_cases hp : piece.endsWith [0x0D] = true
  · obtain ⟨s,rfl⟩ := (TextLine.endsWith_return_iff piece).mp hp
    rw [dropEnding_concat]
    have hl : lex Table.standard (s ++ [0x0D]) = lex Table.standard s ++ [0x0D] := by
      simp only [lex_standard]
      rw [lexOnce_append_cons (by decide)]
      rfl
    rw [hl,List.infix_concat_iff,List.suffix_concat_iff] at h
    obtain (rfl | ⟨x,rfl,hx⟩) | hx := h
    · exact List.nil_infix
    · rw [dropEnding_concat]
      exact hx.isInfix
    · exact (dropEnding_isPrefix [0x0D] x).isInfix.trans hx
  · have he : Bytes.dropEnding [0x0D] piece = piece := by
      rw [Bytes.dropEnding,if_neg hp]
    rw [he]
    exact (dropEnding_isPrefix [0x0D] x).isInfix.trans h

theorem check_eq_some {t : Table} {lexemes : Bytes} {rejection : Rejection}
    (h : check t lexemes = some rejection) :
    ∃ (k : Nat) (line : Bytes), (Bytes.splitOn Lexeme.separator lexemes)[k]? = some line ∧
      rejection.line = k+1 ∧ rejection.text <:+: line := by
  have hl : ∃ l ∈ logicalLines lexemes, rejection.line = l.number ∧ rejection.text <:+: l.text := by
    obtain hr | ⟨_,hr⟩ := check_cases h
    · obtain ⟨l,hl,hs⟩ := List.exists_of_findSome?_eq_some hr
      obtain ⟨kind,_,rfl⟩ := Option.map_eq_some_iff.mp hs
      exact ⟨l,hl,rfl,List.infix_refl _⟩
    · obtain ⟨l,hl,hs⟩ := List.exists_of_findSome?_eq_some hr
      rw [undeclaredFrom?_eq_map] at hs
      obtain ⟨⟨n,token⟩,hfind,rfl⟩ := Option.map_eq_some_iff.mp hs
      obtain ⟨a,b,hw,_⟩ := Bytes.exists_stands_of_mem_placed (List.mem_of_find?_eq_some hfind)
      exact ⟨l,hl,rfl,a,b,(List.append_assoc a token b).trans hw.eq.symm⟩
  obtain ⟨l,hm,hn,ht⟩ := hl
  obtain ⟨earlier,later,he⟩ := List.append_of_mem hm
  obtain ⟨hs,hnum,_⟩ := enumerate_eq_append_cons he
  exact ⟨earlier.length,l.text,by rw [hs]; simp,by omega,ht⟩

def holdingLine : List Bytes → Nat → Nat
  | [], _ => 0
  | line :: rest, n =>
    let here := (Bytes.splitOn Lexeme.separator line).length
    if n < here then 0 else holdingLine rest (n-here)+1

theorem getElem?_holdingLine {lines : List Bytes} {n : Nat} {statement : Bytes}
    (h : (lines.flatMap (Bytes.splitOn Lexeme.separator))[n]? = some statement) :
    ∃ line, lines[holdingLine lines n]? = some line ∧
      statement ∈ Bytes.splitOn Lexeme.separator line := by
  induction lines generalizing n with
  | nil => simp at h
  | cons line rest ih =>
    rw [List.flatMap_cons] at h
    unfold holdingLine
    dsimp only
    split
    · next hn =>
      rw [List.getElem?_append_left hn] at h
      exact ⟨line,rfl,List.mem_of_getElem? h⟩
    · next hn =>
      rw [List.getElem?_append_right (by omega)] at h
      exact ih h

theorem trimLineEnds_concat_newline (source : Bytes) :
    trimLineEnds (source ++ [0x0A]) = trimLineEnds source := by
  simp [trimLineEnds,Bytes.trimRight]

theorem eq_nil_or_concat_of_getLast?_splitOn {sep : UInt8} {s : Bytes}
    (h : (Bytes.splitOn sep s).getLast? = some []) : s = [] ∨ ∃ init, s = init ++ [sep] := by
  obtain ⟨pieces,hp⟩ := List.getLast?_eq_some_iff.mp h
  rw [← Bytes.joinWith_splitOn sep s,hp]
  by_cases hne : pieces = []
  · exact .inl (by simp [hne])
  · exact .inr ⟨_,by rw [Bytes.joinWith_append_singleton _ hne,List.append_nil]⟩

theorem exists_textLine {source piece : Bytes} {m : Nat} (hne : source ≠ [])
    (h : (Bytes.splitOn 0x0A (trimLineEnds source))[m]? = some piece) :
    ∃ more line, (∀ c ∈ more, c = 0x0D ∨ c = 0x0A) ∧ (textLines source)[m]? = some line ∧
      line.text = Bytes.dropEnding [0x0D] (piece ++ more) := by
  obtain ⟨cut,hcut,hends⟩ := (trimmed_trimLineEnds source).cut
  obtain ⟨more,hm,hsub⟩ := Bytes.splitOn_append_getElem? h cut
  rw [← hcut] at hm
  have hlast : m+1 = (Bytes.splitOn 0x0A source).length → piece ++ more ≠ [] := by
    intro hlen he
    rw [he] at hm
    have hl : (Bytes.splitOn 0x0A source).getLast? = some [] := by
      rw [List.getLast?_eq_getElem?,← hlen]
      exact hm
    -- A last line that is empty was cut off with the line feed before it.
    obtain hs | ⟨init,hs⟩ := eq_nil_or_concat_of_getLast?_splitOn hl
    · exact hne hs
    · obtain ⟨rest,hr,_⟩ := (trimmed_trimLineEnds init).cut
      have ht : m < (Bytes.splitOn 0x0A (trimLineEnds source)).length :=
        (List.getElem?_eq_some_iff.mp h).1
      rw [hs,trimLineEnds_concat_newline,Bytes.length_splitOn] at ht
      rw [Bytes.length_splitOn,hs,hr] at hlen
      simp only [List.count_append,List.count_singleton_self] at hlen
      omega
  obtain ⟨line,hline⟩ := TextLine.exists_ofPieces_getElem? hm hlast
  obtain ⟨piece',lineFeed,hp,rfl,_⟩ := TextLine.ofPieces_getElem? hline
  obtain rfl := Option.some.inj (hm.symm.trans hp)
  exact ⟨more,_,fun c hc => hends c (hsub hc),hline,TextLine.text_ofPiece _ _⟩

/-- Over a line that ends with a line feed the count moves on by one, and by one more for every
carriage return inside the line. -/
theorem lineEndCount_concat_newline {piece : Bytes} (h : 0x0A ∉ piece) :
    Text.lineEndCount (piece ++ [0x0A]) = (Bytes.dropEnding [0x0D] piece).count 0x0D+1 := by
  induction piece with
  | nil => rfl
  | cons c piece ih =>
    simp only [List.mem_cons,not_or] at h
    have hr := ih h.2
    cases piece with
    | nil =>
      by_cases hc : c = 0x0D
      · subst c
        rfl
      · have hd : Bytes.dropEnding [0x0D] [c] = [c] := by
          simp [Bytes.dropEnding,Bytes.endsWith,List.suffix_cons_iff,Ne.symm hc]
        have hn : Bytes.dropEnding [0x0D] [] = [] := rfl
        rw [List.cons_append,Text.lineEndCount_cons hc,hr,hd,hn]
        simp [hc,Ne.symm h.1]
    | cons d piece =>
      rw [dropEnding_cons_cons,List.count_cons]
      by_cases hc : c = 0x0D
      · subst c
        have hd : d ≠ 0x0A := fun hd => h.2 (by simp [hd])
        rw [List.cons_append,List.cons_append,Text.lineEndCount_return hd]
        rw [List.cons_append] at hr
        rw [hr]
        simp
      · rw [List.cons_append,Text.lineEndCount_cons hc,hr]
        simp [hc,Ne.symm h.1]

theorem lineEndsBefore_succ {lines : List TextLine} {k : Nat} {line : TextLine}
    (h : lines[k]? = some line) :
    lineEndsBefore lines (k+1) = lineEndsBefore lines k+line.lineEnds := by
  simp [lineEndsBefore,TextLine.lineEnds,List.take_add_one,h]

def returnsBefore (lines : List TextLine) (k : Nat) : Nat :=
  ((lines.take k).flatMap TextLine.text).count 0x0D

theorem returnsBefore_succ {lines : List TextLine} {k : Nat} {line : TextLine}
    (h : lines[k]? = some line) :
    returnsBefore lines (k+1) = returnsBefore lines k+line.text.count 0x0D := by
  simp [returnsBefore,List.take_add_one,h]

theorem returnsBefore_le (lines : List TextLine) {j k : Nat} (h : j ≤ k) :
    returnsBefore lines j ≤ returnsBefore lines k := by
  have hp : lines.take j <+: lines.take k := List.take_prefix_take_left h
  obtain ⟨rest,hr⟩ := hp
  rw [returnsBefore,returnsBefore,← hr,List.flatMap_append,List.count_append]
  omega

theorem lineEnds_ascii {source : Bytes} (ha : ∀ c ∈ source, c < 0x80) {k : Nat} {line : TextLine}
    (h : (textLines source)[k]? = some line) (hk : k+1 < (textLines source).length) :
    line.lineEnds = line.text.count 0x0D+1 := by
  have hw : ∀ c ∈ line.whole, c < 0x80 := by
    intro c hc
    apply ha
    rw [← flatMap_whole_textLines source]
    exact List.mem_flatMap.mpr ⟨line,List.mem_of_getElem? h,hc⟩
  rw [TextLine.lineEnds,Text.countP_clusters_ascii hw]
  obtain ⟨piece,lineFeed,hp,rfl,hf⟩ := TextLine.ofPieces_getElem? h
  obtain ⟨_,_,hnext,_⟩ := TextLine.ofPieces_getElem? (List.getElem?_eq_getElem hk)
  have hlt := (List.getElem?_eq_some_iff.mp hnext).1
  obtain rfl | ⟨hlast,_⟩ := hf
  · rw [TextLine.whole_ofPiece,TextLine.text_ofPiece]
    exact lineEndCount_concat_newline (Bytes.not_mem_of_mem_splitOn (List.mem_of_getElem? hp))
  · omega

theorem lineEndsBefore_ascii {source : Bytes} (ha : ∀ c ∈ source, c < 0x80) {k : Nat}
    (hk : k < (textLines source).length) :
    lineEndsBefore (textLines source) k = returnsBefore (textLines source) k+k := by
  induction k with
  | zero => rfl
  | succ k ih =>
    have hl := List.getElem?_eq_getElem (Nat.lt_of_succ_lt hk)
    rw [lineEndsBefore_succ hl,returnsBefore_succ hl,ih (by omega),lineEnds_ascii ha hl hk]
    omega

theorem firstNumbered_ascii_iff {source : Bytes} (ha : ∀ c ∈ source, c < 0x80) {k : Nat}
    (hk : k < (textLines source).length) (n : Int) :
    FirstNumbered (textLines source) k n ↔ 1+k+(returnsBefore (textLines source) k : Int) = n := by
  have he := lineEndsBefore_ascii ha hk
  constructor
  · rintro ⟨hn,_⟩
    omega
  · intro hn
    refine ⟨by omega,?_⟩
    intro j hj
    have hej := lineEndsBefore_ascii ha (Nat.lt_trans hj hk)
    have hle := returnsBefore_le (textLines source) (Nat.le_of_lt hj)
    omega

def rejectedLine (text : Bytes) (rejection : Rejection) : Nat :=
  holdingLine (Bytes.splitOn 0x0A text) (rejection.line.toNat-1)

theorem rejected_text_in_line {file source kept : Bytes} {rejection : Rejection}
    (hne : source ≠ []) (hk : Trimmed source kept)
    (hc : check Table.standard (lex Table.standard kept) = some rejection) :
    ∃ placed, (placedLines file source)[rejectedLine kept rejection]? = some placed ∧
      Bytes.dropEnding [0x0D] rejection.text <:+:
        lex Table.standard (placed.1.slice source) := by
  obtain rfl := trimmed_iff.mp hk
  obtain ⟨n,lexed,hl,hn,ht⟩ := check_eq_some hc
  rw [splitOn_separator_lex,List.getElem?_map] at hl
  obtain ⟨statement,hs,rfl⟩ := Option.map_eq_some_iff.mp hl
  obtain ⟨piece,hp,hm⟩ := getElem?_holdingLine hs
  obtain ⟨more,line,hmore,hline,htext⟩ := exists_textLine hne hp
  have hlt := (List.getElem?_eq_some_iff.mp hline).1
  rw [← length_placeLines file .start] at hlt
  have hplaced := List.getElem?_eq_getElem hlt
  obtain ⟨line',shown,hline',hshown,hslice⟩ := slice_placedLines hplaced
  obtain rfl := Option.some.inj (hline.symm.trans hline')
  have hr : rejection.line.toNat-1 = n := by omega
  refine ⟨_,by rw [rejectedLine,hr]; exact hplaced,?_⟩
  -- From the statement to its line, to the same line of the whole text, to the part shown.
  have hpiece : rejection.text <:+: lex Table.standard (piece ++ more) :=
    (ht.trans (lex_infix_of_mem_splitOn hm)).trans (lex_prefix_append hmore piece).isInfix
  have htrim := dropEnding_infix_lex hpiece
  rw [← htext] at htrim
  rw [hslice]
  exact htrim.trans (lex_prefix_append hshown line.text).isInfix

/-- The rejected text stands in the line that holds its statement, and this is the line shown
exactly when it is the first one that the line ends before it give the statement's number. In an
ASCII text these are one for every line before it, and one for every carriage return inside them;
the statement's number is one for every line before it, and one for every separator. -/
theorem sourceLine_eq_rejected_line_iff {file source kept : Bytes} {rejection : Rejection}
    {r : Range} (ht : Trimmed source kept)
    (hc : check Table.standard (lex Table.standard kept) = some rejection)
    (hr : sourceLine file source rejection.line = some r) :
    ∃ placed, (placedLines file source)[rejectedLine kept rejection]? = some placed ∧
      Bytes.containsText (Bytes.dropEnding [0x0D] rejection.text)
        (lex Table.standard (placed.1.slice source)) = true ∧
      (r = placed.1 ↔
        FirstNumbered (textLines source) (rejectedLine kept rejection) rejection.line) ∧
      ((∀ c ∈ source, c < 0x80) → (r = placed.1 ↔
        1+rejectedLine kept rejection+
          (returnsBefore (textLines source) (rejectedLine kept rejection) : Int) =
            rejection.line)) := by
  obtain ⟨k,found,hk,rfl,hfirst⟩ := sourceLine_eq_some hr
  have hne : source ≠ [] := by
    rintro rfl
    simp [placedLines,textLines,TextLine.ofPieces,placeLines] at hk
  obtain ⟨placed,hplaced,hin⟩ := rejected_text_in_line hne ht hc
  have hiff : found.1 = placed.1 ↔
      FirstNumbered (textLines source) (rejectedLine kept rejection) rejection.line := by
    constructor
    · intro he
      rw [← placedLines_inj hk hplaced he]
      exact hfirst
    · intro hm
      obtain rfl := hfirst.unique hm
      rw [Option.some.inj (hk.symm.trans hplaced)]
  refine ⟨placed,hplaced,(Bytes.containsText_iff _ _).mpr hin,hiff,?_⟩
  intro ha
  have hlt := (List.getElem?_eq_some_iff.mp hplaced).1
  rw [placedLines,length_placeLines] at hlt
  rw [hiff,firstNumbered_ascii_iff ha hlt]

def undeclaredOnSecondLine : Bytes := "def x = 1\nout q\n"

def undeclaredAfterSeparator : Bytes := "def x = 1;out q\nout x"

def undeclaredQ : Rejection where
  line := 2
  kind := .undeclaredVariable
  text := "q"
  first := ⟨2,3,10⟩
  last := ⟨2,4,11⟩

theorem sourceLine_eq_rejected_line_second :
    Trimmed undeclaredOnSecondLine "def x = 1\nout q" ∧
    check Table.standard (lex Table.standard "def x = 1\nout q") = some undeclaredQ ∧
    sourceLine "p" undeclaredOnSecondLine undeclaredQ.line = some ⟨"p",⟨2,1,10⟩,⟨2,6,15⟩⟩ ∧
    ∃ placed, (placedLines "p" undeclaredOnSecondLine)[1]? = some placed ∧
      Bytes.containsText "q" (lex Table.standard (placed.1.slice undeclaredOnSecondLine)) = true ∧
      (⟨"p",⟨2,1,10⟩,⟨2,6,15⟩⟩ = placed.1 ↔ (2 : Int) = undeclaredQ.line) := by
  have hk : Trimmed undeclaredOnSecondLine "def x = 1\nout q" :=
    trimmed_iff.mpr (by decide)
  have hc : check Table.standard (lex Table.standard "def x = 1\nout q") = some undeclaredQ := by
    decide +kernel
  have hr : sourceLine "p" undeclaredOnSecondLine undeclaredQ.line =
      some ⟨"p",⟨2,1,10⟩,⟨2,6,15⟩⟩ := by decide +kernel
  have hm : rejectedLine "def x = 1\nout q" undeclaredQ = 1 := by decide +kernel
  have hn : returnsBefore (textLines undeclaredOnSecondLine) 1 = 0 := by decide +kernel
  obtain ⟨placed,hp,ht,_,ha⟩ := sourceLine_eq_rejected_line_iff hk hc hr
  have hq : Bytes.dropEnding [0x0D] undeclaredQ.text = Bytes.ofString "q" := by decide
  have hascii : undeclaredOnSecondLine.all (fun c => c < 0x80) = true := by decide
  rw [hm] at hp ha
  rw [hn] at ha
  rw [hq] at ht
  exact ⟨hk,hc,hr,placed,hp,ht,
    ha fun c hmem => of_decide_eq_true (List.all_eq_true.mp hascii c hmem)⟩

/-- A separator before the statement moves the line shown on by one. -/
theorem separator_shows_next_line :
    Trimmed undeclaredAfterSeparator undeclaredAfterSeparator ∧
    check Table.standard (lex Table.standard undeclaredAfterSeparator) = some undeclaredQ ∧
    ∃ r, sourceLine "p" undeclaredAfterSeparator undeclaredQ.line = some r ∧
      r.slice undeclaredAfterSeparator = Bytes.ofString "out x" ∧
      Bytes.containsText (Bytes.dropEnding [0x0D] undeclaredQ.text)
        (lex Table.standard (r.slice undeclaredAfterSeparator)) = false :=
  ⟨trimmed_iff.mpr (by decide),by decide +kernel,⟨"p",⟨2,1,16⟩,⟨2,6,21⟩⟩,by decide +kernel,by decide,by decide⟩

end DefOut
