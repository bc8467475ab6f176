import DefOut.Proofs.Acceptance
import Mathlib.Data.List.DropRight

set_option autoImplicit false

/-!
Where a rejection points. The lines of a text and the words of a line are placed by adding up
lengths; cut at one byte or at two in turn, the pieces stand in the text where they are said to
(`joinWith_append_cons`, `flatMap_placed_enumerate`). So the rejected stretch is what the rejection
says it is, on its line and in its column, and it is the first violation.
-/
namespace DefOut

namespace Text

theorem decodeAt_append (first : UInt8) (a : Bytes) {b : Bytes}
    (hb : ∀ c ∈ b.head?, isContinuation c = false) :
    decodeAt first (a ++ b) = decodeAt first a := by
  cases b with
  | nil => rw [List.append_nil]
  | cons c b =>
    have hc : isContinuation c = false := hb c rfl
    match a with
    | [] => simp [decodeAt,hc]
    | [_] => simp [decodeAt,hc]
    | [_,_] => simp [decodeAt,hc]
    | _ :: _ :: _ :: _ => rfl

theorem decodeAt_more_le {first : UInt8} {s : Bytes} {code more : Nat}
    (h : decodeAt first s = some (code,more)) : more ≤ s.length := by
  unfold decodeAt at h
  repeat' split at h
  all_goals grind

theorem symbolsFrom_append {skip : Nat} {a b : Bytes} (hskip : skip ≤ a.length)
    (hb : ∀ c ∈ b.head?, isContinuation c = false) :
    symbolsFrom skip (a ++ b) = symbolsFrom skip a ++ symbolsFrom 0 b := by
  fun_induction symbolsFrom skip a with
  | case1 skip =>
    obtain rfl : skip = 0 := Nat.le_zero.mp hskip
    rfl
  | case2 skip c s ih => exact ih (Nat.le_of_succ_le_succ hskip)
  | case3 c s code more hd ih =>
    have hmore := decodeAt_more_le hd
    rw [List.cons_append,symbolsFrom,decodeAt_append c s hb,hd]
    simp [ih hmore,List.take_append_of_le_length hmore]
  | case4 c s hd ih =>
    rw [List.cons_append,symbolsFrom,decodeAt_append c s hb,hd]
    simp [ih (Nat.zero_le _)]

theorem symbolCount_append (a : Bytes) {b : Bytes}
    (hb : ∀ c ∈ b.head?, isContinuation c = false) :
    symbolCount (a ++ b) = symbolCount a+symbolCount b := by
  rw [symbolCount,symbols,symbolsFrom_append (Nat.zero_le _) hb,List.length_append]
  rfl

end Text

namespace Bytes

def width : List Bytes → Nat
  | [] => 0
  | piece :: rest => piece.length+1+width rest

/-- Pieces with the byte at which each starts, one byte between neighbours. -/
def placed (start : Nat) : List Bytes → List (Nat × Bytes)
  | [] => []
  | piece :: rest => (start,piece) :: placed (start+piece.length+1) rest

theorem joinWith_append_cons (sep : UInt8) (earlier : List Bytes) (piece : Bytes)
    (later : List Bytes) :
    joinWith [sep] (earlier ++ piece :: later) =
      earlier.flatMap (· ++ [sep]) ++ (piece ++ later.flatMap (sep :: ·)) := by
  induction earlier with
  | nil =>
    induction later generalizing piece with
    | nil => simp
    | cons next later ih =>
      rw [List.nil_append,joinWith_cons_cons,← List.nil_append (next :: later),ih next]
      simp
  | cons first earlier ih =>
    obtain ⟨next,rest,hne⟩ : ∃ next rest, earlier ++ piece :: later = next :: rest := by
      cases earlier <;> simp
    rw [List.cons_append,hne,joinWith_cons_cons,← hne,ih]
    simp

theorem length_flatMap_concat (sep : UInt8) (pieces : List Bytes) :
    (pieces.flatMap (· ++ [sep])).length = width pieces := by
  induction pieces with
  | nil => rfl
  | cons piece rest ih =>
    simp [width,ih]
    omega

theorem width_splitOn (sep : UInt8) (s : Bytes) : width (splitOn sep s) = s.length+1 := by
  induction s with
  | nil => rfl
  | cons c s ih =>
    by_cases hc : c = sep
    · subst c
      simp [width,ih]
      omega
    · obtain ⟨piece,rest,hs,hcons⟩ := splitOn_cons_ne hc s
      rw [hs] at ih
      simp only [hcons,width,List.length_cons] at ih ⊢
      omega

theorem count_flatMap_concat {sep : UInt8} {pieces : List Bytes}
    (h : ∀ piece ∈ pieces, sep ∉ piece) :
    (pieces.flatMap (· ++ [sep])).count sep = pieces.length := by
  induction pieces with
  | nil => rfl
  | cons piece rest ih =>
    have hp := List.count_eq_zero.mpr (h piece (by simp))
    have hr := ih fun q hq => h q (by simp [hq])
    simp only [List.flatMap_cons,List.count_append,hp,hr,List.length_cons]
    simp
    omega

theorem placed_append (start : Nat) (xs ys : List Bytes) :
    placed start (xs ++ ys) = placed start xs ++ placed (start+width xs) ys := by
  induction xs generalizing start with
  | nil => rfl
  | cons x xs ih => simp [placed,width,ih,Nat.add_assoc]

theorem placed_add (offset start : Nat) (pieces : List Bytes) :
    placed (offset+start) pieces = (placed start pieces).map fun p => (offset+p.1,p.2) := by
  induction pieces generalizing start with
  | nil => rfl
  | cons piece rest ih => simp [placed,← ih,Nat.add_assoc]

theorem exists_of_mem_placed {start n : Nat} {piece : Bytes} {pieces : List Bytes}
    (h : (n,piece) ∈ placed start pieces) :
    ∃ earlier later, pieces = earlier ++ piece :: later ∧ n = start+width earlier := by
  induction pieces generalizing start with
  | nil => simp [placed] at h
  | cons first rest ih =>
    simp only [placed,List.mem_cons,Prod.mk.injEq] at h
    obtain ⟨rfl,rfl⟩ | h := h
    · exact ⟨[],rest,rfl,rfl⟩
    · obtain ⟨earlier,later,rfl,rfl⟩ := ih h
      exact ⟨first :: earlier,later,rfl,by simp [width,Nat.add_assoc]⟩

theorem le_of_mem_placed {start n : Nat} {piece : Bytes} {pieces : List Bytes}
    (h : (n,piece) ∈ placed start pieces) : start ≤ n := by
  obtain ⟨earlier,_,_,rfl⟩ := exists_of_mem_placed h
  omega

theorem pairwise_placed (start : Nat) (pieces : List Bytes) :
    (placed start pieces).Pairwise fun a b => a.1 < b.1 := by
  induction pieces generalizing start with
  | nil => exact .nil
  | cons piece rest ih =>
    refine .cons (fun b hb => ?_) (ih _)
    have hle := le_of_mem_placed hb
    omega

theorem le_of_find?_placed {test : Nat × Bytes → Bool} {start n m : Nat} {piece other : Bytes}
    {pieces : List Bytes} (h : (placed start pieces).find? test = some (n,piece))
    (hm : (m,other) ∈ placed start pieces) (ht : test (m,other) = true) : n ≤ m := by
  obtain ⟨_,before,after,hs,hnot⟩ := List.find?_eq_some_iff_append.mp h
  have hpair := pairwise_placed start pieces
  rw [hs] at hm hpair
  obtain hm | hm := List.mem_append.mp hm
  · exact absurd ht (by simpa using hnot (m,other) hm)
  · obtain he | hm := List.mem_cons.mp hm
    · exact Nat.le_of_eq (Prod.mk.inj he).1.symm
    · exact Nat.le_of_lt ((List.pairwise_cons.mp (List.pairwise_append.mp hpair).2.1).1 _ hm)

/-- A piece stands in a text between two of the cutting bytes or the ends, and holds none. -/
structure Stands (cuts : List UInt8) (s before piece after : Bytes) : Prop where
  eq : s = before ++ (piece ++ after)
  piece : ∀ c ∈ piece, c ∉ cuts
  before : ∀ c ∈ before.getLast?, c ∈ cuts
  after : ∀ c ∈ after.head?, c ∈ cuts

theorem Stands.mem_placed {sep : UInt8} {s before piece after : Bytes}
    (h : Stands [sep] s before piece after) :
    (before.length,piece) ∈ placed 0 (splitOn sep s) := by
  obtain ⟨rfl,hp,hb,ha⟩ := h
  have hself : splitOn sep piece = [piece] :=
    splitOn_of_not_mem fun hm => hp sep hm (by simp)
  obtain ⟨later,hl⟩ : ∃ later, splitOn sep (piece ++ after) = piece :: later := by
    cases after with
    | nil => exact ⟨[],by rw [List.append_nil,hself]⟩
    | cons c after =>
      obtain rfl := List.mem_singleton.mp (ha c rfl)
      exact ⟨splitOn c after,by rw [splitOn_append,hself]; rfl⟩
  cases before using List.reverseRecOn with
  | nil => simp [hl,placed]
  | append_singleton before c =>
    obtain rfl := List.mem_singleton.mp (hb c (by simp))
    rw [List.append_assoc,List.singleton_append,splitOn_append,hl,placed_append,width_splitOn]
    simp [placed]

theorem stands_of_splitOn {sep : UInt8} {s piece : Bytes} {earlier later : List Bytes}
    (h : splitOn sep s = earlier ++ piece :: later) :
    Stands [sep] s (earlier.flatMap (· ++ [sep])) piece (later.flatMap (sep :: ·)) where
  eq := by rw [← joinWith_append_cons,← h,joinWith_splitOn]
  piece c hc hm := by
    obtain rfl := List.mem_singleton.mp hm
    exact not_mem_of_mem_splitOn (h ▸ List.mem_append_right _ List.mem_cons_self) hc
  before c hc := by
    cases earlier using List.reverseRecOn with
    | nil => simp at hc
    | append_singleton earlier last => simpa [eq_comm] using hc
  after c hc := by
    cases later with
    | nil => simp at hc
    | cons next later => simpa [eq_comm] using hc

theorem exists_stands_of_mem_placed {sep : UInt8} {s piece : Bytes} {n : Nat}
    (h : (n,piece) ∈ placed 0 (splitOn sep s)) :
    ∃ before after, Stands [sep] s before piece after ∧ n = before.length := by
  obtain ⟨earlier,later,hs,rfl⟩ := exists_of_mem_placed h
  exact ⟨_,_,stands_of_splitOn hs,by rw [length_flatMap_concat,Nat.zero_add]⟩

theorem Stands.trans {cuts inner : List UInt8} {s before piece after before' piece' after' : Bytes}
    (h : Stands cuts s before piece after) (h' : Stands inner piece before' piece' after') :
    Stands (inner ++ cuts) s (before ++ before') piece' (after' ++ after) where
  eq := by rw [h.eq,h'.eq]; simp
  piece c hc hm := by
    obtain hm | hm := List.mem_append.mp hm
    · exact h'.piece c hc hm
    · exact h.piece c (by rw [h'.eq]; simp [hc]) hm
  before c hc := by
    rw [List.getLast?_append,Option.mem_def,Option.or_eq_some_iff] at hc
    obtain hc | ⟨_,hc⟩ := hc
    · exact List.mem_append_left _ (h'.before c hc)
    · exact List.mem_append_right _ (h.before c hc)
  after c hc := by
    rw [List.head?_append,Option.mem_def,Option.or_eq_some_iff] at hc
    obtain hc | ⟨_,hc⟩ := hc
    · exact List.mem_append_left _ (h'.after c hc)
    · exact List.mem_append_right _ (h.after c hc)

end Bytes

/-! ### Lines and words in their places -/

theorem enumerate_eq_append_cons {number offset : Nat} {pieces : List Bytes} {l : LogicalLine}
    {earlier later : List LogicalLine}
    (h : LogicalLine.enumerate number offset pieces = earlier ++ l :: later) :
    pieces = earlier.map LogicalLine.text ++ l.text :: later.map LogicalLine.text ∧
      l.number = number+earlier.length ∧
      l.offset = offset+Bytes.width (earlier.map LogicalLine.text) := by
  refine ⟨by rw [← LogicalLine.map_text_enumerate number offset pieces,h]; simp,?_⟩
  induction earlier generalizing number offset pieces with
  | nil =>
    cases pieces with
    | nil => simp [LogicalLine.enumerate] at h
    | cons piece rest =>
      obtain ⟨rfl,_⟩ := List.cons.inj h
      exact ⟨rfl,rfl⟩
  | cons first earlier ih =>
    cases pieces with
    | nil => simp [LogicalLine.enumerate] at h
    | cons piece rest =>
      obtain ⟨rfl,hrest⟩ := List.cons.inj h
      obtain ⟨hn,ho⟩ := ih hrest
      simp only [List.length_cons,List.map_cons,Bytes.width]
      omega

theorem flatMap_placed_enumerate (number offset : Nat) (lines : List Bytes) :
    (LogicalLine.enumerate number offset lines).flatMap
        (fun l => Bytes.placed l.offset (lineWords l.text)) =
      Bytes.placed offset (lines.flatMap lineWords) := by
  induction lines generalizing number offset with
  | nil => rfl
  | cons line rest ih =>
    rw [LogicalLine.enumerate,List.flatMap_cons,List.flatMap_cons,Bytes.placed_append,
      Bytes.width_splitOn,ih,Nat.add_assoc]

theorem exists_stands_of_mem_logicalLines {lexemes : Bytes} {l : LogicalLine}
    (h : l ∈ logicalLines lexemes) :
    ∃ before after, Bytes.Stands [Lexeme.separator] lexemes before l.text after ∧
      l.offset = before.length ∧ l.number = 1+before.count Lexeme.separator := by
  obtain ⟨earlier,later,he⟩ := List.append_of_mem h
  obtain ⟨hs,hn,ho⟩ := enumerate_eq_append_cons he
  refine ⟨_,_,Bytes.stands_of_splitOn hs,?_,?_⟩
  · rw [ho,Bytes.length_flatMap_concat,Nat.zero_add]
  · rw [hn,Bytes.count_flatMap_concat,List.length_map]
    exact fun piece hp => Bytes.not_mem_of_mem_splitOn (hs ▸ List.mem_append_left _ hp)

/-- A token stands at byte `n`: before it and after it there is a space, a separator or an end of
the text, and in it there is none of them. -/
def TokenAt (lexemes : Bytes) (n : Nat) (token : Bytes) : Prop :=
  ∃ before after, Bytes.Stands [Ascii.space,Lexeme.separator] lexemes before token after ∧
    n = before.length

theorem TokenAt.mem_placed {lexemes token : Bytes} {n : Nat} (h : TokenAt lexemes n token) :
    (n,token) ∈ Bytes.placed 0 (programWords lexemes) := by
  obtain ⟨before,after,hs,rfl⟩ := h
  let recut : UInt8 → UInt8 := fun c => if c = Lexeme.separator then Ascii.space else c
  have hcut : [Ascii.space,Lexeme.separator].map recut ⊆ [Ascii.space] := by decide
  have hself : token.map recut = token :=
    Bytes.map_ite_eq_self fun hm => hs.piece _ hm (by simp)
  have hr : Bytes.Stands [Ascii.space] (lexemes.map recut) (before.map recut) token
      (after.map recut) := by
    refine ⟨?_,fun c hc hm => hs.piece c hc (List.mem_append_left [Lexeme.separator] hm),
      fun c hc => ?_,fun c hc => ?_⟩
    · rw [hs.eq,List.map_append,List.map_append,hself]
    · rw [List.getLast?_map] at hc
      obtain ⟨b,hb,rfl⟩ := Option.map_eq_some_iff.mp hc
      exact hcut (List.mem_map_of_mem (hs.before b hb))
    · rw [List.head?_map] at hc
      obtain ⟨b,hb,rfl⟩ := Option.map_eq_some_iff.mp hc
      exact hcut (List.mem_map_of_mem (hs.after b hb))
  have hm := hr.mem_placed
  rwa [List.length_map] at hm

/-! ### The first violation -/

/-- A rejection says where its text stands: from byte `start` up to byte `stop`, in the line and the
columns that are counted there. -/
structure Rejection.Located (e : Rejection) (lexemes : Bytes) (start stop : Nat) : Prop where
  first_byte : e.first.byte = start
  last_byte : e.last.byte = stop
  start_le : start ≤ stop
  stop_le : stop ≤ lexemes.length
  slice : (lexemes.take stop).drop start = e.text
  line : e.line = 1+(lexemes.take start).count Lexeme.separator
  first_line : e.first.line = e.line
  last_line : e.last.line = e.line
  first_column : e.first.column =
    1+Text.symbolCount ((lexemes.take start).rtakeWhile (· ≠ Lexeme.separator))
  last_column : e.last.column = e.first.column+Text.symbolCount e.text

structure Rejection.FirstMisshapen (e : Rejection) (t : Table) (lexemes : Bytes)
    (earlier later : List Bytes) : Prop where
  lines : Bytes.splitOn Lexeme.separator lexemes = earlier ++ e.text :: later
  line : e.line = earlier.length+1
  fault : shapeFault? t (lineWords e.text) = some e.kind
  shaped : ∀ line ∈ earlier, shapeFault? t (lineWords line) = none

def Undeclared (t : Table) (lexemes name : Bytes) : Prop :=
  t.IsName name ∧ ∀ line ∈ Bytes.splitOn Lexeme.separator lexemes, ∀ literal,
    ¬ IsDeclaration t name literal line

structure Rejection.FirstUndeclared (e : Rejection) (t : Table) (lexemes : Bytes) (start : Nat) :
    Prop where
  shaped : ∀ line ∈ Bytes.splitOn Lexeme.separator lexemes, shapeFault? t (lineWords line) = none
  token : TokenAt lexemes start e.text
  undeclared : Undeclared t lexemes e.text
  first : ∀ n token, TokenAt lexemes n token → Undeclared t lexemes token → start ≤ n

theorem rtakeWhile_append {sep : UInt8} {before a : Bytes} (ha : sep ∉ a)
    (hb : ∀ c ∈ before.getLast?, c = sep) : (before ++ a).rtakeWhile (· ≠ sep) = a := by
  have hall : ∀ c ∈ a.reverse, decide (c ≠ sep) = true := by
    intro c hc
    simpa using fun he : c = sep => ha (he ▸ List.mem_reverse.mp hc)
  rw [List.rtakeWhile,List.reverse_append,List.takeWhile_append_of_pos hall]
  cases before using List.reverseRecOn with
  | nil => simp
  | append_singleton before c =>
    obtain rfl := hb c (by simp)
    simp

theorem located_reject {lexemes a text b : Bytes} {l : LogicalLine} (hl : l ∈ logicalLines lexemes)
    (ht : l.text = a ++ (text ++ b))
    (hc : Text.symbolCount (a ++ text) = Text.symbolCount a+Text.symbolCount text)
    (kind : RejectionKind) :
    (l.reject kind a.length text).Located lexemes (l.offset+a.length)
      (l.offset+a.length+text.length) := by
  obtain ⟨before,after,hs,ho,hn⟩ := exists_stands_of_mem_logicalLines hl
  have he : lexemes = (before ++ a) ++ (text ++ (b ++ after)) := by simp [hs.eq,ht]
  have hlen : l.offset+a.length = (before ++ a).length := by rw [ho,List.length_append]
  have hsep : Lexeme.separator ∉ a := fun hm =>
    hs.piece _ (by rw [ht]; exact List.mem_append_left _ hm) (by simp)
  have htake : lexemes.take (l.offset+a.length) = before ++ a := by
    rw [hlen,he,List.take_left]
  have htext : l.text.take (a.length+text.length) = a ++ text := by
    rw [ht,← List.append_assoc,← List.length_append,List.take_left]
  refine ⟨?_,?_,by omega,?_,?_,?_,rfl,rfl,?_,?_⟩
  · simp [LogicalLine.reject,LogicalLine.position]
  · simp [LogicalLine.reject,LogicalLine.position]
    omega
  · rw [hlen,he]
    simp
    omega
  · rw [hlen,he,List.take_length_add_append,List.drop_left,List.take_left]
    rfl
  · rw [htake,List.count_append,List.count_eq_zero.mpr hsep]
    simp [LogicalLine.reject,hn]
  · rw [htake,rtakeWhile_append hsep fun c hm => List.mem_singleton.mp (hs.before c hm)]
    simp [LogicalLine.reject,LogicalLine.position,ht]
  · simp only [LogicalLine.reject,LogicalLine.position,htext,hc]
    rw [ht,List.take_left]
    omega

theorem shapeFault?_ne_undeclaredVariable (t : Table) (words : List Bytes) :
    shapeFault? t words ≠ some .undeclaredVariable := by
  unfold shapeFault?
  dsimp only
  repeat' split
  all_goals simp

theorem check_cases {t : Table} {lexemes : Bytes} {e : Rejection} (h : check t lexemes = some e) :
    (logicalLines lexemes).findSome? (shapeRejection? t) = some e ∨
      (∀ line ∈ Bytes.splitOn Lexeme.separator lexemes, shapeFault? t (lineWords line) = none) ∧
        (logicalLines lexemes).findSome? (fun l =>
          undeclaredFrom? t (declaredNames lexemes) l 0 l.words) = some e := by
  unfold check at h
  dsimp only at h
  split at h
  · next r hr => exact .inl (hr.trans h)
  · next hr =>
    refine .inr ⟨?_,h⟩
    rw [← forall_logicalLines_iff]
    intro l hl
    exact Option.map_eq_none_iff.mp (List.findSome?_eq_none_iff.mp hr l hl)

theorem firstMisshapen_of_findSome? {t : Table} {lexemes : Bytes} {e : Rejection}
    (h : (logicalLines lexemes).findSome? (shapeRejection? t) = some e) :
    ∃ start stop, e.Located lexemes start stop ∧ e.kind ≠ .undeclaredVariable ∧
      ∃ earlier later, e.FirstMisshapen t lexemes earlier later := by
  obtain ⟨earlier,l,later,hlines,hl,hnone⟩ := List.findSome?_eq_some_iff.mp h
  obtain ⟨kind,hkind,rfl⟩ := Option.map_eq_some_iff.mp hl
  obtain ⟨hs,hn,_⟩ := enumerate_eq_append_cons hlines
  have hm : l ∈ logicalLines lexemes := hlines ▸ List.mem_append_right _ List.mem_cons_self
  have htext : l.text = [] ++ (l.text ++ []) := by simp
  have hloc := located_reject hm htext (Nat.zero_add _).symm kind
  refine ⟨_,_,hloc,?_,_,_,hs,?_,hkind,?_⟩
  · rintro rfl
    exact shapeFault?_ne_undeclaredVariable t l.words hkind
  · simp [LogicalLine.reject,hn]
    omega
  · intro line hm
    obtain ⟨l',hl',rfl⟩ := List.mem_map.mp hm
    exact Option.map_eq_none_iff.mp (hnone l' hl')

def isOpen (t : Table) (declared : SymbolTable) (p : Nat × Bytes) : Bool :=
  decide (t.classify p.2 = .name ∧ !declared.declares p.2)

theorem undeclaredFrom?_eq_map (t : Table) (declared : SymbolTable) (l : LogicalLine) (start : Nat)
    (words : List Bytes) :
    undeclaredFrom? t declared l start words =
      ((Bytes.placed start words).find? (isOpen t declared)).map fun p =>
        l.reject .undeclaredVariable p.1 p.2 := by
  induction words generalizing start with
  | nil => rfl
  | cons word rest ih =>
    rw [undeclaredFrom?,Bytes.placed,List.find?_cons,ih]
    by_cases h : t.classify word = .name ∧ !declared.declares word
    · rw [if_pos h,show isOpen t declared (start,word) = true from decide_eq_true h]
      rfl
    · rw [if_neg h,show isOpen t declared (start,word) = false from decide_eq_false h]

theorem isOpen_iff {t : Table} {lexemes : Bytes}
    (hs : ∀ line ∈ Bytes.splitOn Lexeme.separator lexemes, ShapedWords t (lineWords line))
    (n : Nat) (token : Bytes) :
    isOpen t (declaredNames lexemes) (n,token) = true ↔ Undeclared t lexemes token := by
  have hd : (declaredNames lexemes).declares token = true ↔
      ∃ line ∈ Bytes.splitOn Lexeme.separator lexemes, ∃ literal,
        IsDeclaration t token literal line := by
    simp only [isDeclaration_iff,← mem_names_iff_of_shaped hs,declares_declaredNames]
  rw [isOpen,decide_eq_true_eq,classify_eq_name_iff,Bool.not_eq_true',← Bool.not_eq_true,hd,
    Undeclared]
  simp only [not_exists,not_and]

theorem find?_of_findSome? {test : Nat × Bytes → Bool}
    (htest : ∀ offset p, test (offset+p.1,p.2) = test p) {lexemes token : Bytes} {n : Nat}
    {l : LogicalLine} {earlier later : List LogicalLine}
    (hlines : logicalLines lexemes = earlier ++ l :: later)
    (hl : (Bytes.placed 0 l.words).find? test = some (n,token))
    (hnone : ∀ l ∈ earlier, (Bytes.placed 0 l.words).find? test = none) :
    (Bytes.placed 0 (programWords lexemes)).find? test = some (l.offset+n,token) := by
  have hshift : ∀ l : LogicalLine, (Bytes.placed l.offset l.words).find? test =
      ((Bytes.placed 0 l.words).find? test).map fun p => (l.offset+p.1,p.2) := by
    intro l
    have hadd := Bytes.placed_add l.offset 0 l.words
    rw [Nat.add_zero] at hadd
    rw [hadd,List.find?_map]
    congr 2
    funext p
    exact htest l.offset p
  rw [programWords_eq,← flatMap_placed_enumerate 1 0,List.find?_flatMap]
  refine List.findSome?_eq_some_iff.mpr ⟨earlier,l,later,hlines,?_,fun l' hm => ?_⟩
  · exact (hshift l).trans (by rw [hl]; rfl)
  · exact (hshift l').trans (by rw [hnone l' hm]; rfl)

theorem head?_not_continuation {name : Bytes} (h : isVariableName name = true) :
    ∀ c ∈ name.head?, Text.isContinuation c = false := by
  intro c hc
  rw [Bool.eq_false_iff]
  intro hcont
  have hletter : Ascii.isLetter c = false := by
    simp only [Text.isContinuation,Ascii.isLetter,decide_eq_true_eq,decide_eq_false_iff_not,
      UInt8.le_iff_toNat_le,UInt8.reduceToNat] at *
    omega
  exact not_mem_of_isVariableName h hletter (List.mem_of_head? hc)

theorem firstUndeclared_of_findSome? {t : Table} {lexemes : Bytes} {e : Rejection}
    (hs : ∀ line ∈ Bytes.splitOn Lexeme.separator lexemes, shapeFault? t (lineWords line) = none)
    (h : (logicalLines lexemes).findSome? (fun l =>
      undeclaredFrom? t (declaredNames lexemes) l 0 l.words) = some e) :
    e.kind = .undeclaredVariable ∧ ∃ start stop, e.Located lexemes start stop ∧
      e.FirstUndeclared t lexemes start := by
  have hopen := isOpen_iff fun line hm => (shapeFault?_eq_none_iff t _).mp (hs line hm)
  obtain ⟨earlier,l,later,hlines,hl,hnone⟩ := List.findSome?_eq_some_iff.mp h
  rw [undeclaredFrom?_eq_map] at hl
  obtain ⟨⟨n,token⟩,hfind,rfl⟩ := Option.map_eq_some_iff.mp hl
  have hfirst := find?_of_findSome? (fun _ _ => rfl) hlines hfind fun l' hm => by
    have hn := hnone l' hm
    rwa [undeclaredFrom?_eq_map,Option.map_eq_none_iff] at hn
  have hund := (hopen n token).mp (List.find?_some hfind)
  have hmem : l ∈ logicalLines lexemes := hlines ▸ List.mem_append_right _ List.mem_cons_self
  obtain ⟨a,b,hw,rfl⟩ := Bytes.exists_stands_of_mem_placed (List.mem_of_find?_eq_some hfind)
  obtain ⟨before,after,hline,ho,_⟩ := exists_stands_of_mem_logicalLines hmem
  have hhead := head?_not_continuation hund.1.isVariableName
  have hloc := located_reject hmem hw.eq (Text.symbolCount_append a hhead) .undeclaredVariable
  refine ⟨rfl,_,_,hloc,hs,?_,hund,fun m other hm hu => ?_⟩
  · exact ⟨_,_,hline.trans hw,by rw [ho,List.length_append]⟩
  · exact Bytes.le_of_find?_placed hfirst hm.mem_placed ((hopen m other).mpr hu)

/-- A rejection points exactly at the first violation, for every table and every text. -/
theorem check_rejects_first_violation {t : Table} {lexemes : Bytes} {e : Rejection}
    (h : check t lexemes = some e) :
    ∃ start stop, e.Located lexemes start stop ∧
      (e.kind ≠ .undeclaredVariable → ∃ earlier later, e.FirstMisshapen t lexemes earlier later) ∧
      (e.kind = .undeclaredVariable → e.FirstUndeclared t lexemes start) := by
  obtain hr | ⟨hs,hr⟩ := check_cases h
  · obtain ⟨start,stop,hloc,hne,hmis⟩ := firstMisshapen_of_findSome? hr
    exact ⟨start,stop,hloc,fun _ => hmis,fun he => absurd he hne⟩
  · obtain ⟨hk,start,stop,hloc,hund⟩ := firstUndeclared_of_findSome? hs hr
    exact ⟨start,stop,hloc,fun hne => absurd hk hne,fun _ => hund⟩

/-- An undeclared name behind a character of two bytes and a stray byte: the column counts both as
one, the offset all their bytes. -/
theorem check_rejects_first_violation_behind_symbols :
    let lexemes : Bytes := Bytes.ofString "# x = 1;> é" ++ 0xFF :: Bytes.ofString " q + x"
    let e : Rejection := ⟨2,.undeclaredVariable,"q",⟨2,6,14⟩,⟨2,7,15⟩⟩
    check Table.standard lexemes = some e ∧ ∃ start stop, e.Located lexemes start stop ∧
      e.FirstUndeclared Table.standard lexemes start := by
  intro lexemes e
  have h : check Table.standard lexemes = some e := by decide +kernel
  obtain ⟨start,stop,hloc,_,hund⟩ := check_rejects_first_violation h
  exact ⟨h,start,stop,hloc,hund rfl⟩

end DefOut
