import LazyGrammar.CharSet.Span

/-!
# Character sets

A set of characters is kept as separated spans of ranks, so it may be as large
as all characters, and two sets with the same members are equal (`CharSet.ext`).
Every operation is described by its effect on membership; `toList` lists the
members in strictly ascending order.
-/

set_option autoImplicit false

namespace LazyGrammar

/-- A set of characters in canonical form. -/
structure CharSet where
  spans : List Span
  separated : Separated spans
  bounded : ∀ s ∈ spans, s.hi < scalarCount
  deriving DecidableEq

namespace CharSet

/-- A character belongs to a set when a span holds its rank. -/
instance : Membership Char CharSet where
  mem set c := Covers set.spans (rank c)

theorem mem_def {c : Char} {set : CharSet} : c ∈ set ↔ Covers set.spans (rank c) := Iff.rfl

def contains (set : CharSet) (c : Char) : Bool := covers set.spans (rank c)

theorem contains_iff {set : CharSet} {c : Char} : set.contains c = true ↔ c ∈ set :=
  covers_iff set.separated

theorem contains_eq_false_iff {set : CharSet} {c : Char} : set.contains c = false ↔ c ∉ set := by
  rw [← Bool.not_eq_true, contains_iff]

theorem not_contains_iff {set : CharSet} {c : Char} : (!set.contains c) = true ↔ c ∉ set := by
  rw [Bool.not_eq_true', contains_eq_false_iff]

theorem not_contains_eq_false_iff {set : CharSet} {c : Char} :
    (!set.contains c) = false ↔ c ∈ set := by
  rw [Bool.not_eq_false', contains_iff]

instance (c : Char) (set : CharSet) : Decidable (c ∈ set) :=
  decidable_of_iff _ contains_iff

theorem ext {a b : CharSet} (same : ∀ c, c ∈ a ↔ c ∈ b) : a = b := by
  have spans : a.spans = b.spans := by
    refine a.separated.eq_of_covers_iff b.separated fun n => ?_
    by_cases bounded : n < scalarCount
    · have := same (ofRank n)
      simpa only [mem_def, rank_ofRank bounded] using this
    · constructor
      · rintro ⟨s, inA, within⟩
        exact (bounded (Nat.lt_of_le_of_lt within.2 (a.bounded s inA))).elim
      · rintro ⟨s, inB, within⟩
        exact (bounded (Nat.lt_of_le_of_lt within.2 (b.bounded s inB))).elim
  cases a
  cases b
  simp only at spans
  subst spans
  rfl

def empty : CharSet where
  spans := []
  separated := List.Pairwise.nil
  bounded := by simp

instance : Inhabited CharSet := ⟨empty⟩

theorem not_mem_empty {c : Char} : c ∉ empty := covers_nil

private theorem bounded_insertSpan {s : Span} {spans : List Span}
    (below : s.hi < scalarCount) (bounded : ∀ t ∈ spans, t.hi < scalarCount) :
    ∀ t ∈ insertSpan s spans, t.hi < scalarCount := by
  intro t member
  have holds : Covers (insertSpan s spans) t.hi := ⟨t, member, t.lo_le_hi, Nat.le_refl _⟩
  rcases covers_insertSpan.mp holds with within | ⟨u, inSpans, within⟩
  · exact Nat.lt_of_le_of_lt within.2 below
  · exact Nat.lt_of_le_of_lt within.2 (bounded u inSpans)

def insertSpan (set : CharSet) (s : Span) (below : s.hi < scalarCount) : CharSet where
  spans := LazyGrammar.insertSpan s set.spans
  separated := separated_insertSpan set.separated
  bounded := bounded_insertSpan below set.bounded

theorem mem_insertSpan {set : CharSet} {s : Span} {below : s.hi < scalarCount} {c : Char} :
    c ∈ set.insertSpan s below ↔ s.Covers (rank c) ∨ c ∈ set := covers_insertSpan

def insertRange (set : CharSet) (first last : Char) : CharSet :=
  if order : rank first ≤ rank last then
    set.insertSpan { lo := rank first, hi := rank last } (rank_lt_scalarCount last)
  else set

theorem mem_insertRange {set : CharSet} {first last c : Char} :
    c ∈ set.insertRange first last ↔ first ≤ c ∧ c ≤ last ∨ c ∈ set := by
  unfold insertRange
  split
  next order =>
    rw [mem_insertSpan]
    simp only [Span.Covers, rank_le_rank_iff]
  next disorder =>
    have none : ¬ (first ≤ c ∧ c ≤ last) := fun within =>
      disorder (Nat.le_trans (rank_le_rank_iff.mpr within.1) (rank_le_rank_iff.mpr within.2))
    simp only [none, false_or]

def insert (set : CharSet) (c : Char) : CharSet := set.insertRange c c

theorem mem_insert {set : CharSet} {c d : Char} : d ∈ set.insert c ↔ d = c ∨ d ∈ set := by
  rw [insert, mem_insertRange]
  have single : c ≤ d ∧ d ≤ c ↔ d = c := by
    constructor
    · exact fun within => Char.le_antisymm within.2 within.1
    · exact fun same => same ▸ ⟨Char.le_refl _, Char.le_refl _⟩
  rw [single]

/-- The characters from `first` to `last`, none if `last` comes before `first`. -/
def range (first last : Char) : CharSet := empty.insertRange first last

theorem mem_range {first last c : Char} : c ∈ range first last ↔ first ≤ c ∧ c ≤ last := by
  rw [range, mem_insertRange]
  simp only [not_mem_empty, or_false]

def singleton (c : Char) : CharSet := empty.insert c

theorem mem_singleton {c d : Char} : d ∈ singleton c ↔ d = c := by
  rw [singleton, mem_insert]
  simp only [not_mem_empty, or_false]

/-- The characters of a list, in any order and however often they occur. -/
def ofList (chars : List Char) : CharSet := chars.foldl insert empty

private theorem mem_foldl_insert {chars : List Char} {set : CharSet} {c : Char} :
    c ∈ chars.foldl insert set ↔ c ∈ chars ∨ c ∈ set := by
  induction chars generalizing set with
  | nil => simp
  | cons d rest ih =>
      rw [List.foldl_cons, ih, mem_insert, List.mem_cons]
      grind

theorem mem_ofList {chars : List Char} {c : Char} : c ∈ ofList chars ↔ c ∈ chars := by
  rw [ofList, mem_foldl_insert]
  simp only [not_mem_empty, or_false]

/-- The characters of a text, each taken literally. -/
def ofText (text : String) : CharSet := ofList text.toList

theorem mem_ofText {text : String} {c : Char} : c ∈ ofText text ↔ c ∈ text.toList := mem_ofList

def ofRanges (ranges : List (Char × Char)) : CharSet :=
  ranges.foldr (fun ends set => set.insertRange ends.1 ends.2) empty

theorem mem_ofRanges {ranges : List (Char × Char)} {c : Char} :
    c ∈ ofRanges ranges ↔ ∃ ends ∈ ranges, ends.1 ≤ c ∧ c ≤ ends.2 := by
  induction ranges with
  | nil => simp [ofRanges, not_mem_empty]
  | cons ends rest ih =>
      rw [ofRanges] at ih
      rw [ofRanges, List.foldr_cons, mem_insertRange, ih]
      simp only [List.mem_cons, exists_eq_or_imp]

def union (a b : CharSet) : CharSet where
  spans := mergeSpans a.spans b.spans
  separated := separated_mergeSpans a.separated b.separated
  bounded := fun s member => by
    have holds : Covers (mergeSpans a.spans b.spans) s.hi :=
      ⟨s, member, s.lo_le_hi, Nat.le_refl _⟩
    rcases (covers_mergeSpans a.separated b.separated).mp holds with
      ⟨t, inA, within⟩ | ⟨t, inB, within⟩
    · exact Nat.lt_of_le_of_lt within.2 (a.bounded t inA)
    · exact Nat.lt_of_le_of_lt within.2 (b.bounded t inB)

theorem mem_union {a b : CharSet} {c : Char} : c ∈ a.union b ↔ c ∈ a ∨ c ∈ b :=
  covers_mergeSpans a.separated b.separated

def compl (set : CharSet) : CharSet where
  spans := gaps 0 scalarCount set.spans
  separated := (separated_gaps set.separated fun _ _ => Nat.zero_le _).1
  bounded := fun g member => by
    have holds : Covers (gaps 0 scalarCount set.spans) g.hi :=
      ⟨g, member, g.lo_le_hi, Nat.le_refl _⟩
    exact ((covers_gaps set.separated set.bounded fun _ _ => Nat.zero_le _).mp holds).2.1

theorem mem_compl {set : CharSet} {c : Char} : c ∈ set.compl ↔ c ∉ set := by
  simp only [mem_def, compl]
  rw [covers_gaps set.separated set.bounded fun _ _ => Nat.zero_le _]
  simp [rank_lt_scalarCount]

def full : CharSet := empty.compl

theorem mem_full {c : Char} : c ∈ full := mem_compl.mpr not_mem_empty

def inter (a b : CharSet) : CharSet := (a.compl.union b.compl).compl

theorem mem_inter {a b : CharSet} {c : Char} : c ∈ a.inter b ↔ c ∈ a ∧ c ∈ b := by
  simp only [inter, mem_compl, mem_union]
  grind

def diff (a b : CharSet) : CharSet := a.inter b.compl

theorem mem_diff {a b : CharSet} {c : Char} : c ∈ a.diff b ↔ c ∈ a ∧ c ∉ b := by
  simp only [diff, mem_inter, mem_compl]

def symmDiff (a b : CharSet) : CharSet := (a.diff b).union (b.diff a)

theorem mem_symmDiff {a b : CharSet} {c : Char} :
    c ∈ a.symmDiff b ↔ (c ∈ a ∧ c ∉ b) ∨ (c ∈ b ∧ c ∉ a) := by
  simp only [symmDiff, mem_union, mem_diff]

def isEmpty (set : CharSet) : Bool := set.spans.isEmpty

def toList (set : CharSet) : List Char := (set.spans.flatMap Span.toList).map ofRank

def size (set : CharSet) : Nat := set.spans.foldr (fun s total => s.size + total) 0

private theorem mem_flatMap_toList {spans : List Span} {n : Nat} :
    n ∈ spans.flatMap Span.toList ↔ Covers spans n := by
  simp only [List.mem_flatMap, Span.mem_toList, Covers]

private theorem lt_of_mem_flatMap {set : CharSet} {n : Nat}
    (member : n ∈ set.spans.flatMap Span.toList) : n < scalarCount := by
  obtain ⟨s, inSpans, within⟩ := mem_flatMap_toList.mp member
  exact Nat.lt_of_le_of_lt within.2 (set.bounded s inSpans)

theorem mem_toList {set : CharSet} {c : Char} : c ∈ set.toList ↔ c ∈ set := by
  rw [toList, List.mem_map, mem_def]
  constructor
  · rintro ⟨n, member, rfl⟩
    rw [rank_ofRank (lt_of_mem_flatMap member)]
    exact mem_flatMap_toList.mp member
  · exact fun member => ⟨rank c, mem_flatMap_toList.mpr member, ofRank_rank c⟩

private theorem flatMap_ascending {spans : List Span} (separated : Separated spans) :
    (spans.flatMap Span.toList).Pairwise (· < ·) := by
  induction spans with
  | nil => exact List.Pairwise.nil
  | cons s rest ih =>
      rw [List.flatMap_cons, List.pairwise_append]
      refine ⟨s.toList_ascending, ih separated.tail, fun n inHead m inTail => ?_⟩
      have := (Span.mem_toList.mp inHead).2
      have := separated.lt_of_covers_tail (mem_flatMap_toList.mp inTail)
      omega

theorem toList_ascending (set : CharSet) : set.toList.Pairwise (· < ·) := by
  rw [toList, List.pairwise_map]
  refine (flatMap_ascending set.separated).imp_of_mem fun inA inB less => ?_
  rw [← rank_lt_rank_iff, rank_ofRank (lt_of_mem_flatMap inA), rank_ofRank (lt_of_mem_flatMap inB)]
  exact less

private theorem length_flatMap_toList (spans : List Span) :
    (spans.flatMap Span.toList).length = spans.foldr (fun s total => s.size + total) 0 := by
  induction spans with
  | nil => rfl
  | cons s rest ih =>
      rw [List.flatMap_cons, List.length_append, List.foldr_cons, Span.length_toList, ih]

theorem length_toList (set : CharSet) : set.toList.length = set.size := by
  rw [toList, List.length_map, length_flatMap_toList, size]

theorem isEmpty_iff {set : CharSet} : set.isEmpty = true ↔ ∀ c, c ∉ set := by
  rw [isEmpty, List.isEmpty_iff]
  constructor
  · intro none c member
    rw [mem_def, none] at member
    exact covers_nil member
  · intro none
    cases spans : set.spans with
    | nil => rfl
    | cons s rest =>
        have inSpans : s ∈ set.spans := spans ▸ List.mem_cons_self
        refine (none (ofRank s.lo) ?_).elim
        rw [mem_def, rank_ofRank (Nat.lt_of_le_of_lt s.lo_le_hi (set.bounded s inSpans))]
        exact ⟨s, inSpans, Nat.le_refl _, s.lo_le_hi⟩

/-- The least and the greatest character of every maximal run of consecutive code points in
ascending order. The surrogates are consecutive code points that are in no set, so they end a
run although the characters at both sides have neighbouring ranks. -/
def runs (set : CharSet) : List (Char × Char) :=
  set.spans.flatMap fun s =>
    if s.lo < 0xD800 ∧ 0xD800 ≤ s.hi then
      [(ofRank s.lo, ofRank 0xD7FF), (ofRank 0xD800, ofRank s.hi)]
    else [(ofRank s.lo, ofRank s.hi)]

end CharSet

end LazyGrammar
