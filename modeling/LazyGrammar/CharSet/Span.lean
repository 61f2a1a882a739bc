import LazyGrammar.CharSet.Scalar

/-!
# Spans of ranks

Sets of ranks as ascending lists of spans with at least one rank missing
between neighbours. Such a list is determined by its members
(`Separated.eq_of_covers_iff`), so equal sets have equal representations.
Insertion joins a span with every span that it overlaps or touches.
-/

set_option autoImplicit false

namespace LazyGrammar

/-- A non-empty interval of ranks, both ends included. -/
structure Span where
  lo : Nat
  hi : Nat
  lo_le_hi : lo ≤ hi := by omega
  deriving DecidableEq

namespace Span

def Covers (s : Span) (n : Nat) : Prop := s.lo ≤ n ∧ n ≤ s.hi

instance (s : Span) (n : Nat) : Decidable (s.Covers n) :=
  inferInstanceAs (Decidable (_ ∧ _))

/-- One span ends at least two ranks before the other begins. -/
def Before (s t : Span) : Prop := s.hi + 1 < t.lo

instance (s t : Span) : Decidable (s.Before t) :=
  inferInstanceAs (Decidable (_ < _))

def join (s t : Span) : Span where
  lo := min s.lo t.lo
  hi := max s.hi t.hi
  lo_le_hi := by have := s.lo_le_hi; have := t.lo_le_hi; omega

def size (s : Span) : Nat := s.hi + 1 - s.lo

def toList (s : Span) : List Nat := List.range' s.lo s.size

theorem mem_toList {s : Span} {n : Nat} : n ∈ s.toList ↔ s.Covers n := by
  have := s.lo_le_hi
  simp only [toList, size, Covers, List.mem_range'_1]
  omega

theorem length_toList (s : Span) : s.toList.length = s.size := by simp [toList]

theorem toList_ascending (s : Span) : s.toList.Pairwise (· < ·) :=
  List.pairwise_lt_range'

end Span

def Covers (spans : List Span) (n : Nat) : Prop := ∃ s ∈ spans, s.Covers n

/-- Ascending spans with a gap between neighbours. -/
def Separated (spans : List Span) : Prop := spans.Pairwise Span.Before

/-- Membership by one walk that ends at the first span above the rank. -/
def covers (spans : List Span) (n : Nat) : Bool :=
  match spans with
  | [] => false
  | s :: rest => if n < s.lo then false else if n ≤ s.hi then true else covers rest n

/-- Adds a span, joining it with every span that it overlaps or touches. -/
def insertSpan (s : Span) : List Span → List Span
  | [] => [s]
  | t :: rest =>
      if s.Before t then s :: t :: rest
      else if t.Before s then t :: insertSpan s rest
      else insertSpan (s.join t) rest

/-- Joins spans that overlap or touch. The spans stand in ascending order of their lower ends,
and none of them begins below `s`. -/
def coalesceFrom (s : Span) : List Span → List Span
  | [] => [s]
  | t :: rest =>
      if s.Before t then s :: coalesceFrom t rest
      else coalesceFrom (s.join t) rest

def coalesce : List Span → List Span
  | [] => []
  | s :: rest => coalesceFrom s rest

/-- The spans of two ascending lists in one, joined where they overlap or touch. -/
def mergeSpans (spans others : List Span) : List Span :=
  coalesce (spans.merge others fun s t => decide (s.lo ≤ t.lo))

/-- The spans between the given ones, from `start` to below `bound`. -/
def gaps (start bound : Nat) : List Span → List Span
  | [] => if room : start < bound then [{ lo := start, hi := bound - 1 }] else []
  | t :: rest =>
      if room : start < t.lo then { lo := start, hi := t.lo - 1 } :: gaps (t.hi + 1) bound rest
      else gaps (t.hi + 1) bound rest

theorem covers_nil {n : Nat} : ¬ Covers [] n := by simp [Covers]

theorem covers_cons {s : Span} {spans : List Span} {n : Nat} :
    Covers (s :: spans) n ↔ s.Covers n ∨ Covers spans n := by simp [Covers]

theorem Separated.tail {s : Span} {spans : List Span} (separated : Separated (s :: spans)) :
    Separated spans := List.Pairwise.of_cons separated

theorem Separated.lt_of_covers_tail {s : Span} {spans : List Span} {n : Nat}
    (separated : Separated (s :: spans)) (member : Covers spans n) : s.hi + 1 < n := by
  obtain ⟨t, inSpans, within⟩ := member
  have apart : s.hi + 1 < t.lo := List.rel_of_pairwise_cons separated inSpans
  exact Nat.lt_of_lt_of_le apart within.1

theorem covers_iff {spans : List Span} (separated : Separated spans) {n : Nat} :
    covers spans n = true ↔ Covers spans n := by
  induction spans with
  | nil => simp [covers, covers_nil]
  | cons s rest ih =>
      rw [covers, covers_cons]
      have bounds := s.lo_le_hi
      split
      next below =>
        have outside : ¬ Covers rest n := fun member => by
          have := separated.lt_of_covers_tail member
          omega
        simp only [Bool.false_eq_true, Span.Covers, outside, or_false, false_iff]
        omega
      next above =>
        split
        next within => simp only [Span.Covers, true_iff]; exact .inl ⟨by omega, within⟩
        next beyond =>
          rw [ih separated.tail]
          simp only [Span.Covers]
          constructor
          · exact .inr
          · rintro (⟨_, _⟩ | member)
            · omega
            · exact member

theorem covers_insertSpan {s : Span} {spans : List Span} {n : Nat} :
    Covers (insertSpan s spans) n ↔ s.Covers n ∨ Covers spans n := by
  induction spans generalizing s with
  | nil => simp [insertSpan, covers_cons]
  | cons t rest ih =>
      have := s.lo_le_hi
      have := t.lo_le_hi
      rw [insertSpan]
      split
      · simp only [covers_cons]
      · split
        · simp only [covers_cons, ih]
          grind
        · rw [ih, covers_cons, ← or_assoc]
          have joined : (s.join t).Covers n ↔ s.Covers n ∨ t.Covers n := by
            simp only [Span.Before] at *
            simp only [Span.join, Span.Covers]
            omega
          rw [joined]

theorem insertSpan_lo_mem {s : Span} {spans : List Span} {u : Span}
    (member : u ∈ insertSpan s spans) : s.lo ≤ u.lo ∨ ∃ t ∈ spans, t.lo ≤ u.lo := by
  induction spans generalizing s with
  | nil =>
      simp only [insertSpan, List.mem_singleton] at member
      exact .inl (Nat.le_of_eq (congrArg Span.lo member.symm))
  | cons t rest ih =>
      rw [insertSpan] at member
      split at member
      · rcases List.mem_cons.mp member with same | later
        · exact .inl (Nat.le_of_eq (congrArg Span.lo same.symm))
        · exact .inr ⟨u, later, Nat.le_refl _⟩
      · split at member
        · rcases List.mem_cons.mp member with same | later
          · exact .inr ⟨t, List.mem_cons_self, Nat.le_of_eq (congrArg Span.lo same.symm)⟩
          · rcases ih later with below | ⟨v, inRest, below⟩
            · exact .inl below
            · exact .inr ⟨v, List.mem_cons_of_mem _ inRest, below⟩
        · rcases ih member with below | ⟨v, inRest, below⟩
          · simp only [Span.join] at below
            rcases Nat.le_total s.lo t.lo with _ | _
            · exact .inl (by omega)
            · exact .inr ⟨t, List.mem_cons_self, by omega⟩
          · exact .inr ⟨v, List.mem_cons_of_mem _ inRest, below⟩

theorem separated_insertSpan {s : Span} {spans : List Span} (separated : Separated spans) :
    Separated (insertSpan s spans) := by
  induction spans generalizing s with
  | nil => simp [insertSpan, Separated]
  | cons t rest ih =>
      have := t.lo_le_hi
      rw [insertSpan]
      split
      next before =>
        refine List.Pairwise.cons (fun u member => ?_) separated
        simp only [Span.Before] at *
        rcases List.mem_cons.mp member with same | later
        · rw [same]; exact before
        · have apart : t.hi + 1 < u.lo := List.rel_of_pairwise_cons separated later
          omega
      next notBefore =>
        split
        next after =>
          refine List.Pairwise.cons (fun u member => ?_) (ih separated.tail)
          simp only [Span.Before] at *
          rcases insertSpan_lo_mem member with below | ⟨v, inRest, below⟩
          · omega
          · have apart : t.hi + 1 < v.lo := List.rel_of_pairwise_cons separated inRest
            omega
        next overlap => exact ih separated.tail

private theorem covers_coalesceFrom {s : Span} {spans : List Span} {n : Nat}
    (ascending : (s :: spans).Pairwise fun a b => a.lo ≤ b.lo) :
    Covers (coalesceFrom s spans) n ↔ s.Covers n ∨ Covers spans n := by
  induction spans generalizing s with
  | nil => simp [coalesceFrom, covers_cons]
  | cons t rest ih =>
      have := s.lo_le_hi
      have := t.lo_le_hi
      have order : s.lo ≤ t.lo := List.rel_of_pairwise_cons ascending List.mem_cons_self
      rw [coalesceFrom]
      split
      · rw [covers_cons, covers_cons, ih ascending.of_cons]
      next overlap =>
        have joinedAscending : (s.join t :: rest).Pairwise fun a b => a.lo ≤ b.lo := by
          refine List.Pairwise.cons (fun u inRest => ?_) ascending.of_cons.of_cons
          have : t.lo ≤ u.lo := List.rel_of_pairwise_cons ascending.of_cons inRest
          simp only [Span.join]
          omega
        have joined : (s.join t).Covers n ↔ s.Covers n ∨ t.Covers n := by
          simp only [Span.Before] at overlap
          simp only [Span.join, Span.Covers]
          omega
        rw [ih joinedAscending, covers_cons, joined, or_assoc]

private theorem separated_coalesceFrom {s : Span} {spans : List Span}
    (ascending : (s :: spans).Pairwise fun a b => a.lo ≤ b.lo) :
    Separated (coalesceFrom s spans) ∧ ∀ u ∈ coalesceFrom s spans, s.lo ≤ u.lo := by
  induction spans generalizing s with
  | nil => simp [coalesceFrom, Separated]
  | cons t rest ih =>
      have order : s.lo ≤ t.lo := List.rel_of_pairwise_cons ascending List.mem_cons_self
      rw [coalesceFrom]
      split
      next before =>
        obtain ⟨separated, above⟩ := ih ascending.of_cons
        refine ⟨List.Pairwise.cons (fun u member => ?_) separated, fun u member => ?_⟩
        · have := above u member
          simp only [Span.Before] at *
          omega
        · rcases List.mem_cons.mp member with same | later
          · exact Nat.le_of_eq (congrArg Span.lo same.symm)
          · exact Nat.le_trans order (above u later)
      next overlap =>
        have joinedAscending : (s.join t :: rest).Pairwise fun a b => a.lo ≤ b.lo := by
          refine List.Pairwise.cons (fun u inRest => ?_) ascending.of_cons.of_cons
          have : t.lo ≤ u.lo := List.rel_of_pairwise_cons ascending.of_cons inRest
          simp only [Span.join]
          omega
        have least : (s.join t).lo = s.lo := by simp only [Span.join]; omega
        rw [← least]
        exact ih joinedAscending

private theorem ascending_of_separated {spans : List Span} (separated : Separated spans) :
    spans.Pairwise fun a b => a.lo ≤ b.lo :=
  separated.imp fun {a b} before => by
    have := a.lo_le_hi
    simp only [Span.Before] at before
    omega

private theorem ascending_merge {spans others : List Span}
    (separated : Separated spans) (othersSeparated : Separated others) :
    (spans.merge others fun s t => decide (s.lo ≤ t.lo)).Pairwise fun a b => a.lo ≤ b.lo := by
  have sorted : (spans.merge others fun s t => decide (s.lo ≤ t.lo)).Pairwise
      fun a b => decide (a.lo ≤ b.lo) = true :=
    List.pairwise_merge
      (fun a b c => by simp only [decide_eq_true_eq]; omega)
      (fun a b => by simp only [Bool.or_eq_true, decide_eq_true_eq]; omega)
      spans others
      ((ascending_of_separated separated).imp fun order => decide_eq_true order)
      ((ascending_of_separated othersSeparated).imp fun order => decide_eq_true order)
  exact sorted.imp fun order => of_decide_eq_true order

theorem covers_mergeSpans {spans others : List Span} {n : Nat}
    (separated : Separated spans) (othersSeparated : Separated others) :
    Covers (mergeSpans spans others) n ↔ Covers spans n ∨ Covers others n := by
  have ascending := ascending_merge separated othersSeparated
  have members : Covers (spans.merge others fun s t => decide (s.lo ≤ t.lo)) n ↔
      Covers spans n ∨ Covers others n := by
    simp only [Covers, List.mem_merge]
    grind
  rw [← members, mergeSpans]
  cases merged : spans.merge others fun s t => decide (s.lo ≤ t.lo) with
  | nil => rfl
  | cons s rest =>
      rw [merged] at ascending
      rw [coalesce, covers_coalesceFrom ascending, covers_cons]

theorem separated_mergeSpans {spans others : List Span}
    (separated : Separated spans) (othersSeparated : Separated others) :
    Separated (mergeSpans spans others) := by
  have ascending := ascending_merge separated othersSeparated
  rw [mergeSpans]
  cases merged : spans.merge others fun s t => decide (s.lo ≤ t.lo) with
  | nil => exact List.Pairwise.nil
  | cons s rest =>
      rw [merged] at ascending
      exact (separated_coalesceFrom ascending).1

theorem covers_gaps {start bound : Nat} {spans : List Span} {n : Nat}
    (separated : Separated spans) (bounded : ∀ s ∈ spans, s.hi < bound)
    (above : ∀ s ∈ spans, start ≤ s.lo) :
    Covers (gaps start bound spans) n ↔ start ≤ n ∧ n < bound ∧ ¬ Covers spans n := by
  induction spans generalizing start with
  | nil =>
      rw [gaps]
      split <;>
        simp only [covers_cons, covers_nil, Span.Covers, or_false, not_false_iff, and_true,
          false_iff] <;>
        omega
  | cons t rest ih =>
      have := t.lo_le_hi
      have startLow := above t List.mem_cons_self
      have hiLow := bounded t List.mem_cons_self
      have tailAbove : ∀ s ∈ rest, t.hi + 1 ≤ s.lo := fun s inRest => by
        have apart : t.hi + 1 < s.lo := List.rel_of_pairwise_cons separated inRest
        omega
      have tail := ih separated.tail (fun s inRest => bounded s (List.mem_cons_of_mem _ inRest))
        tailAbove
      have restAbove : Covers rest n → t.hi + 1 < n := separated.lt_of_covers_tail
      rw [gaps]
      split <;> simp only [covers_cons, tail, Span.Covers] <;> grind

theorem separated_gaps {start bound : Nat} {spans : List Span}
    (separated : Separated spans) (above : ∀ s ∈ spans, start ≤ s.lo) :
    Separated (gaps start bound spans) ∧ ∀ g ∈ gaps start bound spans, start ≤ g.lo := by
  induction spans generalizing start with
  | nil => rw [gaps]; split <;> simp [Separated]
  | cons t rest ih =>
      have := t.lo_le_hi
      have startLow := above t List.mem_cons_self
      have tailAbove : ∀ s ∈ rest, t.hi + 1 ≤ s.lo := fun s inRest => by
        have apart : t.hi + 1 < s.lo := List.rel_of_pairwise_cons separated inRest
        omega
      obtain ⟨tailSeparated, tailLow⟩ := ih separated.tail tailAbove
      rw [gaps]
      split
      next room =>
        refine ⟨List.Pairwise.cons (fun g member => ?_) tailSeparated, fun g member => ?_⟩
        · have := tailLow g member
          simp only [Span.Before]
          omega
        · rcases List.mem_cons.mp member with same | later
          · exact Nat.le_of_eq (congrArg Span.lo same.symm)
          · have := tailLow g later
            omega
      next => exact ⟨tailSeparated, fun g member => by have := tailLow g member; omega⟩

theorem Separated.eq_of_covers_iff {spans others : List Span}
    (separated : Separated spans) (othersSeparated : Separated others)
    (same : ∀ n, Covers spans n ↔ Covers others n) : spans = others := by
  induction spans generalizing others with
  | nil =>
      cases others with
      | nil => rfl
      | cons t rest =>
          exact (covers_nil ((same t.lo).mpr
            (covers_cons.mpr (.inl ⟨Nat.le_refl _, t.lo_le_hi⟩)))).elim
  | cons s tail ih =>
      cases others with
      | nil =>
          exact (covers_nil ((same s.lo).mp
            (covers_cons.mpr (.inl ⟨Nat.le_refl _, s.lo_le_hi⟩)))).elim
      | cons t rest =>
          have hs := s.lo_le_hi
          have ht := t.lo_le_hi
          have tailAbove : ∀ n, Covers tail n → s.hi + 1 < n := fun _ => separated.lt_of_covers_tail
          have restAbove : ∀ n, Covers rest n → t.hi + 1 < n :=
            fun _ => othersSeparated.lt_of_covers_tail
          simp only [covers_cons, Span.Covers] at same
          have lo : s.lo = t.lo := by
            have atS := same s.lo
            have atT := same t.lo
            have := tailAbove t.lo
            have := restAbove s.lo
            grind
          have hi : s.hi = t.hi := by
            rcases Nat.lt_trichotomy s.hi t.hi with less | equal | more
            · have := same (s.hi + 1)
              have := tailAbove (s.hi + 1)
              grind
            · exact equal
            · have := same (t.hi + 1)
              have := restAbove (t.hi + 1)
              grind
          have head : s = t := by
            cases s; cases t; simp only at lo hi; subst lo hi; rfl
          subst head
          rw [ih separated.tail othersSeparated.tail (fun n => ?_)]
          have := same n
          have := tailAbove n
          have := restAbove n
          grind

end LazyGrammar
