import LazyGrammar.Proofs.CharacterSets

/-!
# Runs of code points

A set falls into runs of consecutive code points. These are not its spans, since ranks go
on across the surrogates and code points do not: a span on both sides of them is two runs.
Each run is maximal, every maximal run is listed, and the runs together are the set.
-/

set_option autoImplicit false

namespace LazyGrammar

private theorem Separated.apart {spans : List Span} (separated : Separated spans) {s t : Span}
    (member : s ∈ spans) (other : t ∈ spans) : s = t ∨ s.Before t ∨ t.Before s := by
  let related (s t : Span) : Prop := s = t ∨ s.Before t ∨ t.Before s
  have ascending : spans.Pairwise related := separated.imp fun before => .inr (.inl before)
  have descending : spans.Pairwise (flip related) := separated.imp fun before => .inr (.inr before)
  exact ascending.forall_of_forall_of_flip (fun _ _ => .inl rfl) descending member other

/-- Nothing outside a span touches it. -/
private theorem Separated.covers_of_touches {spans : List Span} (separated : Separated spans)
    {s : Span}
    (member : s ∈ spans) {n : Nat} (covered : Covers spans n) (above : s.lo ≤ n + 1)
    (below : n ≤ s.hi + 1) : s.Covers n := by
  obtain ⟨t, inSpans, within⟩ := covered
  rcases separated.apart member inSpans with rfl | before | after
  · exact within
  · simp only [Span.Before, Span.Covers] at *
    omega
  · simp only [Span.Before, Span.Covers] at *
    omega

namespace CharSet

variable {set : CharSet} {first last : Char}

private theorem mem_ofRank_iff {n : Nat} (bounded : n < scalarCount) :
    ofRank n ∈ set ↔ Covers set.spans n := by
  rw [mem_def, rank_ofRank bounded]

/-- Consecutive code points of members, with none before them or behind them. -/
structure MaximalRun (set : CharSet) (first last : Char) : Prop where
  ordered : first ≤ last
  filled : ∀ code, first.toNat ≤ code → code ≤ last.toNat → ∃ c ∈ set, c.toNat = code
  before : ∀ c ∈ set, c.toNat + 1 ≠ first.toNat
  after : ∀ c ∈ set, c.toNat ≠ last.toNat + 1

/-- A run is a span, or the part of a span on one side of the surrogates. -/
private theorem mem_runs_iff_span :
    (first, last) ∈ set.runs ↔ ∃ s ∈ set.spans,
      rank first ≤ rank last ∧ (rank first < 0xD800 ↔ rank last < 0xD800) ∧
      (rank first = s.lo ∨ rank first = 0xD800 ∧ s.lo ≤ 0xD800) ∧
      (rank last = s.hi ∨ rank last = 0xD7FF ∧ 0xD7FF ≤ s.hi) := by
  rw [runs, List.mem_flatMap]
  refine exists_congr fun s => and_congr_right fun member => ?_
  have order := s.lo_le_hi
  have bounded := set.bounded s member
  have isRank {c : Char} {n : Nat} (below : n < scalarCount) : c = ofRank n ↔ rank c = n := by
    rw [← rank_eq_rank_iff, rank_ofRank below]
  have isRun {lo hi : Nat} (loBelow : lo < scalarCount) (hiBelow : hi < scalarCount) :
      (first, last) = (ofRank lo, ofRank hi) ↔ rank first = lo ∧ rank last = hi := by
    rw [Prod.mk.injEq, isRank loBelow, isRank hiBelow]
  split
  next crosses =>
    rw [List.mem_pair, isRun (by omega) (by omega), isRun (by omega) (by omega)]
    omega
  next =>
    rw [List.mem_singleton, isRun (by omega) (by omega)]
    omega

private theorem maximalRun_of_mem_runs (listed : (first, last) ∈ set.runs) :
    set.MaximalRun first last := by
  obtain ⟨s, member, order, sameSide, begins, ends⟩ := mem_runs_iff_span.mp listed
  have firstCode := toNat_eq_of_rank first
  have lastCode := toNat_eq_of_rank last
  -- A member next to an end of the run would be in the span, and the run would go on.
  have touching {c : Char} (inSet : c ∈ set) (above : s.lo ≤ rank c + 1)
      (below : rank c ≤ s.hi + 1) : s.lo ≤ rank c ∧ rank c ≤ s.hi :=
    set.separated.covers_of_touches member inSet above below
  refine ⟨rank_le_rank_iff.mp order, fun code above below => ?_, fun c inSet next => ?_,
    fun c inSet next => ?_⟩
  · have valid := exists_toNat_eq_iff.mp ⟨last, rfl⟩
    obtain ⟨c, rfl⟩ := (@exists_toNat_eq_iff code).mpr (by grind)
    have fromFirst := rank_le_rank_iff.mpr (le_iff_toNat_le.mpr above)
    have toLast := rank_le_rank_iff.mpr (le_iff_toNat_le.mpr below)
    exact ⟨c, ⟨s, member, by omega, by omega⟩, rfl⟩
  · have code := toNat_eq_of_rank c
    have within := touching inSet
    grind
  · have code := toNat_eq_of_rank c
    have within := touching inSet
    grind

namespace MaximalRun

private theorem first_mem (run : set.MaximalRun first last) : first ∈ set := by
  obtain ⟨c, inSet, same⟩ :=
    run.filled first.toNat (Nat.le_refl _) (le_iff_toNat_le.mp run.ordered)
  exact Char.toNat_inj.mp same ▸ inSet

/-- The surrogates are in no set, so that they cannot be within a run. -/
private theorem same_side (run : set.MaximalRun first last) :
    rank first < 0xD800 ↔ rank last < 0xD800 := by
  have firstCode := toNat_eq_of_rank first
  have lastCode := toNat_eq_of_rank last
  have order := rank_le_rank_iff.mpr run.ordered
  by_contra apart
  obtain ⟨c, _, code⟩ := run.filled 0xD800 (by grind) (by grind)
  have valid := exists_toNat_eq_iff.mp ⟨c, code⟩
  omega

private theorem covers_rank (run : set.MaximalRun first last) {n : Nat} (above : rank first ≤ n)
    (below : n ≤ rank last) : Covers set.spans n := by
  have bounded := Nat.lt_of_le_of_lt below (rank_lt_scalarCount last)
  rw [← mem_ofRank_iff bounded]
  rw [← rank_ofRank bounded, rank_le_rank_iff, le_iff_toNat_le] at above below
  obtain ⟨c, inSet, same⟩ := run.filled _ above below
  exact Char.toNat_inj.mp same ▸ inSet

private theorem mem_runs (run : set.MaximalRun first last) : (first, last) ∈ set.runs := by
  have firstCode := toNat_eq_of_rank first
  have lastCode := toNat_eq_of_rank last
  have order := rank_le_rank_iff.mpr run.ordered
  have sameSide := run.same_side
  obtain ⟨s, member, begins, _⟩ := run.first_mem
  have bounded := set.bounded s member
  have reaches : rank last ≤ s.hi := by
    by_contra short
    have next := run.covers_rank (n := s.hi + 1) (by omega) (by omega)
    have within := set.separated.covers_of_touches member next (by omega) (by omega)
    exact absurd within.2 (by omega)
  have neighbour {n : Nat} (above : s.lo ≤ n) (below : n ≤ s.hi) :
      ∃ c ∈ set, rank c = n :=
    have isRank : n < scalarCount := by omega
    ⟨ofRank n, (mem_ofRank_iff isRank).mpr ⟨s, member, above, below⟩, rank_ofRank isRank⟩
  refine mem_runs_iff_span.mpr ⟨s, member, order, sameSide, ?_, ?_⟩
  · by_contra later
    obtain ⟨c, inSet, isRank⟩ := @neighbour (rank first - 1) (by omega) (by omega)
    have code := toNat_eq_of_rank c
    have apart := run.before c inSet
    grind
  · by_contra earlier
    obtain ⟨c, inSet, isRank⟩ := @neighbour (rank last + 1) (by omega) (by omega)
    have code := toNat_eq_of_rank c
    have apart := run.after c inSet
    grind

end MaximalRun

theorem mem_runs_iff : (first, last) ∈ set.runs ↔ set.MaximalRun first last :=
  ⟨maximalRun_of_mem_runs, MaximalRun.mem_runs⟩

/-- Every member is in a run: in the whole of its span, or in the part on its side of the
surrogates. -/
private theorem exists_run_of_mem {c : Char} (inSet : c ∈ set) :
    ∃ first last, (first, last) ∈ set.runs ∧ first ≤ c ∧ c ≤ last := by
  obtain ⟨s, member, begins, ends⟩ := inSet
  have bounded := set.bounded s member
  let lo := if s.lo < 0xD800 ∧ 0xD800 ≤ rank c then 0xD800 else s.lo
  let hi := if rank c < 0xD800 ∧ 0xD800 ≤ s.hi then 0xD7FF else s.hi
  have isLo : rank (ofRank lo) = lo := rank_ofRank (by grind)
  have isHi : rank (ofRank hi) = hi := rank_ofRank (by grind)
  refine ⟨ofRank lo, ofRank hi, mem_runs_iff_span.mpr ⟨s, member, ?_⟩, ?_, ?_⟩
  · grind
  · rw [← rank_le_rank_iff]
    grind
  · rw [← rank_le_rank_iff]
    grind

theorem mem_iff_in_run {c : Char} :
    c ∈ set ↔ ∃ ends ∈ set.runs, ends.1 ≤ c ∧ c ≤ ends.2 := by
  constructor
  · intro inSet
    obtain ⟨first, last, listed, within⟩ := exists_run_of_mem inSet
    exact ⟨(first, last), listed, within⟩
  · intro inRun
    obtain ⟨⟨first, last⟩, listed, above, below⟩ := inRun
    obtain ⟨d, inSet, same⟩ := (mem_runs_iff.mp listed).filled c.toNat
      (le_iff_toNat_le.mp above) (le_iff_toNat_le.mp below)
    exact Char.toNat_inj.mp same ▸ inSet

theorem ofRanges_runs (set : CharSet) : ofRanges set.runs = set :=
  ext fun _ => mem_ofRanges.trans mem_iff_in_run.symm

end CharSet

end LazyGrammar
