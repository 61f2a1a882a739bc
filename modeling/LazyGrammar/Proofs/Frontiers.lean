import LazyGrammar.Proofs.ListSemantics
import Mathlib.Data.List.Basic
import Mathlib.Tactic.ByContra

/-!
# Frontiers of a repetition

What the rounds of a repetition make of its branches. The branches do not meet: each
goes through the rounds by itself, and so the rounds that begin at an input are those
that begin behind each of its results. There are branches in every round up to a last
one, and in none after it.
-/

set_option autoImplicit false

namespace LazyGrammar

/-- A branch that goes on with what another one found from where it is. -/
def Repeated.followedBy (branch further : Repeated) : Repeated :=
  ⟨branch.values ++ further.values, further.rest⟩

section Rounds

variable {results : List Char → List Parse} {input : List Char}

theorem frontierAfter_nil (results : List Char → List Parse) (rounds : Nat) :
    frontierAfter results [] rounds = [] := by
  induction rounds with
  | zero => rfl
  | succ rounds ih => exact ih

theorem frontierAfter_succ (results : List Char → List Parse) (frontier : List Repeated)
    (round : Nat) :
    frontierAfter results frontier (round + 1) =
      extendAll results (frontierAfter results frontier round) := by
  induction round generalizing frontier with
  | zero => rfl
  | succ round ih =>
      rw [frontierAfter, ih]
      rfl

theorem mem_extendAll_iff {frontier : List Repeated} {branch : Repeated} :
    branch ∈ extendAll results frontier ↔
      ∃ origin ∈ frontier, ∃ parse ∈ results origin.rest,
        branch = ⟨origin.values ++ [parse.value], parse.rest⟩ := by
  simp only [extendAll, List.mem_flatMap, List.mem_map, eq_comm]

theorem results_eq_nil_of_extendAll {frontier : List Repeated}
    (dead : extendAll results frontier = []) : ∀ branch ∈ frontier, results branch.rest = [] := by
  intro branch member
  exact List.map_eq_nil_iff.mp (List.flatMap_eq_nil_iff.mp dead branch member)

/-- Every branch goes through the rounds by itself. -/
theorem frontierAfter_eq_flatMap (frontier : List Repeated) (rounds : Nat) :
    frontierAfter results frontier rounds =
      frontier.flatMap fun branch =>
        (frontierAfter results [.start branch.rest] rounds).map branch.followedBy := by
  induction rounds generalizing frontier with
  | zero => simp [frontierAfter, Repeated.followedBy, Repeated.start]
  | succ rounds ih =>
      rw [frontierAfter, ih, extendAll, List.flatMap_assoc]
      refine List.flatMap_congr fun branch _ => ?_
      rw [frontierAfter, ih, extendAll, List.flatMap_singleton, List.map_flatMap,
        List.flatMap_map, List.flatMap_map]
      refine List.flatMap_congr fun parse _ => ?_
      simp [Repeated.followedBy, Repeated.start, Function.comp_def]

/-- One round more from an input is the rounds behind each of its results. -/
theorem frontierAfter_start_succ (input : List Char) (rounds : Nat) :
    frontierAfter results [.start input] (rounds + 1) =
      (results input).flatMap fun head =>
        (frontierAfter results [.start head.rest] rounds).map fun branch =>
          ⟨head.value :: branch.values, branch.rest⟩ := by
  rw [frontierAfter, frontierAfter_eq_flatMap, extendAll, List.flatMap_singleton, List.flatMap_map]
  rfl

theorem length_values_of_mem_frontierAfter {rounds : Nat} {branch : Repeated}
    (member : branch ∈ frontierAfter results [.start input] rounds) :
    branch.values.length = rounds := by
  induction rounds generalizing branch with
  | zero =>
      rw [List.mem_singleton.mp member]
      rfl
  | succ rounds ih =>
      rw [frontierAfter_succ, mem_extendAll_iff] at member
      obtain ⟨origin, originMember, parse, _, rfl⟩ := member
      rw [List.length_append, ih originMember]
      rfl

/-!
## The last round
-/

theorem frontierAfter_eq_nil_of_le {frontier : List Repeated} {round later : Nat}
    (dead : frontierAfter results frontier round = []) (le : round ≤ later) :
    frontierAfter results frontier later = [] := by
  induction le with
  | refl => exact dead
  | step _ ih =>
      rw [frontierAfter_succ, ih]
      rfl

theorem frontierAfter_ne_nil_iff {frontier : List Repeated} {last round : Nat}
    (alive : frontierAfter results frontier last ≠ [])
    (dead : frontierAfter results frontier (last + 1) = []) :
    frontierAfter results frontier round ≠ [] ↔ round ≤ last := by
  constructor
  · intro nonempty
    by_contra beyond
    exact nonempty (frontierAfter_eq_nil_of_le dead (Nat.lt_of_not_le beyond))
  · intro le empty
    exact alive (frontierAfter_eq_nil_of_le empty le)

/-- Every round leaves ends of what the branches before it left. -/
theorem rest_suffix_of_mem_frontierAfter
    (suffixes : ∀ rest, rest <:+ input → ∀ parse ∈ results rest, parse.rest <:+ rest)
    {round : Nat} {branch : Repeated}
    (member : branch ∈ frontierAfter results [.start input] round) : branch.rest <:+ input := by
  induction round generalizing branch with
  | zero =>
      rw [List.mem_singleton.mp member]
      exact List.suffix_refl input
  | succ round ih =>
      rw [frontierAfter_succ, mem_extendAll_iff] at member
      obtain ⟨origin, originMember, parse, produced, rfl⟩ := member
      have originSuffix := ih originMember
      exact (suffixes origin.rest originSuffix parse produced).trans originSuffix

/-- If a round has no branch, some earlier one is the last that has any. -/
theorem exists_last_round {round : Nat} (dead : frontierAfter results [.start input] round = []) :
    ∃ last, frontierAfter results [.start input] last ≠ [] ∧
      frontierAfter results [.start input] (last + 1) = [] := by
  induction round with
  | zero => cases dead
  | succ round ih =>
      by_cases earlier : frontierAfter results [.start input] round = []
      · exact ih earlier
      · exact ⟨round, earlier, dead⟩

end Rounds

end LazyGrammar
