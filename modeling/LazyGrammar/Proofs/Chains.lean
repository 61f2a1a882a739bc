import LazyGrammar.Proofs.Agreement
import LazyGrammar.Proofs.Approximation
import Mathlib.Order.Bounds.Defs

/-!
# Chains of results

A chain takes one result after the other, each of them on what the one before left. The
branches of a repetition after some rounds are the chains of that length, in the order of
the results that they take. The last branches are then the longest chains there are, which
is what a repetition finds: a chain that ends earlier is given up as soon as another one
goes on, even if nothing goes on from where it ends.
-/

set_option autoImplicit false

namespace LazyGrammar

/-- A result that was taken, with its place among the results that there were. -/
structure Link where
  index : Nat
  parse : Parse

/-- The values along a chain in order, and what the last result leaves of the input. -/
def Repeated.along : List Char → List Link → Repeated
  | input, [] => .start input
  | _, link :: others =>
      let later := Repeated.along link.parse.rest others
      ⟨link.parse.value :: later.values, later.rest⟩

def Repeated.parse (branch : Repeated) : Parse := ⟨.list branch.values, branch.rest⟩

namespace Rules

/-- With some fuel, pulling comes to this parse at the index. -/
def Pulls (rules : Rules) (expr : Expr) (input : List Char) (index : Nat) (parse : Parse) : Prop :=
  ∃ fuel, ((rules.cursor fuel expr input).pullUpTo (index + 1)).1[index]? = some parse

inductive Chain (rules : Rules) (inner : Expr) : List Char → List Link → Prop where
  | nil {input : List Char} : Chain rules inner input []
  | cons {input : List Char} {link : Link} {others : List Link} :
      rules.Pulls inner input link.index link.parse →
      Chain rules inner link.parse.rest others → Chain rules inner input (link :: others)

/-- All chains of the greatest length that a chain has, in the order of their choices. -/
structure LongestChains (rules : Rules) (inner : Expr) (input : List Char) (length : Nat)
    (chains : List (List Link)) : Prop where
  isGreatest : IsGreatest {n | ∃ links, rules.Chain inner input links ∧ links.length = n} length
  mem_iff : ∀ links, links ∈ chains ↔ rules.Chain inner input links ∧ links.length = length
  ascending : chains.Pairwise fun first second => first.map Link.index < second.map Link.index

end Rules

/-!
## Branches as chains
-/

def chainsOf (results : List Char → List Parse) : Nat → List Char → List (List Link)
  | 0, _ => [[]]
  | length + 1, input =>
      (results input).zipIdx.flatMap fun found =>
        (chainsOf results length found.1.rest).map (⟨found.2, found.1⟩ :: ·)

section Chains

variable {results : List Char → List Parse} {input : List Char}

theorem frontierAfter_eq_map_chainsOf (length : Nat) (input : List Char) :
    frontierAfter results [.start input] length =
      (chainsOf results length input).map (Repeated.along input) := by
  induction length generalizing input with
  | zero => rfl
  | succ length ih =>
      rw [frontierAfter_start_succ, ← List.zipIdx_map_fst 0 (results input), List.flatMap_map,
        chainsOf, List.map_flatMap]
      refine List.flatMap_congr fun found _ => ?_
      rw [ih, List.map_map, List.map_map]
      rfl

theorem length_of_mem_chainsOf {length : Nat} {links : List Link}
    (member : links ∈ chainsOf results length input) : links.length = length := by
  induction length generalizing input links with
  | zero =>
      rw [List.mem_singleton.mp member]
      rfl
  | succ length ih =>
      obtain ⟨found, _, inRest⟩ := List.mem_flatMap.mp member
      obtain ⟨others, othersMember, rfl⟩ := List.mem_map.mp inRest
      exact congrArg (· + 1) (ih othersMember)

private theorem cons_mem_chainsOf_iff {length : Nat} {link : Link} {others : List Link} :
    link :: others ∈ chainsOf results (length + 1) input ↔
      (results input)[link.index]? = some link.parse ∧
        others ∈ chainsOf results length link.parse.rest := by
  rw [chainsOf, List.mem_flatMap]
  constructor
  · rintro ⟨⟨parse, index⟩, found, inRest⟩
    obtain ⟨_, member, same⟩ := List.mem_map.mp inRest
    cases same
    exact ⟨List.mem_zipIdx_iff_getElem?.mp found, member⟩
  · rintro ⟨found, member⟩
    exact ⟨(link.parse, link.index), List.mem_zipIdx_iff_getElem?.mpr found,
      List.mem_map.mpr ⟨others, member, rfl⟩⟩

theorem chainsOf_ascending (length : Nat) (input : List Char) :
    (chainsOf results length input).Pairwise fun first second =>
      first.map Link.index < second.map Link.index := by
  induction length generalizing input with
  | zero => exact List.pairwise_singleton _ _
  | succ length ih =>
      refine List.pairwise_flatMap.mpr ⟨fun found _ => ?_, ?_⟩
      · refine List.pairwise_map.mpr ((ih found.1.rest).imp fun less => ?_)
        exact List.cons_lt_cons_iff.mpr (.inr ⟨rfl, less⟩)
      · refine (pairwise_snd_zipIdx (results input)).imp fun less first member second other => ?_
        obtain ⟨_, _, rfl⟩ := List.mem_map.mp member
        obtain ⟨_, _, rfl⟩ := List.mem_map.mp other
        exact List.cons_lt_cons_iff.mpr (.inl less)

end Chains

/-!
## Results that are pulled
-/

namespace Rules

variable {rules : Rules} {inner : Expr} {input : List Char}

theorem Yields.pulls_iff {expr : Expr} {items : List Parse} (yields : rules.Yields expr input items)
    {index : Nat} {parse : Parse} :
    rules.Pulls expr input index parse ↔ items[index]? = some parse := by
  simp only [Pulls, Cursor.pullUpTo_eq_take, List.getElem?_take_of_lt (Nat.lt_succ_self index)]
  constructor
  · rintro ⟨fuel, pulled⟩
    obtain ⟨more, ends, le⟩ :=
      (yields.eventually_parses.and (Filter.eventually_ge_atTop fuel)).exists
    have further := (rules.parses_approximates_self le expr input).isPrefix_toList
    rw [ends, Enumeration.toList_ofList] at further
    obtain ⟨within, rfl⟩ := List.getElem?_eq_some_iff.mp pulled
    exact List.prefix_iff_getElem?.mp further index within
  · intro found
    obtain ⟨fuel, ends⟩ := yields.eventually_parses.exists
    refine ⟨fuel, ?_⟩
    rw [cursor, ends, Enumeration.toList_ofList]
    exact found

namespace Chain

variable {links more : List Link}

theorem append (chain : rules.Chain inner input links)
    (further : rules.Chain inner (Repeated.along input links).rest more) :
    rules.Chain inner input (links ++ more) := by
  induction chain with
  | nil => exact further
  | cons pulls _ ih => exact .cons pulls (ih further)

private theorem take (chain : rules.Chain inner input links) (length : Nat) :
    rules.Chain inner input (links.take length) := by
  induction chain generalizing length with
  | nil => rw [List.take_nil]; exact .nil
  | cons pulls _ ih =>
      cases length with
      | zero => exact .nil
      | succ length => exact .cons pulls (ih length)

/-- Where the results are known for all branches that have fewer rounds behind them than the chain
has links, it is one of those of its length. -/
theorem iff_mem_chainsOf {results : List Char → List Parse} {links : List Link}
    (yields : ∀ round < links.length, ∀ branch ∈ frontierAfter results [.start input] round,
      rules.Yields inner branch.rest (results branch.rest)) :
    rules.Chain inner input links ↔ links ∈ chainsOf results links.length input := by
  induction links generalizing input with
  | nil => exact ⟨fun _ => List.mem_singleton_self _, fun _ => .nil⟩
  | cons link others ih =>
      have here := yields 0 (Nat.zero_lt_succ _) (.start input) (List.mem_singleton_self _)
      have behind (found : (results input)[link.index]? = some link.parse) :
          rules.Chain inner link.parse.rest others ↔
            others ∈ chainsOf results others.length link.parse.rest := by
        refine ih fun round lt branch member => ?_
        refine yields (round + 1) (Nat.succ_lt_succ lt)
          ⟨link.parse.value :: branch.values, branch.rest⟩ ?_
        rw [frontierAfter_start_succ]
        exact List.mem_flatMap.mpr
          ⟨link.parse, List.mem_of_getElem? found, List.mem_map.mpr ⟨branch, member, rfl⟩⟩
      rw [List.length_cons, cons_mem_chainsOf_iff]
      constructor
      · intro chain
        cases chain with
        | cons pulls further =>
            have found := here.pulls_iff.mp pulls
            exact ⟨found, (behind found).mp further⟩
      · rintro ⟨found, member⟩
        exact .cons (here.pulls_iff.mpr found) ((behind found).mpr member)

end Chain

/-- If the branches die out after some rounds, the chains of that many links are the longest. -/
private theorem longestChains_of_dead {results : List Char → List Parse} {rounds : Nat}
    (yields : ∀ round ≤ rounds, ∀ branch ∈ frontierAfter results [.start input] round,
      rules.Yields inner branch.rest (results branch.rest))
    (alive : frontierAfter results [.start input] rounds ≠ [])
    (dead : frontierAfter results [.start input] (rounds + 1) = []) :
    rules.LongestChains inner input rounds (chainsOf results rounds input) := by
  have chain_iff {links : List Link} (le : links.length ≤ rounds + 1) :
      rules.Chain inner input links ↔ links ∈ chainsOf results links.length input :=
    Chain.iff_mem_chainsOf fun round lt => yields round (Nat.le_of_lt_succ (lt.trans_le le))
  have mem_iff (links : List Link) :
      links ∈ chainsOf results rounds input ↔
        rules.Chain inner input links ∧ links.length = rounds := by
    constructor
    · intro member
      have length := length_of_mem_chainsOf member
      exact ⟨(chain_iff (by omega)).mpr (length.symm ▸ member), length⟩
    · rintro ⟨chain, rfl⟩
      exact (chain_iff (Nat.le_succ _)).mp chain
  refine ⟨⟨?_, ?_⟩, mem_iff, chainsOf_ascending rounds input⟩
  · rw [frontierAfter_eq_map_chainsOf, ne_eq, List.map_eq_nil_iff] at alive
    obtain ⟨links, member⟩ := List.exists_mem_of_ne_nil _ alive
    exact ⟨links, (mem_iff links).mp member⟩
  · rintro _ ⟨links, chain, rfl⟩
    by_contra longer
    -- The beginning of a longer chain would be a branch in the first round without any.
    have length : (links.take (rounds + 1)).length = rounds + 1 :=
      List.length_take_of_le (Nat.lt_of_not_le longer)
    have member := (chain_iff (Nat.le_of_eq length)).mp (chain.take (rounds + 1))
    rw [frontierAfter_eq_map_chainsOf, List.map_eq_nil_iff] at dead
    rw [length, dead] at member
    cases member

theorem longestChains_of_performs {fuel rounds : Nat} {last : List Branch}
    (performs : Performs (rules.parses fuel inner) [⟨[], input⟩] rounds last) :
    rules.LongestChains inner input rounds
      (chainsOf (fun rest => (rules.parses fuel inner rest).toList) rounds input) := by
  obtain ⟨ends, alive, dead, _⟩ :=
    performs.endsOn (map_repeated_start input) (List.cons_ne_nil _ _) rfl
  exact longestChains_of_dead
    (fun round le branch member => .of_parses (ends round le branch member)) alive dead

/-!
## What a repetition finds
-/

theorem exists_performs_of_answers {fuel : Nat}
    (answers : (rules.cursor fuel (.many inner) input).Answers 1) :
    ∃ rounds last, Performs (rules.parses fuel inner) [⟨[], input⟩] rounds last ∧
      (rules.cursor fuel (.many inner) input).RunsOut (last.map (Branch.parse [])) := by
  have found : rules.parses fuel (.many inner) input =
      (Enumeration.ofExcept (lastFrontier (rules.parses fuel inner) fuel [⟨[], input⟩])).map
        (Branch.parse []) := by
    rw [parses_many, repetitionParses]
  cases reached : lastFrontier (rules.parses fuel inner) fuel [⟨[], input⟩] with
  | ok last =>
      obtain ⟨rounds, _, performs⟩ := lastFrontier_eq_ok_iff.mp reached
      refine ⟨rounds, last, performs, Cursor.runsOut_iff.mpr ?_⟩
      rw [reached] at found
      exact found.trans (Enumeration.map_ofList _ last)
  | error why =>
      refine (answers why ?_).elim
      rw [Cursor.pullUpTo, Cursor.pull, cursor, found, reached]
      rfl

/-- Where a repetition answers, it finds the longest chains and nothing else, each once and in the
order of their choices. There is at least one, and what it repeats has no result on what is left. -/
theorem many_finds_longest_chains {rules : Rules} {inner : Expr} {input : List Char} {fuel : Nat}
    (answers : (rules.cursor fuel (.many inner) input).Answers 1) :
    ∃ length chains items, rules.LongestChains inner input length chains ∧
      items = chains.map (fun links => (Repeated.along input links).parse) ∧
      (rules.cursor fuel (.many inner) input).RunsOut items ∧ items ≠ [] ∧
      ∀ parse ∈ items, (∃ values, parse.value = .list values ∧ values.length = length) ∧
        (rules.cursor fuel inner parse.rest).RunsOut [] := by
  obtain ⟨rounds, last, performs, runsOut⟩ := exists_performs_of_answers answers
  let results (rest : List Char) : List Parse := (rules.parses fuel inner rest).toList
  obtain ⟨ends, alive, dead, lastEq⟩ := @Performs.endsOn _ results _ _ _ _ performs
    (map_repeated_start input) (List.cons_ne_nil _ _) rfl
  have stuck := results_eq_nil_of_extendAll ((frontierAfter_succ _ _ _).symm.trans dead)
  rw [map_parse_eq [] lastEq] at runsOut
  refine ⟨rounds, _, _, longestChains_of_performs performs, ?_, runsOut, ?_, fun parse member => ?_⟩
  · rw [frontierAfter_eq_map_chainsOf, List.map_map]
    rfl
  · exact fun empty => alive (List.map_eq_nil_iff.mp empty)
  · obtain ⟨branch, inLast, rfl⟩ := List.mem_map.mp member
    refine ⟨⟨branch.values, rfl, length_values_of_mem_frontierAfter inLast⟩, ?_⟩
    have ended := ends rounds (Nat.le_refl rounds) branch inLast
    rw [stuck branch inLast] at ended
    exact Cursor.runsOut_iff.mpr ended

/-- A mark that is read in two ways, and two of them at once. -/
def marks : Expr := .union [.literal "!", .literal "!!", .literal "!"]

theorem many_finds_longest_chains_marks :
    (empty.cursor 3 (.many marks) "!!".toList).Answers 1 ∧
    ∃ chains, empty.LongestChains marks "!!".toList 2 chains ∧
      chains.map (fun links => (Repeated.along "!!".toList links).parse) =
        List.replicate 4 ⟨.list [.text "!", .text "!"], []⟩ := by
  have answers : (empty.cursor 3 (.many marks) "!!".toList).Answers 1 := by
    intro why halted
    cases halted
  refine ⟨answers, ?_⟩
  obtain ⟨length, chains, items, longest, itemsEq, runsOut, _, shape⟩ :=
    many_finds_longest_chains answers
  have found : (empty.cursor 3 (.many marks) "!!".toList).RunsOut
      (List.replicate 4 ⟨.list [.text "!", .text "!"], []⟩) := Cursor.runsOut_iff.mpr rfl
  obtain rfl := found.unique runsOut
  obtain ⟨⟨values, value, sameLength⟩, _⟩ := shape _ List.mem_cons_self
  cases value
  obtain rfl : length = 2 := sameLength.symm
  exact ⟨chains, longest, itemsEq.symm⟩

end Rules

end LazyGrammar
