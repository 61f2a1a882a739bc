import LazyGrammar.Proofs.Ending
import LazyGrammar.Proofs.Expr.Parts
import LazyGrammar.Proofs.Frontiers
import Mathlib.Order.Filter.AtTopBot.Basic
import Mathlib.Order.Filter.Finite
import Mathlib.Tactic.Choose

/-!
# Lazy evaluation agrees with the list semantics

Pulling the parses of an expression until they end terminates with exactly the
list that the expression yields. In one direction the fuel that was enough is
forgotten, by induction over the fuel and in it over the expression. In the other
direction enough fuel is found, by induction over how the list is yielded: every
part needs only finitely much, and more does no harm.
-/

set_option autoImplicit false

namespace LazyGrammar

/-!
## Repetitions
-/

def Branch.repeated (branch : Branch) : Repeated := ⟨branch.values.reverse, branch.rest⟩

theorem map_repeated_start (input : List Char) :
    [(⟨[], input⟩ : Branch)].map Branch.repeated = [.start input] := rfl

section Repetition

variable {step : List Char → Enumeration Parse} {results : List Char → List Parse}

/-- On what every branch leaves, the parses end with the results. -/
def EndsOn (step : List Char → Enumeration Parse) (results : List Char → List Parse)
    (branches : List Repeated) : Prop :=
  ∀ branch ∈ branches, step branch.rest = .ofList (results branch.rest)

private theorem expand_of_endsOn {frontier : List Branch}
    (ends : EndsOn step results (frontier.map Branch.repeated)) :
    ∃ next, expand step frontier = .ofList next ∧
      next.map Branch.repeated = extendAll results (frontier.map Branch.repeated) := by
  let expandOne (branch : Branch) : List Branch :=
    (results branch.rest).map fun parse => ⟨parse.value :: branch.values, parse.rest⟩
  refine ⟨frontier.flatMap expandOne, ?_, ?_⟩
  · apply Enumeration.flatMap_ofList
    intro branch member
    have branchEnds := ends branch.repeated (List.mem_map_of_mem member)
    rw [show step branch.rest = _ from branchEnds, Enumeration.map_ofList]
    rfl
  · rw [extendAll, List.map_flatMap, List.flatMap_map]
    refine List.flatMap_congr fun branch _ => ?_
    simp [expandOne, Branch.repeated, Function.comp_def]

private theorem endsOn_of_expand {frontier next : List Branch}
    (results_eq : results = fun rest => (step rest).toList)
    (expanded : expand step frontier = .ofList next) :
    EndsOn step results (frontier.map Branch.repeated) ∧
      next.map Branch.repeated = extendAll results (frontier.map Branch.repeated) := by
  obtain ⟨list, listEnds, partsEnd, _⟩ := Enumeration.flatMap_eq_ofList_iff.mp expanded
  obtain rfl := Enumeration.ofList_injective listEnds
  have ends : EndsOn step results (frontier.map Branch.repeated) := by
    intro branch member
    obtain ⟨origin, originMember, rfl⟩ := List.mem_map.mp member
    obtain ⟨items, ends, _⟩ := Enumeration.map_eq_ofList_iff.mp (partsEnd origin originMember)
    subst results_eq
    change step origin.rest = .ofList (step origin.rest).toList
    rw [ends, Enumeration.toList_ofList]
  obtain ⟨again, expandedAgain, nextEq⟩ := expand_of_endsOn ends
  obtain rfl := Enumeration.ofList_injective (expanded.symm.trans expandedAgain)
  exact ⟨ends, nextEq⟩

/-- The loop goes through a number of rounds that find something, and stops at the last frontier
because the next round finds nothing. -/
inductive Performs (step : List Char → Enumeration Parse) :
    List Branch → Nat → List Branch → Prop where
  | stop {frontier : List Branch} :
      expand step frontier = .done → Performs step frontier 0 frontier
  | round {frontier others last : List Branch} {branch : Branch} {rounds : Nat} :
      expand step frontier = .ofList (branch :: others) →
      Performs step (branch :: others) rounds last → Performs step frontier (rounds + 1) last

/-- The round that finds nothing counts against the bound too. -/
theorem lastFrontier_eq_ok_iff {bound : Nat} {frontier last : List Branch} :
    lastFrontier step bound frontier = .ok last ↔
      ∃ rounds < bound, Performs step frontier rounds last := by
  constructor
  · intro reached
    induction bound generalizing frontier with
    | zero => cases reached
    | succ bound ih =>
        rw [lastFrontier] at reached
        cases collected : (expand step frontier).collect with
        | error why => rw [collected] at reached; cases reached
        | ok next =>
            have expanded := Enumeration.collect_eq_ok_iff.mp collected
            rw [collected] at reached
            cases next with
            | nil =>
                cases reached
                exact ⟨0, Nat.zero_lt_succ bound, .stop expanded⟩
            | cons branch others =>
                obtain ⟨rounds, lt, performs⟩ := ih reached
                exact ⟨rounds + 1, Nat.succ_lt_succ lt, .round expanded performs⟩
  · rintro ⟨rounds, lt, performs⟩
    induction performs generalizing bound with
    | stop expanded =>
        obtain ⟨bound, rfl⟩ := Nat.exists_eq_add_one.mpr lt
        rw [lastFrontier, expanded]
        rfl
    | round expanded _ ih =>
        obtain ⟨bound, rfl⟩ := Nat.exists_eq_add_one.mpr (Nat.zero_lt_of_lt lt)
        rw [lastFrontier, expanded, Enumeration.collect_ofList]
        exact ih (Nat.lt_of_succ_lt_succ lt)

private theorem exists_performs_of_endsOn {rounds : Nat} {frontier : List Branch}
    {branches : List Repeated} (same : frontier.map Branch.repeated = branches)
    (ends : ∀ round ≤ rounds, EndsOn step results (frontierAfter results branches round))
    (alive : frontierAfter results branches rounds ≠ [])
    (dead : frontierAfter results branches (rounds + 1) = []) :
    ∃ last, Performs step frontier rounds last ∧
      last.map Branch.repeated = frontierAfter results branches rounds := by
  induction rounds generalizing frontier branches with
  | zero =>
      subst same
      obtain ⟨next, expanded, nextEq⟩ := expand_of_endsOn (ends 0 (Nat.le_refl 0))
      have empty : next = [] := List.map_eq_nil_iff.mp (nextEq.trans dead)
      subst empty
      exact ⟨frontier, .stop expanded, rfl⟩
  | succ rounds ih =>
      subst same
      obtain ⟨next, expanded, nextEq⟩ := expand_of_endsOn (ends 0 (Nat.zero_le _))
      obtain ⟨last, performs, lastEq⟩ := ih nextEq
        (fun round le => ends (round + 1) (Nat.succ_le_succ le)) alive dead
      cases next with
      | nil =>
          rw [frontierAfter, ← nextEq, List.map_nil, frontierAfter_nil] at alive
          exact (alive rfl).elim
      | cons branch others => exact ⟨last, .round expanded performs, lastEq⟩

theorem Performs.endsOn {rounds : Nat} {frontier last : List Branch} {branches : List Repeated}
    (performs : Performs step frontier rounds last) (same : frontier.map Branch.repeated = branches)
    (nonempty : branches ≠ []) (results_eq : results = fun rest => (step rest).toList) :
    (∀ round ≤ rounds, EndsOn step results (frontierAfter results branches round)) ∧
      frontierAfter results branches rounds ≠ [] ∧
      frontierAfter results branches (rounds + 1) = [] ∧
      last.map Branch.repeated = frontierAfter results branches rounds := by
  induction performs generalizing branches with
  | stop expanded =>
      subst same
      obtain ⟨ends, nextEq⟩ := @endsOn_of_expand _ _ _ [] results_eq expanded
      refine ⟨fun round le => ?_, nonempty, nextEq.symm, rfl⟩
      rw [Nat.le_zero.mp le]
      exact ends
  | round expanded _ ih =>
      subst same
      obtain ⟨ends, nextEq⟩ := endsOn_of_expand results_eq expanded
      obtain ⟨laterEnd, alive, dead, lastEq⟩ := ih nextEq
        fun empty => List.cons_ne_nil _ _ (nextEq.trans empty)
      refine ⟨fun round le => ?_, alive, dead, lastEq⟩
      cases round with
      | zero => exact ends
      | succ round => exact laterEnd round (Nat.le_of_succ_le_succ le)

theorem map_parse_eq (before : List Value) {last : List Branch} {branches : List Repeated}
    (same : last.map Branch.repeated = branches) :
    last.map (Branch.parse before) =
      branches.map fun branch => ⟨.list (before ++ branch.values), branch.rest⟩ := by
  subst same
  rw [List.map_map]
  rfl

private theorem repetitionParses_of_endsOn {rounds bound : Nat} {input : List Char}
    (before : List Value)
    (ends : ∀ round ≤ rounds,
      EndsOn step results (frontierAfter results [.start input] round))
    (alive : frontierAfter results [.start input] rounds ≠ [])
    (dead : frontierAfter results [.start input] (rounds + 1) = []) (enough : rounds < bound) :
    repetitionParses step bound before input =
      .ofList ((frontierAfter results [.start input] rounds).map fun branch =>
        ⟨.list (before ++ branch.values), branch.rest⟩) := by
  obtain ⟨last, performs, lastEq⟩ :=
    exists_performs_of_endsOn (map_repeated_start input) ends alive dead
  have reached := lastFrontier_eq_ok_iff.mpr ⟨rounds, enough, performs⟩
  rw [repetitionParses, reached, Enumeration.ofExcept, Enumeration.map_ofList,
    map_parse_eq before lastEq]

theorem endsOn_of_repetitionParses {bound : Nat} {before : List Value} {input : List Char}
    {items : List Parse} (results_eq : results = fun rest => (step rest).toList)
    (reached : repetitionParses step bound before input = .ofList items) :
    ∃ rounds, (∀ round ≤ rounds,
        EndsOn step results (frontierAfter results [.start input] round)) ∧
      frontierAfter results [.start input] rounds ≠ [] ∧
      frontierAfter results [.start input] (rounds + 1) = [] ∧
      items = (frontierAfter results [.start input] rounds).map fun branch =>
        ⟨.list (before ++ branch.values), branch.rest⟩ := by
  rw [repetitionParses] at reached
  cases loop : lastFrontier step bound [⟨[], input⟩] with
  | error why =>
      rw [loop] at reached
      cases items <;> cases reached
  | ok last =>
      rw [loop, Enumeration.ofExcept, Enumeration.map_ofList] at reached
      obtain ⟨rounds, _, performs⟩ := lastFrontier_eq_ok_iff.mp loop
      obtain ⟨ends, alive, dead, lastEq⟩ :=
        performs.endsOn (map_repeated_start input) (List.cons_ne_nil _ _) results_eq
      refine ⟨rounds, ends, alive, dead, ?_⟩
      rw [← map_parse_eq before lastEq]
      exact (Enumeration.ofList_injective reached).symm

end Repetition

/-!
## From a run to the list
-/

namespace Rules.Yields

variable {rules : Rules}

theorem of_literalParse? {text : String} {input : List Char} :
    rules.Yields (.literal text) input (literalParse? text input).toList := by
  cases found : literalParse? text input with
  | none => exact .literalNone (literalParse?_eq_none_iff.mp found)
  | some parse =>
      obtain ⟨rest, rfl, rfl⟩ := literalParse?_eq_some_iff.mp found
      exact .literal

theorem of_regexParse? {pattern : Regex.Pattern} {input : List Char} :
    rules.Yields (.regex pattern) input (regexParse? pattern input).toList := by
  rw [regexParse?]
  cases found : pattern.splitMatch? input with
  | none => exact .regexNone found
  | some split => exact .regex found

private theorem of_charParse? {accept : Char → Bool} {expr : Expr} {input : List Char}
    (accepted : ∀ c rest, accept c = true → rules.Yields expr (c :: rest) [⟨.char c, rest⟩])
    (refused : (∀ c ∈ input.head?, accept c = false) → rules.Yields expr input []) :
    rules.Yields expr input (charParse? accept input).toList := by
  cases found : charParse? accept input with
  | none => exact refused (charParse?_eq_none_iff.mp found)
  | some parse =>
      obtain ⟨c, rest, passes, rfl, rfl⟩ := charParse?_eq_some_iff.mp found
      exact accepted c rest passes

theorem of_charParse?_oneOf {set : CharSet} {input : List Char} :
    rules.Yields (.oneOf set) input (charParse? set.contains input).toList := by
  refine of_charParse? (fun c rest accepted => ?_) fun refused => ?_
  · exact .oneOf (CharSet.contains_iff.mp accepted)
  · exact .oneOfNone fun c isHead => CharSet.contains_eq_false_iff.mp (refused c isHead)

theorem of_charParse?_noneOf {set : CharSet} {input : List Char} :
    rules.Yields (.noneOf set) input (charParse? (fun c => !set.contains c) input).toList := by
  refine of_charParse? (fun c rest accepted => ?_) fun refused => ?_
  · exact .noneOf (CharSet.not_contains_iff.mp accepted)
  · exact .noneOfNone fun c isHead => CharSet.not_contains_eq_false_iff.mp (refused c isHead)

/-- What a run ends with is yielded if this holds of the calls of rules. -/
private theorem of_parsesWith {rounds : Nat} {call : String → List Char → Enumeration Parse}
    (calls : ∀ {name input items}, call name input = .ofList items →
      rules.Yields (.rule name) input items)
    {expr : Expr} {input : List Char} {items : List Parse}
    (ends : expr.parsesWith rounds call input = .ofList items) :
    rules.Yields expr input items := by
  induction expr generalizing input items with
  | literal text =>
      rw [Expr.parsesWith, Enumeration.ofOption_eq_ofList] at ends
      rw [← Enumeration.ofList_injective ends]
      exact of_literalParse?
  | regex pattern =>
      rw [Expr.parsesWith, Enumeration.ofOption_eq_ofList] at ends
      rw [← Enumeration.ofList_injective ends]
      exact of_regexParse?
  | oneOf set =>
      rw [Expr.parsesWith, Enumeration.ofOption_eq_ofList] at ends
      rw [← Enumeration.ofList_injective ends]
      exact of_charParse?_oneOf
  | noneOf set =>
      rw [Expr.parsesWith, Enumeration.ofOption_eq_ofList] at ends
      rw [← Enumeration.ofList_injective ends]
      exact of_charParse?_noneOf
  | seq left right leftIH rightIH =>
      rw [Expr.parsesWith] at ends
      obtain ⟨firsts, leftEnds, partsEnd, rfl⟩ := Enumeration.flatMap_eq_ofList_iff.mp ends
      -- The same rest may be left several times, so the lists are a function of it.
      let results (rest : List Char) : List Parse := (right.parsesWith rounds call rest).toList
      have rightEnds : ∀ first ∈ firsts,
          right.parsesWith rounds call first.rest = .ofList (results first.rest) := by
        intro first member
        obtain ⟨seconds, ended, _⟩ := Enumeration.map_eq_ofList_iff.mp (partsEnd first member)
        simp only [results, ended, Enumeration.toList_ofList]
      have yielded := Yields.seq (leftIH leftEnds)
        fun first member => rightIH (rightEnds first member)
      convert yielded using 1
      refine List.flatMap_congr fun first member => ?_
      rw [rightEnds first member, Enumeration.map_ofList, Enumeration.toList_ofList]
  | union alternatives ih =>
      rw [Expr.parsesWith, Expr.unionParses_eq_flatMap] at ends
      obtain ⟨list, listEnds, partsEnd, rfl⟩ := Enumeration.flatMap_eq_ofList_iff.mp ends
      obtain rfl := Enumeration.ofList_injective listEnds
      exact .union fun alternative member => ih alternative member (partsEnd alternative member)
  | first alternatives ih =>
      rw [Expr.parsesWith] at ends
      rcases @Expr.firstParses_cases rounds call input alternatives with
        ⟨ended, failed⟩ | ⟨before, winner, after, rfl, failed, found, eq⟩
      · rw [ended] at ends
        obtain rfl := Enumeration.ofList_eq_done_iff.mp ends.symm
        exact .firstNone fun alternative member => ih alternative member (failed _ member)
      · rw [eq] at ends
        refine .first (fun alternative member => ?_) (ih winner (by simp) ends) ?_
        · exact ih alternative (List.mem_append_left _ member) (failed _ member)
        · intro empty
          exact found (ends.trans (Enumeration.ofList_eq_done_iff.mpr empty))
  | many inner ih =>
      rw [Expr.parsesWith] at ends
      obtain ⟨rounds, innerEnds, alive, dead, rfl⟩ := endsOn_of_repetitionParses rfl ends
      exact .many (fun round le branch member => ih (innerEnds round le branch member)) alive dead
  | many1 inner ih =>
      rw [Expr.parsesWith] at ends
      obtain ⟨heads, innerEnds, partsEnd, rfl⟩ := Enumeration.flatMap_eq_ofList_iff.mp ends
      choose! rounds branchesEnd alive dead part using fun head (member : head ∈ heads) =>
        endsOn_of_repetitionParses rfl (partsEnd head member)
      have yielded := Yields.many1 (ih innerEnds)
        (fun head member round le branch inBranches =>
          ih (branchesEnd head member round le branch inBranches)) alive dead
      convert yielded using 1
      exact List.flatMap_congr part
  | opt inner ih =>
      rw [Expr.parsesWith] at ends
      cases found : inner.parsesWith rounds call input with
      | done =>
          rw [found] at ends
          have single : [⟨.list [], input⟩] = items := Enumeration.ofList_injective ends
          subst single
          exact .optNone (ih found)
      | item parse tail =>
          rw [found] at ends
          obtain ⟨list, innerEnds, rfl⟩ := Enumeration.map_eq_ofList_iff.mp ends
          refine .opt (ih (found.trans innerEnds)) ?_
          intro empty
          subst empty
          cases innerEnds
      | halted why =>
          rw [found] at ends
          cases items <;> cases ends
  | map inner transform ih =>
      rw [Expr.parsesWith] at ends
      obtain ⟨list, innerEnds, rfl⟩ := Enumeration.map_eq_ofList_iff.mp ends
      exact .map (ih innerEnds)
  | full inner ih =>
      rw [Expr.parsesWith] at ends
      obtain ⟨list, innerEnds, rfl⟩ := Enumeration.filter_eq_ofList_iff.mp ends
      exact .full (ih innerEnds)
  | rule name =>
      rw [Expr.parsesWith] at ends
      exact calls ends

private theorem of_call {fuel : Nat} {name : String} {input : List Char} {items : List Parse}
    (ends : rules.call fuel name input = .ofList items) :
    rules.Yields (.rule name) input items := by
  induction fuel generalizing name input items with
  | zero => cases items <;> cases ends
  | succ fuel ih =>
      rw [call] at ends
      cases found : rules.get? name with
      | none =>
          rw [found] at ends
          cases items <;> cases ends
      | some definition =>
          rw [found] at ends
          exact .rule found (of_parsesWith ih ends)

theorem of_parses {fuel : Nat} {expr : Expr} {input : List Char} {items : List Parse}
    (ends : rules.parses fuel expr input = .ofList items) : rules.Yields expr input items :=
  of_parsesWith of_call ends

/-!
## From the list to all runs with enough fuel
-/

private theorem eventually_forall_mem {α : Type} {items : List α} {holds : Nat → α → Prop}
    (each : ∀ a ∈ items, ∀ᶠ fuel in Filter.atTop, holds fuel a) :
    ∀ᶠ fuel in Filter.atTop, ∀ a ∈ items, holds fuel a :=
  (Filter.eventually_all_finite items.finite_toSet).mpr each

private theorem eventually_endsOn {inner : Expr} {results : List Char → List Parse}
    {branches : List Repeated} {rounds : Nat}
    (each : ∀ round ≤ rounds, ∀ branch ∈ frontierAfter results branches round,
      ∀ᶠ fuel in Filter.atTop,
        rules.parses fuel inner branch.rest = .ofList (results branch.rest)) :
    ∀ᶠ fuel in Filter.atTop, ∀ round ≤ rounds,
      EndsOn (rules.parses fuel inner) results (frontierAfter results branches round) :=
  (Filter.eventually_all_finite (Set.finite_le_nat rounds)).mpr
    fun round le => eventually_forall_mem (each round le)

theorem eventually_parses {expr : Expr} {input : List Char} {items : List Parse}
    (yields : rules.Yields expr input items) :
    ∀ᶠ fuel in Filter.atTop, rules.parses fuel expr input = .ofList items := by
  induction yields with
  | @literal text rest =>
      have found : literalParse? text (text.toList ++ rest) = some ⟨.text text, rest⟩ :=
        literalParse?_eq_some_iff.mpr ⟨rest, rfl, rfl⟩
      exact .of_forall fun fuel => by rw [parses, Expr.parsesWith, found]; rfl
  | literalNone missing =>
      have absent := literalParse?_eq_none_iff.mpr missing
      exact .of_forall fun fuel => by rw [parses, Expr.parsesWith, absent]; rfl
  | regex found =>
      exact .of_forall fun fuel => by rw [parses, Expr.parsesWith, regexParse?, found]; rfl
  | regexNone missing =>
      exact .of_forall fun fuel => by rw [parses, Expr.parsesWith, regexParse?, missing]; rfl
  | @oneOf set c rest member =>
      have accepted : charParse? set.contains (c :: rest) = some ⟨.char c, rest⟩ :=
        charParse?_eq_some_iff.mpr ⟨c, rest, CharSet.contains_iff.mpr member, rfl, rfl⟩
      exact .of_forall fun fuel => by rw [parses, Expr.parsesWith, accepted]; rfl
  | @oneOfNone set input none =>
      have refused : charParse? set.contains input = Option.none :=
        charParse?_eq_none_iff.mpr fun c isHead =>
          CharSet.contains_eq_false_iff.mpr (none c isHead)
      exact .of_forall fun fuel => by rw [parses, Expr.parsesWith, refused]; rfl
  | @noneOf set c rest notMember =>
      have accepted : charParse? (fun c => !set.contains c) (c :: rest) = some ⟨.char c, rest⟩ :=
        charParse?_eq_some_iff.mpr ⟨c, rest, CharSet.not_contains_iff.mpr notMember, rfl, rfl⟩
      exact .of_forall fun fuel => by rw [parses, Expr.parsesWith, accepted]; rfl
  | @noneOfNone set input all =>
      have refused : charParse? (fun c => !set.contains c) input = Option.none :=
        charParse?_eq_none_iff.mpr fun c isHead =>
          CharSet.not_contains_eq_false_iff.mpr (all c isHead)
      exact .of_forall fun fuel => by rw [parses, Expr.parsesWith, refused]; rfl
  | seq _ _ leftIH rightIH =>
      filter_upwards [leftIH, eventually_forall_mem rightIH] with fuel leftEnds rightEnds
      rw [parses_seq, leftEnds]
      apply Enumeration.flatMap_ofList
      intro first member
      rw [← Enumeration.map_ofList, ← rightEnds first member]
  | union _ ih =>
      filter_upwards [eventually_forall_mem ih] with fuel ends
      rw [parses_union]
      exact Enumeration.flatMap_ofList ends
  | first _ _ nonempty failIH winnerIH =>
      filter_upwards [eventually_forall_mem failIH, winnerIH] with fuel failed ends
      rw [parses, Expr.parsesWith, Expr.firstParses_of_done failed]
      refine (Expr.firstParses_cons_of_ne_done ?_).trans ends
      intro found
      exact nonempty (Enumeration.ofList_eq_done_iff.mp (ends.symm.trans found))
  | @firstNone alternatives input _ ih =>
      filter_upwards [eventually_forall_mem ih] with fuel failed
      rw [parses, Expr.parsesWith, ← List.append_nil alternatives,
        Expr.firstParses_of_done failed]
      rfl
  | @many inner input results rounds _ alive dead ih =>
      filter_upwards [eventually_endsOn ih, Filter.eventually_gt_atTop rounds] with fuel ends enough
      rw [parses_many]
      exact repetitionParses_of_endsOn [] ends alive dead enough
  | @many1 inner input heads results rounds _ _ alive dead headIH ih =>
      have branchesEnd := eventually_forall_mem fun head member =>
        (eventually_endsOn (ih head member)).and (Filter.eventually_gt_atTop (rounds head))
      filter_upwards [headIH, branchesEnd] with fuel headsEnd ends
      rw [parses_many1, headsEnd]
      apply Enumeration.flatMap_ofList
      intro head member
      exact repetitionParses_of_endsOn [head.value] (ends head member).1 (alive head member)
        (dead head member) (ends head member).2
  | @opt inner input items _ nonempty ih =>
      filter_upwards [ih] with fuel ends
      change inner.parsesWith fuel (rules.call fuel) input = _ at ends
      rw [parses, Expr.parsesWith, ends]
      cases items with
      | nil => exact (nonempty rfl).elim
      | cons parse rest => exact Enumeration.map_ofList _ (parse :: rest)
  | @optNone inner input _ ih =>
      filter_upwards [ih] with fuel ends
      change inner.parsesWith fuel (rules.call fuel) input = _ at ends
      rw [parses, Expr.parsesWith, ends]
      rfl
  | map _ ih =>
      filter_upwards [ih] with fuel ends
      rw [parses_map, ends, Enumeration.map_ofList]
  | full _ ih =>
      filter_upwards [ih] with fuel ends
      rw [parses_full, ends, Enumeration.filter_ofList]
  | rule found _ ih =>
      -- The call itself takes one unit of fuel.
      obtain ⟨enough, ends⟩ := Filter.eventually_atTop.mp ih
      refine Filter.eventually_atTop.mpr ⟨enough + 1, fun fuel le => ?_⟩
      obtain ⟨fuel, rfl⟩ := Nat.exists_eq_add_one.mpr (Nat.zero_lt_of_lt le)
      rw [parses, Expr.parsesWith, call, found]
      exact ends fuel (Nat.le_of_succ_le_succ le)

theorem eventually_runsOut {expr : Expr} {input : List Char} {items : List Parse}
    (yields : rules.Yields expr input items) :
    ∃ enough, ∀ fuel, enough ≤ fuel → (rules.cursor fuel expr input).RunsOut items := by
  obtain ⟨enough, ends⟩ := Filter.eventually_atTop.mp yields.eventually_parses
  exact ⟨enough, fun fuel le => Cursor.runsOut_iff.mpr (ends fuel le)⟩

theorem of_runsOut {fuel : Nat} {expr : Expr} {input : List Char} {items : List Parse}
    (runsOut : (rules.cursor fuel expr input).RunsOut items) : rules.Yields expr input items :=
  of_parses (Cursor.runsOut_iff.mp runsOut)

/-- There are runs with enough fuel for both lists, and one run ends in one way. -/
theorem unique {expr : Expr} {input : List Char} {items others : List Parse}
    (yields : rules.Yields expr input items) (again : rules.Yields expr input others) :
    items = others := by
  obtain ⟨fuel, ends, endsAgain⟩ := (yields.eventually_parses.and again.eventually_parses).exists
  exact Enumeration.ofList_injective (ends.symm.trans endsAgain)

end Rules.Yields

/-- An expression yields a list exactly if pulling its parses until they end gives that list, for
some fuel and likewise for all fuel that is enough. Nothing is asked of the references: one to an
unbound rule has no list, and pulling it reports no end. -/
theorem Rules.yields_iff_runsOut (rules : Rules) (expr : Expr) (input : List Char)
    (items : List Parse) :
    (rules.Yields expr input items ↔
      ∃ fuel, (rules.cursor fuel expr input).RunsOut items) ∧
    (rules.Yields expr input items ↔
      ∃ enough, ∀ fuel, enough ≤ fuel → (rules.cursor fuel expr input).RunsOut items) := by
  refine ⟨⟨fun yields => ?_, fun ⟨fuel, runsOut⟩ => .of_runsOut runsOut⟩,
    ⟨Yields.eventually_runsOut, fun ⟨enough, runsOut⟩ => ?_⟩⟩
  · obtain ⟨enough, runsOut⟩ := yields.eventually_runsOut
    exact ⟨enough, runsOut enough (Nat.le_refl enough)⟩
  · exact .of_runsOut (runsOut enough (Nat.le_refl enough))

end LazyGrammar
