import LazyGrammar.Expr.Parses
import LazyGrammar.Proofs.Ending

/-!
# Repetitions one value at a time

The values found in earlier rounds only wait in front of those still to come. So a
repetition of something with one result at a place is that result in front of the
repetition from where it ends.
-/

set_option autoImplicit false

namespace LazyGrammar

/-- The branch with values that were found before its own, which stand behind them. -/
def Branch.after (earlier : List Value) (branch : Branch) : Branch :=
  ⟨branch.values ++ earlier, branch.rest⟩

private theorem Branch.parse_after (before earlier : List Value) (branch : Branch) :
    (branch.after earlier).parse before = branch.parse (before ++ earlier.reverse) := by
  simp [Branch.parse, Branch.after]

section Repetition

variable {step : List Char → Enumeration Parse}

private theorem expand_map_after (earlier : List Value) (frontier : List Branch) :
    expand step (frontier.map (Branch.after earlier)) =
      (expand step frontier).map (Branch.after earlier) := by
  rw [expand, expand, ← Enumeration.map_ofList, Enumeration.flatMap_map, Enumeration.map_flatMap]
  simp only [Enumeration.map_map]
  rfl

private theorem lastFrontier_map_after (earlier : List Value) (rounds : Nat)
    (frontier : List Branch) : lastFrontier step rounds (frontier.map (Branch.after earlier)) =
      (lastFrontier step rounds frontier).map (List.map (Branch.after earlier)) := by
  induction rounds generalizing frontier with
  | zero => rfl
  | succ rounds ih =>
      rw [lastFrontier, lastFrontier, expand_map_after, Enumeration.collect_map]
      cases (expand step frontier).collect with
      | error why => rfl
      | ok next =>
          cases next with
          | nil => rfl
          | cons branch others => exact ih (branch :: others)

variable {rounds : Nat} {before : List Value} {input : List Char}

private theorem expand_singleton (branch : Branch) :
    expand step [branch] = (step branch.rest).map fun parse =>
      ⟨parse.value :: branch.values, parse.rest⟩ :=
  Enumeration.append_done _

theorem repetitionParses_of_halted {why : Halt} (halts : step input = .halted why) :
    repetitionParses step (rounds + 1) before input = .halted why := by
  rw [repetitionParses, lastFrontier, expand_singleton, halts]
  rfl

theorem repetitionParses_of_done (ends : step input = .done) :
    repetitionParses step (rounds + 1) before input = .single ⟨.list before, input⟩ := by
  rw [repetitionParses, lastFrontier, expand_singleton, ends]
  exact congrArg (fun values => Enumeration.single (⟨.list values, input⟩ : Parse))
    (List.append_nil before)

theorem repetitionParses_of_single {head : Parse} (found : step input = .single head) :
    repetitionParses step (rounds + 1) before input =
      repetitionParses step rounds (before ++ [head.value]) head.rest := by
  have first : lastFrontier step (rounds + 1) [⟨[], input⟩] =
      lastFrontier step rounds ([⟨[], head.rest⟩].map (Branch.after [head.value])) := by
    rw [lastFrontier, expand_singleton, found]
    rfl
  rw [repetitionParses, repetitionParses, first, lastFrontier_map_after]
  cases lastFrontier step rounds [⟨[], head.rest⟩] with
  | error why => rfl
  | ok last =>
      simp only [Except.map, Enumeration.ofExcept, Enumeration.map_ofList, List.map_map]
      congr 2
      exact funext fun branch => branch.parse_after before [head.value]

/-- There is one result exactly if one branch is left, whatever stands before. -/
theorem repetitionParses_eq_single_iff {values : List Value} {rest : List Char} :
    repetitionParses step rounds before input = .single ⟨.list (before ++ values), rest⟩ ↔
      lastFrontier step rounds [⟨[], input⟩] = .ok [⟨values.reverse, rest⟩] := by
  rw [repetitionParses]
  constructor
  · intro found
    cases reached : lastFrontier step rounds [⟨[], input⟩] with
    | error why => rw [reached] at found; cases found
    | ok last =>
        rw [reached, Enumeration.ofExcept, Enumeration.map_ofList] at found
        have parses : last.map (Branch.parse before) = [⟨.list (before ++ values), rest⟩] :=
          Enumeration.ofList_injective found
        obtain ⟨branch, rfl, same⟩ := List.map_eq_singleton_iff.mp parses
        simp only [Branch.parse, Parse.mk.injEq, Value.list.injEq, List.append_cancel_left_eq]
          at same
        obtain ⟨rfl, rfl⟩ := same
        rw [List.reverse_reverse]
  · intro reached
    rw [reached]
    exact congrArg (fun found => Enumeration.single (⟨.list (before ++ found), rest⟩ : Parse))
      values.reverse_reverse

end Repetition

end LazyGrammar
