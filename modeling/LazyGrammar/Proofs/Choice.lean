import LazyGrammar.Proofs.Agreement
import LazyGrammar.Proofs.Sequencing

/-!
# Ordered choice

A choice passes over the alternatives that end without a result and commits to the first
one that has any: from then on every pull is a pull of that alternative, whatever stands
behind it. So it finds a beginning of what the union of the alternatives finds, and a
choice among the alternatives is the same as having them in its place.
-/

set_option autoImplicit false

namespace LazyGrammar

namespace Enumeration

variable {α : Type}

/-- Another enumeration in the place of one without any item. -/
def orElse : Enumeration α → (Unit → Enumeration α) → Enumeration α
  | .done, second => second ()
  | .item a tail, _ => .item a tail
  | .halted why, _ => .halted why

theorem orElse_of_ne_done {first : Enumeration α} (found : first ≠ .done)
    (second : Unit → Enumeration α) : first.orElse second = first := by
  cases first with
  | done => exact (found rfl).elim
  | item | halted => rfl

theorem orElse_assoc (first : Enumeration α) (second third : Unit → Enumeration α) :
    (first.orElse second).orElse third = first.orElse fun u => (second u).orElse third := by
  cases first <;> rfl

end Enumeration

namespace Rules

variable {rules : Rules} {fuel : Nat} {input : List Char}

theorem parses_first_nil : rules.parses fuel (.first []) input = .done := by
  rw [parses, Expr.parsesWith, Expr.firstParses]

theorem parses_first_cons (alternative : Expr) (others : List Expr) :
    rules.parses fuel (.first (alternative :: others)) input =
      (rules.parses fuel alternative input).orElse fun _ =>
        rules.parses fuel (.first others) input := by
  simp only [parses, Expr.parsesWith, Expr.firstParses]
  cases alternative.parsesWith fuel (rules.call fuel) input <;> rfl

theorem parses_first_append (before after : List Expr) :
    rules.parses fuel (.first (before ++ after)) input =
      (rules.parses fuel (.first before) input).orElse fun _ =>
        rules.parses fuel (.first after) input := by
  induction before with
  | nil => rw [parses_first_nil]; rfl
  | cons alternative others ih =>
      rw [List.cons_append, parses_first_cons, parses_first_cons, Enumeration.orElse_assoc, ih]

theorem parses_union_cons (alternative : Expr) (others : List Expr) :
    rules.parses fuel (.union (alternative :: others)) input =
      (rules.parses fuel alternative input).append fun _ =>
        rules.parses fuel (.union others) input := by
  rw [parses_union, parses_union, Enumeration.ofList, Enumeration.flatMap]

/-!
## Committing
-/

private theorem eventually_first_done {alternatives : List Expr}
    (failed : ∀ alternative ∈ alternatives,
      ∃ fuel, (rules.cursor fuel alternative input).RunsOut []) :
    ∀ᶠ fuel in Filter.atTop, rules.parses fuel (.first alternatives) input = .done := by
  refine Yields.eventually_parses (.firstNone fun alternative member => ?_)
  obtain ⟨fuel, runsOut⟩ := failed alternative member
  exact .of_runsOut runsOut

private theorem eventually_ne_done {expr : Expr} {enough : Nat}
    (found : ((rules.cursor enough expr input).pullUpTo 1).1 ≠ []) :
    ∀ᶠ fuel in Filter.atTop, rules.parses fuel expr input ≠ .done := by
  filter_upwards [Filter.eventually_ge_atTop enough] with fuel le ended
  have further := rules.parses_approximates_self le expr input
  rw [ended] at further
  rw [Cursor.pullUpTo_eq_take, cursor] at found
  generalize rules.parses enough expr input = first at found further
  -- An item that is found is found with more fuel too, so there was none.
  cases further <;> exact found rfl

private theorem eventually_parses_first {before : List Expr} {winner : Expr}
    (failed : ∀ alternative ∈ before, ∃ fuel, (rules.cursor fuel alternative input).RunsOut [])
    (found : ∃ fuel, ((rules.cursor fuel winner input).pullUpTo 1).1 ≠ []) :
    ∀ᶠ fuel in Filter.atTop, ∀ after,
      rules.parses fuel (.first (before ++ winner :: after)) input =
        rules.parses fuel winner input := by
  obtain ⟨enough, foundFirst⟩ := found
  filter_upwards [eventually_first_done failed, eventually_ne_done foundFirst]
    with fuel ended nonempty after
  rw [parses_first_append, ended, parses_first_cons]
  exact Enumeration.orElse_of_ne_done nonempty _

/-- Where a choice ends, the union of its alternatives begins with the same results. It need not
end, since it goes on with the alternatives that the choice never enters. -/
theorem union_begins_with_first {alternatives : List Expr} {items : List Parse}
    (ends : rules.parses fuel (.first alternatives) input = .ofList items) :
    (∃ further, rules.parses fuel (.union alternatives) input =
      (Enumeration.ofList items).append further) ∧
    (items = [] → rules.parses fuel (.union alternatives) input = .done) := by
  induction alternatives with
  | nil =>
      rw [parses_first_nil] at ends
      obtain rfl := Enumeration.ofList_eq_done_iff.mp ends.symm
      exact ⟨⟨fun _ => .done, rfl⟩, fun _ => rfl⟩
  | cons alternative others ih =>
      rw [parses_first_cons] at ends
      rw [parses_union_cons]
      cases found : rules.parses fuel alternative input with
      | done =>
          rw [found] at ends
          exact ih ends
      | item parse tail =>
          rw [found] at ends
          refine ⟨⟨_, congrArg (Enumeration.append · _) ends⟩, ?_⟩
          rintro rfl
          cases ends
      | halted why =>
          rw [found] at ends
          cases items <;> cases ends

/-- Alternatives that end without a result are passed over. If one behind them has a result, then
with enough fuel every pull of the choice finds what that pull of this alternative does, and
whatever comes after it is never run; if there is none, the choice ends without a result too. Where
a choice ends, its results are those that the union of the alternatives finds first, and there are
none only if the union has none. A choice among alternatives may be replaced by these in place. -/
theorem first_commits_to_winner (rules : Rules) (input : List Char) :
    (∀ before winner,
      (∀ alternative ∈ before, ∃ fuel, (rules.cursor fuel alternative input).RunsOut []) →
      (∃ fuel, ((rules.cursor fuel winner input).pullUpTo 1).1 ≠ []) →
      ∃ enough, ∀ fuel, enough ≤ fuel → ∀ after limit,
        (rules.cursor fuel (.first (before ++ winner :: after)) input).pullUpTo limit =
          (rules.cursor fuel winner input).pullUpTo limit) ∧
    (∀ alternatives,
      (∀ alternative ∈ alternatives, ∃ fuel, (rules.cursor fuel alternative input).RunsOut []) →
      ∃ fuel, (rules.cursor fuel (.first alternatives) input).RunsOut []) ∧
    (∀ alternatives fuel items,
      (rules.cursor fuel (.first alternatives) input).RunsOut items →
      (rules.cursor fuel (.union alternatives) input).pullUpTo items.length = (items, .limit) ∧
      (items = [] → (rules.cursor fuel (.union alternatives) input).RunsOut [])) ∧
    ∀ before inner after, rules.AnswerAlike (.first (before ++ .first inner :: after))
      (.first (before ++ inner ++ after)) input := by
  refine ⟨fun before winner failed found => ?_, fun alternatives failed => ?_,
    fun alternatives fuel items runsOut => ?_, fun before inner after => ?_⟩
  · obtain ⟨enough, commits⟩ :=
      Filter.eventually_atTop.mp (eventually_parses_first failed found)
    refine ⟨enough, fun fuel le after limit => ?_⟩
    rw [cursor, cursor, commits fuel le after]
  · obtain ⟨fuel, ended⟩ := (eventually_first_done failed).exists
    exact ⟨fuel, Cursor.runsOut_iff.mpr ended⟩
  · obtain ⟨⟨further, begins⟩, ended⟩ := union_begins_with_first (Cursor.runsOut_iff.mp runsOut)
    refine ⟨?_, fun empty => Cursor.runsOut_iff.mpr (ended empty)⟩
    rw [cursor, begins, Cursor.pullUpTo_append]
  · refine answerAlike_of_parses fun fuel => ?_
    rw [List.append_assoc, parses_first_append, parses_first_append, parses_first_cons,
      parses_first_append]

/-- Behind the alternative that is committed to stands a repetition without end. -/
def noneThenMarks : List Expr :=
  [.literal "?", .union [.literal "!", .literal "!!"], .many (.literal "")]

theorem first_commits_to_winner_noneThenMarks :
    (∀ alternative ∈ [Expr.literal "?"], ∃ fuel,
      (empty.cursor fuel alternative "!!".toList).RunsOut []) ∧
    ((empty.cursor 0 (.union [.literal "!", .literal "!!"]) "!!".toList).pullUpTo 1).1 ≠ [] ∧
    (∃ enough, ∀ fuel, enough ≤ fuel → ∀ limit,
      (empty.cursor fuel (.first noneThenMarks) "!!".toList).pullUpTo limit =
        (empty.cursor fuel (.union [.literal "!", .literal "!!"]) "!!".toList).pullUpTo limit) ∧
    (∃ fuel, (empty.cursor fuel (.first [.literal "?"]) "!!".toList).RunsOut []) ∧
    (empty.cursor 1 (.first noneThenMarks) "!!".toList).RunsOut
      [⟨.text "!", ['!']⟩, ⟨.text "!!", []⟩] ∧
    (empty.cursor 1 (.union noneThenMarks) "!!".toList).pullUpTo 2 =
      ([⟨.text "!", ['!']⟩, ⟨.text "!!", []⟩], .limit) := by
  have failed : ∀ alternative ∈ [Expr.literal "?"], ∃ fuel,
      (empty.cursor fuel alternative "!!".toList).RunsOut [] := by
    intro alternative member
    obtain rfl := List.mem_singleton.mp member
    exact ⟨0, Cursor.runsOut_iff.mpr rfl⟩
  have found : ((empty.cursor 0 (.union [.literal "!", .literal "!!"]) "!!".toList).pullUpTo 1).1 ≠
      [] := by decide
  have runsOut : (empty.cursor 1 (.first noneThenMarks) "!!".toList).RunsOut
      [⟨.text "!", ['!']⟩, ⟨.text "!!", []⟩] := Cursor.runsOut_iff.mpr rfl
  obtain ⟨commits, passes, begins, _⟩ := first_commits_to_winner empty "!!".toList
  obtain ⟨enough, commitsTo⟩ := commits _ _ failed ⟨0, found⟩
  refine ⟨failed, found, ⟨enough, fun fuel le limit => ?_⟩, passes _ failed, runsOut, ?_⟩
  · exact commitsTo fuel le [.many (.literal "")] limit
  · exact (begins _ _ _ runsOut).1

end Rules

end LazyGrammar
