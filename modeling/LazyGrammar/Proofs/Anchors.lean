import LazyGrammar.Proofs.Choice

/-!
# Full matches

The demand that the whole input is used up may be moved into the last part of a sequence,
into every alternative of a union and through a transform, and making it twice is making it
once. It must not be moved into the alternatives of a choice: made outside, it comes after
the choice has committed, so that it may leave nothing where a later alternative would have
used up the input. That is all that can happen.
-/

set_option autoImplicit false

namespace LazyGrammar

private theorem Enumeration.filter_filter_self {α : Type} (test : α → Bool)
    (source : Enumeration α) : (source.filter test).filter test = source.filter test := by
  induction source with
  | done | halted => rfl
  | item a tail ih =>
      by_cases passes : test a = true
      · simp only [filter, passes, if_true]
        exact congrArg (item a) (funext fun u => ih u)
      · simp only [filter, passes]
        exact ih ()

namespace Rules

variable {rules : Rules} {fuel : Nat} {input : List Char}

theorem parses_full_seq (first last : Expr) :
    rules.parses fuel (.full (.seq first last)) input =
      rules.parses fuel (.seq first (.full last)) input := by
  simp only [parses_full, parses_seq, Enumeration.filter_flatMap, Enumeration.filter_map]

theorem parses_full_union (alternatives : List Expr) :
    rules.parses fuel (.full (.union alternatives)) input =
      rules.parses fuel (.union (alternatives.map .full)) input := by
  rw [parses_union_map, parses_full, parses_union, Enumeration.filter_flatMap]
  simp only [parses_full]

theorem parses_full_map (inner : Expr) (transform : Value → Value) :
    rules.parses fuel (.full (.map inner transform)) input =
      rules.parses fuel (.map (.full inner) transform) input := by
  rw [parses_full, parses_map, parses_map, parses_full, Enumeration.filter_map]

theorem parses_full_full (inner : Expr) :
    rules.parses fuel (.full (.full inner)) input = rules.parses fuel (.full inner) input := by
  simp only [parses_full, Enumeration.filter_filter_self]

/-!
## Full matches of a choice
-/

/-- If something that a choice commits to uses up the input, the choice among full matches commits
to the same alternative. -/
theorem parses_first_full {alternatives : List Expr} {items : List Parse}
    (ends : rules.parses fuel (.full (.first alternatives)) input = .ofList items)
    (nonempty : items ≠ []) :
    rules.parses fuel (.first (alternatives.map .full)) input = .ofList items := by
  induction alternatives with
  | nil =>
      rw [parses_full, parses_first_nil] at ends
      exact (nonempty (Enumeration.ofList_eq_done_iff.mp ends.symm)).elim
  | cons alternative others ih =>
      rw [parses_full, parses_first_cons] at ends
      rw [List.map_cons, parses_first_cons, parses_full]
      by_cases failed : rules.parses fuel alternative input = .done
      · rw [failed, Enumeration.orElse, ← parses_full] at ends
        rw [failed]
        exact ih ends
      · rw [Enumeration.orElse_of_ne_done failed] at ends
        rw [ends]
        refine Enumeration.orElse_of_ne_done (fun ended => nonempty ?_) _
        exact Enumeration.ofList_eq_done_iff.mp ended

/-- Where the shorter alternative stands first, the longer one is not reached. -/
theorem full_first_misses (rules : Rules) :
    ∃ alternatives input found, (∀ fuel,
      (rules.cursor fuel (.full (.first alternatives)) input).RunsOut [] ∧
      (rules.cursor fuel (.first (alternatives.map .full)) input).RunsOut [found]) :=
  ⟨[.literal "a", .literal "ab"], "ab".toList, ⟨.text "ab", []⟩, fun _ =>
    ⟨Cursor.runsOut_iff.mpr rfl, Cursor.runsOut_iff.mpr rfl⟩⟩

/-- No pull answers otherwise if the demand for a full match is moved to the last part of a
sequence, to the alternatives of a union or under a transform, or if it is made once and not twice.
For a choice it makes a difference, but where both enumerations end it is only that nothing may be
found when the demand is made outside. -/
theorem full_moves_inwards (rules : Rules) (a b : Expr) (transform : Value → Value)
    (alternatives : List Expr) (input : List Char) :
    rules.AnswerAlike (.full (.seq a b)) (.seq a (.full b)) input ∧
    rules.AnswerAlike (.full (.union alternatives)) (.union (alternatives.map .full)) input ∧
    rules.AnswerAlike (.full (.map a transform)) (.map (.full a) transform) input ∧
    rules.AnswerAlike (.full (.full a)) (.full a) input ∧
    (∃ alternatives input found, (∀ fuel,
      (rules.cursor fuel (.full (.first alternatives)) input).RunsOut [] ∧
      (rules.cursor fuel (.first (alternatives.map .full)) input).RunsOut [found])) ∧
    ∀ fuel more items others,
      (rules.cursor fuel (.full (.first alternatives)) input).RunsOut items →
      (rules.cursor more (.first (alternatives.map .full)) input).RunsOut others →
      items = others ∨ items = [] := by
  refine ⟨answerAlike_of_parses fun fuel => parses_full_seq a b,
    answerAlike_of_parses fun fuel => parses_full_union alternatives,
    answerAlike_of_parses fun fuel => parses_full_map a transform,
    answerAlike_of_parses fun fuel => parses_full_full a, full_first_misses rules, ?_⟩
  intro fuel more items others outside inside
  by_cases empty : items = []
  · exact .inr empty
  · have ends := parses_first_full (Cursor.runsOut_iff.mp outside) empty
    have runsOut : (rules.cursor fuel (.first (alternatives.map .full)) input).RunsOut items :=
      Cursor.runsOut_iff.mpr ends
    exact .inl (runsOut_unique runsOut inside)

def fullSecond : List Expr :=
  [.literal "b", .union [.literal "", .literal "a"], .many (.literal "")]

theorem full_moves_inwards_fullSecond :
    ∃ items others,
      (empty.cursor 0 (.full (.first fullSecond)) "a".toList).RunsOut items ∧
      (empty.cursor 1 (.first (fullSecond.map .full)) "a".toList).RunsOut others ∧
      items = others ∧ items.length = 1 := by
  have outside : (empty.cursor 0 (.full (.first fullSecond)) "a".toList).RunsOut
      [⟨.text "a", []⟩] := Cursor.runsOut_iff.mpr rfl
  have inside : (empty.cursor 1 (.first (fullSecond.map .full)) "a".toList).RunsOut
      [⟨.text "a", []⟩] := Cursor.runsOut_iff.mpr rfl
  obtain ⟨_, _, _, _, _, choice⟩ :=
    full_moves_inwards empty (.literal "") (.literal "") Value.fst fullSecond "a".toList
  have same := (choice 0 1 _ _ outside inside).resolve_right (List.cons_ne_nil _ _)
  exact ⟨_, _, outside, inside, same, rfl⟩

end Rules

end LazyGrammar
