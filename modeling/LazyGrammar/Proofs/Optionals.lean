import LazyGrammar.Proofs.Choice

/-!
# Optional parts

An optional part is an ordered choice between the part and nothing at all. It looks for the
first result of the part only, and then all of them come, each in a list of its own. The
empty list stands for a part that was searched to the end in vain, and so an optional part
never ends without a result. That is why nothing is chosen anew where it is made optional
once more: every result is put in one more list.
-/

set_option autoImplicit false

namespace LazyGrammar.Rules

variable {rules : Rules} {fuel : Nat} {inner : Expr} {input : List Char}

/-- The result of a part where the part is optional. -/
def present (parse : Parse) : Parse := ⟨.list [parse.value], parse.rest⟩

theorem parses_opt (inner : Expr) :
    rules.parses fuel (.opt inner) input =
      ((rules.parses fuel inner input).map present).orElse fun _ => .single ⟨.list [], input⟩ := by
  rw [parses, Expr.parsesWith, parses]
  cases inner.parsesWith fuel (rules.call fuel) input <;> rfl

theorem parses_opt_of_ne_done (found : rules.parses fuel inner input ≠ .done) :
    rules.parses fuel (.opt inner) input = (rules.parses fuel inner input).map present := by
  rw [parses_opt]
  exact Enumeration.orElse_of_ne_done (mt Enumeration.map_eq_done_iff.mp found) _

theorem parses_opt_of_done (ended : rules.parses fuel inner input = .done) :
    rules.parses fuel (.opt inner) input = .single ⟨.list [], input⟩ := by
  rw [parses_opt, ended]
  rfl

theorem parses_opt_ne_done : rules.parses fuel (.opt inner) input ≠ .done := by
  rw [parses_opt]
  cases rules.parses fuel inner input <;> nofun

theorem parses_literal_empty :
    rules.parses fuel (.literal "") input = .single ⟨.text "", input⟩ := by
  have found : literalParse? "" input = some ⟨.text "", input⟩ :=
    literalParse?_eq_some_iff.mpr ⟨input, rfl, rfl⟩
  rw [parses, Expr.parsesWith, found]
  rfl

theorem parses_opt_eq_first :
    rules.parses fuel (.opt inner) input =
      rules.parses fuel (.first [.map inner fun value => .list [value],
        .map (.literal "") fun _ => .list []]) input := by
  rw [parses_opt, parses_first_cons, parses_first_cons, parses_first_nil, parses_map, parses_map,
    parses_literal_empty]
  rfl

theorem parses_opt_opt :
    rules.parses fuel (.opt (.opt inner)) input =
      rules.parses fuel (.map (.opt inner) fun value => .list [value]) input := by
  rw [parses_opt_of_ne_done parses_opt_ne_done, parses_map]
  rfl

/-- Whether anything is found is known from the first pull of the part. -/
theorem pull_opt_cases :
    (∃ parse, (rules.cursor fuel (.opt inner) input).pull.1 = .item parse) ∨
      ∃ why, (rules.cursor fuel (.opt inner) input).pull.1 = .halted why ∧
        (rules.cursor fuel inner input).pull.1 = .halted why := by
  simp only [cursor, Cursor.pull, parses_opt]
  cases rules.parses fuel inner input with
  | done | item => exact .inl ⟨_, rfl⟩
  | halted why => exact .inr ⟨why, rfl, rfl⟩

/-- The empty list is no value of a part that was found. -/
theorem pulled_empty_iff {parse : Parse} :
    (parse.value = .list [] ∧
        ∃ limit, parse ∈ ((rules.cursor fuel (.opt inner) input).pullUpTo limit).1) ↔
      parse = ⟨.list [], input⟩ ∧ (rules.cursor fuel inner input).RunsOut [] := by
  rw [Cursor.runsOut_iff, cursor, cursor]
  by_cases ended : rules.parses fuel inner input = .done
  · rw [parses_opt_of_done ended]
    constructor
    · intro pulled
      obtain ⟨_, limit, member⟩ := pulled
      rw [Cursor.pullUpTo_eq_take] at member
      exact ⟨List.mem_singleton.mp (List.mem_of_mem_take member), ended⟩
    · intro fallback
      obtain ⟨rfl, _⟩ := fallback
      exact ⟨rfl, 1, List.mem_cons_self⟩
  · rw [parses_opt_of_ne_done ended]
    constructor
    · intro pulled
      obtain ⟨empty, limit, member⟩ := pulled
      rw [Cursor.pullUpTo_map] at member
      obtain ⟨found, _, rfl⟩ := List.mem_map.mp member
      cases empty
    · intro fallback
      exact (ended fallback.2).elim

/-- An optional part answers as the choice between the part, in a list, and the empty list for the
empty text. Its first pull finds a result unless that of the part has no answer. It yields the
empty list only for the whole input, and exactly if the parses of the part end without any. An
optional part that is made optional again answers as before, with every value in one more list. -/
theorem opt_chooses_part_or_nothing (rules : Rules) (inner : Expr) (input : List Char) :
    rules.AnswerAlike (.opt inner)
      (.first [.map inner fun value => .list [value], .map (.literal "") fun _ => .list []]) input ∧
    (∀ fuel, (∃ parse, (rules.cursor fuel (.opt inner) input).pull.1 = .item parse) ∨
      ∃ why, (rules.cursor fuel (.opt inner) input).pull.1 = .halted why ∧
        (rules.cursor fuel inner input).pull.1 = .halted why) ∧
    (∀ fuel (parse : Parse), (parse.value = .list [] ∧
        ∃ limit, parse ∈ ((rules.cursor fuel (.opt inner) input).pullUpTo limit).1) ↔
      parse = ⟨.list [], input⟩ ∧ (rules.cursor fuel inner input).RunsOut []) ∧
    rules.AnswerAlike (.opt (.opt inner)) (.map (.opt inner) fun value => .list [value]) input :=
  ⟨answerAlike_of_parses fun _ => parses_opt_eq_first, fun _ => pull_opt_cases,
    fun _ _ => pulled_empty_iff, answerAlike_of_parses fun _ => parses_opt_opt⟩

example :
    (empty.cursor 0 (.opt (.opt (.union [.literal "a", .literal "ab"]))) ['a', 'b']).pullUpTo 3 =
      ([⟨.list [.list [.text "a"]], ['b']⟩, ⟨.list [.list [.text "ab"]], []⟩], .exhausted) := by
  decide

end LazyGrammar.Rules
