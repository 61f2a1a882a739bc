import LazyGrammar.Proofs.Approximation
import LazyGrammar.Proofs.Arith.Parsing

/-!
# Partial parses of arithmetic

The parses of a beginning of the input come longest first, from the start and from every
rule. So whether there is a full parse is seen from the first one, and there is only one.
-/

set_option autoImplicit false

namespace LazyGrammar.Arith

/-- A second result would leave an operator that is inside an atom. -/
private theorem Ordered.length_le_one_of_atom {items : List Parse} (ordered : Ordered .atom items) :
    items.length ≤ 1 := by
  cases items with
  | nil => exact Nat.zero_le 1
  | cons first others =>
      cases others with
      | nil => exact Nat.le_refl 1
      | cons second _ =>
          obtain ⟨_, inside, _⟩ := ordered.stops second List.mem_cons_self
          cases inside

private theorem Ordered.completeValues_ne_nil_iff {category : Category} {items : List Parse}
    (ordered : Ordered category items) :
    items.filterMap Grammar.completeValue? ≠ [] ↔
      ∃ first, items.head? = some first ∧ first.rest = [] := by
  constructor
  · intro nonempty
    obtain ⟨tree, member⟩ := List.exists_mem_of_ne_nil _ nonempty
    obtain ⟨parse, found, complete⟩ := List.mem_filterMap.mp member
    obtain rfl := completeValue?_eq_some_iff.mp complete
    cases items with
    | nil => cases found
    | cons first others =>
        rcases List.mem_cons.mp found with rfl | later
        · exact ⟨_, rfl, rfl⟩
        · have longer := List.rel_of_pairwise_cons ordered.ascending later
          exact (Nat.not_lt_zero _ longer).elim
  · rintro ⟨first, isHead, empty⟩
    have complete : Grammar.completeValue? first = some first.value :=
      completeValue?_eq_some_iff.mpr (congrArg (Parse.mk first.value) empty)
    exact List.ne_nil_of_mem (List.mem_filterMap.mpr ⟨_, List.mem_of_head? isHead, complete⟩)

/-- From the start, the parses are the same with all fuel that is enough. -/
theorem exists_parses_runsOut (source : String) :
    ∃ items, Found .expr (skipBlanks source.toList) items ∧
      ∀ fuel, fuelFor source ≤ fuel → (grammar.parse fuel source).RunsOut items := by
  obtain ⟨items, ends, found⟩ := exists_parses (Nat.le_refl (fuelFor source))
  exact ⟨items, found, fun fuel enough =>
    Rules.runsOut_of_le enough (Cursor.runsOut_iff.mpr ends)⟩

theorem exists_parseRule_runsOut (category : Category) (source : String) :
    ∃ items, Found category source.toList items ∧ ∀ fuel, fuelFor source ≤ fuel →
      ∃ cursor, grammar.parseRule fuel category.name source = .ok cursor ∧
        cursor.RunsOut items := by
  have enough : 4 * source.toList.length + category.height ≤ fuelFor source + 1 := by
    rw [fuelFor, String.length_toList]
    cases category <;> simp only [Category.height] <;> omega
  obtain ⟨items, ends, found⟩ := finds (fuelFor source + 1) category source.toList enough
  obtain ⟨definition, bound⟩ : ∃ definition, rules.get? category.name = some definition := by
    cases category with
    | expr => exact ⟨_, get?_eq_some_iff.mpr (.inr (.inl ⟨rfl, rfl⟩))⟩
    | term => exact ⟨_, get?_eq_some_iff.mpr (.inr (.inr ⟨rfl, rfl⟩))⟩
    | atom => exact ⟨_, get?_eq_some_iff.mpr (.inl ⟨rfl, rfl⟩)⟩
  rw [Rules.call, bound] at ends
  refine ⟨items, found, fun fuel le => ?_⟩
  exact ⟨_, Grammar.parseRule_eq_ok bound fuel source,
    Rules.runsOut_of_le le (Cursor.runsOut_iff.mpr ends)⟩

/-- On every text the parses from the start and from every rule come to an end. They are those of
texts of the category, the longest first, and behind every other an operator follows; there is one
atom at most. A full parse is the first one, and there is no other. -/
theorem partial_parses_longest_first (source : String) :
    (∃ items trees,
      (∀ fuel, fuelFor source ≤ fuel → (grammar.parse fuel source).RunsOut items ∧
        (grammar.parseFull fuel source).RunsOut trees) ∧
      Found .expr (skipBlanks source.toList) items ∧ trees.length ≤ 1 ∧
      (trees ≠ [] ↔ ∃ first, items.head? = some first ∧ first.rest = [])) ∧
    ∀ category : Category, ∃ items,
      (∀ fuel, fuelFor source ≤ fuel → ∃ cursor,
        grammar.parseRule fuel category.name source = .ok cursor ∧ cursor.RunsOut items) ∧
      Found category source.toList items ∧ (category = .atom → items.length ≤ 1) := by
  constructor
  · obtain ⟨items, found, runsOut⟩ := exists_parses_runsOut source
    refine ⟨items, items.filterMap Grammar.completeValue?, fun fuel enough => ?_, found,
      found.length_completeValues_le, found.toOrdered.completeValues_ne_nil_iff⟩
    refine ⟨runsOut fuel enough, Cursor.runsOut_iff.mpr ?_⟩
    rw [Grammar.parseFull, Cursor.runsOut_iff.mp (runsOut fuel enough),
      Enumeration.filterMap_ofList]
  · intro category
    obtain ⟨items, found, runsOut⟩ := exists_parseRule_runsOut category source
    refine ⟨items, runsOut, found, ?_⟩
    rintro rfl
    exact found.toOrdered.length_le_one_of_atom

/-- The sum, then its first operand, and then the first operand of that. -/
example : ((grammar.parse 32 "1*2+3").pullUpTo 4).1.map (String.ofList ∘ Parse.rest) =
    ["", "+3", "*2+3"] := by decide +kernel

end LazyGrammar.Arith
