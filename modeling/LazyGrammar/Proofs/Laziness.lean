import LazyGrammar.Proofs.Approximation
import LazyGrammar.Proofs.Definitions
import LazyGrammar.Proofs.References

/-!
# Laziness

A rule that is nothing but a reference to itself never answers. Pulls that answer
in a grammar with such a rule cannot have entered it, and so they find the same when
anything else stands in its place.
-/

set_option autoImplicit false

namespace LazyGrammar

namespace Rules

def replace (rules : Rules) (name : String) (definition : Expr) : Rules where
  bindings := rules.bindings.map fun binding =>
    (binding.1, if binding.1 = name then definition else binding.2)
  ascending := by simpa [List.map_map, Function.comp_def] using rules.ascending

theorem get?_replace {rules : Rules} {name other : String} {definition : Expr} :
    (rules.replace name definition).get? other =
      (rules.get? other).map fun old => if other = name then definition else old := by
  let change (bound : String) (old : Expr) : Expr := if bound = name then definition else old
  exact lookup_map change

theorem contains_replace {rules : Rules} {name other : String} {definition : Expr} :
    (rules.replace name definition).contains other = rules.contains other := by
  rw [contains, get?_replace, Option.isSome_map, contains]

theorem resolves_replace {rules : Rules} {name : String} {definition expr : Expr} :
    (rules.replace name definition).Resolves expr ↔ rules.Resolves expr := by
  simp only [Resolves, contains_replace]

private theorem Complete.replace {rules : Rules} {start : Expr} (complete : rules.Complete start)
    {name : String} {definition : Expr} (resolves : rules.Resolves definition) :
    (rules.replace name definition).Complete start where
  start := resolves_replace.mpr complete.start
  definition other found bound := by
    rw [get?_replace, Option.map_eq_some_iff] at bound
    obtain ⟨old, oldBound, rfl⟩ := bound
    rw [resolves_replace]
    split
    · exact resolves
    · exact complete.definition other old oldBound

/-- Where the replaced rule only refers to itself, nothing that was found is lost. -/
theorem agree_replace {rules : Rules} {name : String} {definition : Expr}
    (itself : rules.get? name = some (.rule name)) (other : String) :
    rules.get? other = some (.rule other) ∨
      rules.get? other = (rules.replace name definition).get? other := by
  by_cases same : other = name
  · exact .inl (same ▸ itself)
  · rw [get?_replace]
    simp [same]

end Rules

namespace Grammar

def replace (grammar : Grammar) (name : String) (definition : Expr) : Grammar :=
  { grammar with rules := grammar.rules.replace name definition }

/-- If the pulls that are made answer in a grammar where a rule leads only to itself, then they find
the same, item by item and up to the end, with any definition in the place of that rule, and this is
again a grammar. -/
theorem answers_independent_of_unentered {assemble : Rules → Except GrammarError (Rules × Expr)}
    {grammar : Grammar} (built : build assemble = .ok grammar) {name : String}
    (itself : grammar.rules.get? name = some (.rule name)) {definition : Expr}
    (resolves : grammar.rules.Resolves definition) {fuel more : Nat} (le : fuel ≤ more)
    (input : String) (limit : Nat) :
    freeze (grammar.rules.replace name definition) grammar.start =
      .ok (grammar.replace name definition) ∧
    ((grammar.parse fuel input).Answers limit →
      ((grammar.replace name definition).parse more input).pullUpTo limit =
        (grammar.parse fuel input).pullUpTo limit) ∧
    ∀ rule entered, rule ≠ name → grammar.rules.get? rule = some entered →
      ∃ cursor other, grammar.parseRule fuel rule input = .ok cursor ∧
        (grammar.replace name definition).parseRule more rule input = .ok other ∧
        (cursor.Answers limit → other.pullUpTo limit = cursor.pullUpTo limit) := by
  have agree := @Rules.agree_replace grammar.rules name definition itself
  refine ⟨?_, fun answers => ?_, fun rule entered differ bound => ?_⟩
  · exact freeze_eq_ok_iff.mpr ⟨rfl, (complete_of_build built).replace resolves⟩
  · exact Cursor.pullUpTo_eq_of_approximates
      (Rules.parses_approximates agree le grammar.start input.toList) answers
  · have boundAgain : (grammar.replace name definition).rules.get? rule = some entered := by
      rw [replace, Rules.get?_replace, bound, Option.map_some, if_neg differ]
    refine ⟨_, _, parseRule_eq_ok bound fuel input, parseRule_eq_ok boundAgain more input, ?_⟩
    exact Cursor.pullUpTo_eq_of_approximates
      (Rules.parses_approximates agree le entered input.toList)

/-- The loop stands behind a committed choice, and in it behind another alternative in the right
part of a sequence. -/
def hiddenLoop : Grammar where
  rules := Rules.empty.define "loop" (.rule "loop")
  start := .first [.seq (.opt (.literal "a")) (.union [.literal "b", .rule "loop"]), .rule "loop"]

private theorem get?_hiddenLoop {name : String} {definition : Expr} :
    hiddenLoop.rules.get? name = some definition ↔
      name = "loop" ∧ definition = .rule "loop" :=
  Rules.get?_define_empty_eq_some_iff

private theorem freeze_hiddenLoop : freeze hiddenLoop.rules hiddenLoop.start = .ok hiddenLoop := by
  apply freeze_of_single_rule rfl
  · simp [hiddenLoop, Expr.mentions_iff_of_ne_rule, Expr.children]
  · simp

theorem answers_independent_of_unentered_hiddenLoop :
    (hiddenLoop.parse 2 "abc").Answers 1 ∧
    ((hiddenLoop.replace "loop" (.literal "bc")).parse 3 "abc").pullUpTo 1 =
      ([⟨.pair (.list [.text "a"]) (.text "b"), ['c']⟩], .limit) := by
  have found : (hiddenLoop.parse 2 "abc").pullUpTo 1 =
      ([⟨.pair (.list [.text "a"]) (.text "b"), ['c']⟩], .limit) := by decide
  have answers : (hiddenLoop.parse 2 "abc").Answers 1 := by
    rw [Cursor.Answers, found]
    intro why stopped
    cases stopped
  have resolves : hiddenLoop.rules.Resolves (.literal "bc") := by
    intro name mentioned
    simp [Expr.mentions_iff_of_ne_rule, Expr.children] at mentioned
  refine ⟨answers, Eq.trans ?_ found⟩
  exact (@answers_independent_of_unentered (fun _ => .ok (hiddenLoop.rules, hiddenLoop.start)) _
    freeze_hiddenLoop "loop" (get?_hiddenLoop.mpr ⟨rfl, rfl⟩) _ resolves 2 3 (by decide) "abc"
    1).2.1 answers

end Grammar

end LazyGrammar
