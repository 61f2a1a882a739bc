import LazyGrammar.Proofs.BoundRules
import LazyGrammar.Proofs.Lossless

/-!
# Reachable rules

Evaluation enters no rule but those that an expression mentions, that their definitions
mention, and so on. So rules that agree on these give the same enumeration for any
fuel, and whatever else is defined, extended or dropped makes no difference.
-/

set_option autoImplicit false

namespace LazyGrammar

namespace Rules

variable {rules other : Rules} {expr : Expr}

theorem Reaches.of_part {part : Expr} (inside : part.Part expr) : rules.Reaches expr part := by
  induction inside with
  | whole => exact .whole
  | inside member _ ih => exact .trans (.child .whole member) ih

theorem Reaches.of_definition {name inner : String} {definition : Expr}
    (reached : rules.Reaches expr (.rule name)) (bound : rules.get? name = some definition)
    (mentioned : definition.Mentions inner) : rules.Reaches expr (.rule inner) :=
  .trans (.definition reached bound) (.of_part mentioned)

/-- Names that are closed under the definitions of their members take in all reachable ones. -/
theorem Reaches.mem_of_closed (closed : String → Prop)
    (mentioned : ∀ name, expr.Mentions name → closed name)
    (definitions : ∀ name definition, closed name → rules.get? name = some definition →
      ∀ inner, definition.Mentions inner → closed inner)
    {name : String} (reached : rules.Reaches expr (.rule name)) : closed name := by
  have all : ∀ {part : Expr}, rules.Reaches expr part →
      ∀ name, part.Mentions name → closed name := by
    intro part reached
    induction reached with
    | whole => exact mentioned
    | child _ member ih => exact Expr.forall_mentions_child member ih
    | definition _ bound ih =>
        exact definitions _ _ (ih _ (Expr.mentions_rule.mpr rfl)) bound
  exact all reached name (Expr.mentions_rule.mpr rfl)

/-- Every name that is reachable from the expression is bound alike, or is bound in none. -/
def AgreeFrom (rules other : Rules) (expr : Expr) : Prop :=
  ∀ name, rules.Reaches expr (.rule name) → rules.get? name = other.get? name

private theorem AgreeFrom.definition {name : String} {definition : Expr}
    (agree : rules.AgreeFrom other (.rule name)) (bound : rules.get? name = some definition) :
    rules.AgreeFrom other definition :=
  fun _ reached => agree _ (.trans (.definition .whole bound) reached)

theorem AgreeFrom.call_eq (agree : rules.AgreeFrom other expr) (fuel : Nat) {name : String}
    (reached : rules.Reaches expr (.rule name)) : rules.call fuel name = other.call fuel name := by
  induction fuel generalizing name with
  | zero => rfl
  | succ fuel ih =>
      funext input
      unfold call
      rw [← agree name reached]
      cases bound : rules.get? name with
      | none => rfl
      | some definition =>
          exact Expr.parsesWith_congr
            (fun inner mentioned => ih (reached.of_definition bound mentioned)) input

theorem AgreeFrom.cursor_eq (agree : rules.AgreeFrom other expr) (fuel : Nat)
    (input : List Char) : rules.cursor fuel expr input = other.cursor fuel expr input := by
  have same : rules.parses fuel expr input = other.parses fuel expr input :=
    Expr.parsesWith_congr (fun _ mentioned => agree.call_eq fuel (.of_part mentioned)) input
  unfold cursor
  rw [same]

def restrict (rules : Rules) (keep : String → Bool) : Rules where
  bindings := rules.bindings.filter fun binding => keep binding.1
  ascending := rules.ascending.sublist (List.filter_sublist.map Prod.fst)

theorem agreeFrom_define {name : String} (unreachable : ¬ rules.Reaches expr (.rule name))
    (extra : Expr) : rules.AgreeFrom (rules.define name extra) expr := by
  intro reachable reached
  have differ : reachable ≠ name := fun same => unreachable (same ▸ reached)
  rw [get?_define, if_neg differ]

theorem agreeFrom_restrict {keep : String → Bool}
    (kept : ∀ name, rules.Reaches expr (.rule name) → keep name = true) :
    rules.AgreeFrom (rules.restrict keep) expr :=
  fun name reached => (lookup_filter keep (kept name reached)).symm

theorem agreeFrom_of_mentions_none (none : ∀ name, ¬ expr.Mentions name) :
    rules.AgreeFrom other expr := by
  intro name reached
  have never : False := reached.mem_of_closed (fun _ => False) none fun _ _ absurd => absurd.elim
  exact never.elim

end Rules

namespace Grammar

private theorem parseRule_eq_of_agreeFrom {grammar other : Grammar} {name : String}
    (agree : grammar.rules.AgreeFrom other.rules (.rule name)) (fuel : Nat) (input : String) :
    grammar.parseRule fuel name input = other.parseRule fuel name input := by
  unfold parseRule
  rw [← agree name .whole]
  cases bound : grammar.rules.get? name with
  | none => rfl
  | some definition => exact congrArg _ ((agree.definition bound).cursor_eq fuel input.toList)

/-- Pulls find the same with rules that bind all reachable names alike, whether they answer or not
and whatever the fuel. So nothing changes when a name that is not reachable is defined, extended or
dropped, and an expression without references may as well be parsed by itself. -/
theorem results_depend_on_reachable (grammar : Grammar) (fuel : Nat) (input : String) :
    (∀ (expr : Expr) (other : Rules), grammar.rules.AgreeFrom other expr → ∀ limit,
      (other.cursor fuel expr input.toList).pullUpTo limit =
        (grammar.rules.cursor fuel expr input.toList).pullUpTo limit) ∧
    (∀ other : Grammar,
      (grammar.start = other.start → grammar.rules.AgreeFrom other.rules grammar.start →
        ∀ limit, (other.parse fuel input).pullUpTo limit =
          (grammar.parse fuel input).pullUpTo limit) ∧
      ∀ name, grammar.rules.AgreeFrom other.rules (.rule name) →
        other.parseRule fuel name input = grammar.parseRule fuel name input) ∧
    (∀ (expr : Expr) name, ¬ grammar.rules.Reaches expr (.rule name) → ∀ extra limit,
      ((grammar.rules.define name extra).cursor fuel expr input.toList).pullUpTo limit =
        (grammar.rules.cursor fuel expr input.toList).pullUpTo limit) ∧
    (∀ (expr : Expr) (keep : String → Bool),
      (∀ name, grammar.rules.Reaches expr (.rule name) → keep name = true) → ∀ limit,
        ((grammar.rules.restrict keep).cursor fuel expr input.toList).pullUpTo limit =
          (grammar.rules.cursor fuel expr input.toList).pullUpTo limit) ∧
    ((∀ name, ¬ grammar.start.Mentions name) →
      ∃ cursor, grammar.start.parse fuel input = .ok cursor ∧ ∀ limit,
        cursor.pullUpTo limit = (grammar.parse fuel input).pullUpTo limit) := by
  have same (expr : Expr) (other : Rules) (agree : grammar.rules.AgreeFrom other expr)
      (limit : Nat) :
      (other.cursor fuel expr input.toList).pullUpTo limit =
        (grammar.rules.cursor fuel expr input.toList).pullUpTo limit := by
    rw [agree.cursor_eq]
  refine ⟨same, fun other => ⟨fun starts agree limit => ?_, fun name agree => ?_⟩,
    fun expr name unreachable extra => ?_, fun expr keep kept => ?_, fun none => ?_⟩
  · unfold parse
    rw [← starts]
    exact same grammar.start other.rules agree limit
  · exact (parseRule_eq_of_agreeFrom agree fuel input).symm
  · exact same expr _ (Rules.agreeFrom_define unreachable extra)
  · exact same expr _ (Rules.agreeFrom_restrict kept)
  · refine ⟨_, Expr.parse_eq_ok_iff.mpr ⟨rfl, none⟩, ?_⟩
    exact same grammar.start .empty (Rules.agreeFrom_of_mentions_none none)

/-- The second rule only refers to itself, and nothing else refers to it. -/
def withUnused : Grammar where
  rules := (Rules.empty.define "nest"
    (.opt (.seq (.literal "(") (.seq (.rule "nest") (.literal ")"))))).define "loop" (.rule "loop")
  start := .full (.rule "nest")

private theorem bindings_withUnused : withUnused.rules.bindings =
    [("loop", .rule "loop"),
      ("nest", .opt (.seq (.literal "(") (.seq (.rule "nest") (.literal ")"))))] := rfl

private theorem reaches_withUnused {name : String}
    (reached : withUnused.rules.Reaches withUnused.start (.rule name)) : name = "nest" := by
  refine reached.mem_of_closed (· = "nest") (fun name mentioned => ?_)
    fun name definition same bound => ?_
  · simpa [withUnused, Expr.mentions_iff_of_ne_rule, Expr.children] using mentioned
  · subst same
    rw [Rules.get?_eq_some_iff, bindings_withUnused] at bound
    simp only [List.mem_cons, Prod.mk.injEq, String.reduceEq, false_and, true_and, false_or,
      List.not_mem_nil, or_false] at bound
    intro inner mentioned
    simpa [bound, Expr.mentions_iff_of_ne_rule, Expr.children] using mentioned

theorem results_depend_on_reachable_withUnused :
    ¬ withUnused.rules.Reaches withUnused.start (.rule "loop") ∧
    ((withUnused.rules.define "loop" (.literal "z")).cursor 3 withUnused.start
      "()".toList).pullUpTo 2 =
        ([⟨.list [.pair (.text "(") (.pair (.list []) (.text ")"))], []⟩], .exhausted) ∧
    ((withUnused.rules.restrict fun name => name = "nest").cursor 3 withUnused.start
      "()".toList).pullUpTo 2 =
        ([⟨.list [.pair (.text "(") (.pair (.list []) (.text ")"))], []⟩], .exhausted) := by
  have found : (withUnused.rules.cursor 3 withUnused.start "()".toList).pullUpTo 2 =
      ([⟨.list [.pair (.text "(") (.pair (.list []) (.text ")"))], []⟩], .exhausted) := by decide
  have unreachable : ¬ withUnused.rules.Reaches withUnused.start (.rule "loop") :=
    fun reached => by simpa using reaches_withUnused reached
  obtain ⟨_, _, extended, dropped, _⟩ := results_depend_on_reachable withUnused 3 "()"
  refine ⟨unreachable, (extended _ "loop" unreachable _ 2).trans found, ?_⟩
  exact (dropped _ _ (fun name reached => decide_eq_true (reaches_withUnused reached)) 2).trans
    found

end Grammar

end LazyGrammar
