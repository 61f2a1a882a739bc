import LazyGrammar.Grammar
import LazyGrammar.Proofs.Expr.Parts

/-!
# Checked references

Going through an expression with a stack finds the names that it mentions, and no
others. So freezing succeeds exactly if every name mentioned in the start
expression or in a definition is bound, and otherwise reports the smallest unbound
name of the first expression that has one.
-/

set_option autoImplicit false

namespace LazyGrammar

namespace Expr

/-- The stack may be taken apart in any order: only which expressions stand on it counts. -/
theorem mem_addReferences {names : NameSet} {stack : List Expr} {name : String} :
    name ∈ addReferences names stack ↔ name ∈ names ∨ ∃ expr ∈ stack, expr.Mentions name := by
  fun_induction addReferences names stack with
  | case1 => simp
  | case2 _ _ _ ih | case3 _ _ _ ih | case4 _ _ _ ih | case5 _ _ _ ih =>
      rw [ih]
      simp [mentions_iff_of_ne_rule, children]
  | case6 _ _ _ _ ih =>
      rw [ih]
      simp [mentions_iff_of_ne_rule, children, or_assoc, or_left_comm]
  | case7 _ _ _ ih | case8 _ _ _ ih =>
      rw [List.unattach_reverse, List.unattach_attach] at ih
      rw [ih]
      simp only [List.mem_append, List.mem_reverse, List.mem_cons, or_and_right, exists_or,
        exists_eq_left]
      simp [mentions_iff_of_ne_rule, children]
  | case9 _ _ _ ih | case10 _ _ _ ih | case11 _ _ _ ih | case12 _ _ _ _ ih | case13 _ _ _ ih =>
      rw [ih]
      simp [mentions_iff_of_ne_rule, children]
  | case14 _ _ _ ih =>
      rw [ih]
      simp [or_assoc, or_left_comm]

theorem mem_references_iff {expr : Expr} {name : String} :
    name ∈ expr.references ↔ expr.Mentions name := by
  rw [references, mem_addReferences]
  simp only [List.mem_singleton, exists_eq_left]
  exact or_iff_right NameSet.not_mem_empty

end Expr

namespace Rules

/-- Every name that the expression mentions is bound. -/
def Resolves (rules : Rules) (expr : Expr) : Prop :=
  ∀ name, expr.Mentions name → rules.contains name = true

/-- Every name that the start expression or a definition mentions is bound. -/
structure Complete (rules : Rules) (start : Expr) : Prop where
  start : rules.Resolves start
  definition : ∀ name definition, rules.get? name = some definition → rules.Resolves definition

structure SmallestUnbound (rules : Rules) (expr : Expr) (name : String) : Prop where
  mentioned : expr.Mentions name
  unbound : rules.contains name = false
  least : ∀ other, expr.Mentions other → rules.contains other = false → name ≤ other

/-- The name to report: that of the start expression if it has an unbound one, and otherwise that
of the first definition that has one, in the order of the rules' names. -/
inductive Reports (rules : Rules) (start : Expr) (name : String) : Prop where
  | start : rules.SmallestUnbound start name → Reports rules start name
  | definition {rule : String} {definition : Expr} :
      rules.Resolves start →
      (∀ earlier other, earlier < rule → rules.get? earlier = some other →
        rules.Resolves other) →
      rules.get? rule = some definition → rules.SmallestUnbound definition name →
      Reports rules start name

end Rules

namespace Grammar

theorem unbound?_eq_none_iff {rules : Rules} {expr : Expr} :
    unbound? rules expr = none ↔ rules.Resolves expr := by
  rw [unbound?, NameSet.find?_eq_none_iff]
  simp only [Expr.mem_references_iff, Bool.not_eq_false', Rules.Resolves]

theorem unbound?_eq_some_iff {rules : Rules} {expr : Expr} {name : String} :
    unbound? rules expr = some name ↔ rules.SmallestUnbound expr name := by
  rw [unbound?, NameSet.find?_eq_some_iff]
  simp only [Expr.mem_references_iff, Bool.not_eq_true']
  exact ⟨fun ⟨mentioned, unbound, least⟩ => ⟨mentioned, unbound, least⟩,
    fun ⟨mentioned, unbound, least⟩ => ⟨mentioned, unbound, least⟩⟩

/-- The bindings before one of them are those of smaller names. -/
private theorem findSome?_definitions_eq_some_iff {rules : Rules} {name : String} :
    (rules.bindings.map Prod.snd).findSome? (unbound? rules) = some name ↔
      ∃ rule definition,
        (∀ earlier other, earlier < rule → rules.get? earlier = some other →
          rules.Resolves other) ∧
        rules.get? rule = some definition ∧ rules.SmallestUnbound definition name := by
  rw [List.findSome?_map, List.findSome?_eq_some_iff]
  constructor
  · intro firstFound
    obtain ⟨before, ⟨rule, definition⟩, after, split, found, skipped⟩ := firstFound
    have ascending := rules.ascending
    rw [split, List.map_append, List.map_cons, List.pairwise_append, List.pairwise_cons]
      at ascending
    refine ⟨rule, definition, ?_, ?_, unbound?_eq_some_iff.mp found⟩
    · intro earlier other smaller bound
      rw [Rules.get?_eq_some_iff, split, List.mem_append, List.mem_cons] at bound
      rcases bound with inBefore | same | inAfter
      · exact unbound?_eq_none_iff.mp (skipped _ inBefore)
      · cases same
        exact (String.lt_irrefl _ smaller).elim
      · exact (String.lt_asymm smaller
          (ascending.2.1.1 earlier (List.mem_map_of_mem inAfter))).elim
    · rw [Rules.get?_eq_some_iff, split]
      exact List.mem_append_right _ List.mem_cons_self
  · intro firstDefinition
    obtain ⟨rule, definition, skipped, bound, found⟩ := firstDefinition
    obtain ⟨before, after, split⟩ := List.append_of_mem (Rules.get?_eq_some_iff.mp bound)
    have ascending := rules.ascending
    rw [split, List.map_append, List.map_cons, List.pairwise_append] at ascending
    refine ⟨before, (rule, definition), after, split, unbound?_eq_some_iff.mpr found, ?_⟩
    intro binding member
    obtain ⟨earlier, other⟩ := binding
    refine unbound?_eq_none_iff.mpr (skipped earlier other ?_ ?_)
    · exact ascending.2.2 earlier (List.mem_map_of_mem member) rule List.mem_cons_self
    · rw [Rules.get?_eq_some_iff, split]
      exact List.mem_append_left _ member

private theorem findSome?_unbound_eq_none_iff {rules : Rules} {start : Expr} :
    (start :: rules.bindings.map Prod.snd).findSome? (unbound? rules) = none ↔
      rules.Complete start := by
  rw [List.findSome?_eq_none_iff, List.forall_mem_cons]
  simp only [unbound?_eq_none_iff, List.mem_map, Prod.exists, exists_eq_right,
    ← Rules.get?_eq_some_iff]
  constructor
  · intro resolved
    obtain ⟨start, definitions⟩ := resolved
    exact ⟨start, fun name definition bound => definitions definition ⟨name, bound⟩⟩
  · intro complete
    exact ⟨complete.start, fun definition ⟨name, bound⟩ =>
      complete.definition name definition bound⟩

private theorem findSome?_unbound_eq_some_iff {rules : Rules} {start : Expr} {name : String} :
    (start :: rules.bindings.map Prod.snd).findSome? (unbound? rules) = some name ↔
      rules.Reports start name := by
  rw [List.findSome?_cons]
  cases atStart : unbound? rules start with
  | some smallest =>
      have reported := unbound?_eq_some_iff.mp atStart
      constructor
      · intro same
        cases same
        exact .start reported
      · intro reports
        cases reports with
        | start smaller => exact atStart.symm.trans (unbound?_eq_some_iff.mpr smaller)
        | definition resolved =>
            have bound := resolved smallest reported.mentioned
            rw [reported.unbound] at bound
            cases bound
  | none =>
      have resolved := unbound?_eq_none_iff.mp atStart
      rw [findSome?_definitions_eq_some_iff]
      constructor
      · intro firstDefinition
        obtain ⟨rule, definition, skipped, bound, smallest⟩ := firstDefinition
        exact .definition resolved skipped bound smallest
      · intro reports
        cases reports with
        | start smallest =>
            have bound := resolved name smallest.mentioned
            rw [smallest.unbound] at bound
            cases bound
        | definition _ skipped bound smallest => exact ⟨_, _, skipped, bound, smallest⟩

theorem freeze_eq_ok_iff {rules : Rules} {start : Expr} {grammar : Grammar} :
    freeze rules start = .ok grammar ↔ grammar = ⟨rules, start⟩ ∧ rules.Complete start := by
  rw [← findSome?_unbound_eq_none_iff, freeze]
  cases (start :: rules.bindings.map Prod.snd).findSome? (unbound? rules) with
  | some name => simp
  | none => simp [eq_comm]

theorem freeze_eq_error_iff {rules : Rules} {start : Expr} {error : GrammarError} :
    freeze rules start = .error error ↔
      ∃ name, error = .unresolvedRule name ∧ rules.Reports start name := by
  simp only [← findSome?_unbound_eq_some_iff, freeze]
  cases (start :: rules.bindings.map Prod.snd).findSome? (unbound? rules) with
  | some name => simp [eq_comm]
  | none => simp

/-- A single rule may be mentioned in its own definition, and it is all that may be mentioned. -/
theorem freeze_of_single_rule {grammar : Grammar} {name : String} {definition : Expr}
    (single : grammar.rules.bindings = [(name, definition)])
    (inStart : ∀ other, grammar.start.Mentions other → other = name)
    (inDefinition : ∀ other, definition.Mentions other → other = name) :
    freeze grammar.rules grammar.start = .ok grammar := by
  have bound (other : String) (same : other = name) : grammar.rules.contains other = true := by
    rw [Rules.contains_iff_mem_names, Rules.names, single]
    exact List.mem_singleton.mpr same
  refine freeze_eq_ok_iff.mpr ⟨rfl, fun other mentioned => bound other (inStart other mentioned),
    fun rule found isRule other mentioned => bound other (inDefinition other ?_)⟩
  rw [Rules.get?_eq_some_iff, single, List.mem_singleton] at isRule
  cases isRule
  exact mentioned

/-- What a grammar that was put together is made of. -/
theorem complete_of_build {assemble : Rules → Except GrammarError (Rules × Expr)}
    {grammar : Grammar} (built : build assemble = .ok grammar) :
    grammar.rules.Complete grammar.start := by
  rw [build] at built
  split at built
  · obtain ⟨rfl, complete⟩ := freeze_eq_ok_iff.mp built
    exact complete
  · cases built

end Grammar

namespace Expr

theorem parse_eq_error_iff {expr : Expr} {fuel : Nat} {input : String} {error : GrammarError} :
    expr.parse fuel input = .error error ↔
      ∃ name, error = .unresolvedRule name ∧ expr.Mentions name ∧
        ∀ other, expr.Mentions other → name ≤ other := by
  rw [parse]
  cases found : expr.references.least? with
  | some name =>
      simp only [NameSet.least?_eq_some_iff, mem_references_iff] at found
      constructor
      · intro refused
        cases refused
        exact ⟨name, rfl, found⟩
      · intro reported
        obtain ⟨other, rfl, mentioned, least⟩ := reported
        rw [String.le_antisymm (found.2 other mentioned) (least name found.1)]
  | none =>
      simp only [NameSet.least?_eq_none_iff, mem_references_iff] at found
      constructor
      · intro refused
        cases refused
      · intro reported
        obtain ⟨name, _, mentioned, _⟩ := reported
        exact (found name mentioned).elim

theorem parse_eq_ok_iff {expr : Expr} {fuel : Nat} {input : String} {cursor : Cursor Parse} :
    expr.parse fuel input = .ok cursor ↔
      cursor = Rules.empty.cursor fuel expr input.toList ∧
        ∀ name, ¬ expr.Mentions name := by
  rw [parse]
  cases found : expr.references.least? with
  | some name =>
      simp only [NameSet.least?_eq_some_iff, mem_references_iff] at found
      constructor
      · intro accepted
        cases accepted
      · intro accepted
        exact (accepted.2 name found.1).elim
  | none =>
      simp only [NameSet.least?_eq_none_iff, mem_references_iff] at found
      constructor
      · intro accepted
        cases accepted
        exact ⟨rfl, found⟩
      · intro accepted
        obtain ⟨rfl, _⟩ := accepted
        rfl

end Expr

/-- Putting a grammar together fails as the assembly does, or for a mentioned name that is not
bound, and otherwise keeps what the assembly made. An expression by itself may mention no name. -/
theorem Grammar.build_checks_references (assemble : Rules → Except GrammarError (Rules × Expr)) :
    (match assemble .empty with
      | .error error => build assemble = .error error
      | .ok (rules, start) =>
          (∀ grammar,
            build assemble = .ok grammar ↔ grammar = ⟨rules, start⟩ ∧ rules.Complete start) ∧
          ∀ error,
            build assemble = .error error ↔
              ∃ name, error = .unresolvedRule name ∧ rules.Reports start name) ∧
    ∀ (expr : Expr) (fuel : Nat) (input : String),
      ((∃ error, expr.parse fuel input = .error error) ↔ ∃ name, expr.Mentions name) ∧
      ∀ error, expr.parse fuel input = .error error ↔
        ∃ name, error = .unresolvedRule name ∧ expr.Mentions name ∧
          ∀ other, expr.Mentions other → name ≤ other := by
  refine ⟨?_, fun expr fuel input => ⟨?_, fun error => Expr.parse_eq_error_iff⟩⟩
  · cases assembled : assemble .empty with
    | error error => simp only [build, assembled]
    | ok result =>
        obtain ⟨rules, start⟩ := result
        simp only [build, assembled]
        exact ⟨fun _ => freeze_eq_ok_iff, fun _ => freeze_eq_error_iff⟩
  · constructor
    · intro fails
      obtain ⟨error, refused⟩ := fails
      obtain ⟨name, _, mentioned, _⟩ := Expr.parse_eq_error_iff.mp refused
      exact ⟨name, mentioned⟩
    · intro mentions
      obtain ⟨name, mentioned⟩ := mentions
      cases outcome : expr.parse fuel input with
      | error error => exact ⟨error, rfl⟩
      | ok cursor => exact ((Expr.parse_eq_ok_iff.mp outcome).2 name mentioned).elim

end LazyGrammar
