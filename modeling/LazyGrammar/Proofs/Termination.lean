import LazyGrammar.Proofs.Arith.Progress
import LazyGrammar.Proofs.References
import LazyGrammar.Proofs.Rounds

/-!
# Termination

Parsing ends if no rule gets back to itself without consuming and nothing that is
repeated is nullable. By induction over the length of the input, then over the
rules in the order of their left calls, and then over the expression, there is a
list that is yielded; a repetition goes on for at most one round a character.
-/

set_option autoImplicit false

namespace LazyGrammar

/-!
## Expressions
-/

namespace Rules

/-- Searching ends, and so there is a list of results. -/
def Terminates (rules : Rules) (expr : Expr) (input : List Char) : Prop :=
  ∃ items, rules.Yields expr input items

/-- Every name mentioned is bound, and nothing that is repeated is nullable. -/
structure WellFormed (rules : Rules) (nullable : Expr → Prop) (expr : Expr) : Prop where
  resolves : rules.Resolves expr
  consume : expr.BodiesConsume nullable

variable {rules : Rules} {nullable : Expr → Prop} {input : List Char}

private theorem WellFormed.child {part expr : Expr} (wellFormed : rules.WellFormed nullable expr)
    (member : part ∈ expr.children) : rules.WellFormed nullable part where
  resolves := Expr.forall_mentions_child member wellFormed.resolves
  consume := wellFormed.consume.child member

private theorem terminates_first {alternatives : List Expr}
    (each : ∀ alternative ∈ alternatives, rules.Terminates alternative input) :
    rules.Terminates (.first alternatives) input := by
  choose! results yields using each
  cases found : alternatives.find? fun alternative => !(results alternative).isEmpty with
  | none =>
      refine ⟨[], .firstNone fun alternative member => ?_⟩
      have empty := List.find?_eq_none.mp found alternative member
      rw [Bool.not_eq_true, Bool.not_eq_false', List.isEmpty_iff] at empty
      exact empty ▸ yields alternative member
  | some winner =>
      obtain ⟨nonempty, before, after, rfl, failed⟩ := List.find?_eq_some_iff_append.mp found
      rw [Bool.not_eq_true', List.isEmpty_eq_false_iff] at nonempty
      refine ⟨results winner, .first (fun alternative member => ?_) ?_ nonempty⟩
      · have empty := failed alternative member
        rw [Bool.not_not, List.isEmpty_iff] at empty
        exact empty ▸ yields alternative (List.mem_append_left _ member)
      · exact yields winner (List.mem_append_right _ List.mem_cons_self)

/-- What cannot match without width leaves less than it was given, wherever it is repeated. -/
private theorem not_idles (closed : rules.NullableClosed nullable) {inner : Expr}
    (solid : ¬ nullable inner) (input : List Char) : ¬ rules.Idles inner input := by
  rintro ⟨links, _, index, parse, pulls, same⟩
  have consumes := pulls.derives.rest_length_lt closed solid
  exact absurd (congrArg List.length same) (Nat.ne_of_lt consumes)

private theorem terminates_many (closed : rules.NullableClosed nullable) {inner : Expr}
    (solid : ¬ nullable inner)
    (onEnds : ∀ rest, rest <:+ input → rules.Terminates inner rest) :
    rules.Terminates (.many inner) input := by
  choose! results yields using onEnds
  obtain ⟨rounds, onBranches, alive, dead⟩ :=
    exists_rounds_of_not_idles yields (not_idles closed solid input)
  exact ⟨_, .many onBranches alive dead⟩

private theorem terminates_many1 (closed : rules.NullableClosed nullable) {inner : Expr}
    (solid : ¬ nullable inner)
    (onEnds : ∀ rest, rest <:+ input → rules.Terminates inner rest) :
    rules.Terminates (.many1 inner) input := by
  choose! results yields using onEnds
  have headsYield := yields input (List.suffix_refl input)
  have afterHead : ∀ head ∈ results input, ∃ rounds,
      (∀ round ≤ rounds, ∀ branch ∈ frontierAfter results [.start head.rest] round,
        rules.Yields inner branch.rest (results branch.rest)) ∧
      frontierAfter results [.start head.rest] rounds ≠ [] ∧
      frontierAfter results [.start head.rest] (rounds + 1) = [] := by
    intro head member
    have headEnd := (headsYield.derives head member).rest_suffix
    exact exists_rounds_of_not_idles (fun rest isEnd => yields rest (isEnd.trans headEnd))
      (not_idles closed solid head.rest)
  choose! rounds onBranches alive dead using afterHead
  exact ⟨_, .many1 headsYield onBranches alive dead⟩

/-- The rules that an expression needs are those on its left, on the same input, and on shorter
inputs any that it mentions. -/
theorem WellFormed.terminates {expr : Expr} (wellFormed : rules.WellFormed nullable expr)
    (closed : rules.NullableClosed nullable)
    (onLeft : ∀ name, expr.LeftMentions nullable name → rules.Terminates (.rule name) input)
    (onShorter : ∀ rest : List Char, rest.length < input.length → ∀ expr : Expr,
      rules.WellFormed nullable expr → rules.Terminates expr rest) :
    rules.Terminates expr input := by
  have onEnds {part : Expr} (partWellFormed : rules.WellFormed nullable part)
      (here : rules.Terminates part input) :
      ∀ rest, rest <:+ input → rules.Terminates part rest := by
    intro rest isEnd
    rcases Nat.lt_or_eq_of_le isEnd.length_le with shorter | same
    · exact onShorter rest shorter part partWellFormed
    · rw [isEnd.eq_of_length same]
      exact here
  induction expr with
  | literal text => exact ⟨_, .of_literalParse?⟩
  | regex pattern => exact ⟨_, .of_regexParse?⟩
  | oneOf set => exact ⟨_, .of_charParse?_oneOf⟩
  | noneOf set => exact ⟨_, .of_charParse?_noneOf⟩
  | seq left right leftIH rightIH =>
      have leftWellFormed := wellFormed.child (by simp [Expr.children] : left ∈ _)
      have rightWellFormed := wellFormed.child (by simp [Expr.children] : right ∈ _)
      obtain ⟨firsts, leftYields⟩ := leftIH leftWellFormed
        fun name leftMentioned => onLeft name (.seqLeft leftMentioned)
      have rightTerminates : ∀ rest, (∃ first ∈ firsts, first.rest = rest) →
          rules.Terminates right rest := by
        intro rest produced
        obtain ⟨first, member, rfl⟩ := produced
        have derived := leftYields.derives first member
        -- Only behind a nullable left part can the right part meet the same input again.
        by_cases leftNullable : nullable left
        · have here := rightIH rightWellFormed
            fun name leftMentioned => onLeft name (.seqRight leftNullable leftMentioned)
          exact onEnds rightWellFormed here first.rest derived.rest_suffix
        · have shorter := derived.rest_length_lt closed leftNullable
          exact onShorter first.rest shorter right rightWellFormed
      choose! results yields using rightTerminates
      exact ⟨_, .seq leftYields fun first member => yields first.rest ⟨first, member, rfl⟩⟩
  | union alternatives ih =>
      have each : ∀ alternative ∈ alternatives, rules.Terminates alternative input := by
        intro alternative member
        exact ih alternative member (wellFormed.child member)
          fun name leftMentioned => onLeft name (.union member leftMentioned)
      choose! results yields using each
      exact ⟨_, .union yields⟩
  | first alternatives ih =>
      apply terminates_first
      intro alternative member
      exact ih alternative member (wellFormed.child member)
        fun name leftMentioned => onLeft name (.first member leftMentioned)
  | many inner ih =>
      have innerWellFormed := wellFormed.child List.mem_cons_self
      have here := ih innerWellFormed
        fun name leftMentioned => onLeft name (.many leftMentioned)
      exact terminates_many closed wellFormed.consume.many (onEnds innerWellFormed here)
  | many1 inner ih =>
      have innerWellFormed := wellFormed.child List.mem_cons_self
      have here := ih innerWellFormed
        fun name leftMentioned => onLeft name (.many1 leftMentioned)
      exact terminates_many1 closed wellFormed.consume.many1 (onEnds innerWellFormed here)
  | opt inner ih =>
      obtain ⟨items, yields⟩ := ih (wellFormed.child List.mem_cons_self)
        fun name leftMentioned => onLeft name (.opt leftMentioned)
      by_cases empty : items = []
      · subst empty
        exact ⟨_, .optNone yields⟩
      · exact ⟨_, .opt yields empty⟩
  | map inner transform ih =>
      obtain ⟨items, yields⟩ := ih (wellFormed.child List.mem_cons_self)
        fun name leftMentioned => onLeft name (.map leftMentioned)
      exact ⟨_, .map yields⟩
  | full inner ih =>
      obtain ⟨items, yields⟩ := ih (wellFormed.child List.mem_cons_self)
        fun name leftMentioned => onLeft name (.full leftMentioned)
      exact ⟨_, .full yields⟩
  | rule name => exact onLeft name .rule

end Rules

/-!
## Grammars
-/

namespace Grammar

variable {grammar : Grammar} {nullable : Expr → Prop}

private theorem Progresses.wellFormed_definition (progresses : grammar.Progresses nullable)
    (complete : grammar.rules.Complete grammar.start) {name : String} {definition : Expr}
    (bound : grammar.rules.get? name = some definition) :
    grammar.rules.WellFormed nullable definition :=
  ⟨complete.definition name definition bound, progresses.definition name definition bound⟩

theorem Progresses.terminates (progresses : grammar.Progresses nullable)
    (complete : grammar.rules.Complete grammar.start) {expr : Expr}
    (wellFormed : grammar.rules.WellFormed nullable expr) (input : List Char) :
    grammar.rules.Terminates expr input := by
  -- Shorter inputs come first, and on the same input the rules called on the left.
  induction length : input.length using Nat.strong_induction_on generalizing input expr with
  | _ length onLength =>
      subst length
      have onShorter : ∀ rest : List Char, rest.length < input.length → ∀ expr : Expr,
          grammar.rules.WellFormed nullable expr → grammar.rules.Terminates expr rest :=
        fun rest shorter expr wellFormed => onLength rest.length shorter wellFormed rest rfl
      have rulesTerminate (name : { name : String // name ∈ grammar.rules.names }) :
          grammar.rules.Terminates (.rule name.1) input := by
        induction name using progresses.wellFounded.induction with
        | _ caller onCallees =>
            obtain ⟨definition, bound⟩ := Option.isSome_iff_exists.mp
              (Rules.contains_iff_mem_names.mpr caller.2)
            have definitionWellFormed := progresses.wellFormed_definition complete bound
            obtain ⟨items, yields⟩ := definitionWellFormed.terminates progresses.closed
              (fun callee leftMentioned => onCallees
                ⟨callee, Rules.contains_iff_mem_names.mp
                  (definitionWellFormed.resolves callee leftMentioned.mentions)⟩
                (.single ⟨definition, bound, leftMentioned⟩)) onShorter
            exact ⟨items, .rule bound yields⟩
      exact wellFormed.terminates progresses.closed
        (fun name leftMentioned => rulesTerminate ⟨name, Rules.contains_iff_mem_names.mp
          (wellFormed.resolves name leftMentioned.mentions)⟩) onShorter

end Grammar

/-- In a grammar that makes progress, pulling until the end terminates for every input, from the
start expression and from every rule. -/
theorem Grammar.pulling_terminates {assemble : Rules → Except GrammarError (Rules × Expr)}
    {grammar : Grammar} {nullable : Expr → Prop} (built : build assemble = .ok grammar)
    (progresses : grammar.Progresses nullable) (input : String) :
    (∃ items enough, ∀ fuel, enough ≤ fuel → (grammar.parse fuel input).RunsOut items) ∧
    ∀ name definition, grammar.rules.get? name = some definition →
      ∃ items enough, ∀ fuel, enough ≤ fuel →
        ∃ cursor, grammar.parseRule fuel name input = .ok cursor ∧ cursor.RunsOut items := by
  have complete := complete_of_build built
  constructor
  · obtain ⟨items, yields⟩ := progresses.terminates complete ⟨complete.start, progresses.start⟩
      input.toList
    exact ⟨items, yields.eventually_runsOut⟩
  · intro name definition bound
    obtain ⟨items, yields⟩ := progresses.terminates complete
      (progresses.wellFormed_definition complete bound) input.toList
    obtain ⟨enough, runsOut⟩ := yields.eventually_runsOut
    exact ⟨items, enough, fun fuel le => ⟨_, parseRule_eq_ok bound fuel input, runsOut fuel le⟩⟩

/-- Arithmetic, with nothing nullable that need not be. -/
theorem Grammar.pulling_terminates_arith :
    build (fun _ => .ok (Arith.rules, Arith.start)) = .ok Arith.grammar ∧
    Arith.grammar.Progresses Arith.rules.Nullable ∧
    ∃ items enough, ∀ fuel, enough ≤ fuel →
      (Arith.grammar.parse fuel "2 * (3 + 4)").RunsOut items :=
  ⟨Arith.freeze_rules, Arith.progresses,
    (@Grammar.pulling_terminates (fun _ => .ok (Arith.rules, Arith.start)) _ _
      Arith.freeze_rules Arith.progresses "2 * (3 + 4)").1⟩

end LazyGrammar
