import LazyGrammar.Proofs.Arith.Rules
import LazyGrammar.Proofs.Invariants

/-!
# Unbound rules are never met

What an expression evaluates is inside it, and so the rules that are called are
among those that it mentions. In a grammar that was put together every name that
is mentioned is bound, and so is every name that a bound definition mentions: no
chain of calls leaves the bound names.
-/

set_option autoImplicit false

namespace LazyGrammar

namespace Expr

/-- Evaluation halts only where the calls of mentioned rules do, or for lack of fuel. -/
theorem parsesWith_halts {rounds : Nat} {call : String → List Char → Enumeration Parse}
    (onHalt : Halt → Prop) (fuelHalts : onHalt .outOfFuel) {expr : Expr}
    (calls : ∀ name, expr.Mentions name → ∀ input,
      (call name input).All (fun _ => True) onHalt) (input : List Char) :
    (expr.parsesWith rounds call input).All (fun _ => True) onHalt := by
  induction expr generalizing input with
  | literal | regex | oneOf | noneOf =>
      rw [parsesWith]
      exact .ofOption fun _ _ => trivial
  | seq left right leftIH rightIH =>
      have leftHalts := leftIH (forall_mentions_child (by simp [children]) calls)
      have rightHalts := rightIH (forall_mentions_child (by simp [children]) calls)
      rw [parsesWith]
      exact (leftHalts input).flatMap fun first _ => (rightHalts first.rest).map fun _ _ => trivial
  | union alternatives ih =>
      rw [parsesWith, unionParses_eq_flatMap]
      refine .flatMap (.ofList fun _ member => member) fun alternative member => ?_
      have isChild : alternative ∈ (union alternatives).children := member
      exact ih alternative member (forall_mentions_child isChild calls) input
  | first alternatives ih =>
      rw [parsesWith]
      rcases @firstParses_cases rounds call input alternatives with
        ⟨ended, _⟩ | ⟨before, winner, after, rfl, _, _, eq⟩
      · rw [ended]
        exact .done
      · rw [eq]
        have isChild : winner ∈ (first (before ++ winner :: after)).children :=
          List.mem_append_right _ List.mem_cons_self
        exact ih winner isChild (forall_mentions_child isChild calls) input
  | many inner ih =>
      have innerHalts := ih (forall_mentions_child List.mem_cons_self calls)
      rw [parsesWith]
      exact repetitionParses_halts fuelHalts innerHalts
  | many1 inner ih =>
      have innerHalts := ih (forall_mentions_child List.mem_cons_self calls)
      rw [parsesWith]
      exact (innerHalts input).flatMap fun _ _ => repetitionParses_halts fuelHalts innerHalts
  | opt inner ih =>
      have innerHalts := ih (forall_mentions_child List.mem_cons_self calls) input
      rw [parsesWith]
      split
      · exact .item trivial .done
      · exact innerHalts.map fun _ _ => trivial
  | map inner transform ih =>
      have innerHalts := ih (forall_mentions_child List.mem_cons_self calls) input
      rw [parsesWith]
      exact innerHalts.map fun _ _ => trivial
  | full inner ih =>
      have innerHalts := ih (forall_mentions_child List.mem_cons_self calls) input
      rw [parsesWith]
      exact innerHalts.filter fun _ _ _ => trivial
  | rule name =>
      rw [parsesWith]
      exact calls name (mentions_rule.mpr rfl) input

section Agreeing

variable {rounds : Nat} {call other : String → List Char → Enumeration Parse}
  {input : List Char}

private theorem unionParses_congr {alternatives : List Expr}
    (agree : ∀ alternative ∈ alternatives,
      alternative.parsesWith rounds call input = alternative.parsesWith rounds other input) :
    unionParses rounds call alternatives input = unionParses rounds other alternatives input := by
  induction alternatives with
  | nil => rw [unionParses, unionParses]
  | cons alternative rest ih =>
      obtain ⟨headAgrees, restAgree⟩ := List.forall_mem_cons.mp agree
      rw [unionParses, unionParses, headAgrees, ih restAgree]

private theorem firstParses_congr {alternatives : List Expr}
    (agree : ∀ alternative ∈ alternatives,
      alternative.parsesWith rounds call input = alternative.parsesWith rounds other input) :
    firstParses rounds call alternatives input = firstParses rounds other alternatives input := by
  induction alternatives with
  | nil => rw [firstParses, firstParses]
  | cons alternative rest ih =>
      obtain ⟨headAgrees, restAgree⟩ := List.forall_mem_cons.mp agree
      rw [firstParses, firstParses, headAgrees, ih restAgree]

/-- What a name that is not mentioned would give makes no difference. -/
theorem parsesWith_congr {expr : Expr}
    (agree : ∀ name, expr.Mentions name → call name = other name) (input : List Char) :
    expr.parsesWith rounds call input = expr.parsesWith rounds other input := by
  induction expr generalizing input with
  | literal | regex | oneOf | noneOf => rw [parsesWith, parsesWith]
  | seq left right leftIH rightIH =>
      have leftAgree := leftIH (forall_mentions_child (by simp [children]) agree)
      have rightAgree := rightIH (forall_mentions_child (by simp [children]) agree)
      simp only [parsesWith, leftAgree, rightAgree]
  | union alternatives ih =>
      rw [parsesWith, parsesWith]
      refine unionParses_congr fun alternative member => ?_
      have isChild : alternative ∈ (union alternatives).children := member
      exact ih alternative member (forall_mentions_child isChild agree) input
  | first alternatives ih =>
      rw [parsesWith, parsesWith]
      refine firstParses_congr fun alternative member => ?_
      have isChild : alternative ∈ (first alternatives).children := member
      exact ih alternative member (forall_mentions_child isChild agree) input
  | many inner ih | many1 inner ih | opt inner ih | map inner transform ih | full inner ih =>
      have innerAgree := ih (forall_mentions_child List.mem_cons_self agree)
      simp only [parsesWith, innerAgree]
  | rule name => rw [parsesWith, parsesWith, agree name (mentions_rule.mpr rfl)]

end Agreeing

end Expr

namespace Cursor

/-- No pull tells of an unbound rule, however many there are. -/
def NeverUnbound {α : Type} (cursor : Cursor α) : Prop :=
  ∀ limit name, (cursor.pullUpTo limit).2 ≠ .halted (.unbound name)

private theorem neverUnbound_of_all {α : Type} {cursor : Cursor α}
    (all : (cursor.resume ()).All (fun _ => True) (· = .outOfFuel)) : cursor.NeverUnbound := by
  intro limit name stopped
  cases (pullUpTo_invariant all limit).2 _ stopped

end Cursor

namespace Rules

/-- The calls of rules with something else in place of the halt at an unbound one. -/
def callOr (rules : Rules) (otherwise : String → List Char → Enumeration Parse) :
    Nat → String → List Char → Enumeration Parse
  | 0, _, _ => .halted .outOfFuel
  | fuel + 1, name, input =>
      match rules.get? name with
      | some definition => definition.parsesWith fuel (rules.callOr otherwise fuel) input
      | none => otherwise name input

variable {rules : Rules} {start : Expr}

/-- What stands in place of the halt at an unbound rule makes no difference. -/
def NeverLooksUpUnbound (rules : Rules) (expr : Expr) : Prop :=
  ∀ otherwise fuel input,
    expr.parsesWith fuel (rules.callOr otherwise fuel) input = rules.parses fuel expr input

private theorem callOr_eq_call (complete : rules.Complete start)
    {otherwise : String → List Char → Enumeration Parse} (fuel : Nat) {name : String}
    (bound : rules.contains name = true) :
    rules.callOr otherwise fuel name = rules.call fuel name := by
  induction fuel generalizing name with
  | zero => rfl
  | succ fuel ih =>
      obtain ⟨definition, found⟩ := Option.isSome_iff_exists.mp bound
      funext input
      rw [callOr, call, found]
      refine Expr.parsesWith_congr (fun inner mentioned => ?_) input
      exact ih (complete.definition name definition found inner mentioned)

theorem neverLooksUpUnbound_of_resolves (complete : rules.Complete start) {expr : Expr}
    (resolves : rules.Resolves expr) : rules.NeverLooksUpUnbound expr :=
  fun _ fuel _ => Expr.parsesWith_congr
    (fun name mentioned => callOr_eq_call complete fuel (resolves name mentioned)) _

/-- Fuel is used up by every call, so that this is an induction over the calls still possible. -/
private theorem call_halts_for_fuel (complete : rules.Complete start) (fuel : Nat) {name : String}
    (bound : rules.contains name = true) (input : List Char) :
    (rules.call fuel name input).All (fun _ => True) (· = .outOfFuel) := by
  induction fuel generalizing name input with
  | zero => exact .halted rfl
  | succ fuel ih =>
      obtain ⟨definition, found⟩ := Option.isSome_iff_exists.mp bound
      rw [call, found]
      refine Expr.parsesWith_halts (· = .outOfFuel) rfl (fun inner mentioned rest => ?_) input
      exact ih (complete.definition name definition found inner mentioned) rest

theorem parses_halts_for_fuel (complete : rules.Complete start) (fuel : Nat) {expr : Expr}
    (resolves : rules.Resolves expr) (input : List Char) :
    (rules.parses fuel expr input).All (fun _ => True) (· = .outOfFuel) :=
  Expr.parsesWith_halts (· = .outOfFuel) rfl
    (fun name mentioned => call_halts_for_fuel complete fuel (resolves name mentioned)) input

end Rules

/-- In a grammar that was put together, no rule looked up is unbound, wherever parsing starts. An
expression that may be parsed by itself looks up no rule at all. -/
theorem Grammar.never_unbound {assemble : Rules → Except GrammarError (Rules × Expr)}
    {grammar : Grammar} (built : build assemble = .ok grammar) (fuel : Nat) (input : String) :
    grammar.rules.NeverLooksUpUnbound grammar.start ∧
    (grammar.parse fuel input).NeverUnbound ∧
    (grammar.parseFull fuel input).NeverUnbound ∧
    (∀ name, grammar.parseFirst fuel input ≠ .halted (.unbound name)) ∧
    (∀ rule definition, grammar.rules.get? rule = some definition →
      grammar.rules.NeverLooksUpUnbound definition ∧
      ∃ cursor, grammar.parseRule fuel rule input = .ok cursor ∧ cursor.NeverUnbound) ∧
    ∀ (expr : Expr) cursor, expr.parse fuel input = .ok cursor →
      (∀ lookup, cursor.resume () = expr.parsesWith fuel lookup input.toList) ∧
      cursor.NeverUnbound := by
  have complete := complete_of_build built
  have fromStart := Rules.parses_halts_for_fuel complete fuel complete.start input.toList
  have fromStartFull : ((grammar.parseFull fuel input).resume ()).All (fun _ => True)
      (· = .outOfFuel) := fromStart.filterMap fun _ _ _ _ => trivial
  refine ⟨?_, ?_, ?_, ?_, ?_, ?_⟩
  · exact Rules.neverLooksUpUnbound_of_resolves complete complete.start
  · exact Cursor.neverUnbound_of_all fromStart
  · exact Cursor.neverUnbound_of_all fromStartFull
  · intro name pulled
    cases (Cursor.pull_invariant fromStartFull).2 _ pulled
  · intro rule definition bound
    have resolves := complete.definition rule definition bound
    refine ⟨Rules.neverLooksUpUnbound_of_resolves complete resolves, _,
      parseRule_eq_ok bound fuel input, ?_⟩
    exact Cursor.neverUnbound_of_all
      (Rules.parses_halts_for_fuel complete fuel resolves input.toList)
  · intro expr cursor accepted
    obtain ⟨rfl, mentionsNone⟩ := Expr.parse_eq_ok_iff.mp accepted
    refine ⟨fun lookup => ?_, Cursor.neverUnbound_of_all ?_⟩
    · exact Expr.parsesWith_congr (fun name mentioned => (mentionsNone name mentioned).elim) _
    · exact Expr.parsesWith_halts (· = .outOfFuel) rfl
        (fun name mentioned => (mentionsNone name mentioned).elim) _

/-- Arithmetic: rules that call each other and themselves, and a start expression without
alternatives. -/
theorem Grammar.never_unbound_arith :
    build (fun _ => .ok (Arith.rules, Arith.start)) = .ok Arith.grammar ∧
    (Arith.grammar.parseFull 28 "1 + 2").NeverUnbound :=
  ⟨Arith.freeze_rules,
    (@Grammar.never_unbound (fun _ => .ok (Arith.rules, Arith.start)) _ Arith.freeze_rules
      28 "1 + 2").2.2.1⟩

end LazyGrammar
