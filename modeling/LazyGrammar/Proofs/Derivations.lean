import LazyGrammar.Proofs.Agreement
import LazyGrammar.Proofs.Invariants

/-!
# Derivations of parses

How a single parse comes about: which alternative was taken, how often a repetition
went on, and what became of the input on the way. Every parse that is ever pulled
has a derivation, and so what holds of derivations holds of parses, whether or not
the enumeration that they stand in ends. The converse fails: a derivation need not
take the first alternative that matches, nor repeat as often as possible.
-/

set_option autoImplicit false

namespace LazyGrammar

namespace Rules

inductive Derives (rules : Rules) : Expr → List Char → Parse → Prop where
  | literal {text : String} {rest : List Char} :
      Derives rules (.literal text) (text.toList ++ rest) ⟨.text text, rest⟩
  | regex {pattern : Regex.Pattern} {input matched rest : List Char} :
      pattern.splitMatch? input = some (matched, rest) →
      Derives rules (.regex pattern) input ⟨.text (String.ofList matched), rest⟩
  | oneOf {set : CharSet} {c : Char} {rest : List Char} :
      c ∈ set → Derives rules (.oneOf set) (c :: rest) ⟨.char c, rest⟩
  | noneOf {set : CharSet} {c : Char} {rest : List Char} :
      c ∉ set → Derives rules (.noneOf set) (c :: rest) ⟨.char c, rest⟩
  | seq {left right : Expr} {input : List Char} {first second : Parse} :
      Derives rules left input first → Derives rules right first.rest second →
      Derives rules (.seq left right) input ⟨.pair first.value second.value, second.rest⟩
  | union {alternatives : List Expr} {alternative : Expr} {input : List Char} {parse : Parse} :
      alternative ∈ alternatives → Derives rules alternative input parse →
      Derives rules (.union alternatives) input parse
  | first {alternatives : List Expr} {alternative : Expr} {input : List Char} {parse : Parse} :
      alternative ∈ alternatives → Derives rules alternative input parse →
      Derives rules (.first alternatives) input parse
  | manyNone {inner : Expr} {input : List Char} :
      Derives rules (.many inner) input ⟨.list [], input⟩
  | manyMore {inner : Expr} {input middle : List Char} {values : List Value} {parse : Parse} :
      Derives rules (.many inner) input ⟨.list values, middle⟩ →
      Derives rules inner middle parse →
      Derives rules (.many inner) input ⟨.list (values ++ [parse.value]), parse.rest⟩
  | many1 {inner : Expr} {input rest : List Char} {head : Parse} {values : List Value} :
      Derives rules inner input head →
      Derives rules (.many inner) head.rest ⟨.list values, rest⟩ →
      Derives rules (.many1 inner) input ⟨.list (head.value :: values), rest⟩
  | opt {inner : Expr} {input : List Char} {parse : Parse} :
      Derives rules inner input parse →
      Derives rules (.opt inner) input ⟨.list [parse.value], parse.rest⟩
  | optNone {inner : Expr} {input : List Char} : Derives rules (.opt inner) input ⟨.list [], input⟩
  | map {inner : Expr} {transform : Value → Value} {input : List Char} {parse : Parse} :
      Derives rules inner input parse →
      Derives rules (.map inner transform) input ⟨transform parse.value, parse.rest⟩
  | full {inner : Expr} {input : List Char} {parse : Parse} :
      Derives rules inner input parse → parse.rest = [] →
      Derives rules (.full inner) input parse
  | rule {name : String} {definition : Expr} {input : List Char} {parse : Parse} :
      rules.get? name = some definition → Derives rules definition input parse →
      Derives rules (.rule name) input parse

end Rules

/-- The parses are derived, as far as there are any before the end or a halt. -/
def Rules.AllDerived (rules : Rules) (expr : Expr) (input : List Char)
    (parses : Enumeration Parse) : Prop :=
  parses.All (rules.Derives expr input) fun _ => True

section Repetition

variable {rules : Rules} {inner : Expr} {step : List Char → Enumeration Parse}

/-- A branch stands for a derivation of all that it has gone through. -/
private theorem repetitionParses_derived
    (derived : ∀ input, rules.AllDerived inner input (step input))
    {rounds : Nat} {before : List Value} {input : List Char} :
    (repetitionParses step rounds before input).All
      (fun parse => ∃ values, parse.value = .list (before ++ values) ∧
        rules.Derives (.many inner) input ⟨.list values, parse.rest⟩) fun _ => True := by
  let onBranch (branch : Branch) : Prop :=
    rules.Derives (.many inner) input ⟨.list branch.values.reverse, branch.rest⟩
  have kept : ∀ branch, onBranch branch → (step branch.rest).All
      (fun parse => onBranch ⟨parse.value :: branch.values, parse.rest⟩) fun _ => True := by
    intro branch soFar
    refine (derived branch.rest).mono (fun parse next => ?_) fun _ _ => trivial
    simp only [onBranch, List.reverse_cons]
    exact .manyMore soFar next
  exact repetitionParses_invariant trivial kept .manyNone
    fun branch soFar => ⟨branch.values.reverse, rfl, soFar⟩

end Repetition

namespace Rules.Derives

variable {rules : Rules}

private theorem of_literalParse? {text : String} {input : List Char} {parse : Parse}
    (found : literalParse? text input = some parse) :
    rules.Derives (.literal text) input parse := by
  obtain ⟨rest, rfl, rfl⟩ := literalParse?_eq_some_iff.mp found
  exact .literal

private theorem of_regexParse? {pattern : Regex.Pattern} {input : List Char} {parse : Parse}
    (found : regexParse? pattern input = some parse) :
    rules.Derives (.regex pattern) input parse := by
  obtain ⟨⟨matched, rest⟩, split, rfl⟩ := Option.map_eq_some_iff.mp found
  exact .regex split

private theorem of_charParse? {accept : Char → Bool} {expr : Expr}
    (derives : ∀ c rest, accept c = true → rules.Derives expr (c :: rest) ⟨.char c, rest⟩)
    {input : List Char} {parse : Parse} (found : charParse? accept input = some parse) :
    rules.Derives expr input parse := by
  obtain ⟨c, rest, accepted, rfl, rfl⟩ := charParse?_eq_some_iff.mp found
  exact derives c rest accepted

end Rules.Derives

namespace Rules

variable {rules : Rules}

private theorem allDerived_parsesWith {rounds : Nat} {call : String → List Char → Enumeration Parse}
    (calls : ∀ name input, rules.AllDerived (.rule name) input (call name input)) (expr : Expr)
    (input : List Char) : rules.AllDerived expr input (expr.parsesWith rounds call input) := by
  induction expr generalizing input with
  | literal text =>
      rw [Expr.parsesWith]
      exact .ofOption fun parse found => .of_literalParse? found
  | regex pattern =>
      rw [Expr.parsesWith]
      exact .ofOption fun parse found => .of_regexParse? found
  | oneOf set =>
      rw [Expr.parsesWith]
      refine .ofOption fun parse found => .of_charParse? (fun c rest accepted => ?_) found
      exact .oneOf (CharSet.contains_iff.mp accepted)
  | noneOf set =>
      rw [Expr.parsesWith]
      refine .ofOption fun parse found => .of_charParse? (fun c rest accepted => ?_) found
      exact .noneOf (CharSet.not_contains_iff.mp accepted)
  | seq left right leftIH rightIH =>
      rw [Expr.parsesWith]
      refine (leftIH input).flatMap fun first firstDerived => ?_
      exact (rightIH first.rest).map fun second secondDerived => .seq firstDerived secondDerived
  | union alternatives ih =>
      rw [Expr.parsesWith, Expr.unionParses_eq_flatMap]
      refine .flatMap (.ofList fun _ member => member) fun alternative member => ?_
      exact (ih alternative member input).mono (fun _ derived => .union member derived)
        fun _ _ => trivial
  | first alternatives ih =>
      rw [Expr.parsesWith]
      rcases @Expr.firstParses_cases rounds call input alternatives with
        ⟨ended, _⟩ | ⟨before, winner, after, rfl, _, _, eq⟩
      · rw [ended]
        exact .done
      · rw [eq]
        have member : winner ∈ before ++ winner :: after :=
          List.mem_append_right _ List.mem_cons_self
        exact (ih winner member input).mono (fun _ derived => .first member derived)
          fun _ _ => trivial
  | many inner ih =>
      rw [Expr.parsesWith]
      refine (repetitionParses_derived ih).mono (fun parse repeated => ?_) fun _ _ => trivial
      obtain ⟨value, rest⟩ := parse
      obtain ⟨values, rfl, derived⟩ := repeated
      exact derived
  | many1 inner ih =>
      rw [Expr.parsesWith]
      refine (ih input).flatMap fun head headDerived => ?_
      refine (repetitionParses_derived ih).mono (fun parse repeated => ?_) fun _ _ => trivial
      obtain ⟨value, rest⟩ := parse
      obtain ⟨values, rfl, derived⟩ := repeated
      exact .many1 headDerived derived
  | opt inner ih =>
      rw [Expr.parsesWith]
      split
      · exact .item .optNone .done
      · exact (ih input).map fun parse derived => .opt derived
  | map inner transform ih =>
      rw [Expr.parsesWith]
      exact (ih input).map fun parse derived => .map derived
  | full inner ih =>
      rw [Expr.parsesWith]
      exact (ih input).filter fun parse derived empty =>
        .full derived (List.isEmpty_iff.mp empty)
  | rule name =>
      rw [Expr.parsesWith]
      exact calls name input

private theorem allDerived_call (fuel : Nat) (name : String) (input : List Char) :
    rules.AllDerived (.rule name) input (rules.call fuel name input) := by
  induction fuel generalizing name input with
  | zero => exact .halted trivial
  | succ fuel ih =>
      rw [call]
      cases found : rules.get? name with
      | none => exact .halted trivial
      | some definition =>
          exact (allDerived_parsesWith ih definition input).mono
            (fun _ derived => .rule found derived) fun _ _ => trivial

/-- Every parse that is ever pulled has a derivation. -/
theorem allDerived_parses (rules : Rules) (fuel : Nat) (expr : Expr) (input : List Char) :
    rules.AllDerived expr input (rules.parses fuel expr input) :=
  allDerived_parsesWith (allDerived_call fuel) expr input

theorem derives_of_pulled {fuel limit : Nat} {expr : Expr} {input : List Char} {parse : Parse}
    (pulled : parse ∈ ((rules.cursor fuel expr input).pullUpTo limit).1) :
    rules.Derives expr input parse := by
  have all : ((rules.cursor fuel expr input).resume ()).All (rules.Derives expr input)
      fun _ => True := allDerived_parses rules fuel expr input
  exact (Cursor.pullUpTo_invariant all limit).1 parse pulled

theorem Yields.derives {expr : Expr} {input : List Char} {items : List Parse}
    (yields : rules.Yields expr input items) : ∀ parse ∈ items, rules.Derives expr input parse := by
  obtain ⟨enough, ends⟩ := Filter.eventually_atTop.mp yields.eventually_parses
  have derived := allDerived_parses rules enough expr input
  rw [ends enough (Nat.le_refl enough)] at derived
  exact derived.collect_ok (Enumeration.collect_ofList items)

end Rules

end LazyGrammar
