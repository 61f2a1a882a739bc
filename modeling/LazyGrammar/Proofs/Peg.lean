import LazyGrammar.Proofs.Agreement
import LazyGrammar.Proofs.Approximation
import LazyGrammar.Proofs.Repetition

/-!
# Parsing expression grammars

A choice that keeps the results of all its alternatives is the only thing that makes
for several results. Without any, an expression has the one result of a parsing
expression: alternatives are tried in order until one matches, and repetitions and
options take what they can and never give it back.
-/

set_option autoImplicit false

namespace LazyGrammar

def Expr.UnionFree (expr : Expr) : Prop :=
  ∀ alternatives, ¬ (Expr.union alternatives).Part expr

private theorem Expr.UnionFree.child {child expr : Expr} (unionFree : expr.UnionFree)
    (member : child ∈ expr.children) : child.UnionFree :=
  fun alternatives inside => unionFree alternatives (.inside member inside)

namespace Rules

def UnionFree (rules : Rules) : Prop :=
  ∀ name definition, rules.get? name = some definition → definition.UnionFree

/-- What interpreting a parsing expression on an input comes to, if it terminates: a match or
none. -/
inductive PegResult (rules : Rules) : Expr → List Char → Option Parse → Prop where
  | literal {text : String} {rest : List Char} :
      PegResult rules (.literal text) (text.toList ++ rest) (some ⟨.text text, rest⟩)
  | literalNone {text : String} {input : List Char} :
      ¬ text.toList <+: input → PegResult rules (.literal text) input none
  | regex {pattern : Regex.Pattern} {input matched rest : List Char} :
      pattern.splitMatch? input = some (matched, rest) →
      PegResult rules (.regex pattern) input (some ⟨.text (String.ofList matched), rest⟩)
  | regexNone {pattern : Regex.Pattern} {input : List Char} :
      pattern.splitMatch? input = none → PegResult rules (.regex pattern) input none
  | oneOf {set : CharSet} {c : Char} {rest : List Char} :
      c ∈ set → PegResult rules (.oneOf set) (c :: rest) (some ⟨.char c, rest⟩)
  | oneOfNone {set : CharSet} {input : List Char} :
      (∀ c ∈ input.head?, c ∉ set) → PegResult rules (.oneOf set) input none
  | noneOf {set : CharSet} {c : Char} {rest : List Char} :
      c ∉ set → PegResult rules (.noneOf set) (c :: rest) (some ⟨.char c, rest⟩)
  | noneOfNone {set : CharSet} {input : List Char} :
      (∀ c ∈ input.head?, c ∈ set) → PegResult rules (.noneOf set) input none
  | seq {left right : Expr} {input : List Char} {first : Parse} {second : Option Parse} :
      PegResult rules left input (some first) → PegResult rules right first.rest second →
      PegResult rules (.seq left right) input
        (second.map fun second => ⟨.pair first.value second.value, second.rest⟩)
  | seqNone {left right : Expr} {input : List Char} :
      PegResult rules left input none → PegResult rules (.seq left right) input none
  | first {before after : List Expr} {winner : Expr} {input : List Char} {parse : Parse} :
      (∀ alternative ∈ before, PegResult rules alternative input none) →
      PegResult rules winner input (some parse) →
      PegResult rules (.first (before ++ winner :: after)) input (some parse)
  | firstNone {alternatives : List Expr} {input : List Char} :
      (∀ alternative ∈ alternatives, PegResult rules alternative input none) →
      PegResult rules (.first alternatives) input none
  | manyMore {inner : Expr} {input rest : List Char} {head : Parse} {values : List Value} :
      PegResult rules inner input (some head) →
      PegResult rules (.many inner) head.rest (some ⟨.list values, rest⟩) →
      PegResult rules (.many inner) input (some ⟨.list (head.value :: values), rest⟩)
  | manyStop {inner : Expr} {input : List Char} :
      PegResult rules inner input none →
      PegResult rules (.many inner) input (some ⟨.list [], input⟩)
  | many1 {inner : Expr} {input rest : List Char} {head : Parse} {values : List Value} :
      PegResult rules inner input (some head) →
      PegResult rules (.many inner) head.rest (some ⟨.list values, rest⟩) →
      PegResult rules (.many1 inner) input (some ⟨.list (head.value :: values), rest⟩)
  | many1None {inner : Expr} {input : List Char} :
      PegResult rules inner input none → PegResult rules (.many1 inner) input none
  | opt {inner : Expr} {input : List Char} {parse : Parse} :
      PegResult rules inner input (some parse) →
      PegResult rules (.opt inner) input (some ⟨.list [parse.value], parse.rest⟩)
  | optNone {inner : Expr} {input : List Char} :
      PegResult rules inner input none →
      PegResult rules (.opt inner) input (some ⟨.list [], input⟩)
  | map {inner : Expr} {transform : Value → Value} {input : List Char} {result : Option Parse} :
      PegResult rules inner input result →
      PegResult rules (.map inner transform) input
        (result.map fun parse => ⟨transform parse.value, parse.rest⟩)
  | full {inner : Expr} {input : List Char} {result : Option Parse} :
      PegResult rules inner input result →
      PegResult rules (.full inner) input (result.filter fun parse => parse.rest.isEmpty)
  | rule {name : String} {definition : Expr} {input : List Char} {result : Option Parse} :
      rules.get? name = some definition → PegResult rules definition input result →
      PegResult rules (.rule name) input result

/-!
## From a run to the result
-/

namespace PegResult

variable {rules : Rules} {input : List Char}

private theorem of_literalParse? {text : String} :
    rules.PegResult (.literal text) input (literalParse? text input) := by
  cases found : literalParse? text input with
  | none => exact .literalNone (literalParse?_eq_none_iff.mp found)
  | some parse =>
      obtain ⟨rest, rfl, rfl⟩ := literalParse?_eq_some_iff.mp found
      exact .literal

private theorem of_regexParse? {pattern : Regex.Pattern} :
    rules.PegResult (.regex pattern) input (regexParse? pattern input) := by
  rw [regexParse?]
  cases found : pattern.splitMatch? input with
  | none => exact .regexNone found
  | some split => exact .regex found

private theorem of_charParse?_oneOf {set : CharSet} :
    rules.PegResult (.oneOf set) input (charParse? set.contains input) := by
  cases found : charParse? set.contains input with
  | none => exact .oneOfNone (charParse?_contains_eq_none_iff.mp found)
  | some parse =>
      obtain ⟨c, rest, member, rfl, rfl⟩ := charParse?_contains_eq_some_iff.mp found
      exact .oneOf member

private theorem of_charParse?_noneOf {set : CharSet} :
    rules.PegResult (.noneOf set) input (charParse? (fun c => !set.contains c) input) := by
  cases found : charParse? (fun c => !set.contains c) input with
  | none => exact .noneOfNone (charParse?_not_contains_eq_none_iff.mp found)
  | some parse =>
      obtain ⟨c, rest, absent, rfl, rfl⟩ := charParse?_not_contains_eq_some_iff.mp found
      exact .noneOf absent

end PegResult

/-- The parses halt at once, or they are the one result or none and then end. -/
inductive FollowsPeg (rules : Rules) (expr : Expr) (input : List Char) :
    Enumeration Parse → Prop where
  | halted {why : Halt} : FollowsPeg rules expr input (.halted why)
  | answers {result : Option Parse} :
      rules.PegResult expr input result → FollowsPeg rules expr input (.ofOption result)

namespace FollowsPeg

variable {rules : Rules} {inner : Expr} {input : List Char} {parses : Enumeration Parse}

private theorem pegResult_of_done (follows : rules.FollowsPeg inner input parses)
    (ended : parses = .done) : rules.PegResult inner input none := by
  cases follows with
  | halted => cases ended
  | @answers result peg =>
      cases result with
      | none => exact peg
      | some parse => cases ended

private theorem length_toList_le (follows : rules.FollowsPeg inner input parses) :
    parses.toList.length ≤ 1 := by
  cases follows with
  | halted => exact Nat.zero_le 1
  | @answers result peg =>
      cases result with
      | none => exact Nat.zero_le 1
      | some parse => exact Nat.le_refl 1

private theorem seq {left right : Expr} {rights : List Char → Enumeration Parse}
    (lefts : rules.FollowsPeg left input parses)
    (follows : ∀ rest, rules.FollowsPeg right rest (rights rest)) :
    rules.FollowsPeg (.seq left right) input (parses.flatMap fun first =>
      (rights first.rest).map fun second => ⟨.pair first.value second.value, second.rest⟩) := by
  cases lefts with
  | halted => exact .halted
  | @answers result peg =>
      cases result with
      | none => exact .answers (.seqNone peg)
      | some first =>
          rw [Enumeration.ofOption, Enumeration.flatMap_single]
          have second := follows first.rest
          generalize rights first.rest = found at second
          cases second with
          | halted => exact .halted
          | answers after =>
              rw [Enumeration.map_ofOption]
              exact .answers (.seq peg after)

/-- A repetition halts, or it has one result, whatever values stand before it. -/
private theorem repetition {step : List Char → Enumeration Parse}
    (follows : ∀ input, rules.FollowsPeg inner input (step input)) (rounds : Nat)
    (before : List Value) (input : List Char) :
    (∃ why, repetitionParses step rounds before input = .halted why) ∨
      ∃ values rest,
        repetitionParses step rounds before input = .single ⟨.list (before ++ values), rest⟩ ∧
        rules.PegResult (.many inner) input (some ⟨.list values, rest⟩) := by
  induction rounds generalizing before input with
  | zero => exact .inl ⟨_, rfl⟩
  | succ rounds ih =>
      have here := follows input
      generalize found : step input = first at here
      cases here with
      | halted => exact .inl ⟨_, repetitionParses_of_halted found⟩
      | @answers result peg =>
          cases result with
          | none =>
              refine .inr ⟨[], input, ?_, .manyStop peg⟩
              rw [repetitionParses_of_done found, List.append_nil]
          | some head =>
              -- The value of this round stands before those of the later rounds.
              rw [repetitionParses_of_single found]
              obtain halts | ⟨values, rest, later, more⟩ := ih (before ++ [head.value]) head.rest
              · exact .inl halts
              · refine .inr ⟨head.value :: values, rest, ?_, .manyMore peg more⟩
                rw [later, List.append_assoc, List.singleton_append]

private theorem many {step : List Char → Enumeration Parse}
    (follows : ∀ input, rules.FollowsPeg inner input (step input)) (rounds : Nat) :
    rules.FollowsPeg (.many inner) input (repetitionParses step rounds [] input) := by
  obtain ⟨why, halts⟩ | ⟨values, rest, single, peg⟩ := repetition follows rounds [] input
  · rw [halts]
    exact .halted
  · rw [single]
    exact .answers peg

private theorem many1 {step : List Char → Enumeration Parse}
    (follows : ∀ input, rules.FollowsPeg inner input (step input)) (rounds : Nat) :
    rules.FollowsPeg (.many1 inner) input ((step input).flatMap fun head =>
      repetitionParses step rounds [head.value] head.rest) := by
  have here := follows input
  generalize step input = heads at here
  cases here with
  | halted => exact .halted
  | @answers result peg =>
      cases result with
      | none => exact .answers (.many1None peg)
      | some head =>
          rw [Enumeration.ofOption, Enumeration.flatMap_single]
          obtain ⟨why, halts⟩ | ⟨values, rest, single, more⟩ :=
            repetition follows rounds [head.value] head.rest
          · rw [halts]
            exact .halted
          · rw [single]
            exact .answers (.many1 peg more)

private theorem first {rounds : Nat} {call : String → List Char → Enumeration Parse}
    {alternatives : List Expr}
    (follows : ∀ alternative ∈ alternatives,
      rules.FollowsPeg alternative input (alternative.parsesWith rounds call input)) :
    rules.FollowsPeg (.first alternatives) input
      (Expr.firstParses rounds call alternatives input) := by
  rcases @Expr.firstParses_cases rounds call input alternatives with
    ⟨ended, failed⟩ | ⟨before, winner, after, rfl, failed, found, eq⟩
  · rw [ended]
    exact .answers (.firstNone fun alternative member =>
      (follows alternative member).pegResult_of_done (failed alternative member))
  · rw [eq]
    have wins := follows winner (List.mem_append_right _ List.mem_cons_self)
    generalize winner.parsesWith rounds call input = parses at wins found
    cases wins with
    | halted => exact .halted
    | @answers result peg =>
        cases result with
        | none => exact (found rfl).elim
        | some parse =>
            refine .answers (.first (fun alternative member => ?_) peg)
            exact (follows alternative (List.mem_append_left _ member)).pegResult_of_done
              (failed alternative member)

private theorem opt {rounds : Nat} {call : String → List Char → Enumeration Parse}
    (follows : rules.FollowsPeg inner input (inner.parsesWith rounds call input)) :
    rules.FollowsPeg (.opt inner) input ((Expr.opt inner).parsesWith rounds call input) := by
  rw [Expr.parsesWith]
  generalize inner.parsesWith rounds call input = parses at follows
  cases follows with
  | halted => exact .halted
  | @answers result peg =>
      cases result with
      | none => exact .answers (.optNone peg)
      | some parse => exact .answers (.opt peg)

private theorem map {transform : Value → Value} (follows : rules.FollowsPeg inner input parses) :
    rules.FollowsPeg (.map inner transform) input
      (parses.map fun parse => ⟨transform parse.value, parse.rest⟩) := by
  cases follows with
  | halted => exact .halted
  | answers peg =>
      rw [Enumeration.map_ofOption]
      exact .answers peg.map

private theorem full (follows : rules.FollowsPeg inner input parses) :
    rules.FollowsPeg (.full inner) input (parses.filter fun parse => parse.rest.isEmpty) := by
  cases follows with
  | halted => exact .halted
  | answers peg =>
      rw [Enumeration.filter_ofOption]
      exact .answers peg.full

end FollowsPeg

variable {rules : Rules}

private theorem followsPeg_parsesWith {rounds : Nat} {call : String → List Char → Enumeration Parse}
    (calls : ∀ name input, rules.FollowsPeg (.rule name) input (call name input)) {expr : Expr}
    (unionFree : expr.UnionFree) (input : List Char) :
    rules.FollowsPeg expr input (expr.parsesWith rounds call input) := by
  induction expr generalizing input with
  | literal text =>
      rw [Expr.parsesWith]
      exact .answers .of_literalParse?
  | regex pattern =>
      rw [Expr.parsesWith]
      exact .answers .of_regexParse?
  | oneOf set =>
      rw [Expr.parsesWith]
      exact .answers .of_charParse?_oneOf
  | noneOf set =>
      rw [Expr.parsesWith]
      exact .answers .of_charParse?_noneOf
  | seq left right leftIH rightIH =>
      have leftFree : left.UnionFree := unionFree.child (by simp [Expr.children])
      have rightFree : right.UnionFree := unionFree.child (by simp [Expr.children])
      rw [Expr.parsesWith]
      exact (leftIH leftFree input).seq (rightIH rightFree)
  | union alternatives => exact (unionFree alternatives .whole).elim
  | first alternatives ih =>
      rw [Expr.parsesWith]
      exact .first fun alternative member => ih alternative member (unionFree.child member) input
  | many inner ih =>
      rw [Expr.parsesWith]
      exact .many (ih (unionFree.child List.mem_cons_self)) rounds
  | many1 inner ih =>
      rw [Expr.parsesWith]
      exact .many1 (ih (unionFree.child List.mem_cons_self)) rounds
  | opt inner ih => exact (ih (unionFree.child List.mem_cons_self) input).opt
  | map inner transform ih =>
      rw [Expr.parsesWith]
      exact (ih (unionFree.child List.mem_cons_self) input).map
  | full inner ih =>
      rw [Expr.parsesWith]
      exact (ih (unionFree.child List.mem_cons_self) input).full
  | rule name =>
      rw [Expr.parsesWith]
      exact calls name input

private theorem followsPeg_call (unionFree : rules.UnionFree) (fuel : Nat) (name : String)
    (input : List Char) : rules.FollowsPeg (.rule name) input (rules.call fuel name input) := by
  induction fuel generalizing name input with
  | zero => exact .halted
  | succ fuel ih =>
      rw [call]
      cases bound : rules.get? name with
      | none => exact .halted
      | some definition =>
          have inside : rules.FollowsPeg definition input
              (definition.parsesWith fuel (rules.call fuel) input) :=
            followsPeg_parsesWith ih (unionFree name definition bound) input
          dsimp only
          generalize definition.parsesWith fuel (rules.call fuel) input = found at inside
          cases inside with
          | halted => exact .halted
          | answers peg => exact .answers (.rule bound peg)

theorem followsPeg_parses (unionFree : rules.UnionFree) {expr : Expr}
    (exprUnionFree : expr.UnionFree) (fuel : Nat) (input : List Char) :
    rules.FollowsPeg expr input (rules.parses fuel expr input) :=
  followsPeg_parsesWith (followsPeg_call unionFree fuel) exprUnionFree input

/-!
## From the result to all runs with enough fuel
-/

namespace Yields

private theorem many_of_single {inner : Expr} {input rest : List Char} {head : Parse}
    {values : List Value} (found : rules.Yields inner input [head])
    (more : rules.Yields (.many inner) head.rest [⟨.list values, rest⟩]) :
    rules.Yields (.many inner) input [⟨.list (head.value :: values), rest⟩] := by
  obtain ⟨fuel, both⟩ := Filter.eventually_atTop.mp
    (found.eventually_parses.and more.eventually_parses)
  -- The round for the head takes one unit of fuel, but more fuel changes no later round.
  have headFound : rules.parses (fuel + 1) inner input = .single head :=
    (both (fuel + 1) (Nat.le_succ fuel)).1
  have moreFound : repetitionParses (rules.parses fuel inner) fuel [] head.rest =
      .ofList [⟨.list values, rest⟩] := (both fuel (Nat.le_refl fuel)).2
  have steps := rules.parses_approximates_self (Nat.le_succ fuel) inner
  have further := repetitionParses_approximates_self steps (Nat.le_refl fuel) [] head.rest
  rw [moreFound] at further
  have oneBranch := repetitionParses_eq_single_iff.mp further.eq_of_ofList
  refine @of_parses rules (fuel + 1) _ _ _ ?_
  rw [parses_many, repetitionParses_of_single headFound]
  exact repetitionParses_eq_single_iff.mpr oneBranch

private theorem many1_of_single {inner : Expr} {input rest : List Char} {head : Parse}
    {values : List Value} (found : rules.Yields inner input [head])
    (more : rules.Yields (.many inner) head.rest [⟨.list values, rest⟩]) :
    rules.Yields (.many1 inner) input [⟨.list (head.value :: values), rest⟩] := by
  obtain ⟨fuel, headFound, moreFound⟩ :=
    (found.eventually_parses.and more.eventually_parses).exists
  have oneBranch := (@repetitionParses_eq_single_iff (rules.parses fuel inner) fuel []
    head.rest values rest).mp moreFound
  refine @of_parses rules fuel _ _ _ ?_
  rw [parses_many1, headFound]
  exact (Enumeration.flatMap_single head _).trans (repetitionParses_eq_single_iff.mpr oneBranch)

end Yields

namespace PegResult

theorem yields {expr : Expr} {input : List Char} {result : Option Parse}
    (peg : rules.PegResult expr input result) : rules.Yields expr input result.toList := by
  induction peg with
  | literal => exact .literal
  | literalNone missing => exact .literalNone missing
  | regex found => exact .regex found
  | regexNone missing => exact .regexNone missing
  | oneOf member => exact .oneOf member
  | oneOfNone none => exact .oneOfNone none
  | noneOf absent => exact .noneOf absent
  | noneOfNone all => exact .noneOfNone all
  | @seq left right input first second _ _ leftIH rightIH =>
      let results (_ : List Char) : List Parse := second.toList
      have rights : ∀ parse ∈ [first], rules.Yields right parse.rest (results parse.rest) :=
        List.forall_mem_singleton.mpr rightIH
      have yielded := Yields.seq leftIH rights
      simpa [results, Option.toList_map] using yielded
  | seqNone _ ih =>
      let results (_ : List Char) : List Parse := []
      exact @Yields.seq rules _ _ _ [] results ih nofun
  | first _ _ failIH winnerIH => exact .first failIH winnerIH (List.cons_ne_nil _ _)
  | firstNone _ ih => exact .firstNone ih
  | manyMore _ _ headIH moreIH => exact headIH.many_of_single moreIH
  | @manyStop inner input _ ih =>
      let results (_ : List Char) : List Parse := []
      refine @Yields.many rules inner input results 0 (fun round le branch member => ?_)
        (List.cons_ne_nil _ _) rfl
      rw [Nat.le_zero.mp le] at member
      rw [List.mem_singleton.mp member]
      exact ih
  | many1 _ _ headIH moreIH => exact headIH.many1_of_single moreIH
  | @many1None inner input _ ih =>
      let results (_ : List Char) : List Parse := []
      exact @Yields.many1 rules inner input [] results (fun _ => 0) ih nofun nofun nofun
  | opt _ ih => exact .opt ih (List.cons_ne_nil _ _)
  | optNone _ ih => exact .optNone ih
  | @map inner transform input result _ ih =>
      rw [Option.toList_map]
      exact .map ih
  | @full inner input result _ ih =>
      rw [Option.toList_filter]
      exact .full ih
  | rule bound _ ih => exact .rule bound ih

theorem eventually_parses {expr : Expr} {input : List Char} {result : Option Parse}
    (peg : rules.PegResult expr input result) :
    ∀ᶠ fuel in Filter.atTop, rules.parses fuel expr input = .ofOption result := by
  filter_upwards [peg.yields.eventually_parses] with fuel ends
  rw [ends, Enumeration.ofOption_eq_ofList]

/-- Interpreting is a function, which need not be defined everywhere. -/
theorem unique {expr : Expr} {input : List Char} {result other : Option Parse}
    (peg : rules.PegResult expr input result) (again : rules.PegResult expr input other) :
    result = other := by
  obtain ⟨fuel, ends, endsAgain⟩ := (peg.eventually_parses.and again.eventually_parses).exists
  exact Enumeration.ofOption_injective (ends.symm.trans endsAgain)

end PegResult

end Rules

/-!
## Pulls
-/

/-- The answer to a pull that finds what may be the only item. -/
def Answer.ofOption {α : Type} : Option α → Answer α
  | some a => .item a
  | none => .exhausted

namespace Rules

variable {rules : Rules} {expr : Expr} {input : List Char} {fuel : Nat}

private theorem pull_of_parses {result : Option Parse}
    (ends : rules.parses fuel expr input = .ofOption result) :
    (rules.cursor fuel expr input).pull = (.ofOption result, .finished) := by
  rw [Cursor.pull, cursor, ends]
  cases result <;> rfl

namespace FollowsPeg

private theorem pegResult_of_pull
    (follows : rules.FollowsPeg expr input (rules.parses fuel expr input)) {result : Option Parse}
    (pulled : (rules.cursor fuel expr input).pull.1 = .ofOption result) :
    rules.PegResult expr input result := by
  generalize found : rules.parses fuel expr input = parses at follows
  cases follows with
  | halted =>
      rw [Cursor.pull, cursor, found] at pulled
      cases result <;> cases pulled
  | @answers other peg =>
      rw [pull_of_parses found] at pulled
      cases result <;> cases other <;> cases pulled <;> exact peg

private theorem exhausted_of_pull
    (follows : rules.FollowsPeg expr input (rules.parses fuel expr input))
    {parse : Parse} {next : Cursor Parse}
    (pulled : (rules.cursor fuel expr input).pull = (.item parse, next)) :
    next.pull.1 = .exhausted := by
  generalize found : rules.parses fuel expr input = parses at follows
  cases follows with
  | halted =>
      rw [Cursor.pull, cursor, found] at pulled
      cases pulled
  | answers =>
      rw [pull_of_parses found] at pulled
      obtain rfl := (Prod.mk.inj pulled).2
      rfl

private theorem length_pullUpTo_le
    (follows : rules.FollowsPeg expr input (rules.parses fuel expr input))
    (limit : Nat) : ((rules.cursor fuel expr input).pullUpTo limit).1.length ≤ 1 := by
  rw [Cursor.pullUpTo_eq_take, List.length_take]
  exact (Nat.min_le_right _ _).trans follows.length_toList_le

end FollowsPeg

/-- Without unions in the expression and in the rules there is at most one item. A pull answers, for
some fuel and likewise for all fuel that is enough, exactly if interpreting terminates, and with
what that comes to. After an item the next pull reports the end. -/
theorem unionFree_pulls_peg (unionFree : rules.UnionFree) {expr : Expr}
    (exprUnionFree : expr.UnionFree) (input : List Char) :
    (∀ fuel limit, ((rules.cursor fuel expr input).pullUpTo limit).1.length ≤ 1) ∧
    (∀ result, rules.PegResult expr input result ↔
      ∃ fuel, (rules.cursor fuel expr input).pull.1 = .ofOption result) ∧
    (∀ result, rules.PegResult expr input result ↔
      ∃ enough, ∀ fuel, enough ≤ fuel →
        (rules.cursor fuel expr input).pull.1 = .ofOption result) ∧
    ∀ fuel parse next, (rules.cursor fuel expr input).pull = (.item parse, next) →
      next.pull.1 = .exhausted := by
  have follows (fuel : Nat) := followsPeg_parses unionFree exprUnionFree fuel input
  have eventually {result : Option Parse} (peg : rules.PegResult expr input result) :
      ∃ enough, ∀ fuel, enough ≤ fuel →
        (rules.cursor fuel expr input).pull.1 = .ofOption result := by
    obtain ⟨enough, ends⟩ := Filter.eventually_atTop.mp peg.eventually_parses
    exact ⟨enough, fun fuel le => by rw [pull_of_parses (ends fuel le)]⟩
  refine ⟨fun fuel limit => (follows fuel).length_pullUpTo_le limit, fun result => ⟨?_, ?_⟩,
    fun result => ⟨eventually, ?_⟩, ?_⟩
  · intro peg
    obtain ⟨enough, pulled⟩ := eventually peg
    exact ⟨enough, pulled enough (Nat.le_refl enough)⟩
  · intro answered
    obtain ⟨fuel, pulled⟩ := answered
    exact (follows fuel).pegResult_of_pull pulled
  · intro answered
    obtain ⟨enough, pulled⟩ := answered
    exact (follows enough).pegResult_of_pull (pulled enough (Nat.le_refl enough))
  · intro fuel parse next pulled
    exact (follows fuel).exhausted_of_pull pulled

/-- Brackets inside each other, which need not be there. -/
def nested : Rules :=
  empty.define "nested" (.opt (.seq (.literal "(") (.seq (.rule "nested") (.literal ")"))))

def nestedThenMarks : Expr := .seq (.rule "nested") (.many (.literal "!"))

private theorem unionFree_nested : nested.UnionFree := by
  intro name definition bound
  obtain ⟨_, rfl⟩ := get?_define_empty_eq_some_iff.mp bound
  intro alternatives inside
  simp [Expr.part_iff_of_ne, Expr.children] at inside

theorem unionFree_pulls_peg_nested :
    nestedThenMarks.UnionFree ∧
    nested.PegResult nestedThenMarks "()!!?".toList
      (some ⟨.pair (.list [.pair (.text "(") (.pair (.list []) (.text ")"))])
        (.list [.text "!", .text "!"]), ['?']⟩) := by
  have marksUnionFree : nestedThenMarks.UnionFree := by
    intro alternatives inside
    simp [nestedThenMarks, Expr.part_iff_of_ne, Expr.children] at inside
  refine ⟨marksUnionFree, ?_⟩
  exact ((unionFree_pulls_peg unionFree_nested marksUnionFree "()!!?".toList).2.1 _).mpr
    ⟨4, rfl⟩

end Rules

end LazyGrammar
