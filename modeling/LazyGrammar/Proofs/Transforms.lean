import LazyGrammar.Proofs.Definitions
import LazyGrammar.Proofs.Ending
import LazyGrammar.Proofs.References

/-!
# Transforms and control

How a search goes on depends on how many results there were and on what they left
of the input, and never on their values. So the remainders of an expression are
those of the same expression without its transforms, pull by pull and also where
there is no answer; and expressions that differ in transforms only cannot be told
apart by them.
-/

set_option autoImplicit false

namespace LazyGrammar

namespace Enumeration

variable {α β γ δ : Type}

private theorem map_ofExcept (f : α → β) (result : Except Halt (List α)) :
    (ofExcept result).map f = ofExcept (result.map (List.map f)) := by
  cases result with
  | ok items => exact map_ofList f items
  | error why => rfl

/-- What is observed alike ends, goes on or halts alike. -/
private theorem map_eq_map_cases {observe : α → γ} {source twin : Enumeration α}
    (same : source.map observe = twin.map observe) :
    (source = .done ∧ twin = .done) ∨
      (∃ a tail b other, source = .item a tail ∧ twin = .item b other ∧ observe a = observe b ∧
        (tail ()).map observe = (other ()).map observe) ∨
      ∃ why, source = .halted why ∧ twin = .halted why := by
  cases source with
  | done => exact .inl ⟨rfl, map_eq_done_iff.mp same.symm⟩
  | item a tail =>
      cases twin with
      | item b other =>
          obtain ⟨head, rest⟩ := item.inj same
          exact .inr (.inl ⟨a, tail, b, other, rfl, rfl, head, congrFun rest ()⟩)
      | done | halted => cases same
  | halted why =>
      cases twin with
      | halted reason => exact .inr (.inr ⟨why, rfl, congrArg halted (halted.inj same).symm⟩)
      | done | item => cases same

/-- Results are observed alike if the items are and what is observed of an item decides what is
observed of its results. -/
private theorem map_flatMap_congr {observe : α → γ} {onResults : β → δ}
    {source twin : Enumeration α}
    {f g : α → Enumeration β} (sources : source.map observe = twin.map observe)
    (results : ∀ a b, observe a = observe b → (f a).map onResults = (g b).map onResults) :
    (source.flatMap f).map onResults = (twin.flatMap g).map onResults := by
  induction source generalizing twin with
  | done =>
      rw [map_eq_done_iff.mp sources.symm]
      rfl
  | item a tail ih =>
      obtain ⟨ended, _⟩ | ⟨_, _, b, other, found, rfl, head, rest⟩ | ⟨_, halts, _⟩ :=
        map_eq_map_cases sources
      · cases ended
      · cases found
        rw [flatMap, flatMap, map_append, map_append, results a b head]
        exact congrArg _ (funext fun u => ih u rest)
      · cases halts
  | halted why =>
      obtain ⟨ended, _⟩ | ⟨_, _, _, _, found, _⟩ | ⟨_, halts, rfl⟩ := map_eq_map_cases sources
      · cases ended
      · cases found
      · cases halts
        rfl

end Enumeration

/-!
## Repetitions
-/

section Repetition

variable {step other : List Char → Enumeration Parse}

private theorem map_rest_expand
    (steps : ∀ input, (step input).map Parse.rest = (other input).map Parse.rest)
    {frontier twins : List Branch} (same : frontier.map Branch.rest = twins.map Branch.rest) :
    (expand step frontier).map Branch.rest = (expand other twins).map Branch.rest := by
  have branches : (Enumeration.ofList frontier).map Branch.rest =
      (Enumeration.ofList twins).map Branch.rest := by
    rw [Enumeration.map_ofList, Enumeration.map_ofList, same]
  refine Enumeration.map_flatMap_congr branches fun branch twin rests => ?_
  rw [Enumeration.map_map, Enumeration.map_map, rests]
  exact steps twin.rest

/-- The loop goes on as long as there is a branch, whatever values stand in it. -/
private theorem lastFrontier_rests
    (steps : ∀ input, (step input).map Parse.rest = (other input).map Parse.rest)
    {frontier twins : List Branch} (same : frontier.map Branch.rest = twins.map Branch.rest)
    (rounds : Nat) :
    (lastFrontier step rounds frontier).map (List.map Branch.rest) =
      (lastFrontier other rounds twins).map (List.map Branch.rest) := by
  induction rounds generalizing frontier twins with
  | zero => rfl
  | succ rounds ih =>
      have expanded : (expand step frontier).collect.map (List.map Branch.rest) =
          (expand other twins).collect.map (List.map Branch.rest) := by
        rw [← Enumeration.collect_map, ← Enumeration.collect_map, map_rest_expand steps same]
      rw [lastFrontier, lastFrontier]
      cases first : (expand step frontier).collect with
      | error why =>
          cases second : (expand other twins).collect with
          | error reason =>
              rw [first, second] at expanded
              cases expanded
              rfl
          | ok others =>
              rw [first, second] at expanded
              cases expanded
      | ok next =>
          cases second : (expand other twins).collect with
          | error reason =>
              rw [first, second] at expanded
              cases expanded
          | ok others =>
              rw [first, second] at expanded
              have rests : next.map Branch.rest = others.map Branch.rest :=
                Except.ok.inj expanded
              cases next with
              | nil =>
                  rw [List.map_eq_nil_iff.mp rests.symm]
                  exact congrArg Except.ok same
              | cons branch rest =>
                  cases others with
                  | nil => cases rests
                  | cons twin twinRest => exact ih rests

private theorem repetitionParses_rests
    (steps : ∀ input, (step input).map Parse.rest = (other input).map Parse.rest) (rounds : Nat)
    (before twinBefore : List Value) (input : List Char) :
    (repetitionParses step rounds before input).map Parse.rest =
      (repetitionParses other rounds twinBefore input).map Parse.rest := by
  rw [repetitionParses, repetitionParses, Enumeration.map_map, Enumeration.map_map]
  change (Enumeration.ofExcept _).map Branch.rest = (Enumeration.ofExcept _).map Branch.rest
  rw [Enumeration.map_ofExcept, Enumeration.map_ofExcept, lastFrontier_rests steps rfl]

end Repetition

/-!
## Expressions
-/

namespace Expr

mutual

def withoutTransforms : Expr → Expr
  | .literal text => .literal text
  | .regex pattern => .regex pattern
  | .oneOf set => .oneOf set
  | .noneOf set => .noneOf set
  | .seq left right => .seq left.withoutTransforms right.withoutTransforms
  | .union alternatives => .union (allWithoutTransforms alternatives)
  | .first alternatives => .first (allWithoutTransforms alternatives)
  | .many inner => .many inner.withoutTransforms
  | .many1 inner => .many1 inner.withoutTransforms
  | .opt inner => .opt inner.withoutTransforms
  | .map inner _ => .map inner.withoutTransforms fun value => value
  | .full inner => .full inner.withoutTransforms
  | .rule name => .rule name

def allWithoutTransforms : List Expr → List Expr
  | [] => []
  | expr :: rest => expr.withoutTransforms :: allWithoutTransforms rest

end

theorem allWithoutTransforms_eq_map (exprs : List Expr) :
    allWithoutTransforms exprs = exprs.map withoutTransforms := by
  induction exprs with
  | nil => rfl
  | cons expr rest ih => rw [allWithoutTransforms, List.map_cons, ih]

theorem mentions_withoutTransforms {expr : Expr} {name : String} :
    expr.withoutTransforms.Mentions name ↔ expr.Mentions name := by
  induction expr with
  | literal | regex | oneOf | noneOf | rule => rw [withoutTransforms]
  | seq left right leftIH rightIH =>
      simp [withoutTransforms, mentions_iff_of_ne_rule, children, leftIH, rightIH]
  | union alternatives ih | first alternatives ih =>
      simp only [withoutTransforms, allWithoutTransforms_eq_map, ne_eq, reduceCtorEq,
        not_false_eq_true, mentions_iff_of_ne_rule, children, List.mem_map,
        exists_exists_and_eq_and]
      exact exists_congr fun alternative => and_congr_right (ih alternative)
  | many inner ih | many1 inner ih | opt inner ih | map inner transform ih | full inner ih =>
      simp [withoutTransforms, mentions_iff_of_ne_rule, children, ih]

variable {rounds : Nat} {call other : String → List Char → Enumeration Parse}

private theorem firstParses_rests {alternatives : List Expr} {input : List Char}
    (each : ∀ alternative ∈ alternatives,
      (alternative.parsesWith rounds call input).map Parse.rest =
        (alternative.withoutTransforms.parsesWith rounds other input).map Parse.rest) :
    (firstParses rounds call alternatives input).map Parse.rest =
      (firstParses rounds other (alternatives.map withoutTransforms) input).map Parse.rest := by
  induction alternatives with
  | nil => simp only [List.map_nil, firstParses]
  | cons alternative rest ih =>
      obtain ⟨head, tail⟩ := List.forall_mem_cons.mp each
      rw [List.map_cons]
      by_cases failed : alternative.parsesWith rounds call input = .done
      · have twinFailed := failed
        rw [← Enumeration.map_eq_done_iff (f := Parse.rest), head, Enumeration.map_eq_done_iff]
          at twinFailed
        simp only [firstParses, failed, twinFailed]
        exact ih tail
      · have twinFound := failed
        rw [← Enumeration.map_eq_done_iff (f := Parse.rest), head, Enumeration.map_eq_done_iff]
          at twinFound
        rw [firstParses_cons_of_ne_done failed, firstParses_cons_of_ne_done twinFound, head]

private theorem parsesWith_rests
    (calls : ∀ name input, (call name input).map Parse.rest = (other name input).map Parse.rest)
    (expr : Expr) (input : List Char) :
    (expr.parsesWith rounds call input).map Parse.rest =
      (expr.withoutTransforms.parsesWith rounds other input).map Parse.rest := by
  induction expr generalizing input with
  | literal | regex | oneOf | noneOf => rw [withoutTransforms, parsesWith, parsesWith]
  | seq left right leftIH rightIH =>
      rw [withoutTransforms, parsesWith, parsesWith]
      refine Enumeration.map_flatMap_congr (leftIH input) fun first twin rests => ?_
      rw [Enumeration.map_map, Enumeration.map_map, rests]
      exact rightIH twin.rest
  | union alternatives ih =>
      rw [withoutTransforms, allWithoutTransforms_eq_map, parsesWith, parsesWith,
        unionParses_eq_flatMap, unionParses_eq_flatMap, ← Enumeration.map_ofList,
        Enumeration.flatMap_map, Enumeration.map_flatMap, Enumeration.map_flatMap]
      exact Enumeration.flatMap_ofList_congr fun alternative member => ih alternative member input
  | first alternatives ih =>
      rw [withoutTransforms, allWithoutTransforms_eq_map, parsesWith, parsesWith]
      exact firstParses_rests fun alternative member => ih alternative member input
  | many inner ih =>
      rw [withoutTransforms, parsesWith, parsesWith]
      exact repetitionParses_rests ih rounds [] [] input
  | many1 inner ih =>
      rw [withoutTransforms, parsesWith, parsesWith]
      refine Enumeration.map_flatMap_congr (ih input) fun head twin rests => ?_
      rw [rests]
      exact repetitionParses_rests ih rounds [head.value] [twin.value] twin.rest
  | opt inner ih =>
      have inside := ih input
      rw [withoutTransforms, parsesWith, parsesWith]
      generalize inner.parsesWith rounds call input = found at inside
      generalize inner.withoutTransforms.parsesWith rounds other input = twin at inside
      obtain ⟨rfl, rfl⟩ | ⟨_, _, _, _, rfl, rfl, _⟩ | ⟨why, rfl, rfl⟩ :=
        Enumeration.map_eq_map_cases inside
      · rfl
      · dsimp only
        rw [Enumeration.map_map, Enumeration.map_map]
        exact inside
      · rfl
  | map inner transform ih =>
      rw [withoutTransforms, parsesWith, parsesWith, Enumeration.map_map, Enumeration.map_map]
      exact ih input
  | full inner ih =>
      rw [withoutTransforms, parsesWith, parsesWith, ← Enumeration.filter_map Parse.rest,
        ← Enumeration.filter_map Parse.rest, ih]
  | rule name =>
      rw [withoutTransforms, parsesWith, parsesWith]
      exact calls name input

end Expr

namespace Rules

def withoutTransforms (rules : Rules) : Rules :=
  rules.mapDefinitions fun _ definition => definition.withoutTransforms

private theorem call_rests (rules : Rules) (fuel : Nat) (name : String) (input : List Char) :
    (rules.call fuel name input).map Parse.rest =
      (rules.withoutTransforms.call fuel name input).map Parse.rest := by
  induction fuel generalizing name input with
  | zero => rfl
  | succ fuel ih =>
      rw [call, call, withoutTransforms, get?_mapDefinitions]
      cases rules.get? name with
      | none => rfl
      | some definition => exact Expr.parsesWith_rests ih definition input

/-- The remainders are those without transforms, as far as there are any. -/
theorem parses_rests (rules : Rules) (fuel : Nat) (expr : Expr) (input : List Char) :
    (rules.parses fuel expr input).map Parse.rest =
      (rules.withoutTransforms.parses fuel expr.withoutTransforms input).map Parse.rest :=
  Expr.parsesWith_rests (rules.call_rests fuel) expr input

end Rules

/-!
## Pulls
-/

namespace Cursor

/-- However often both are pulled, they find remainders that are equal one by one, and then stop
for the same reason: at the end, or because there is no answer. -/
def InStep (cursor other : Cursor Parse) : Prop :=
  ∀ limit, (cursor.pullUpTo limit).1.map Parse.rest = (other.pullUpTo limit).1.map Parse.rest ∧
    (cursor.pullUpTo limit).2 = (other.pullUpTo limit).2

/-- Both are opened and stay in step, or both are refused for the same reason. -/
inductive OpenInStep :
    Except GrammarError (Cursor Parse) → Except GrammarError (Cursor Parse) → Prop where
  | opened {cursor other : Cursor Parse} :
      cursor.InStep other → OpenInStep (.ok cursor) (.ok other)
  | refused {error : GrammarError} : OpenInStep (.error error) (.error error)

private theorem inStep_of_rests {cursor other : Cursor Parse}
    (same : (cursor.resume ()).map Parse.rest = (other.resume ()).map Parse.rest) :
    cursor.InStep other := by
  intro limit
  induction limit generalizing cursor other with
  | zero => exact ⟨rfl, rfl⟩
  | succ limit ih =>
      rw [pullUpTo, pullUpTo, pull, pull]
      generalize cursor.resume () = found at same
      generalize other.resume () = twin at same
      obtain ⟨rfl, rfl⟩ | ⟨_, tail, _, other, rfl, rfl, head, rest⟩ | ⟨why, rfl, rfl⟩ :=
        Enumeration.map_eq_map_cases same
      · exact ⟨rfl, rfl⟩
      · obtain ⟨items, stop⟩ := @ih ⟨tail⟩ ⟨other⟩ rest
        exact ⟨congrArg₂ List.cons head items, stop⟩
      · exact ⟨rfl, rfl⟩

end Cursor

theorem Rules.cursor_inStep {rules other : Rules}
    (alike : rules.withoutTransforms = other.withoutTransforms) {expr twin : Expr}
    (same : expr.withoutTransforms = twin.withoutTransforms) (fuel : Nat) (input : List Char) :
    (rules.cursor fuel expr input).InStep (other.cursor fuel twin input) := by
  refine Cursor.inStep_of_rests ?_
  change (rules.parses fuel expr input).map Parse.rest =
    (other.parses fuel twin input).map Parse.rest
  rw [rules.parses_rests, other.parses_rests, alike, same]

theorem Expr.parse_openInStep {expr twin : Expr}
    (same : expr.withoutTransforms = twin.withoutTransforms) (fuel : Nat) (input : String) :
    Cursor.OpenInStep (expr.parse fuel input) (twin.parse fuel input) := by
  have mentions (name : String) : expr.Mentions name ↔ twin.Mentions name := by
    rw [← mentions_withoutTransforms, same, mentions_withoutTransforms]
  cases opened : expr.parse fuel input with
  | ok cursor =>
      obtain ⟨rfl, mentionsNone⟩ := parse_eq_ok_iff.mp opened
      simp only [mentions] at mentionsNone
      rw [parse_eq_ok_iff.mpr ⟨rfl, mentionsNone⟩]
      exact .opened (Rules.cursor_inStep rfl same fuel input.toList)
  | error error =>
      have refused := parse_eq_error_iff.mp opened
      simp only [mentions] at refused
      rw [parse_eq_error_iff.mpr refused]
      exact .refused

namespace Grammar

def withoutTransforms (grammar : Grammar) : Grammar where
  rules := grammar.rules.withoutTransforms
  start := grammar.start.withoutTransforms

theorem parseRule_openInStep {grammar other : Grammar}
    (alike : grammar.rules.withoutTransforms = other.rules.withoutTransforms) (fuel : Nat)
    (name input : String) :
    Cursor.OpenInStep (grammar.parseRule fuel name input) (other.parseRule fuel name input) := by
  have definitions := congrArg (Rules.get? · name) alike
  simp only [Rules.withoutTransforms, Rules.get?_mapDefinitions] at definitions
  rw [parseRule, parseRule]
  generalize grammar.rules.get? name = found at definitions
  generalize other.rules.get? name = twin at definitions
  cases found with
  | none =>
      rw [Option.map_eq_none_iff.mp definitions.symm]
      exact .refused
  | some definition =>
      cases twin with
      | none => cases definitions
      | some twinDefinition =>
          exact .opened (Rules.cursor_inStep alike (Option.some.inj definitions) fuel input.toList)

/-- Grammars that differ in their transforms only stay in step, whatever they parse and from
wherever: for any fuel, a pull answers in both or in none, finds an item in both or the end in both,
and leaves the same. So do expressions that are parsed with their rules or by themselves. -/
theorem control_independent_of_transforms {grammar other : Grammar}
    (alike : grammar.withoutTransforms = other.withoutTransforms) (fuel : Nat) (input : String) :
    (grammar.parse fuel input).InStep (other.parse fuel input) ∧
    (∀ name, Cursor.OpenInStep (grammar.parseRule fuel name input)
      (other.parseRule fuel name input)) ∧
    ∀ expr twin : Expr, expr.withoutTransforms = twin.withoutTransforms →
      (grammar.rules.cursor fuel expr input.toList).InStep
        (other.rules.cursor fuel twin input.toList) ∧
      Cursor.OpenInStep (expr.parse fuel input) (twin.parse fuel input) := by
  obtain ⟨rules, start⟩ := Grammar.mk.inj alike
  refine ⟨Rules.cursor_inStep rules start fuel input.toList,
    fun name => parseRule_openInStep rules fuel name input, fun expr twin same => ⟨?_, ?_⟩⟩
  · exact Rules.cursor_inStep rules same fuel input.toList
  · exact Expr.parse_openInStep same fuel input

/-- A repetition of something ambiguous, after a complete match that is tried first. -/
def repeated (transform : Value → Value) : Grammar where
  rules := Rules.empty.define "item" (.map (.union [.literal "a", .literal "aa"]) transform)
  start := .first [.full (.rule "item"), .many (.rule "item")]

theorem control_independent_of_transforms_repeated :
    (repeated Value.consList).withoutTransforms =
      (repeated fun _ => .int 0).withoutTransforms ∧
    (((repeated fun _ => .int 0).parse 3 "aab").pullUpTo 2).1.map Parse.rest = [['b']] ∧
    (((repeated Value.consList).parse 3 "aab").pullUpTo 2).1.map Parse.rest = [['b']] := by
  have alike : (repeated Value.consList).withoutTransforms =
      (repeated fun _ => .int 0).withoutTransforms := rfl
  have rests : (((repeated fun _ => .int 0).parse 3 "aab").pullUpTo 2).1.map Parse.rest =
      [['b']] := by decide
  exact ⟨alike, rests,
    ((control_independent_of_transforms alike 3 "aab").1 2).1.trans rests⟩

end Grammar

end LazyGrammar
