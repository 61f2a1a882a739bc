import LazyGrammar.Proofs.Ending
import LazyGrammar.Proofs.Incremental
import LazyGrammar.Proofs.Trees
import Mathlib.Data.List.Flatten

/-!
# Further alternatives

Without cuts, nothing that is found depends on something else not being found. So a
further alternative of a rule, wherever it may take effect, only puts results between
those that there are, which keep their order.
-/

set_option autoImplicit false

namespace LazyGrammar

namespace Enumeration

variable {α β : Type}

/-- If the second ends then so does the first, and its items are among those of the second, in the
same order. -/
def EndsWithin (source other : Enumeration α) : Prop :=
  ∀ items, other = .ofList items → ∃ fewer, source = .ofList fewer ∧ fewer.Sublist items

namespace EndsWithin

theorem refl (source : Enumeration α) : source.EndsWithin source :=
  fun items ends => ⟨items, ends, .refl items⟩

theorem trans {first second third : Enumeration α} (inner : first.EndsWithin second)
    (outer : second.EndsWithin third) : first.EndsWithin third := by
  intro items ends
  obtain ⟨fewer, secondEnds, sublist⟩ := outer items ends
  obtain ⟨fewest, firstEnds, subsublist⟩ := inner fewer secondEnds
  exact ⟨fewest, firstEnds, subsublist.trans sublist⟩

theorem ofList {fewer items : List α} (sublist : fewer.Sublist items) :
    (Enumeration.ofList fewer).EndsWithin (.ofList items) := by
  intro list ends
  obtain rfl := ofList_injective ends
  exact ⟨fewer, rfl, sublist⟩

theorem map {source other : Enumeration α} (within : source.EndsWithin other) (f : α → β) :
    (source.map f).EndsWithin (other.map f) := by
  intro items ends
  obtain ⟨list, otherEnds, rfl⟩ := map_eq_ofList_iff.mp ends
  obtain ⟨fewer, rfl, sublist⟩ := within list otherEnds
  exact ⟨fewer.map f, map_ofList f fewer, sublist.map f⟩

theorem filter {source other : Enumeration α} (within : source.EndsWithin other)
    (test : α → Bool) : (source.filter test).EndsWithin (other.filter test) := by
  intro items ends
  obtain ⟨list, otherEnds, rfl⟩ := filter_eq_ofList_iff.mp ends
  obtain ⟨fewer, rfl, sublist⟩ := within list otherEnds
  exact ⟨fewer.filter test, filter_ofList test fewer, sublist.filter test⟩

theorem flatMap {source other : Enumeration α} {f g : α → Enumeration β}
    (within : source.EndsWithin other) (results : ∀ a ∈ source.toList, (f a).EndsWithin (g a)) :
    (source.flatMap f).EndsWithin (other.flatMap g) := by
  intro items ends
  obtain ⟨list, otherEnds, partsEnd, rfl⟩ := flatMap_eq_ofList_iff.mp ends
  obtain ⟨fewer, rfl, sublist⟩ := within list otherEnds
  rw [toList_ofList] at results
  have parts : ∀ a ∈ fewer, f a = .ofList (f a).toList ∧ (f a).toList.Sublist (g a).toList := by
    intro a member
    obtain ⟨part, partEnds, within⟩ := results a member _ (partsEnd a (sublist.subset member))
    rw [partEnds, toList_ofList]
    exact ⟨rfl, within⟩
  refine ⟨_, flatMap_ofList fun a member => (parts a member).1, ?_⟩
  exact (List.Sublist.flatMap_right fewer fun a member => (parts a member).2).trans
    (sublist.flatMap _)

end EndsWithin

end Enumeration

/-!
## Expressions
-/

/-- What an expression without cuts ends with grows with what the rules that it mentions do. -/
theorem Expr.CutFree.endsWithin {rounds : Nat}
    {call other : String → List Char → Enumeration Parse} {expr : Expr} (cutFree : expr.CutFree)
    (calls : ∀ name, expr.Mentions name → ∀ input,
      (call name input).EndsWithin (other name input)) (input : List Char) :
    (expr.parsesWith rounds call input).EndsWithin (expr.parsesWith rounds other input) := by
  induction cutFree generalizing input with
  | literal | regex | oneOf | noneOf =>
      rw [parsesWith, parsesWith]
      exact .refl _
  | seq _ _ leftIH rightIH =>
      have leftWithin := leftIH (forall_mentions_child (by simp [children]) calls)
      have rightWithin := rightIH (forall_mentions_child (by simp [children]) calls)
      rw [parsesWith, parsesWith]
      exact (leftWithin input).flatMap fun first _ => (rightWithin first.rest).map _
  | @union alternatives _ ih =>
      rw [parsesWith, parsesWith, unionParses_eq_flatMap, unionParses_eq_flatMap]
      refine (Enumeration.EndsWithin.refl _).flatMap fun alternative member => ?_
      rw [Enumeration.toList_ofList] at member
      have isChild : alternative ∈ (Expr.union alternatives).children := member
      exact ih alternative member (forall_mentions_child isChild calls) input
  | map _ ih =>
      rw [parsesWith, parsesWith]
      exact (ih (forall_mentions_child List.mem_cons_self calls) input).map _
  | full _ ih =>
      rw [parsesWith, parsesWith]
      exact (ih (forall_mentions_child List.mem_cons_self calls) input).filter _
  | rule =>
      rw [parsesWith, parsesWith]
      exact calls _ (mentions_rule.mpr rfl) input

private theorem Expr.mentions_foldl_withAlternative {expr : Expr} {others : List Expr}
    {name : String} : (others.foldl withAlternative expr).Mentions name ↔
      ∃ alternative ∈ expr :: others, alternative.Mentions name := by
  induction others generalizing expr with
  | nil => simp
  | cons next rest ih =>
      have extended : (expr.withAlternative next).Mentions name ↔
          expr.Mentions name ∨ next.Mentions name := by
        obtain ⟨alternatives, rfl, extended⟩ | paired := withAlternative_cases expr next
        · simp [extended, mentions_iff_of_ne_rule, children, or_and_right, exists_or]
        · simp [paired, mentions_iff_of_ne_rule, children]
      rw [List.foldl_cons, ih]
      simp [extended, or_assoc]

namespace Rules

variable {rules other : Rules} {name : String} {extra : Expr}

private theorem merged_eq_merged_none (bound : Option Expr) (exprs : List Expr) :
    merged bound exprs = merged none (bound.toList ++ exprs) := by
  cases bound <;> rfl

/-- Every name is bound to the same expressions in the same order, with occurrences of one
expression between them or behind them. -/
def ExtendedBy (rules other : Rules) (extra : Expr) : Prop :=
  ∀ name, ∃ exprs more, rules.get? name = merged none exprs ∧
    other.get? name = merged none more ∧ exprs.Sublist more ∧
      ∀ expr ∈ more, expr ∈ exprs ∨ expr = extra

theorem extendedBy_define_between (base : Rules) (before after : List (String × Expr)) :
    (base.defineAll (before ++ after)).ExtendedBy
      (base.defineAll (before ++ (name, extra) :: after)) extra := by
  intro bound
  refine ⟨_, _, get?_defineAll.trans (merged_eq_merged_none _ _),
    get?_defineAll.trans (merged_eq_merged_none _ _), ?_, ?_⟩
  · have calls : (before ++ after).Sublist (before ++ (name, extra) :: after) :=
      (List.Sublist.refl before).append (List.sublist_cons_self _ _)
    exact (List.Sublist.refl _).append ((calls.filter _).map Prod.snd)
  · intro expr member
    simp only [definedBy, List.mem_append, List.mem_map, List.mem_filter, List.mem_cons] at member ⊢
    rcases member with before | ⟨call, ⟨inBefore | rfl | inAfter, same⟩, rfl⟩
    · exact .inl (.inl before)
    · exact .inl (.inr ⟨call, ⟨.inl inBefore, same⟩, rfl⟩)
    · exact .inr rfl
    · exact .inl (.inr ⟨call, ⟨.inr inAfter, same⟩, rfl⟩)

namespace ExtendedBy

variable {definition : Expr}

/-- Where the rules have a definition, so have the extended ones, and if all that the latter yields
ends then so does what the former yields, provided that both call the same. -/
private theorem widens (extended : rules.ExtendedBy other extra)
    (bound : rules.get? name = some definition) :
    ∃ wider, other.get? name = some wider ∧ ∀ rounds call input,
      (definition.parsesWith rounds call input).EndsWithin
        (wider.parsesWith rounds call input) := by
  obtain ⟨exprs, more, here, there, sublist, _⟩ := extended name
  cases exprs with
  | nil => cases bound.symm.trans here
  | cons first rest =>
      obtain rfl := Option.some.inj (bound.symm.trans here)
      cases more with
      | nil => cases sublist
      | cons firstMore restMore =>
          refine ⟨_, there, fun rounds call input => ?_⟩
          rw [Expr.parsesWith_foldl_withAlternative, Expr.parsesWith_foldl_withAlternative]
          exact (Enumeration.EndsWithin.ofList sublist).flatMap fun _ _ => .refl _

private theorem contains (extended : rules.ExtendedBy other extra)
    (bound : rules.contains name = true) : other.contains name = true := by
  obtain ⟨definition, found⟩ := Option.isSome_iff_exists.mp bound
  obtain ⟨wider, foundMore, _⟩ := extended.widens found
  exact Option.isSome_iff_exists.mpr ⟨wider, foundMore⟩

private theorem complete {start : Expr} (extended : rules.ExtendedBy other extra)
    (complete : rules.Complete start) (resolves : other.Resolves extra) :
    other.Complete start where
  start inner mentioned := extended.contains (complete.start inner mentioned)
  definition name wider bound := by
    intro inner mentioned
    obtain ⟨exprs, more, here, there, sublist, fromEither⟩ := extended name
    cases more with
    | nil => cases bound.symm.trans there
    | cons firstMore restMore =>
        obtain rfl := Option.some.inj (bound.symm.trans there)
        obtain ⟨expr, member, mentionedHere⟩ := Expr.mentions_foldl_withAlternative.mp mentioned
        rcases fromEither expr member with old | rfl
        · cases exprs with
          | nil => cases old
          | cons first rest =>
              refine extended.contains (complete.definition name _ here inner ?_)
              exact Expr.mentions_foldl_withAlternative.mpr ⟨expr, old, mentionedHere⟩
        · exact resolves inner mentionedHere

/-- Only bound names are called, since an unbound one may be bound by the extension. -/
private theorem call {start : Expr} (extended : rules.ExtendedBy other extra)
    (complete : rules.Complete start) (cutFree : rules.CutFree) (fuel : Nat)
    (bound : rules.contains name = true) (input : List Char) :
    (rules.call fuel name input).EndsWithin (other.call fuel name input) := by
  induction fuel generalizing name input with
  | zero => exact .refl _
  | succ fuel ih =>
      obtain ⟨definition, found⟩ := Option.isSome_iff_exists.mp bound
      obtain ⟨wider, foundMore, within⟩ := extended.widens found
      rw [Rules.call, Rules.call, found, foundMore]
      refine .trans ?_ (within fuel (other.call fuel) input)
      refine (cutFree name definition found).endsWithin (fun inner mentioned => ?_) input
      exact ih (complete.definition name definition found inner mentioned)

private theorem parses {start expr : Expr} (extended : rules.ExtendedBy other extra)
    (complete : rules.Complete start) (cutFree : rules.CutFree) (exprCutFree : expr.CutFree)
    (resolves : rules.Resolves expr) (fuel : Nat) (input : List Char) :
    (rules.parses fuel expr input).EndsWithin (other.parses fuel expr input) :=
  exprCutFree.endsWithin
    (fun inner mentioned => extended.call complete cutFree fuel (resolves inner mentioned)) input

end ExtendedBy

end Rules

namespace Cursor

variable {α : Type}

private theorem runsOut_of_endsWithin {cursor other : Cursor α}
    (within : (cursor.resume ()).EndsWithin (other.resume ())) {items : List α}
    (runsOut : other.RunsOut items) : ∃ fewer, cursor.RunsOut fewer ∧ fewer.Sublist items := by
  obtain ⟨fewer, ends, sublist⟩ := within items (runsOut_iff.mp runsOut)
  exact ⟨fewer, runsOut_iff.mpr ends, sublist⟩

end Cursor

namespace Grammar

/-- A grammar without cuts is put together once more with a further definition, of any name and
wherever it stands between the others. This is again a grammar, and where parsing runs out with it,
from the start expression or from a rule, parsing without the further definition runs out as well
and finds a part of the same results in the same order. The further definition itself may well have
cuts. -/
theorem further_alternative_loses_nothing
    {assemble assembleMore : Rules → Except GrammarError (Rules × Expr)} {grammar : Grammar}
    {base : Rules} {before after : List (String × Expr)} {name : String} {start extra : Expr}
    (assembled : assemble .empty = .ok (base.defineAll (before ++ after), start))
    (assembledMore :
      assembleMore .empty = .ok (base.defineAll (before ++ (name, extra) :: after), start))
    (built : build assemble = .ok grammar) (startCutFree : grammar.start.CutFree)
    (rulesCutFree : grammar.rules.CutFree)
    (resolves : (base.defineAll (before ++ (name, extra) :: after)).Resolves extra)
    (fuel : Nat) (input : String) :
    ∃ other, build assembleMore = .ok other ∧
      (∀ items, (other.parse fuel input).RunsOut items →
        ∃ fewer, (grammar.parse fuel input).RunsOut fewer ∧ fewer.Sublist items) ∧
      ∀ rule definition, grammar.rules.get? rule = some definition →
        ∃ cursor otherCursor, grammar.parseRule fuel rule input = .ok cursor ∧
          other.parseRule fuel rule input = .ok otherCursor ∧
          ∀ items, otherCursor.RunsOut items →
            ∃ fewer, cursor.RunsOut fewer ∧ fewer.Sublist items := by
  simp only [build, assembled, freeze_eq_ok_iff] at built
  obtain ⟨rfl, complete⟩ := built
  have extended := @Rules.extendedBy_define_between name extra base before after
  have completeMore := extended.complete complete resolves
  refine ⟨⟨base.defineAll (before ++ (name, extra) :: after), start⟩, ?_, fun items => ?_,
    fun rule definition bound => ?_⟩
  · simp only [build, assembledMore, freeze_eq_ok_iff]
    exact ⟨trivial, completeMore⟩
  · exact Cursor.runsOut_of_endsWithin
      (extended.parses complete rulesCutFree startCutFree complete.start fuel input.toList)
  · obtain ⟨wider, boundMore, within⟩ := extended.widens bound
    refine ⟨_, _, parseRule_eq_ok bound fuel input, parseRule_eq_ok boundMore fuel input, ?_⟩
    intro items
    have narrow := extended.parses complete rulesCutFree (rulesCutFree rule definition bound)
      (complete.definition rule definition bound) fuel input.toList
    exact Cursor.runsOut_of_endsWithin (narrow.trans (within _ _ _))

/-- A character in any number of brackets. -/
def nested : Grammar where
  rules := Rules.empty.defineAll [("nested", .literal "x"),
    ("nested", .seq (.literal "(") (.seq (.rule "nested") (.literal ")")))]
  start := .full (.rule "nested")

private theorem bindings_nested : nested.rules.bindings = [("nested", .union [.literal "x",
    .seq (.literal "(") (.seq (.rule "nested") (.literal ")"))])] := rfl

private theorem freeze_nested : freeze nested.rules nested.start = .ok nested := by
  apply freeze_of_single_rule bindings_nested
  · simp [nested, Expr.mentions_iff_of_ne_rule, Expr.children]
  · simp [Expr.mentions_iff_of_ne_rule, Expr.children]

private theorem cutFree_nested : nested.rules.CutFree := by
  intro name definition found
  rw [Rules.get?_eq_some_iff, bindings_nested, List.mem_singleton] at found
  cases found
  refine .union fun alternative member => ?_
  rcases List.mem_pair.mp member with rfl | rfl
  · exact .literal
  · exact .seq .literal (.seq .rule .literal)

/-- The further alternative is put between the two that there are, and takes effect where the rule
refers to itself. -/
theorem further_alternative_loses_nothing_nested :
    ∃ other fewer,
      build (fun _ => .ok (Rules.empty.defineAll [("nested", .literal "x"),
        ("nested", .seq (.literal "(") (.literal "x)")),
        ("nested", .seq (.literal "(") (.seq (.rule "nested") (.literal ")")))],
          nested.start)) = .ok other ∧
      (nested.parse 4 "((x))").RunsOut fewer ∧
      fewer.Sublist
        [⟨.pair (.text "(") (.pair (.pair (.text "(") (.text "x)")) (.text ")")), []⟩,
          ⟨.pair (.text "(") (.pair (.pair (.text "(") (.pair (.text "x") (.text ")")))
            (.text ")")), []⟩] := by
  have resolves : ∀ rules : Rules, rules.Resolves (.seq (.literal "(") (.literal "x)")) := by
    intro rules name mentioned
    simp [Expr.mentions_iff_of_ne_rule, Expr.children] at mentioned
  obtain ⟨other, built, keeps, _⟩ :=
    @further_alternative_loses_nothing (fun _ => .ok (nested.rules, nested.start))
      (fun _ => .ok (Rules.empty.defineAll ([("nested", .literal "x")] ++
        ("nested", .seq (.literal "(") (.literal "x)")) ::
          [("nested", .seq (.literal "(") (.seq (.rule "nested") (.literal ")")))]), nested.start))
      nested .empty _ _ _ _ _ rfl rfl freeze_nested (.full .rule) cutFree_nested (resolves _)
      4 "((x))"
  have runsOut : (other.parse 4 "((x))").RunsOut
      [⟨.pair (.text "(") (.pair (.pair (.text "(") (.text "x)")) (.text ")")), []⟩,
        ⟨.pair (.text "(") (.pair (.pair (.text "(") (.pair (.text "x") (.text ")")))
          (.text ")")), []⟩] := by
    obtain ⟨rfl, _⟩ := freeze_eq_ok_iff.mp built
    exact Cursor.runsOut_iff.mpr rfl
  obtain ⟨fewer, found, sublist⟩ := keeps _ runsOut
  exact ⟨other, fewer, built, found, sublist⟩

end Grammar

end LazyGrammar
