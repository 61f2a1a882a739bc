import LazyGrammar.Proofs.Agreement
import LazyGrammar.Proofs.Consumption

/-!
# Locality

Where no part of a grammar looks beyond what it matches, a parse depends on the text that
it uses up and on nothing behind it. Of the parses of a longer input, those that stop
before what was put behind are the parses of the shorter one, in the same order: nothing
that has reached further ever comes back.
-/

set_option autoImplicit false

namespace LazyGrammar

/-- Nothing but characters and fixed texts is matched, and no match is preferred, repeated or left
out. -/
inductive Expr.LookaheadFree : Expr → Prop where
  | literal {text : String} : LookaheadFree (.literal text)
  | oneOf {set : CharSet} : LookaheadFree (.oneOf set)
  | noneOf {set : CharSet} : LookaheadFree (.noneOf set)
  | seq {left right : Expr} : LookaheadFree left → LookaheadFree right →
      LookaheadFree (.seq left right)
  | union {alternatives : List Expr} :
      (∀ alternative ∈ alternatives, LookaheadFree alternative) →
      LookaheadFree (.union alternatives)
  | map {inner : Expr} {transform : Value → Value} :
      LookaheadFree inner → LookaheadFree (.map inner transform)
  | rule {name : String} : LookaheadFree (.rule name)

def Rules.LookaheadFree (rules : Rules) : Prop :=
  ∀ name definition, rules.get? name = some definition → definition.LookaheadFree

/-- Items of which the test refuses nothing but what leads nowhere. -/
private theorem flatMap_filter {α β : Type} {items : List α} {test : α → Bool} {f : α → List β}
    (refused : ∀ a ∈ items, test a = false → f a = []) :
    (items.filter test).flatMap f = items.flatMap f := by
  induction items with
  | nil => rfl
  | cons a rest ih =>
      obtain ⟨head, tail⟩ := List.forall_mem_cons.mp refused
      rw [List.flatMap_cons, ← ih tail]
      cases passed : test a with
      | true => rw [List.filter_cons_of_pos passed, List.flatMap_cons]
      | false => rw [List.filter_cons_of_neg (by simp [passed]), head passed, List.nil_append]

def Parse.before (more : List Char) (parse : Parse) : Parse := ⟨parse.value, parse.rest ++ more⟩

def Parse.Spares (more : List Char) (parse : Parse) : Bool := more.length ≤ parse.rest.length

/-- The others that leave at least as much as the text behind are the items, in order. -/
def AgreeBefore (more : List Char) (items others : List Parse) : Prop :=
  others.filter (Parse.Spares more) = items.map (Parse.before more)

namespace AgreeBefore

variable {more : List Char} {items others : List Parse}

private theorem nil : AgreeBefore more [] [] := rfl

private theorem nil_of_length_lt (further : ∀ other ∈ others, other.rest.length < more.length) :
    AgreeBefore more [] others := by
  refine List.filter_eq_nil_iff.mpr fun other member => ?_
  rw [Parse.Spares, decide_eq_true_eq]
  exact Nat.not_le_of_lt (further other member)

private theorem singleton (parse : Parse) : AgreeBefore more [parse] [parse.before more] := by
  simp [AgreeBefore, Parse.Spares, Parse.before]

private theorem map (agree : AgreeBefore more items others) (transform : Value → Value) :
    AgreeBefore more (items.map fun parse => ⟨transform parse.value, parse.rest⟩)
      (others.map fun parse => ⟨transform parse.value, parse.rest⟩) := by
  rw [AgreeBefore] at agree ⊢
  rw [List.filter_map]
  have same := congrArg (List.map fun parse => (⟨transform parse.value, parse.rest⟩ : Parse)) agree
  rw [List.map_map] at same ⊢
  exact same

private theorem flatMap {α : Type} {list : List α} {results otherResults : α → List Parse}
    (each : ∀ a ∈ list, AgreeBefore more (results a) (otherResults a)) :
    AgreeBefore more (list.flatMap results) (list.flatMap otherResults) := by
  rw [AgreeBefore, List.filter_flatMap, List.map_flatMap]
  exact List.flatMap_congr each

/-- Behind a parse that reaches too far only parses follow that do so too. -/
private theorem bind (agree : AgreeBefore more items others)
    {results otherResults : Parse → List Parse}
    (each : ∀ first ∈ items, first.before more ∈ others →
      AgreeBefore more (results first) (otherResults (first.before more)))
    (further : ∀ other ∈ others, ∀ second ∈ otherResults other,
      second.rest.length ≤ other.rest.length) :
    AgreeBefore more (items.flatMap results) (others.flatMap otherResults) := by
  have dropped : ∀ other ∈ others, Parse.Spares more other = false →
      (otherResults other).filter (Parse.Spares more) = [] := by
    intro other member reaches
    refine List.filter_eq_nil_iff.mpr fun second follows => ?_
    simp only [Parse.Spares, decide_eq_true_eq, decide_eq_false_iff_not] at reaches ⊢
    exact fun spares => reaches (spares.trans (further other member second follows))
  have member {first : Parse} (inItems : first ∈ items) : first.before more ∈ others :=
    List.mem_of_mem_filter (agree ▸ List.mem_map_of_mem inItems)
  calc (others.flatMap otherResults).filter (Parse.Spares more)
    _ = others.flatMap fun other => (otherResults other).filter (Parse.Spares more) :=
        List.filter_flatMap
    _ = (others.filter (Parse.Spares more)).flatMap fun other =>
          (otherResults other).filter (Parse.Spares more) := (flatMap_filter dropped).symm
    _ = (items.map (Parse.before more)).flatMap fun other =>
          (otherResults other).filter (Parse.Spares more) := by rw [agree]
    _ = items.flatMap fun first =>
          (otherResults (first.before more)).filter (Parse.Spares more) := List.flatMap_map ..
    _ = items.flatMap fun first => (results first).map (Parse.before more) :=
        List.flatMap_congr fun first inItems => each first inItems (member inItems)
    _ = (items.flatMap results).map (Parse.before more) := List.map_flatMap.symm

private theorem of_charParse? (accept : Char → Bool) (input : List Char) :
    AgreeBefore more (charParse? accept input).toList
      (charParse? accept (input ++ more)).toList := by
  cases input with
  | nil =>
      refine nil_of_length_lt fun other found => ?_
      obtain ⟨c, rest, _, split, rfl⟩ := charParse?_eq_some_iff.mp (Option.mem_toList.mp found)
      rw [← List.nil_append more, split]
      exact Nat.lt_succ_self rest.length
  | cons c rest =>
      rw [List.cons_append, charParse?, charParse?]
      cases accept c with
      | true => exact singleton ⟨.char c, rest⟩
      | false => exact nil

private theorem of_literalParse? (text : String) (input : List Char) :
    AgreeBefore more (literalParse? text input).toList
      (literalParse? text (input ++ more)).toList := by
  cases found : literalParse? text input with
  | some parse =>
      obtain ⟨rest, rfl, rfl⟩ := literalParse?_eq_some_iff.mp found
      rw [literalParse?_eq_some_iff.mpr ⟨rest ++ more, List.append_assoc .., rfl⟩]
      exact singleton ⟨.text text, rest⟩
  | none =>
      refine nil_of_length_lt fun other foundBefore => ?_
      obtain ⟨rest, split, rfl⟩ := literalParse?_eq_some_iff.mp (Option.mem_toList.mp foundBefore)
      -- If the text stood before what is put behind, the input would begin with it.
      refine Nat.lt_of_not_le fun (spares : more.length ≤ rest.length) => ?_
      have lengths := congrArg List.length split
      rw [List.length_append, List.length_append] at lengths
      exact literalParse?_eq_none_iff.mp found (List.prefix_of_prefix_length_le ⟨rest, split.symm⟩
        (List.prefix_append input more) (by omega))

/-- What uses up the whole input leaves exactly the text behind. -/
private theorem values_of_whole (agree : AgreeBefore more items others) :
    (others.filter fun parse => parse.rest = more).map Parse.value =
      (items.filter fun parse => parse.rest.isEmpty).map Parse.value := by
  have spared : (others.filter fun parse => parse.rest = more) =
      (items.map (Parse.before more)).filter fun parse => parse.rest = more := by
    rw [← agree, List.filter_filter]
    refine List.filter_congr fun parse _ => ?_
    by_cases same : parse.rest = more <;> simp [same, Parse.Spares]
  rw [spared, List.filter_map, List.map_map]
  have whole : ((fun parse => decide (parse.rest = more)) ∘ Parse.before more) =
      fun parse => parse.rest.isEmpty := by
    funext parse
    rw [Function.comp_apply, Bool.eq_iff_iff, decide_eq_true_eq, List.isEmpty_iff]
    exact List.append_left_eq_self
  rw [whole]
  rfl

end AgreeBefore

namespace Rules.Yields

variable {rules : Rules} {expr : Expr} {input more : List Char} {items others : List Parse}

private theorem agreeBefore_literal {text : String}
    (yields : rules.Yields (.literal text) input items)
    (again : rules.Yields (.literal text) (input ++ more) others) :
    AgreeBefore more items others := by
  rw [yields.unique .of_literalParse?, again.unique .of_literalParse?]
  exact .of_literalParse? text input

private theorem agreeBefore_oneOf {set : CharSet} (yields : rules.Yields (.oneOf set) input items)
    (again : rules.Yields (.oneOf set) (input ++ more) others) : AgreeBefore more items others := by
  rw [yields.unique .of_charParse?_oneOf, again.unique .of_charParse?_oneOf]
  exact .of_charParse? set.contains input

private theorem agreeBefore_noneOf {set : CharSet} (yields : rules.Yields (.noneOf set) input items)
    (again : rules.Yields (.noneOf set) (input ++ more) others) :
    AgreeBefore more items others := by
  rw [yields.unique .of_charParse?_noneOf, again.unique .of_charParse?_noneOf]
  exact .of_charParse? (fun c => !set.contains c) input

theorem agreeBefore (free : rules.LookaheadFree) (yields : rules.Yields expr input items)
    (exprFree : expr.LookaheadFree) (again : rules.Yields expr (input ++ more) others) :
    AgreeBefore more items others := by
  induction yields generalizing others with
  | literal => exact agreeBefore_literal .literal again
  | literalNone differs => exact agreeBefore_literal (.literalNone differs) again
  | oneOf inSet => exact agreeBefore_oneOf (.oneOf inSet) again
  | oneOfNone outside => exact agreeBefore_oneOf (.oneOfNone outside) again
  | noneOf outside => exact agreeBefore_noneOf (.noneOf outside) again
  | noneOfNone inSet => exact agreeBefore_noneOf (.noneOfNone inSet) again
  | seq _ _ leftIH rightIH =>
      cases exprFree with
      | seq leftFree rightFree =>
          cases again with
          | seq lefts rights =>
              refine (leftIH leftFree lefts).bind (fun first member before => ?_)
                fun other member second found => ?_
              · exact (rightIH first member rightFree (rights _ before)).map (.pair first.value)
              · obtain ⟨inner, inResults, rfl⟩ := List.mem_map.mp found
                exact ((rights other member).derives inner inResults).rest_suffix.length_le
  | union _ ih =>
      cases exprFree with
      | union each =>
          cases again with
          | union alternatives =>
              exact .flatMap fun alternative member =>
                ih alternative member (each alternative member) (alternatives alternative member)
  | map _ ih =>
      cases exprFree with
      | map innerFree =>
          cases again with
          | map inner => exact (ih innerFree inner).map _
  | rule bound _ ih =>
      cases again with
      | rule boundAgain inner =>
          obtain rfl := Option.some.inj (bound.symm.trans boundAgain)
          exact ih (free _ _ bound) inner
  | regex | regexNone | first | firstNone | many | many1 | opt | optNone | full => cases exprFree

end Rules.Yields

namespace Rules

/-- If the parses end both of an input and of the input with more text behind it, then those of the
second that leave at least as much as that text are those of the first, in order and as often, with
the text behind what each leaves. In particular the first that use up their input have the values
of the second that leave exactly the text behind. -/
theorem lookaheadFree_parses_local {rules : Rules} (rulesFree : rules.LookaheadFree) {expr : Expr}
    (exprFree : expr.LookaheadFree) {fuel further : Nat} {input more : List Char}
    {items others : List Parse} (runsOut : (rules.cursor fuel expr input).RunsOut items)
    (again : (rules.cursor further expr (input ++ more)).RunsOut others) :
    others.filter (fun parse => more.length ≤ parse.rest.length) =
      items.map (fun parse => ⟨parse.value, parse.rest ++ more⟩) ∧
    (items.filter fun parse => parse.rest.isEmpty).map Parse.value =
      (others.filter fun parse => parse.rest = more).map Parse.value := by
  have agree := (Yields.of_runsOut runsOut).agreeBefore rulesFree exprFree (.of_runsOut again)
  exact ⟨agree, agree.values_of_whole.symm⟩

/-- Crosses, of which the last may have a mark at it. -/
def crosses : Rules :=
  empty.define "crosses"
    (.union [.seq (.literal "x") (.rule "crosses"), .literal "x", .literal "xy"])

private theorem lookaheadFree_crosses : crosses.LookaheadFree := by
  intro name definition bound
  obtain ⟨_, rfl⟩ := get?_define_empty_eq_some_iff.mp bound
  refine .union fun alternative member => ?_
  simp only [List.mem_cons, List.not_mem_nil, or_false] at member
  rcases member with rfl | rfl | rfl
  · exact .seq .literal .rule
  · exact .literal
  · exact .literal

/-- The mark is behind the input, and so the last cross with it is not among the parses there. -/
theorem lookaheadFree_parses_local_crosses :
    crosses.LookaheadFree ∧
    (crosses.cursor 4 (.rule "crosses") ['x', 'x']).RunsOut
      [⟨.pair (.text "x") (.text "x"), []⟩, ⟨.text "x", ['x']⟩] ∧
    ∃ others, (crosses.cursor 5 (.rule "crosses") (['x', 'x'] ++ ['y'])).RunsOut others ∧
      others.length = 3 ∧
      others.filter (fun parse => 1 ≤ parse.rest.length) =
        [⟨.pair (.text "x") (.text "x"), ['y']⟩, ⟨.text "x", ['x', 'y']⟩] := by
  have runsOut : (crosses.cursor 4 (.rule "crosses") ['x', 'x']).RunsOut
      [⟨.pair (.text "x") (.text "x"), []⟩, ⟨.text "x", ['x']⟩] := Cursor.runsOut_iff.mpr rfl
  have again : (crosses.cursor 5 (.rule "crosses") (['x', 'x'] ++ ['y'])).RunsOut
      [⟨.pair (.text "x") (.text "x"), ['y']⟩, ⟨.pair (.text "x") (.text "xy"), []⟩,
        ⟨.text "x", ['x', 'y']⟩] := Cursor.runsOut_iff.mpr rfl
  exact ⟨lookaheadFree_crosses, runsOut, _, again, rfl,
    (lookaheadFree_parses_local lookaheadFree_crosses .rule runsOut again).1⟩

end Rules

end LazyGrammar
