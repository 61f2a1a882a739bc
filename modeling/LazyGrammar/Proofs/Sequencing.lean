import LazyGrammar.Proofs.Approximation
import Mathlib.Data.List.Perm.Basic

/-!
# Sequences and unions

A sequence of three parts is the same search however the parts are grouped, and so is a
sequence that begins with a union and the union of the sequences that begin with its
alternatives: every pull answers alike. With the union in the last part, the alternatives
are tried behind each first result, and not the other way about. Then the results are the
same, but they come in another order unless there is one first result at most.
-/

set_option autoImplicit false

namespace LazyGrammar

private theorem flatMap_flatMap_perm {α β γ : Type} (items : List α) (others : List β)
    (f : α → β → List γ) :
    (items.flatMap fun a => others.flatMap (f a)).Perm
      (others.flatMap fun b => items.flatMap fun a => f a b) := by
  induction items with
  | nil => simp
  | cons a rest ih =>
      simp only [List.flatMap_cons]
      exact (ih.append_left _).trans (List.flatMap_append_perm others (f a) _)

namespace Enumeration

variable {α β γ : Type}

/-- That all ends in the order on the left is enough, since every part is asked for there. -/
theorem flatMap_swap {source : Enumeration α} {list : List β} {f : α → β → Enumeration γ}
    {items : List γ} (ends : source.flatMap (fun a => (ofList list).flatMap (f a)) = ofList items) :
    ∃ others, (ofList list).flatMap (fun b => source.flatMap fun a => f a b) = ofList others ∧
      items.Perm others ∧ (source.toList.length ≤ 1 → items = others) := by
  obtain ⟨firsts, rfl, partsEnd, rfl⟩ := flatMap_eq_ofList_iff.mp ends
  have each : ∀ a ∈ firsts, (∀ b ∈ list, f a b = ofList (f a b).toList) ∧
      ((ofList list).flatMap (f a)).toList = list.flatMap fun b => (f a b).toList := by
    intro a member
    obtain ⟨_, same, inner, eq⟩ := flatMap_eq_ofList_iff.mp (partsEnd a member)
    obtain rfl := ofList_injective same
    exact ⟨inner, eq⟩
  have itemsEq : (firsts.flatMap fun a => ((ofList list).flatMap (f a)).toList) =
      firsts.flatMap fun a => list.flatMap fun b => (f a b).toList :=
    List.flatMap_congr fun a member => (each a member).2
  refine ⟨list.flatMap fun b => firsts.flatMap fun a => (f a b).toList, ?_, ?_, ?_⟩
  · exact flatMap_ofList fun b inList =>
      flatMap_ofList fun a member => (each a member).1 b inList
  · rw [itemsEq]
    exact flatMap_flatMap_perm firsts list _
  · rw [toList_ofList, itemsEq]
    intro atMostOne
    match firsts with
    | [] => simp
    | [a] => simp
    | _ :: _ :: _ => simp at atMostOne

end Enumeration

/-- The values of three parts that follow each other, and what the last one leaves. -/
structure ThreeParts where
  first : Value
  second : Value
  third : Value
  rest : List Char

namespace ThreeParts

def firstTwoGrouped (parts : ThreeParts) : Parse :=
  ⟨.pair (.pair parts.first parts.second) parts.third, parts.rest⟩

def lastTwoGrouped (parts : ThreeParts) : Parse :=
  ⟨.pair parts.first (.pair parts.second parts.third), parts.rest⟩

end ThreeParts

namespace Rules

variable {rules : Rules} {fuel : Nat} {input : List Char}

/-- With the same fuel, every pull of one expression finds what that pull of the other does: the
same item, or the end, or no answer for the same reason. -/
def AnswerAlike (rules : Rules) (expr other : Expr) (input : List Char) : Prop :=
  ∀ fuel limit, (rules.cursor fuel expr input).pullUpTo limit =
    (rules.cursor fuel other input).pullUpTo limit

theorem answerAlike_of_parses {expr other : Expr}
    (same : ∀ fuel, rules.parses fuel expr input = rules.parses fuel other input) :
    rules.AnswerAlike expr other input := by
  intro fuel limit
  rw [cursor, cursor, same]

theorem parses_union_map (change : Expr → Expr) (alternatives : List Expr) :
    rules.parses fuel (.union (alternatives.map change)) input =
      (Enumeration.ofList alternatives).flatMap fun alternative =>
        rules.parses fuel (change alternative) input := by
  rw [parses_union, ← Enumeration.map_ofList, Enumeration.flatMap_map]

/-!
## Grouping
-/

def threeParts (rules : Rules) (fuel : Nat) (a b c : Expr) (input : List Char) :
    Enumeration ThreeParts :=
  (rules.parses fuel a input).flatMap fun first =>
    (rules.parses fuel b first.rest).flatMap fun second =>
      (rules.parses fuel c second.rest).map fun third =>
        ⟨first.value, second.value, third.value, third.rest⟩

theorem parses_seq_seq_left (a b c : Expr) :
    rules.parses fuel (.seq (.seq a b) c) input =
      (rules.threeParts fuel a b c input).map ThreeParts.firstTwoGrouped := by
  simp only [parses_seq, threeParts, Enumeration.flatMap_assoc, Enumeration.flatMap_map,
    Enumeration.map_flatMap, Enumeration.map_map, ThreeParts.firstTwoGrouped]

theorem parses_seq_seq_right (a b c : Expr) :
    rules.parses fuel (.seq a (.seq b c)) input =
      (rules.threeParts fuel a b c input).map ThreeParts.lastTwoGrouped := by
  simp only [parses_seq, threeParts, Enumeration.map_flatMap, Enumeration.map_map,
    ThreeParts.lastTwoGrouped]

/-!
## Distribution
-/

theorem parses_seq_union_left (alternatives : List Expr) (last : Expr) :
    rules.parses fuel (.seq (.union alternatives) last) input =
      rules.parses fuel (.union (alternatives.map fun first => .seq first last)) input := by
  rw [parses_union_map, parses_seq, parses_union, Enumeration.flatMap_assoc]
  simp only [parses_seq]

theorem parses_seq_union_right (first : Expr) (alternatives : List Expr) :
    rules.parses fuel (.seq first (.union alternatives)) input =
      (rules.parses fuel first input).flatMap fun head =>
        (Enumeration.ofList alternatives).flatMap fun last =>
          (rules.parses fuel last head.rest).map fun second =>
            ⟨.pair head.value second.value, second.rest⟩ := by
  simp only [parses_seq, parses_union, Enumeration.map_flatMap]

private theorem perm_of_seq_union_right {first : Expr} {alternatives : List Expr}
    {items : List Parse}
    (runsOut : (rules.cursor fuel (.seq first (.union alternatives)) input).RunsOut items) :
    ∃ others, (rules.cursor fuel (.union (alternatives.map fun last => .seq first last))
        input).RunsOut others ∧ items.Perm others ∧
      ((rules.parses fuel first input).toList.length ≤ 1 → items = others) := by
  have ends := Cursor.runsOut_iff.mp runsOut
  rw [cursor, parses_seq_union_right] at ends
  obtain ⟨others, othersEnd, perm, inOrder⟩ := Enumeration.flatMap_swap ends
  refine ⟨others, Cursor.runsOut_iff.mpr ?_, perm, inOrder⟩
  rw [cursor, parses_union_map]
  simp only [parses_seq]
  exact othersEnd

private theorem length_toList_le {expr : Expr} {bound : Nat}
    (within : ∀ limit, ((rules.cursor fuel expr input).pullUpTo limit).1.length ≤ bound) :
    (rules.parses fuel expr input).toList.length ≤ bound := by
  have all := within (rules.parses fuel expr input).toList.length
  rwa [Cursor.pullUpTo_eq_take, cursor, List.take_length] at all

/-- However three parts are grouped, the pulls find the same values in the same places. A union in
the first part of a sequence may be taken out of it without any pull answering otherwise. One in the
last part may be taken out too where both enumerations end: the results are the same up to their
order, and also in their order if the first part yields one at most. -/
theorem seq_regroups_and_distributes (rules : Rules) (a b c : Expr) (alternatives : List Expr)
    (input : List Char) :
    (∀ fuel limit, ∃ (found : List ThreeParts) (stop : Stop),
      (rules.cursor fuel (.seq (.seq a b) c) input).pullUpTo limit =
        (found.map ThreeParts.firstTwoGrouped, stop) ∧
      (rules.cursor fuel (.seq a (.seq b c)) input).pullUpTo limit =
        (found.map ThreeParts.lastTwoGrouped, stop)) ∧
    rules.AnswerAlike (.seq (.union alternatives) b)
      (.union (alternatives.map fun first => .seq first b)) input ∧
    ∀ fuel more items others,
      (rules.cursor fuel (.seq a (.union alternatives)) input).RunsOut items →
      (rules.cursor more (.union (alternatives.map fun last => .seq a last)) input).RunsOut
        others →
      items.Perm others ∧
        ((∀ fuel limit, ((rules.cursor fuel a input).pullUpTo limit).1.length ≤ 1) →
          items = others) := by
  refine ⟨fun fuel limit => ?_, ?_, fun fuel more items others seqEnds unionEnds => ?_⟩
  · let found := (⟨fun _ => rules.threeParts fuel a b c input⟩ : Cursor ThreeParts).pullUpTo limit
    refine ⟨found.1, found.2, ?_, ?_⟩
    · rw [cursor, parses_seq_seq_left, Cursor.pullUpTo_map]
    · rw [cursor, parses_seq_seq_right, Cursor.pullUpTo_map]
  · exact answerAlike_of_parses fun fuel => parses_seq_union_left alternatives b
  · obtain ⟨permuted, ends, perm, inOrder⟩ := perm_of_seq_union_right seqEnds
    obtain rfl := runsOut_unique ends unionEnds
    exact ⟨perm, fun atMostOne => inOrder (length_toList_le (atMostOne fuel))⟩

def shortOrLong : List Expr := [.literal "!", .literal "!!"]

theorem seq_regroups_and_distributes_shortOrLong :
    (∃ items others,
      (empty.cursor 0 (.seq (.union shortOrLong) (.union shortOrLong)) "!!!".toList).RunsOut items ∧
      (empty.cursor 1 (.union (shortOrLong.map fun last => .seq (.union shortOrLong) last))
        "!!!".toList).RunsOut others ∧
      items.Perm others ∧ items ≠ others) ∧
    ∃ items others,
      (empty.cursor 0 (.seq (.literal "!") (.union shortOrLong)) "!!!".toList).RunsOut items ∧
      (empty.cursor 1 (.union (shortOrLong.map fun last => .seq (.literal "!") last))
        "!!!".toList).RunsOut others ∧
      (∀ fuel limit,
        ((empty.cursor fuel (.literal "!") "!!!".toList).pullUpTo limit).1.length ≤ 1) ∧
      items = others ∧ items.length = 2 := by
  let both : Parse := ⟨.pair (.text "!") (.text "!"), ['!']⟩
  let oneThenTwo : Parse := ⟨.pair (.text "!") (.text "!!"), []⟩
  let twoThenOne : Parse := ⟨.pair (.text "!!") (.text "!"), []⟩
  constructor
  · have seqEnds : (empty.cursor 0 (.seq (.union shortOrLong) (.union shortOrLong))
        "!!!".toList).RunsOut [both, oneThenTwo, twoThenOne] := Cursor.runsOut_iff.mpr rfl
    have unionEnds : (empty.cursor 1 (.union (shortOrLong.map fun last =>
        .seq (.union shortOrLong) last)) "!!!".toList).RunsOut [both, twoThenOne, oneThenTwo] :=
      Cursor.runsOut_iff.mpr rfl
    obtain ⟨perm, _⟩ := (seq_regroups_and_distributes empty (.union shortOrLong) (.literal "")
      (.literal "") shortOrLong _).2.2 0 1 _ _ seqEnds unionEnds
    exact ⟨_, _, seqEnds, unionEnds, perm, by decide⟩
  · have seqEnds : (empty.cursor 0 (.seq (.literal "!") (.union shortOrLong)) "!!!".toList).RunsOut
        [both, oneThenTwo] := Cursor.runsOut_iff.mpr rfl
    have unionEnds : (empty.cursor 1 (.union (shortOrLong.map fun last => .seq (.literal "!") last))
        "!!!".toList).RunsOut [both, oneThenTwo] := Cursor.runsOut_iff.mpr rfl
    have atMostOne (fuel limit : Nat) :
        ((empty.cursor fuel (.literal "!") "!!!".toList).pullUpTo limit).1.length ≤ 1 := by
      rw [Cursor.pullUpTo_eq_take]
      exact List.length_take_le' limit _
    obtain ⟨_, inOrder⟩ := (seq_regroups_and_distributes empty (.literal "!") (.literal "")
      (.literal "") shortOrLong _).2.2 0 1 _ _ seqEnds unionEnds
    exact ⟨_, _, seqEnds, unionEnds, atMostOne, inOrder atMostOne, rfl⟩

end Rules

end LazyGrammar
