import LazyGrammar.Proofs.Ending
import LazyGrammar.Proofs.Trees
import Mathlib.Data.Set.Card
import Mathlib.Tactic.Choose

/-!
# Ambiguity

Without cuts every parse that is pulled stands for a derivation tree of its own, and
an enumeration that ends has gone through all trees. So a parse is found as often as
it has trees, and the trees come in the order of their choices.
-/

set_option autoImplicit false

namespace LazyGrammar

namespace Rules

/-- Beside each parse stands a tree for it, in the order of choices, and none is missing where there
is an end. -/
structure Explains (rules : Rules) (expr : Expr) (input : List Char)
    (found : Enumeration (Tree × Parse)) (parses : Enumeration Parse) : Prop where
  map_snd : found.map Prod.snd = parses
  hasTree : ∀ entry ∈ found.toList, rules.HasTree expr input entry.1 entry.2
  ordered : found.toList.Pairwise fun first second => first.1.Before second.1
  complete : ∀ list, found = .ofList list → ∀ tree parse,
    rules.HasTree expr input tree parse → (tree, parse) ∈ list

namespace Explains

variable {rules : Rules} {input : List Char}

private theorem halted {expr : Expr} {why : Halt} :
    rules.Explains expr input (.halted why) (.halted why) where
  map_snd := rfl
  hasTree := nofun
  ordered := .nil
  complete list ends := by cases list <;> cases ends

private theorem ofOption {expr : Expr} {found : Option Parse} {matched : List Char}
    (derives : ∀ tree parse, rules.HasTree expr input tree parse ↔
      found = some parse ∧ tree = .leaf matched) :
    rules.Explains expr input (.ofOption (found.map fun parse => (.leaf matched, parse)))
      (.ofOption found) where
  map_snd := by cases found <;> rfl
  hasTree entry member := by
    rw [Enumeration.ofOption_eq_ofList, Enumeration.toList_ofList, Option.mem_toList,
      Option.map_eq_some_iff] at member
    obtain ⟨parse, rfl, rfl⟩ := member
    exact (derives _ _).mpr ⟨rfl, rfl⟩
  ordered := by
    cases found with
    | none => exact .nil
    | some parse => exact List.pairwise_singleton _ _
  complete list ends tree parse derived := by
    obtain ⟨rfl, rfl⟩ := (derives tree parse).mp derived
    rw [Enumeration.ofOption_eq_ofList] at ends
    rw [← Enumeration.ofList_injective ends]
    exact List.mem_singleton_self _

private theorem seq {left right : Expr} {lefts : Enumeration (Tree × Parse)}
    {rights : List Char → Enumeration (Tree × Parse)} {leftParses : Enumeration Parse}
    {rightParses : List Char → Enumeration Parse}
    (leftExplains : rules.Explains left input lefts leftParses)
    (rightExplains : ∀ rest, rules.Explains right rest (rights rest) (rightParses rest)) :
    rules.Explains (.seq left right) input
      (lefts.flatMap fun first => (rights first.2.rest).map fun second =>
        (.seq first.1 second.1, ⟨.pair first.2.value second.2.value, second.2.rest⟩))
      (leftParses.flatMap fun first => (rightParses first.rest).map fun second =>
        ⟨.pair first.value second.value, second.rest⟩) where
  map_snd := by
    rw [← leftExplains.map_snd, Enumeration.flatMap_map, Enumeration.map_flatMap]
    simp only [← (rightExplains _).map_snd, Enumeration.map_map]
  hasTree entry member := by
    have inLists := (Enumeration.isPrefix_toList_flatMap _ _).subset member
    obtain ⟨first, firstMember, inRights⟩ := List.mem_flatMap.mp inLists
    rw [Enumeration.toList_map] at inRights
    obtain ⟨second, secondMember, rfl⟩ := List.mem_map.mp inRights
    exact .seq (leftExplains.hasTree first firstMember)
      ((rightExplains _).hasTree second secondMember)
  ordered := by
    refine List.Pairwise.sublist (Enumeration.isPrefix_toList_flatMap _ _).sublist ?_
    simp only [Enumeration.toList_map]
    refine List.pairwise_flatMap.mpr ⟨fun first _ => ?_, ?_⟩
    · rw [List.pairwise_map]
      exact (rightExplains first.2.rest).ordered.imp fun before => before.seq_right first.1
    · refine leftExplains.ordered.imp fun before entry member other otherMember => ?_
      obtain ⟨second, _, rfl⟩ := List.mem_map.mp member
      obtain ⟨otherSecond, _, rfl⟩ := List.mem_map.mp otherMember
      exact before.seq_left second.1 otherSecond.1
  complete list ends tree parse derived := by
    obtain ⟨firsts, leftEnds, partsEnd, rfl⟩ := Enumeration.flatMap_eq_ofList_iff.mp ends
    cases derived with
    | @seq _ _ _ leftTree rightTree first second leftDerived rightDerived =>
        have firstMember := leftExplains.complete firsts leftEnds leftTree first leftDerived
        have partEnds := partsEnd _ firstMember
        obtain ⟨seconds, rightEnds, _⟩ := Enumeration.map_eq_ofList_iff.mp partEnds
        have secondMember := (rightExplains first.rest).complete seconds rightEnds rightTree
          second rightDerived
        refine List.mem_flatMap.mpr ⟨_, firstMember, ?_⟩
        rw [Enumeration.toList_map, rightEnds, Enumeration.toList_ofList]
        exact List.mem_map_of_mem secondMember

private theorem union {alternatives : List Expr} {found : Expr → Enumeration (Tree × Parse)}
    {parses : Expr → Enumeration Parse}
    (explains : ∀ alternative ∈ alternatives,
      rules.Explains alternative input (found alternative) (parses alternative)) :
    rules.Explains (.union alternatives) input
      ((Enumeration.ofList alternatives.zipIdx).flatMap fun alternative =>
        (found alternative.1).map fun entry => (.union alternative.2 entry.1, entry.2))
      ((Enumeration.ofList alternatives).flatMap parses) where
  map_snd := by
    have same : ∀ alternative ∈ alternatives.zipIdx,
        ((found alternative.1).map fun entry => entry.2) = parses alternative.1 :=
      fun alternative member => (explains alternative.1
        (List.mem_of_getElem? (List.mem_zipIdx_iff_getElem?.mp member))).map_snd
    rw [Enumeration.map_flatMap]
    simp only [Enumeration.map_map]
    rw [Enumeration.flatMap_ofList_congr same, ← Enumeration.flatMap_map, Enumeration.map_ofList,
      List.zipIdx_map_fst]
  hasTree entry member := by
    have inLists := (Enumeration.isPrefix_toList_flatMap _ _).subset member
    rw [Enumeration.toList_ofList] at inLists
    obtain ⟨⟨alternative, index⟩, atIndex, inFound⟩ := List.mem_flatMap.mp inLists
    rw [Enumeration.toList_map] at inFound
    obtain ⟨inner, innerMember, rfl⟩ := List.mem_map.mp inFound
    have here := List.mem_zipIdx_iff_getElem?.mp atIndex
    exact .union here ((explains alternative (List.mem_of_getElem? here)).hasTree inner innerMember)
  ordered := by
    refine List.Pairwise.sublist (Enumeration.isPrefix_toList_flatMap _ _).sublist ?_
    simp only [Enumeration.toList_map, Enumeration.toList_ofList]
    refine List.pairwise_flatMap.mpr ⟨fun alternative member => ?_, ?_⟩
    · have here := List.mem_of_getElem? (List.mem_zipIdx_iff_getElem?.mp member)
      rw [List.pairwise_map]
      exact (explains _ here).ordered.imp fun before => before.union_inner alternative.2
    · refine (pairwise_snd_zipIdx alternatives).imp fun lt entry member other otherMember => ?_
      obtain ⟨inner, _, rfl⟩ := List.mem_map.mp member
      obtain ⟨otherInner, _, rfl⟩ := List.mem_map.mp otherMember
      exact .union_index lt inner.1 otherInner.1
  complete list ends tree parse derived := by
    obtain ⟨indexed, indexedEnds, partsEnd, rfl⟩ := Enumeration.flatMap_eq_ofList_iff.mp ends
    obtain rfl := Enumeration.ofList_injective indexedEnds
    cases derived with
    | @union _ index alternative _ inner _ here innerDerived =>
        have atIndex : (alternative, index) ∈ alternatives.zipIdx :=
          List.mem_zipIdx_iff_getElem?.mpr here
        obtain ⟨entries, innerEnds, _⟩ := Enumeration.map_eq_ofList_iff.mp
          (partsEnd _ atIndex)
        have member := (explains alternative (List.mem_of_getElem? here)).complete entries innerEnds
          inner parse innerDerived
        refine List.mem_flatMap.mpr ⟨_, atIndex, ?_⟩
        rw [Enumeration.toList_map, innerEnds, Enumeration.toList_ofList]
        exact List.mem_map_of_mem member

/-- One node above the trees, which makes no choice. -/
private theorem wrap {inner outer : Expr} {found : Enumeration (Tree × Parse)}
    {parses : Enumeration Parse} (explains : rules.Explains inner input found parses)
    (node : Tree → Tree) (result : Parse → Parse)
    (derives : ∀ tree parse, rules.HasTree outer input tree parse ↔
      ∃ below before, rules.HasTree inner input below before ∧ tree = node below ∧
        parse = result before)
    (before_node : ∀ {first second : Tree}, first.Before second →
      (node first).Before (node second)) :
    rules.Explains outer input (found.map fun entry => (node entry.1, result entry.2))
      (parses.map result) where
  map_snd := by rw [← explains.map_snd, Enumeration.map_map, Enumeration.map_map]
  hasTree entry member := by
    rw [Enumeration.toList_map] at member
    obtain ⟨below, belowMember, rfl⟩ := List.mem_map.mp member
    exact (derives _ _).mpr ⟨below.1, below.2, explains.hasTree below belowMember, rfl, rfl⟩
  ordered := by
    rw [Enumeration.toList_map, List.pairwise_map]
    exact explains.ordered.imp before_node
  complete list ends tree parse derived := by
    obtain ⟨entries, innerEnds, rfl⟩ := Enumeration.map_eq_ofList_iff.mp ends
    obtain ⟨below, before, belowDerived, rfl, rfl⟩ := (derives tree parse).mp derived
    have member := explains.complete entries innerEnds below before belowDerived
    exact List.mem_map.mpr ⟨(below, before), member, rfl⟩

private theorem map {inner : Expr} {transform : Value → Value} {found : Enumeration (Tree × Parse)}
    {parses : Enumeration Parse} (explains : rules.Explains inner input found parses) :
    rules.Explains (.map inner transform) input
      (found.map fun entry => (.map entry.1, ⟨transform entry.2.value, entry.2.rest⟩))
      (parses.map fun parse => ⟨transform parse.value, parse.rest⟩) := by
  refine explains.wrap .map (fun parse => ⟨transform parse.value, parse.rest⟩)
    (fun tree parse => ⟨fun derived => ?_, fun derived => ?_⟩) fun before => before
  · cases derived with
    | map below => exact ⟨_, _, below, rfl, rfl⟩
  · obtain ⟨_, _, below, rfl, rfl⟩ := derived
    exact .map below

private theorem rule {name : String} {definition : Expr} (bound : rules.get? name = some definition)
    {found : Enumeration (Tree × Parse)} {parses : Enumeration Parse}
    (explains : rules.Explains definition input found parses) :
    rules.Explains (.rule name) input (found.map fun entry => (.rule entry.1, entry.2))
      parses := by
  rw [← Enumeration.map_id parses]
  refine explains.wrap .rule (fun parse => parse)
    (fun tree parse => ⟨fun derived => ?_, fun derived => ?_⟩) fun before => before
  · cases derived with
    | rule boundAgain below =>
        obtain rfl := Option.some.inj (bound.symm.trans boundAgain)
        exact ⟨_, _, below, rfl, rfl⟩
  · obtain ⟨_, _, below, rfl, rfl⟩ := derived
    exact .rule bound below

private theorem full {inner : Expr} {found : Enumeration (Tree × Parse)}
    {parses : Enumeration Parse} (explains : rules.Explains inner input found parses) :
    rules.Explains (.full inner) input
      ((found.filter fun entry => entry.2.rest.isEmpty).map fun entry => (.full entry.1, entry.2))
      (parses.filter fun parse => parse.rest.isEmpty) where
  map_snd := by rw [← explains.map_snd, Enumeration.map_map, Enumeration.filter_map]
  hasTree entry member := by
    rw [Enumeration.toList_map, Enumeration.toList_filter] at member
    obtain ⟨below, belowMember, rfl⟩ := List.mem_map.mp member
    obtain ⟨belowMember, empty⟩ := List.mem_filter.mp belowMember
    exact .full (explains.hasTree below belowMember) (List.isEmpty_iff.mp empty)
  ordered := by
    rw [Enumeration.toList_map, Enumeration.toList_filter, List.pairwise_map]
    exact explains.ordered.sublist List.filter_sublist
  complete list ends tree parse derived := by
    obtain ⟨kept, keptEnds, rfl⟩ := Enumeration.map_eq_ofList_iff.mp ends
    obtain ⟨entries, innerEnds, rfl⟩ := Enumeration.filter_eq_ofList_iff.mp keptEnds
    cases derived with
    | @full _ _ below _ belowDerived empty =>
        have member := explains.complete entries innerEnds below parse belowDerived
        have isKept : (below, parse) ∈ entries.filter fun entry => entry.2.rest.isEmpty :=
          List.mem_filter.mpr ⟨member, List.isEmpty_iff.mpr empty⟩
        exact List.mem_map.mpr ⟨(below, parse), isKept, rfl⟩

end Explains

variable {rules : Rules}

private theorem explains_parsesWith {rounds : Nat} {call : String → List Char → Enumeration Parse}
    (calls : ∀ name input, ∃ found, rules.Explains (.rule name) input found (call name input))
    {expr : Expr} (cutFree : expr.CutFree) (input : List Char) :
    ∃ found, rules.Explains expr input found (expr.parsesWith rounds call input) := by
  induction cutFree generalizing input with
  | literal =>
      rw [Expr.parsesWith]
      exact ⟨_, .ofOption fun _ _ => HasTree.literal_iff⟩
  | regex =>
      rw [Expr.parsesWith]
      exact ⟨_, .ofOption fun _ _ => HasTree.regex_iff⟩
  | oneOf =>
      rw [Expr.parsesWith]
      exact ⟨_, .ofOption fun _ _ => HasTree.oneOf_iff⟩
  | noneOf =>
      rw [Expr.parsesWith]
      exact ⟨_, .ofOption fun _ _ => HasTree.noneOf_iff⟩
  | seq _ _ leftIH rightIH =>
      rw [Expr.parsesWith]
      obtain ⟨lefts, leftExplains⟩ := leftIH input
      choose rights rightExplains using rightIH
      exact ⟨_, leftExplains.seq rightExplains⟩
  | union _ ih =>
      rw [Expr.parsesWith, Expr.unionParses_eq_flatMap]
      choose! found explains using fun alternative member => ih alternative member input
      exact ⟨_, .union explains⟩
  | map _ ih =>
      rw [Expr.parsesWith]
      obtain ⟨found, explains⟩ := ih input
      exact ⟨_, explains.map⟩
  | full _ ih =>
      rw [Expr.parsesWith]
      obtain ⟨found, explains⟩ := ih input
      exact ⟨_, explains.full⟩
  | rule =>
      rw [Expr.parsesWith]
      exact calls _ input

private theorem explains_call (cutFree : rules.CutFree) (fuel : Nat) (name : String)
    (input : List Char) :
    ∃ found, rules.Explains (.rule name) input found (rules.call fuel name input) := by
  induction fuel generalizing name input with
  | zero => exact ⟨_, .halted⟩
  | succ fuel ih =>
      rw [call]
      cases bound : rules.get? name with
      | none => exact ⟨_, .halted⟩
      | some definition =>
          obtain ⟨found, explains⟩ := explains_parsesWith ih (cutFree name definition bound) input
          exact ⟨_, .rule bound explains⟩

/-- The trees stand for the parses one by one, and ascend in their choices. -/
structure ListsTrees (rules : Rules) (expr : Expr) (input : List Char) (trees : List Tree)
    (parses : List Parse) : Prop where
  derived : List.Forall₂ (rules.HasTree expr input) trees parses
  ascending : trees.Pairwise fun first second => first.choices < second.choices
  distinct : trees.Nodup

private theorem ListsTrees.of_entries {expr : Expr} {input : List Char}
    {entries : List (Tree × Parse)}
    (hasTree : ∀ entry ∈ entries, rules.HasTree expr input entry.1 entry.2)
    (ordered : entries.Pairwise fun first second => first.1.Before second.1) :
    rules.ListsTrees expr input (entries.map Prod.fst) (entries.map Prod.snd) where
  derived := by
    rw [List.forall₂_map_left_iff, List.forall₂_map_right_iff, List.forall₂_same]
    exact hasTree
  ascending := List.pairwise_map.mpr (ordered.imp Tree.Before.choices_lt)
  distinct := List.pairwise_map.mpr <| ordered.imp fun before same => by
    have less := before.choices_lt
    rw [same] at less
    exact List.lt_irrefl _ less

/-- Where each tree stands once, and with its parse, a parse stands as often as it has trees. -/
private theorem encard_hasTree {expr : Expr} {input : List Char} {entries : List (Tree × Parse)}
    (distinct : (entries.map Prod.fst).Nodup)
    (entries_iff : ∀ tree parse, rules.HasTree expr input tree parse ↔ (tree, parse) ∈ entries)
    (parse : Parse) :
    {tree | rules.HasTree expr input tree parse}.encard = (entries.map Prod.snd).count parse := by
  let trees := (entries.filter fun entry => entry.2 == parse).map Prod.fst
  have treesDistinct : trees.Nodup := distinct.sublist (List.filter_sublist.map Prod.fst)
  have same : {tree | rules.HasTree expr input tree parse} = {tree | tree ∈ trees} := by
    ext tree
    simp [trees, entries_iff]
  calc
    {tree | rules.HasTree expr input tree parse}.encard
      = trees.length := by
        rw [same, ← List.coe_toFinset, Set.encard_coe_eq_coe_finsetCard,
          List.toFinset_card_of_nodup treesDistinct]
    _ = (entries.map Prod.snd).count parse := by
        rw [List.length_map, List.count, List.countP_map, List.countP_eq_length_filter]
        rfl

/-- Without cuts in the expression and in the rules, what was pulled so far stands for distinct
trees in the order of their choices. Once the end is reached these are all trees, and a parse was
found exactly as often as it has trees. -/
theorem cutFree_lists_trees (cutFree : rules.CutFree) {expr : Expr} (exprCutFree : expr.CutFree)
    (fuel : Nat) (input : List Char) :
    (∃ trees : List Tree, ∀ limit, rules.ListsTrees expr input (trees.take limit)
      ((rules.cursor fuel expr input).pullUpTo limit).1) ∧
    ∀ parses, (rules.cursor fuel expr input).RunsOut parses →
      ∃ trees, rules.ListsTrees expr input trees parses ∧
        (∀ tree, tree ∈ trees ↔ ∃ parse, rules.HasTree expr input tree parse) ∧
        ∀ parse, {tree | rules.HasTree expr input tree parse}.encard = parses.count parse := by
  obtain ⟨found, explains⟩ := explains_parsesWith (explains_call cutFree fuel) exprCutFree input
  constructor
  · refine ⟨found.toList.map Prod.fst, fun limit => ?_⟩
    rw [Cursor.pullUpTo_eq_take, cursor, parses, ← explains.map_snd, Enumeration.toList_map,
      ← List.map_take, ← List.map_take]
    exact .of_entries (fun entry member => explains.hasTree entry (List.mem_of_mem_take member))
      (explains.ordered.sublist (List.take_sublist limit _))
  · intro parses runsOut
    have ends := Cursor.runsOut_iff.mp runsOut
    rw [cursor, Rules.parses, ← explains.map_snd] at ends
    obtain ⟨entries, foundEnds, rfl⟩ := Enumeration.map_eq_ofList_iff.mp ends
    have toList : found.toList = entries := by rw [foundEnds, Enumeration.toList_ofList]
    have entries_iff (tree : Tree) (parse : Parse) :
        rules.HasTree expr input tree parse ↔ (tree, parse) ∈ entries :=
      ⟨explains.complete entries foundEnds tree parse,
        fun member => explains.hasTree (tree, parse) (toList ▸ member)⟩
    have lists : rules.ListsTrees expr input (entries.map Prod.fst) (entries.map Prod.snd) :=
      .of_entries (fun entry member => explains.hasTree entry (toList ▸ member))
        (toList ▸ explains.ordered)
    refine ⟨_, lists, fun tree => ?_, encard_hasTree lists.distinct entries_iff⟩
    simp [entries_iff]

/-- Two ways to split three characters, which are not told apart by the value. -/
def oneOrTwo : Rules := (empty.define "item" (.literal "x")).define "item" (.literal "xx")

def twoItems : Expr := .map (.seq (.rule "item") (.rule "item")) fun _ => .int 0

private theorem cutFree_oneOrTwo : oneOrTwo.CutFree := by
  have bindings : oneOrTwo.bindings = [("item", .union [.literal "x", .literal "xx"])] := rfl
  intro name definition bound
  rw [get?_eq_some_iff, bindings, List.mem_singleton] at bound
  cases bound
  refine .union fun alternative member => ?_
  rcases List.mem_pair.mp member with rfl | rfl
  · exact .literal
  · exact .literal

theorem cutFree_lists_trees_twoItems :
    (oneOrTwo.cursor 2 twoItems "xxx".toList).RunsOut
      [⟨.int 0, ['x']⟩, ⟨.int 0, []⟩, ⟨.int 0, []⟩] ∧
    {tree | oneOrTwo.HasTree twoItems "xxx".toList tree ⟨.int 0, []⟩}.encard = 2 := by
  have runsOut : (oneOrTwo.cursor 2 twoItems "xxx".toList).RunsOut
      [⟨.int 0, ['x']⟩, ⟨.int 0, []⟩, ⟨.int 0, []⟩] := Cursor.runsOut_iff.mpr rfl
  have twoItemsCutFree : twoItems.CutFree := .map (.seq .rule .rule)
  refine ⟨runsOut, ?_⟩
  obtain ⟨_, _, _, counts⟩ := (cutFree_lists_trees cutFree_oneOrTwo twoItemsCutFree 2
    "xxx".toList).2 _ runsOut
  rw [counts]
  rfl

end Rules

end LazyGrammar
