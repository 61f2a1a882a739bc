import LazyGrammar.Expr.Parses

/-!
# Derivation trees

Without cuts, a parse comes about through nothing but choices of alternatives. A
tree records them. One tree has at most one parse, but a parse may have many trees,
which is what makes a grammar ambiguous. Trees are ordered by the first choice in
which they differ, the left part of a sequence counting before the right one.
-/

set_option autoImplicit false

namespace LazyGrammar

/-- No first match is preferred anywhere, and nothing is repeated or left out. -/
inductive Expr.CutFree : Expr → Prop where
  | literal {text : String} : CutFree (.literal text)
  | regex {pattern : Regex.Pattern} : CutFree (.regex pattern)
  | oneOf {set : CharSet} : CutFree (.oneOf set)
  | noneOf {set : CharSet} : CutFree (.noneOf set)
  | seq {left right : Expr} : CutFree left → CutFree right → CutFree (.seq left right)
  | union {alternatives : List Expr} :
      (∀ alternative ∈ alternatives, CutFree alternative) → CutFree (.union alternatives)
  | map {inner : Expr} {transform : Value → Value} :
      CutFree inner → CutFree (.map inner transform)
  | full {inner : Expr} : CutFree inner → CutFree (.full inner)
  | rule {name : String} : CutFree (.rule name)

def Rules.CutFree (rules : Rules) : Prop :=
  ∀ name definition, rules.get? name = some definition → definition.CutFree

inductive Tree where
  | leaf (matched : List Char)
  | seq (left right : Tree)
  | union (index : Nat) (inner : Tree)
  | map (inner : Tree)
  | full (inner : Tree)
  | rule (inner : Tree)
  deriving DecidableEq

/-- The tree derives the parse from the expression, on the input. -/
inductive Rules.HasTree (rules : Rules) : Expr → List Char → Tree → Parse → Prop where
  | literal {text : String} {input rest : List Char} :
      input = text.toList ++ rest →
      HasTree rules (.literal text) input (.leaf text.toList) ⟨.text text, rest⟩
  | regex {pattern : Regex.Pattern} {input matched rest : List Char} :
      pattern.splitMatch? input = some (matched, rest) →
      HasTree rules (.regex pattern) input (.leaf matched) ⟨.text (String.ofList matched), rest⟩
  | oneOf {set : CharSet} {c : Char} {rest : List Char} :
      c ∈ set → HasTree rules (.oneOf set) (c :: rest) (.leaf [c]) ⟨.char c, rest⟩
  | noneOf {set : CharSet} {c : Char} {rest : List Char} :
      c ∉ set → HasTree rules (.noneOf set) (c :: rest) (.leaf [c]) ⟨.char c, rest⟩
  | seq {left right : Expr} {input : List Char} {leftTree rightTree : Tree}
      {first second : Parse} :
      HasTree rules left input leftTree first → HasTree rules right first.rest rightTree second →
      HasTree rules (.seq left right) input (.seq leftTree rightTree)
        ⟨.pair first.value second.value, second.rest⟩
  | union {alternatives : List Expr} {index : Nat} {alternative : Expr} {input : List Char}
      {tree : Tree} {parse : Parse} :
      alternatives[index]? = some alternative → HasTree rules alternative input tree parse →
      HasTree rules (.union alternatives) input (.union index tree) parse
  | map {inner : Expr} {transform : Value → Value} {input : List Char} {tree : Tree}
      {parse : Parse} :
      HasTree rules inner input tree parse →
      HasTree rules (.map inner transform) input (.map tree) ⟨transform parse.value, parse.rest⟩
  | full {inner : Expr} {input : List Char} {tree : Tree} {parse : Parse} :
      HasTree rules inner input tree parse → parse.rest = [] →
      HasTree rules (.full inner) input (.full tree) parse
  | rule {name : String} {definition : Expr} {input : List Char} {tree : Tree} {parse : Parse} :
      rules.get? name = some definition → HasTree rules definition input tree parse →
      HasTree rules (.rule name) input (.rule tree) parse

namespace Rules.HasTree

variable {rules : Rules} {expr : Expr} {input : List Char} {tree : Tree}

theorem parse_unique {first second : Parse} (one : rules.HasTree expr input tree first)
    (other : rules.HasTree expr input tree second) : first = second := by
  induction one generalizing second with
  | literal here =>
      cases other with
      | literal there =>
          obtain rfl := List.append_cancel_left (here.symm.trans there)
          rfl
  | regex here =>
      cases other with
      | regex there =>
          obtain ⟨_, rfl⟩ := Prod.mk.inj (Option.some.inj (here.symm.trans there))
          rfl
  | oneOf => cases other; rfl
  | noneOf => cases other; rfl
  | seq _ _ leftIH rightIH =>
      cases other with
      | seq otherLeft otherRight =>
          obtain rfl := leftIH otherLeft
          obtain rfl := rightIH otherRight
          rfl
  | union here _ ih =>
      cases other with
      | union there inner =>
          obtain rfl := Option.some.inj (here.symm.trans there)
          exact ih inner
  | map _ ih =>
      cases other with
      | map inner => rw [ih inner]
  | full _ _ ih =>
      cases other with
      | full inner _ => exact ih inner
  | rule here _ ih =>
      cases other with
      | rule there inner =>
          obtain rfl := Option.some.inj (here.symm.trans there)
          exact ih inner

variable {parse : Parse}

theorem literal_iff {text : String} :
    rules.HasTree (.literal text) input tree parse ↔
      literalParse? text input = some parse ∧ tree = .leaf text.toList := by
  constructor
  · intro derived
    cases derived with
    | @literal _ _ rest here => exact ⟨literalParse?_eq_some_iff.mpr ⟨rest, here, rfl⟩, rfl⟩
  · intro found
    obtain ⟨found, rfl⟩ := found
    obtain ⟨rest, here, rfl⟩ := literalParse?_eq_some_iff.mp found
    exact .literal here

theorem regex_iff {pattern : Regex.Pattern} :
    rules.HasTree (.regex pattern) input tree parse ↔
      regexParse? pattern input = some parse ∧
        tree = .leaf (((pattern.splitMatch? input).map Prod.fst).getD []) := by
  constructor
  · intro derived
    cases derived with
    | regex split => simp [regexParse?, split]
  · intro found
    obtain ⟨found, rfl⟩ := found
    obtain ⟨⟨matched, rest⟩, split, rfl⟩ := Option.map_eq_some_iff.mp found
    rw [split]
    exact .regex split

theorem oneOf_iff {set : CharSet} :
    rules.HasTree (.oneOf set) input tree parse ↔
      charParse? set.contains input = some parse ∧ tree = .leaf (input.take 1) := by
  constructor
  · intro derived
    cases derived with
    | @oneOf _ c rest member =>
        exact ⟨charParse?_contains_eq_some_iff.mpr ⟨c, rest, member, rfl, rfl⟩, rfl⟩
  · intro found
    obtain ⟨found, rfl⟩ := found
    obtain ⟨c, rest, member, rfl, rfl⟩ := charParse?_contains_eq_some_iff.mp found
    exact .oneOf member

theorem noneOf_iff {set : CharSet} :
    rules.HasTree (.noneOf set) input tree parse ↔
      charParse? (fun c => !set.contains c) input = some parse ∧ tree = .leaf (input.take 1) := by
  constructor
  · intro derived
    cases derived with
    | @noneOf _ c rest absent =>
        exact ⟨charParse?_not_contains_eq_some_iff.mpr ⟨c, rest, absent, rfl, rfl⟩, rfl⟩
  · intro found
    obtain ⟨found, rfl⟩ := found
    obtain ⟨c, rest, absent, rfl, rfl⟩ := charParse?_not_contains_eq_some_iff.mp found
    exact .noneOf absent

end Rules.HasTree

namespace Tree

/-- The alternatives that were taken, from left to right. -/
def choices : Tree → List Nat
  | .leaf _ => []
  | .seq left right => left.choices ++ right.choices
  | .union index inner => index :: inner.choices
  | .map inner | .full inner | .rule inner => inner.choices

/-- After the same choices, the first tree takes an earlier alternative than the second. -/
def Before (first second : Tree) : Prop :=
  ∃ common low high firstRest secondRest, low < high ∧
    first.choices = common ++ low :: firstRest ∧ second.choices = common ++ high :: secondRest

namespace Before

variable {first second : Tree}

theorem choices_lt (before : first.Before second) : first.choices < second.choices := by
  obtain ⟨common, low, high, firstRest, secondRest, lt, firstEq, secondEq⟩ := before
  rw [firstEq, secondEq]
  exact List.append_left_lt (List.cons_lt_cons_iff.mpr (.inl lt))

theorem seq_left (before : first.Before second) (right other : Tree) :
    (Tree.seq first right).Before (.seq second other) := by
  obtain ⟨common, low, high, firstRest, secondRest, lt, firstEq, secondEq⟩ := before
  refine ⟨common, low, high, firstRest ++ right.choices, secondRest ++ other.choices, lt, ?_, ?_⟩
  · simp [choices, firstEq]
  · simp [choices, secondEq]

theorem seq_right (left : Tree) (before : first.Before second) :
    (Tree.seq left first).Before (.seq left second) := by
  obtain ⟨common, low, high, firstRest, secondRest, lt, firstEq, secondEq⟩ := before
  refine ⟨left.choices ++ common, low, high, firstRest, secondRest, lt, ?_, ?_⟩
  · simp [choices, firstEq]
  · simp [choices, secondEq]

theorem union_inner (index : Nat) (before : first.Before second) :
    (Tree.union index first).Before (.union index second) := by
  obtain ⟨common, low, high, firstRest, secondRest, lt, firstEq, secondEq⟩ := before
  refine ⟨index :: common, low, high, firstRest, secondRest, lt, ?_, ?_⟩
  · simp [choices, firstEq]
  · simp [choices, secondEq]

theorem union_index {low high : Nat} (lt : low < high) (first second : Tree) :
    (Tree.union low first).Before (.union high second) :=
  ⟨[], low, high, first.choices, second.choices, lt, rfl, rfl⟩

end Before

end Tree

end LazyGrammar
