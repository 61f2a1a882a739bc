import LazyGrammar.Proofs.Derivations
import LazyGrammar.Proofs.Matching
import Mathlib.Tactic.MkIffOfInductiveProp

/-!
# Consumption

What a parse leaves is the end of the input. What cannot match without width leaves
less than there was: whether something can is told by any assignment that is closed
under the ways in which a part that matches without width lets the whole do so.
-/

set_option autoImplicit false

namespace LazyGrammar

/-- At the beginning of some input the pattern matches without width. -/
def Regex.Pattern.MatchesEmpty (pattern : Pattern) : Prop :=
  ∃ input, pattern.splitMatch? input = some ([], input)

/-- Everything that may match without width is nullable. More may be. -/
structure Rules.NullableClosed (rules : Rules) (nullable : Expr → Prop) : Prop where
  literal : nullable (.literal "")
  regex : ∀ pattern, pattern.MatchesEmpty → nullable (.regex pattern)
  seq : ∀ left right, nullable left → nullable right → nullable (.seq left right)
  union : ∀ alternatives, ∀ alternative ∈ alternatives,
    nullable alternative → nullable (.union alternatives)
  first : ∀ alternatives, ∀ alternative ∈ alternatives,
    nullable alternative → nullable (.first alternatives)
  many : ∀ inner, nullable (.many inner)
  many1 : ∀ inner, nullable inner → nullable (.many1 inner)
  opt : ∀ inner, nullable (.opt inner)
  map : ∀ inner transform, nullable inner → nullable (.map inner transform)
  full : ∀ inner, nullable inner → nullable (.full inner)
  rule : ∀ name definition, rules.get? name = some definition →
    nullable definition → nullable (.rule name)

namespace Rules

/-- The least assignment that is closed. -/
@[mk_iff nullable_iff]
inductive Nullable (rules : Rules) : Expr → Prop where
  | literal : Nullable rules (.literal "")
  | regex {pattern : Regex.Pattern} : pattern.MatchesEmpty → Nullable rules (.regex pattern)
  | seq {left right : Expr} :
      Nullable rules left → Nullable rules right → Nullable rules (.seq left right)
  | union {alternatives : List Expr} {alternative : Expr} :
      alternative ∈ alternatives → Nullable rules alternative → Nullable rules (.union alternatives)
  | first {alternatives : List Expr} {alternative : Expr} :
      alternative ∈ alternatives → Nullable rules alternative → Nullable rules (.first alternatives)
  | many {inner : Expr} : Nullable rules (.many inner)
  | many1 {inner : Expr} : Nullable rules inner → Nullable rules (.many1 inner)
  | opt {inner : Expr} : Nullable rules (.opt inner)
  | map {inner : Expr} {transform : Value → Value} :
      Nullable rules inner → Nullable rules (.map inner transform)
  | full {inner : Expr} : Nullable rules inner → Nullable rules (.full inner)
  | rule {name : String} {definition : Expr} :
      rules.get? name = some definition → Nullable rules definition → Nullable rules (.rule name)

namespace Nullable

variable {rules : Rules}

theorem closed (rules : Rules) : rules.NullableClosed rules.Nullable where
  literal := .literal
  regex _ matchesEmpty := .regex matchesEmpty
  seq _ _ left right := .seq left right
  union _ _ member inner := .union member inner
  first _ _ member inner := .first member inner
  many _ := .many
  many1 _ inner := .many1 inner
  opt _ := .opt
  map _ _ inner := .map inner
  full _ inner := .full inner
  rule _ _ found inner := .rule found inner

@[simp] theorem nullable_literal {text : String} :
    rules.Nullable (.literal text) ↔ text = "" := by
  rw [nullable_iff]
  simp

@[simp] theorem nullable_regex {pattern : Regex.Pattern} :
    rules.Nullable (.regex pattern) ↔ pattern.MatchesEmpty := by
  rw [nullable_iff]
  simp

@[simp] theorem not_nullable_oneOf {set : CharSet} : ¬ rules.Nullable (.oneOf set) := nofun

@[simp] theorem nullable_seq {left right : Expr} :
    rules.Nullable (.seq left right) ↔ rules.Nullable left ∧ rules.Nullable right := by
  rw [nullable_iff]
  simp

@[simp] theorem nullable_union {alternatives : List Expr} :
    rules.Nullable (.union alternatives) ↔
      ∃ alternative ∈ alternatives, rules.Nullable alternative := by
  rw [nullable_iff]
  simp

@[simp] theorem nullable_map {inner : Expr} {transform : Value → Value} :
    rules.Nullable (.map inner transform) ↔ rules.Nullable inner := by
  rw [nullable_iff]
  simp

theorem nullable_rule {name : String} {definition : Expr}
    (found : rules.get? name = some definition) :
    rules.Nullable (.rule name) ↔ rules.Nullable definition := by
  rw [nullable_iff]
  simp [found]

theorem least {nullable : Expr → Prop} (closed : rules.NullableClosed nullable) {expr : Expr}
    (isNullable : rules.Nullable expr) : nullable expr := by
  induction isNullable with
  | literal => exact closed.literal
  | regex matchesEmpty => exact closed.regex _ matchesEmpty
  | seq _ _ leftIH rightIH => exact closed.seq _ _ leftIH rightIH
  | union member _ ih => exact closed.union _ _ member ih
  | first member _ ih => exact closed.first _ _ member ih
  | many => exact closed.many _
  | many1 _ ih => exact closed.many1 _ ih
  | opt => exact closed.opt _
  | map _ ih => exact closed.map _ _ ih
  | full _ ih => exact closed.full _ ih
  | rule found _ ih => exact closed.rule _ _ found ih

end Nullable

end Rules

namespace Rules.Derives

variable {rules : Rules} {expr : Expr} {input : List Char} {parse : Parse}

theorem rest_suffix (derived : rules.Derives expr input parse) : parse.rest <:+ input := by
  induction derived with
  | literal => exact List.suffix_append _ _
  | regex split =>
      rw [← Regex.Pattern.matchesPrefixes _ split]
      exact List.suffix_append _ _
  | oneOf | noneOf => exact List.suffix_cons _ _
  | seq _ _ leftIH rightIH => exact rightIH.trans leftIH
  | manyNone | optNone => exact List.suffix_refl _
  | manyMore _ _ soFarIH nextIH => exact nextIH.trans soFarIH
  | many1 _ _ headIH restIH => exact restIH.trans headIH
  | union _ _ ih | first _ _ ih | opt _ ih | map _ ih | full _ _ ih | rule _ _ ih => exact ih

/-- A sequence consumes where one of its parts does, and so its parts are nullable together. -/
theorem rest_length_lt {nullable : Expr → Prop} (closed : rules.NullableClosed nullable)
    (derived : rules.Derives expr input parse) (solid : ¬ nullable expr) :
    parse.rest.length < input.length := by
  induction derived with
  | @literal text rest =>
      have nonempty : text.toList ≠ [] := by
        intro empty
        rw [String.toList_eq_nil_iff] at empty
        exact solid (empty ▸ closed.literal)
      have positive := List.length_pos_iff.mpr nonempty
      rw [List.length_append]
      exact Nat.lt_add_of_pos_left positive
  | @regex pattern input matched rest split =>
      have whole := Regex.Pattern.matchesPrefixes _ split
      have nonempty : matched ≠ [] := by
        intro empty
        subst empty whole
        exact solid (closed.regex pattern ⟨rest, split⟩)
      have positive := List.length_pos_iff.mpr nonempty
      rw [← whole, List.length_append]
      exact Nat.lt_add_of_pos_left positive
  | oneOf | noneOf => exact Nat.lt_succ_self _
  | @seq left right input first second leftDerived rightDerived leftIH rightIH =>
      have leftLe := leftDerived.rest_suffix.length_le
      have rightLe := rightDerived.rest_suffix.length_le
      by_cases leftNullable : nullable left
      · have rightLt := rightIH fun rightNullable =>
          solid (closed.seq left right leftNullable rightNullable)
        exact Nat.lt_of_lt_of_le rightLt leftLe
      · exact Nat.lt_of_le_of_lt rightLe (leftIH leftNullable)
  | union member _ ih => exact ih fun isNullable => solid (closed.union _ _ member isNullable)
  | first member _ ih => exact ih fun isNullable => solid (closed.first _ _ member isNullable)
  | manyNone | manyMore => exact (solid (closed.many _)).elim
  | many1 _ restDerived headIH _ =>
      have headLt := headIH fun isNullable => solid (closed.many1 _ isNullable)
      exact Nat.lt_of_le_of_lt restDerived.rest_suffix.length_le headLt
  | opt | optNone => exact (solid (closed.opt _)).elim
  | map _ ih => exact ih fun isNullable => solid (closed.map _ _ isNullable)
  | full _ _ ih => exact ih fun isNullable => solid (closed.full _ isNullable)
  | rule found _ ih => exact ih fun isNullable => solid (closed.rule _ _ found isNullable)

end Rules.Derives

end LazyGrammar
