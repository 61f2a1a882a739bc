import LazyGrammar.Grammar
import LazyGrammar.Proofs.Consumption
import Mathlib.Data.Fintype.Card
import Mathlib.Tactic.MkIffOfInductiveProp

/-!
# Progress

When a grammar cannot search for ever: no rule gets back to itself on its left,
where nothing need be consumed, and nothing that is repeated is nullable. Only bound
rules have left calls, so the calls are well-founded where they have no cycle.
-/

set_option autoImplicit false

namespace LazyGrammar

/-- A reference to the rule stands where nothing need be consumed before it. -/
@[mk_iff leftMentions_iff]
inductive Expr.LeftMentions (nullable : Expr → Prop) (name : String) : Expr → Prop where
  | rule : LeftMentions nullable name (.rule name)
  | seqLeft {left right : Expr} :
      LeftMentions nullable name left → LeftMentions nullable name (.seq left right)
  | seqRight {left right : Expr} :
      nullable left → LeftMentions nullable name right →
      LeftMentions nullable name (.seq left right)
  | union {alternatives : List Expr} {alternative : Expr} :
      alternative ∈ alternatives → LeftMentions nullable name alternative →
      LeftMentions nullable name (.union alternatives)
  | first {alternatives : List Expr} {alternative : Expr} :
      alternative ∈ alternatives → LeftMentions nullable name alternative →
      LeftMentions nullable name (.first alternatives)
  | many {inner : Expr} :
      LeftMentions nullable name inner → LeftMentions nullable name (.many inner)
  | many1 {inner : Expr} :
      LeftMentions nullable name inner → LeftMentions nullable name (.many1 inner)
  | opt {inner : Expr} :
      LeftMentions nullable name inner → LeftMentions nullable name (.opt inner)
  | map {inner : Expr} {transform : Value → Value} :
      LeftMentions nullable name inner → LeftMentions nullable name (.map inner transform)
  | full {inner : Expr} :
      LeftMentions nullable name inner → LeftMentions nullable name (.full inner)

/-- No nullable expression is repeated anywhere in the expression. -/
def Expr.BodiesConsume (nullable : Expr → Prop) (expr : Expr) : Prop :=
  ∀ inner, Part (.many inner) expr ∨ Part (.many1 inner) expr → ¬ nullable inner

/-- The definition of one rule mentions another one on its left. -/
def Rules.LeftCalls (rules : Rules) (nullable : Expr → Prop) (caller callee : String) : Prop :=
  ∃ definition, rules.get? caller = some definition ∧ definition.LeftMentions nullable callee

/-- The grammar makes progress: no rule calls itself on the left, directly or through others, and
no body of a repetition is nullable. -/
structure Grammar.Progresses (grammar : Grammar) (nullable : Expr → Prop) : Prop where
  closed : grammar.rules.NullableClosed nullable
  acyclic : ∀ name, ¬ Relation.TransGen (grammar.rules.LeftCalls nullable) name name
  start : grammar.start.BodiesConsume nullable
  definition : ∀ name definition, grammar.rules.get? name = some definition →
    definition.BodiesConsume nullable

namespace Expr

variable {nullable : Expr → Prop} {expr : Expr}

@[simp] theorem not_leftMentions_literal {text name : String} :
    ¬ (literal text).LeftMentions nullable name := nofun

@[simp] theorem not_leftMentions_regex {pattern : Regex.Pattern} {name : String} :
    ¬ (regex pattern).LeftMentions nullable name := nofun

@[simp] theorem not_leftMentions_oneOf {set : CharSet} {name : String} :
    ¬ (oneOf set).LeftMentions nullable name := nofun

@[simp] theorem leftMentions_seq {left right : Expr} {name : String} :
    (seq left right).LeftMentions nullable name ↔
      left.LeftMentions nullable name ∨ nullable left ∧ right.LeftMentions nullable name := by
  rw [leftMentions_iff]
  simp

@[simp] theorem leftMentions_union {alternatives : List Expr} {name : String} :
    (union alternatives).LeftMentions nullable name ↔
      ∃ alternative ∈ alternatives, alternative.LeftMentions nullable name := by
  rw [leftMentions_iff]
  simp

@[simp] theorem leftMentions_many {inner : Expr} {name : String} :
    (many inner).LeftMentions nullable name ↔ inner.LeftMentions nullable name := by
  rw [leftMentions_iff]
  simp

@[simp] theorem leftMentions_map {inner : Expr} {transform : Value → Value} {name : String} :
    (map inner transform).LeftMentions nullable name ↔ inner.LeftMentions nullable name := by
  rw [leftMentions_iff]
  simp

@[simp] theorem leftMentions_rule {name other : String} :
    (rule other).LeftMentions nullable name ↔ name = other := by
  rw [leftMentions_iff]
  simp [eq_comm]

theorem LeftMentions.mentions {name : String} (leftMentioned : expr.LeftMentions nullable name) :
    expr.Mentions name := by
  induction leftMentioned with
  | rule => exact mentions_rule.mpr rfl
  | seqLeft _ ih => exact .inside (by simp [children]) ih
  | seqRight _ _ ih => exact .inside (by simp [children]) ih
  | union member _ ih | first member _ ih => exact .inside member ih
  | many _ ih | many1 _ ih | opt _ ih | map _ ih | full _ ih =>
      exact .inside List.mem_cons_self ih

theorem BodiesConsume.child {part : Expr} (consume : expr.BodiesConsume nullable)
    (member : part ∈ expr.children) : part.BodiesConsume nullable := by
  intro inner repeated
  exact consume inner (repeated.imp (.inside member) (.inside member))

theorem bodiesConsume_iff :
    expr.BodiesConsume nullable ↔
      (∀ inner, expr = .many inner ∨ expr = .many1 inner → ¬ nullable inner) ∧
        ∀ part ∈ expr.children, part.BodiesConsume nullable := by
  constructor
  · intro consume
    refine ⟨fun inner repeated => consume inner ?_, fun part member => consume.child member⟩
    cases repeated with
    | inl same => exact .inl (same ▸ .whole)
    | inr same => exact .inr (same ▸ .whole)
  · intro consume inner repeated
    obtain ⟨body, parts⟩ := consume
    rw [@part_iff _ expr, @part_iff _ expr] at repeated
    rcases repeated with (same | ⟨part, member, deeper⟩) | (same | ⟨part, member, deeper⟩)
    · exact body inner (.inl same.symm)
    · exact parts part member inner (.inl deeper)
    · exact body inner (.inr same.symm)
    · exact parts part member inner (.inr deeper)

@[simp] theorem bodiesConsume_literal {text : String} :
    (literal text).BodiesConsume nullable := by
  rw [bodiesConsume_iff]
  simp [children]

@[simp] theorem bodiesConsume_regex {pattern : Regex.Pattern} :
    (regex pattern).BodiesConsume nullable := by
  rw [bodiesConsume_iff]
  simp [children]

@[simp] theorem bodiesConsume_oneOf {set : CharSet} : (oneOf set).BodiesConsume nullable := by
  rw [bodiesConsume_iff]
  simp [children]

@[simp] theorem bodiesConsume_seq {left right : Expr} :
    (seq left right).BodiesConsume nullable ↔
      left.BodiesConsume nullable ∧ right.BodiesConsume nullable := by
  rw [bodiesConsume_iff]
  simp [children]

@[simp] theorem bodiesConsume_union {alternatives : List Expr} :
    (union alternatives).BodiesConsume nullable ↔
      ∀ alternative ∈ alternatives, alternative.BodiesConsume nullable := by
  rw [bodiesConsume_iff]
  simp [children]

@[simp] theorem bodiesConsume_many {inner : Expr} :
    (many inner).BodiesConsume nullable ↔ ¬ nullable inner ∧ inner.BodiesConsume nullable := by
  rw [bodiesConsume_iff]
  simp [children]

@[simp] theorem bodiesConsume_map {inner : Expr} {transform : Value → Value} :
    (map inner transform).BodiesConsume nullable ↔ inner.BodiesConsume nullable := by
  rw [bodiesConsume_iff]
  simp [children]

@[simp] theorem bodiesConsume_rule {name : String} : (rule name).BodiesConsume nullable := by
  rw [bodiesConsume_iff]
  simp [children]

theorem BodiesConsume.many {inner : Expr} (consume : (many inner).BodiesConsume nullable) :
    ¬ nullable inner := consume inner (.inl .whole)

theorem BodiesConsume.many1 {inner : Expr} (consume : (many1 inner).BodiesConsume nullable) :
    ¬ nullable inner := consume inner (.inr .whole)

end Expr

namespace Grammar

variable {grammar : Grammar} {nullable : Expr → Prop}

/-- Only bound rules call, and there are finitely many of them. -/
theorem Progresses.wellFounded (progresses : grammar.Progresses nullable) :
    WellFounded fun callee caller : { name : String // name ∈ grammar.rules.names } =>
      Relation.TransGen (grammar.rules.LeftCalls nullable) caller.1 callee.1 := by
  let below (callee caller : { name : String // name ∈ grammar.rules.names }) : Prop :=
    Relation.TransGen (grammar.rules.LeftCalls nullable) caller.1 callee.1
  have : IsTrans _ below := ⟨fun _ _ _ first second => second.trans first⟩
  have : Std.Irrefl below := ⟨fun name => progresses.acyclic name.1⟩
  exact Finite.wellFounded_of_trans_of_irrefl below

end Grammar

end LazyGrammar
