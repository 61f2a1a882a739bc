import LazyGrammar.Expr.Basic
import Mathlib.Data.List.Forall2

/-!
# Parts of expressions

Induction over expressions with a premise for every alternative of a choice, the
expressions at any depth inside another, the names that occur there, and expressions
that differ in some parts. Parts are those of the text of an expression: rules are
not followed.
-/

set_option autoImplicit false

namespace LazyGrammar.Expr

@[elab_as_elim, induction_eliminator]
theorem inductionOn {motive : Expr → Prop}
    (literal : ∀ text, motive (.literal text))
    (regex : ∀ pattern, motive (.regex pattern))
    (oneOf : ∀ set, motive (.oneOf set))
    (noneOf : ∀ set, motive (.noneOf set))
    (seq : ∀ left right, motive left → motive right → motive (.seq left right))
    (union : ∀ alternatives, (∀ alternative ∈ alternatives, motive alternative) →
      motive (.union alternatives))
    (first : ∀ alternatives, (∀ alternative ∈ alternatives, motive alternative) →
      motive (.first alternatives))
    (many : ∀ inner, motive inner → motive (.many inner))
    (many1 : ∀ inner, motive inner → motive (.many1 inner))
    (opt : ∀ inner, motive inner → motive (.opt inner))
    (map : ∀ inner transform, motive inner → motive (.map inner transform))
    (full : ∀ inner, motive inner → motive (.full inner))
    (rule : ∀ name, motive (.rule name)) (expr : Expr) : motive expr :=
  @Expr.rec motive (fun alternatives => ∀ alternative ∈ alternatives, motive alternative)
    literal regex oneOf noneOf seq union first many many1 opt map full rule
    (fun _ member => (List.not_mem_nil member).elim)
    (fun _ _ head tail alternative member =>
      (List.mem_cons.mp member).elim (fun same => same ▸ head) (tail alternative))
    expr

def children : Expr → List Expr
  | .literal _ | .regex _ | .oneOf _ | .noneOf _ | .rule _ => []
  | .seq left right => [left, right]
  | .union alternatives | .first alternatives => alternatives
  | .many inner | .many1 inner | .opt inner | .map inner _ | .full inner => [inner]

/-- An expression at any depth inside a whole one, which counts as inside itself. -/
inductive Part (part : Expr) : Expr → Prop where
  | whole : Part part part
  | inside {child whole : Expr} : child ∈ whole.children → Part part child → Part part whole

theorem part_iff {part whole : Expr} :
    part.Part whole ↔ part = whole ∨ ∃ child ∈ whole.children, part.Part child := by
  constructor
  · intro inside
    cases inside with
    | whole => exact .inl rfl
    | inside member deeper => exact .inr ⟨_, member, deeper⟩
  · intro either
    rcases either with rfl | ⟨child, member, deeper⟩
    · exact .whole
    · exact .inside member deeper

/-- What differs from the whole expression stands inside one that is directly inside it. -/
theorem part_iff_of_ne {part whole : Expr} (differ : part ≠ whole) :
    part.Part whole ↔ ∃ child ∈ whole.children, part.Part child := by
  rw [part_iff]
  exact or_iff_right differ

theorem part_map_iff {part inner : Expr} {transform : Value → Value} :
    part.Part (.map inner transform) ↔ part = .map inner transform ∨ part.Part inner := by
  rw [part_iff]
  simp [children]

/-- A reference to the rule stands somewhere in the expression. -/
def Mentions (expr : Expr) (name : String) : Prop := Part (.rule name) expr

/-- What holds of all names that an expression mentions holds of those that a child mentions. -/
theorem forall_mentions_child {child expr : Expr} {holds : String → Prop}
    (member : child ∈ expr.children) (all : ∀ name, expr.Mentions name → holds name) :
    ∀ name, child.Mentions name → holds name := by
  intro name mentioned
  exact all name (.inside member mentioned)

@[simp] theorem mentions_rule {name other : String} :
    (rule other).Mentions name ↔ name = other := by
  rw [Mentions, part_iff]
  simp [children]

/-- What is no reference itself mentions what the expressions directly inside it mention. -/
theorem mentions_iff_of_ne_rule {expr : Expr} {name : String} (noRule : expr ≠ .rule name) :
    expr.Mentions name ↔ ∃ child ∈ expr.children, child.Mentions name :=
  part_iff_of_ne noRule.symm

/-!
## Changed parts
-/

/-- Expressions that are the same up to some parts, each of which is changed as a whole. Choices
are compared alternative by alternative. -/
inductive SameButFor (changes : Expr → Expr → Prop) : Expr → Expr → Prop where
  | change {part twin : Expr} : changes part twin → SameButFor changes part twin
  | literal {text : String} : SameButFor changes (.literal text) (.literal text)
  | regex {pattern : Regex.Pattern} : SameButFor changes (.regex pattern) (.regex pattern)
  | oneOf {set : CharSet} : SameButFor changes (.oneOf set) (.oneOf set)
  | noneOf {set : CharSet} : SameButFor changes (.noneOf set) (.noneOf set)
  | seq {left right leftTwin rightTwin : Expr} : SameButFor changes left leftTwin →
      SameButFor changes right rightTwin →
      SameButFor changes (.seq left right) (.seq leftTwin rightTwin)
  | union {alternatives twins : List Expr} : alternatives.length = twins.length →
      (∀ {alternative twin : Expr}, (alternative, twin) ∈ alternatives.zip twins →
        SameButFor changes alternative twin) →
      SameButFor changes (.union alternatives) (.union twins)
  | first {alternatives twins : List Expr} : alternatives.length = twins.length →
      (∀ {alternative twin : Expr}, (alternative, twin) ∈ alternatives.zip twins →
        SameButFor changes alternative twin) →
      SameButFor changes (.first alternatives) (.first twins)
  | many {inner twin : Expr} : SameButFor changes inner twin →
      SameButFor changes (.many inner) (.many twin)
  | many1 {inner twin : Expr} : SameButFor changes inner twin →
      SameButFor changes (.many1 inner) (.many1 twin)
  | opt {inner twin : Expr} : SameButFor changes inner twin →
      SameButFor changes (.opt inner) (.opt twin)
  | map {inner twin : Expr} {transform : Value → Value} : SameButFor changes inner twin →
      SameButFor changes (.map inner transform) (.map twin transform)
  | full {inner twin : Expr} : SameButFor changes inner twin →
      SameButFor changes (.full inner) (.full twin)
  | rule {name : String} : SameButFor changes (.rule name) (.rule name)

namespace SameButFor

variable {changes : Expr → Expr → Prop}

theorem unionOf {alternatives twins : List Expr}
    (each : List.Forall₂ (SameButFor changes) alternatives twins) :
    SameButFor changes (.union alternatives) (.union twins) :=
  .union each.length_eq (List.forall₂_iff_zip.mp each).2

theorem firstOf {alternatives twins : List Expr}
    (each : List.Forall₂ (SameButFor changes) alternatives twins) :
    SameButFor changes (.first alternatives) (.first twins) :=
  .first each.length_eq (List.forall₂_iff_zip.mp each).2

theorem refl (expr : Expr) : expr.SameButFor changes expr := by
  induction expr with
  | literal => exact .literal
  | regex => exact .regex
  | oneOf => exact .oneOf
  | noneOf => exact .noneOf
  | seq _ _ left right => exact .seq left right
  | union _ each => exact .unionOf (List.forall₂_same.mpr each)
  | first _ each => exact .firstOf (List.forall₂_same.mpr each)
  | many _ inside => exact .many inside
  | many1 _ inside => exact .many1 inside
  | opt _ inside => exact .opt inside
  | map _ _ inside => exact .map inside
  | full _ inside => exact .full inside
  | rule => exact .rule

theorem flip {expr twin : Expr} (same : expr.SameButFor changes twin) :
    twin.SameButFor (fun twin part => changes part twin) expr := by
  induction same with
  | change changed => exact .change changed
  | literal => exact .literal
  | regex => exact .regex
  | oneOf => exact .oneOf
  | noneOf => exact .noneOf
  | seq _ _ left right => exact .seq left right
  | union lengths _ each => exact .unionOf (List.forall₂_iff_zip.mpr ⟨lengths, each⟩).flip
  | first lengths _ each => exact .firstOf (List.forall₂_iff_zip.mpr ⟨lengths, each⟩).flip
  | many _ inside => exact .many inside
  | many1 _ inside => exact .many1 inside
  | opt _ inside => exact .opt inside
  | map _ inside => exact .map inside
  | full _ inside => exact .full inside
  | rule => exact .rule

private theorem mentions_of_zip {alternatives twins : List Expr} {name : String} {added : Prop}
    (lengths : alternatives.length = twins.length)
    (each : ∀ {alternative twin : Expr}, (alternative, twin) ∈ alternatives.zip twins →
      twin.Mentions name → alternative.Mentions name ∨ added)
    (mentioned : ∃ twin ∈ twins, twin.Mentions name) :
    (∃ alternative ∈ alternatives, alternative.Mentions name) ∨ added := by
  obtain ⟨twin, member, inTwin⟩ := mentioned
  rw [← List.map_snd_zip (Nat.le_of_eq lengths.symm), List.mem_map] at member
  obtain ⟨⟨alternative, _⟩, paired, rfl⟩ := member
  exact (each paired inTwin).imp_left fun before =>
    ⟨alternative, (List.of_mem_zip paired).1, before⟩

/-- A name that is mentioned after the changes was mentioned before them, or is in what one of them
puts in. -/
theorem mentions {expr twin : Expr} {name : String} (same : expr.SameButFor changes twin)
    (mentioned : twin.Mentions name) :
    expr.Mentions name ∨ ∃ part other, changes part other ∧ other.Mentions name := by
  induction same with
  | change changed => exact .inr ⟨_, _, changed, mentioned⟩
  | literal | regex | oneOf | noneOf | rule => exact .inl mentioned
  | seq _ _ left right =>
      simp only [mentions_iff_of_ne_rule, ne_eq, reduceCtorEq, not_false_eq_true, children,
        List.mem_pair, exists_eq_or_imp, exists_eq_left] at mentioned ⊢
      rcases mentioned with inLeft | inRight
      · exact (left inLeft).imp_left .inl
      · exact (right inRight).imp_left .inr
  | union lengths _ each | first lengths _ each =>
      simp only [mentions_iff_of_ne_rule, ne_eq, reduceCtorEq, not_false_eq_true, children]
        at mentioned ⊢
      exact mentions_of_zip lengths each mentioned
  | many _ inside | many1 _ inside | opt _ inside | map _ inside | full _ inside =>
      simp only [mentions_iff_of_ne_rule, ne_eq, reduceCtorEq, not_false_eq_true, children,
        List.mem_singleton, exists_eq_left] at mentioned ⊢
      exact inside mentioned

end SameButFor

end LazyGrammar.Expr
