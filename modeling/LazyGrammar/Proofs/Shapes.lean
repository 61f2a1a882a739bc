import LazyGrammar.Proofs.Derivations

/-!
# Shapes of values

The values that an expression may have, told by the expression and the definitions of
the rules, without any input. A matcher gives a text or a character, a sequence a pair,
and a repetition or an optional part a list of values that the part in it may have. A
choice may have what one of its alternatives may have, and a transform anything that it
makes of what stands below it. Whatever is pulled has a value that fits in this way.
-/

set_option autoImplicit false

namespace LazyGrammar.Rules

inductive Fits (rules : Rules) : Expr → Value → Prop where
  | literal {text : String} : Fits rules (.literal text) (.text text)
  | regex {pattern : Regex.Pattern} {matched : String} :
      Fits rules (.regex pattern) (.text matched)
  | oneOf {set : CharSet} {c : Char} : c ∈ set → Fits rules (.oneOf set) (.char c)
  | noneOf {set : CharSet} {c : Char} : c ∉ set → Fits rules (.noneOf set) (.char c)
  | seq {left right : Expr} {first second : Value} :
      Fits rules left first → Fits rules right second →
      Fits rules (.seq left right) (.pair first second)
  | union {alternatives : List Expr} {alternative : Expr} {value : Value} :
      alternative ∈ alternatives → Fits rules alternative value →
      Fits rules (.union alternatives) value
  | first {alternatives : List Expr} {alternative : Expr} {value : Value} :
      alternative ∈ alternatives → Fits rules alternative value →
      Fits rules (.first alternatives) value
  | many {inner : Expr} {items : List Value} :
      (∀ item ∈ items, Fits rules inner item) → Fits rules (.many inner) (.list items)
  | many1 {inner : Expr} {items : List Value} :
      (∀ item ∈ items, Fits rules inner item) → 1 ≤ items.length →
      Fits rules (.many1 inner) (.list items)
  | opt {inner : Expr} {items : List Value} :
      (∀ item ∈ items, Fits rules inner item) → items.length ≤ 1 →
      Fits rules (.opt inner) (.list items)
  | map {inner : Expr} {transform : Value → Value} {value : Value} :
      Fits rules inner value → Fits rules (.map inner transform) (transform value)
  | full {inner : Expr} {value : Value} :
      Fits rules inner value → Fits rules (.full inner) value
  | rule {name : String} {definition : Expr} {value : Value} :
      rules.get? name = some definition → Fits rules definition value →
      Fits rules (.rule name) value

variable {rules : Rules} {expr inner : Expr} {input : List Char} {parse : Parse}

theorem fits_many_iff {items : List Value} :
    rules.Fits (.many inner) (.list items) ↔ ∀ item ∈ items, rules.Fits inner item := by
  constructor
  · intro fits
    cases fits with
    | many each => exact each
  · exact .many

/-- A repetition grows at the end, and one that must not be empty has its first value in front of a
repetition. -/
theorem Derives.fits (derived : rules.Derives expr input parse) :
    rules.Fits expr parse.value := by
  induction derived with
  | literal => exact .literal
  | regex => exact .regex
  | oneOf member => exact .oneOf member
  | noneOf missing => exact .noneOf missing
  | seq _ _ leftIH rightIH => exact .seq leftIH rightIH
  | union member _ ih => exact .union member ih
  | first member _ ih => exact .first member ih
  | manyNone => exact .many nofun
  | manyMore _ _ soFarIH nextIH =>
      have soFar := fits_many_iff.mp soFarIH
      refine .many fun item member => ?_
      rcases List.mem_append.mp member with before | last
      · exact soFar item before
      · exact List.mem_singleton.mp last ▸ nextIH
  | many1 _ _ headIH restIH =>
      have rest := fits_many_iff.mp restIH
      exact .many1 (List.forall_mem_cons.mpr ⟨headIH, rest⟩) (Nat.le_add_left 1 _)
  | opt _ ih => exact .opt (List.forall_mem_singleton.mpr ih) (Nat.le_refl 1)
  | optNone => exact .opt nofun (Nat.zero_le 1)
  | map _ ih => exact .map ih
  | full _ _ ih => exact .full ih
  | rule bound _ ih => exact .rule bound ih

/-- The value of whatever is pulled has the shape that the expression promises, no matter how often
is pulled and whether or not there is an end. -/
theorem pulled_fits (rules : Rules) (expr : Expr) (fuel limit : Nat) (input : List Char) :
    ∀ parse ∈ ((rules.cursor fuel expr input).pullUpTo limit).1,
      rules.Fits expr parse.value :=
  fun _ pulled => (derives_of_pulled pulled).fits

/-- Trees as they are written: what stands at the root, if anything, and the trees below it. -/
def trees : Rules :=
  empty.define "tree" (.seq (.opt (.noneOf (.ofText "()")))
    (.many (.right (.literal "(") (.left (.rule "tree") (.literal ")")))))

def tree (root : Option Char) (below : List Value) : Value :=
  .pair (.list (root.map Value.char).toList) (.list below)

theorem pulled_fits_trees :
    (⟨tree (some 'a') [tree (some 'ñ') [tree none []], tree none []], ['!']⟩ : Parse) ∈
      ((trees.cursor 4 (.rule "tree") "a(ñ())()!".toList).pullUpTo 1).1 ∧
    trees.Fits (.rule "tree") (tree (some 'a') [tree (some 'ñ') [tree none []], tree none []]) := by
  have pulled : (⟨tree (some 'a') [tree (some 'ñ') [tree none []], tree none []], ['!']⟩ : Parse) ∈
      ((trees.cursor 4 (.rule "tree") "a(ñ())()!".toList).pullUpTo 1).1 := by decide
  exact ⟨pulled, pulled_fits trees (.rule "tree") 4 1 "a(ñ())()!".toList _ pulled⟩

/-- Two roots do not fit. -/
example : ¬ trees.Fits (.opt (.noneOf (.ofText "()"))) (.list [.char 'a', .char 'b']) := by
  intro fits
  cases fits with
  | opt _ short => exact absurd short (by decide)

end LazyGrammar.Rules
