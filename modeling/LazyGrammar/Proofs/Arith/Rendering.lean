import LazyGrammar.Proofs.Arith.Evaluation

/-!
# Rendering

A formula is rendered with white space behind its tokens and with parentheses at least
where the grouping of operators needs them: around sums on the left of an operator or in
a product, and around products on the left of a product. Every such rendering is read as
the formula, and so neither white space nor further parentheses change its value.
-/

set_option autoImplicit false

namespace LazyGrammar.Arith

structure Gap where
  chars : List Char
  blank : ∀ c ∈ chars, Blank c

def Gap.none : Gap := ⟨[], nofun⟩

def Gap.single (c : Char) (blank : Blank c) : Gap := ⟨[c], List.forall_mem_singleton.mpr blank⟩

/-- A formula as it is written down: with parentheses, and the white space behind every token. -/
inductive Rendering where
  | number (numeral : Numeral) (gap : Gap)
  | operation (op : Operator) (left : Rendering) (gap : Gap) (right : Rendering)
  | parentheses (gap : Gap) (inner : Rendering) (after : Gap)

namespace Operator

def isSum : Operator → Bool
  | plus | minus => true
  | times | divide => false

def isProduct : Operator → Bool
  | times | divide => true
  | plus | minus => false

private theorem isSum_iff {op : Operator} : op.isSum = true ↔ op = .plus ∨ op = .minus := by
  cases op <;> simp [isSum]

private theorem isProduct_iff {op : Operator} :
    op.isProduct = true ↔ op = .times ∨ op = .divide := by
  cases op <;> simp [isProduct]

private theorem isSum_or_isProduct (op : Operator) : op.isSum = true ∨ op.isProduct = true := by
  cases op <;> simp [isSum, isProduct]

/-- Whether the left operand must be in parentheses if it is an operation. -/
def enclosesLeft (op inner : Operator) : Bool := inner.isSum || (inner.isProduct && op.isProduct)

private theorem enclosesLeft_of_isProduct {op : Operator} (product : op.isProduct = true)
    (inner : Operator) : op.enclosesLeft inner = true := by
  rw [enclosesLeft, product, Bool.and_true, Bool.or_eq_true]
  exact inner.isSum_or_isProduct

/-- Whether the right operand must be in parentheses if it is an operation. -/
def enclosesRight (op inner : Operator) : Bool := inner.isSum && op.isProduct

end Operator

namespace Rendering

def text : Rendering → List Char
  | number numeral gap => numeral.digits ++ gap.chars
  | operation op left gap right => left.text ++ op.symbol :: (gap.chars ++ right.text)
  | parentheses gap inner after => '(' :: (gap.chars ++ inner.text) ++ ')' :: after.chars

def formula : Rendering → Formula
  | number numeral _ => .number numeral
  | operation op left _ right => .operation op left.formula right.formula
  | parentheses _ inner _ => inner.formula

/-- The operator that is not inside of parentheses, nor in an operand. -/
def bare? : Rendering → Option Operator
  | operation op _ _ _ => some op
  | number _ _ | parentheses _ _ _ => none

/-- Parentheses are at least where they are needed. -/
inductive Sufficient : Rendering → Prop where
  | number {numeral : Numeral} {gap : Gap} : Sufficient (.number numeral gap)
  | operation {op : Operator} {left right : Rendering} {gap : Gap} :
      Sufficient left → Sufficient right →
      (∀ inner ∈ left.bare?, op.enclosesLeft inner = false) →
      (∀ inner ∈ right.bare?, op.enclosesRight inner = false) →
      Sufficient (.operation op left gap right)
  | parentheses {gap after : Gap} {inner : Rendering} :
      Sufficient inner → Sufficient (.parentheses gap inner after)

/-- The text is an expression, and also a term or an atom unless an operator on the outside forbids
it. -/
structure Stands (rendering : Rendering) : Prop where
  expr : Denotes .expr rendering.text rendering.formula
  term : (∀ op ∈ rendering.bare?, op.isSum = false) →
    Denotes .term rendering.text rendering.formula
  atom : rendering.bare? = none → Denotes .atom rendering.text rendering.formula

namespace Stands

private theorem of_atom {rendering : Rendering}
    (denotes : Denotes .atom rendering.text rendering.formula) : rendering.Stands where
  expr := .term (.atom denotes)
  term _ := .atom denotes
  atom _ := denotes

private theorem of_sum {op : Operator} {left right : Rendering} {gap : Gap} (sum : op.isSum = true)
    (leftStands : left.Stands) (rightStands : right.Stands)
    (enclosed : ∀ inner ∈ left.bare?, op.enclosesLeft inner = false) :
    (operation op left gap right).Stands where
  expr := by
    refine .sum (Operator.isSum_iff.mp sum) (leftStands.term fun inner bare => ?_) gap.blank
      rightStands.expr
    have notEnclosed := enclosed inner bare
    rw [Operator.enclosesLeft, Bool.or_eq_false_iff] at notEnclosed
    exact notEnclosed.1
  term noSum := by
    have forbidden := noSum op rfl
    rw [sum] at forbidden
    cases forbidden
  atom none := by cases none

private theorem of_product {op : Operator} {left right : Rendering} {gap : Gap}
    (product : op.isProduct = true) (leftStands : left.Stands) (rightStands : right.Stands)
    (enclosed : ∀ inner ∈ left.bare?, op.enclosesLeft inner = false)
    (rightEnclosed : ∀ inner ∈ right.bare?, op.enclosesRight inner = false) :
    (operation op left gap right).Stands := by
  have denotes : Denotes .term (operation op left gap right).text
      (operation op left gap right).formula := by
    refine .product (Operator.isProduct_iff.mp product) (leftStands.atom ?_) gap.blank
      (rightStands.term fun inner bare => ?_)
    · refine Option.eq_none_iff_forall_not_mem.mpr fun inner bare => ?_
      have notEnclosed := enclosed inner bare
      rw [Operator.enclosesLeft_of_isProduct product] at notEnclosed
      cases notEnclosed
    · have notEnclosed := rightEnclosed inner bare
      rwa [Operator.enclosesRight, product, Bool.and_true] at notEnclosed
  exact ⟨.term denotes, fun _ => denotes, nofun⟩

end Stands

theorem Sufficient.stands {rendering : Rendering} (sufficient : rendering.Sufficient) :
    rendering.Stands := by
  induction sufficient with
  | number => exact .of_atom (.number (Gap.blank _))
  | @operation op _ _ _ _ _ enclosed rightEnclosed leftIH rightIH =>
      rcases op.isSum_or_isProduct with sum | product
      · exact .of_sum sum leftIH rightIH enclosed
      · exact .of_product product leftIH rightIH enclosed rightEnclosed
  | parentheses _ ih => exact .of_atom (.parentheses (Gap.blank _) ih.expr (Gap.blank _))

/-!
## Renderings without further parentheses
-/

def enclosedIf (rendering : Rendering) (needed : Operator → Bool) : Rendering :=
  if rendering.bare?.any needed then .parentheses .none rendering .none else rendering

variable {rendering : Rendering} {needed : Operator → Bool}

private theorem formula_enclosedIf : (rendering.enclosedIf needed).formula = rendering.formula := by
  rw [enclosedIf]
  split <;> rfl

private theorem Sufficient.enclosedIf (sufficient : rendering.Sufficient) :
    (rendering.enclosedIf needed).Sufficient := by
  rw [Rendering.enclosedIf]
  split
  · exact .parentheses sufficient
  · exact sufficient

private theorem not_needed_of_bare :
    ∀ op ∈ (rendering.enclosedIf needed).bare?, needed op = false := by
  intro op bare
  rw [enclosedIf] at bare
  split at bare
  next => cases bare
  next unneeded =>
    rw [Option.mem_def.mp bare, Option.any_some] at unneeded
    exact Bool.eq_false_iff.mpr unneeded

end Rendering

namespace Formula

/-- The formula with no more parentheses than are needed, and without white space. -/
def rendering : Formula → Rendering
  | .number numeral => .number numeral .none
  | .operation op lhs rhs =>
      .operation op (lhs.rendering.enclosedIf op.enclosesLeft) .none
        (rhs.rendering.enclosedIf op.enclosesRight)

theorem sufficient_rendering (formula : Formula) : formula.rendering.Sufficient := by
  induction formula with
  | number => exact .number
  | operation op lhs rhs lhsIH rhsIH =>
      exact .operation lhsIH.enclosedIf rhsIH.enclosedIf Rendering.not_needed_of_bare
        Rendering.not_needed_of_bare

theorem formula_rendering (formula : Formula) : formula.rendering.formula = formula := by
  induction formula with
  | number => rfl
  | operation op lhs rhs lhsIH rhsIH =>
      rw [rendering, Rendering.formula, Rendering.formula_enclosedIf, Rendering.formula_enclosedIf,
        lhsIH, rhsIH]

end Formula

/-- Every formula has a rendering with enough parentheses. Each one that it has is parsed as the
tree of the formula, with any white space before it, and so it evaluates to the value of that tree,
whatever the white space and however many more parentheses there are than needed. -/
theorem parse_inverts_rendering (formula : Formula) :
    (formula.rendering.Sufficient ∧ formula.rendering.formula = formula) ∧
    ∀ (rendering : Rendering) (gap : Gap), rendering.Sufficient → rendering.formula = formula →
      parse (String.ofList (gap.chars ++ rendering.text)) = .ok formula.tree ∧
      evaluate (String.ofList (gap.chars ++ rendering.text)) = valueOf formula.tree := by
  refine ⟨⟨formula.sufficient_rendering, formula.formula_rendering⟩, ?_⟩
  intro rendering gap sufficient same
  have parsed : parse (String.ofList (gap.chars ++ rendering.text)) = .ok formula.tree := by
    rw [parse_eq_ok_iff, String.toList_ofList]
    exact ⟨gap.chars, _, formula, rfl, gap.blank, same ▸ sufficient.stands.expr, rfl⟩
  exact ⟨parsed, evaluate_of_parse_ok parsed⟩

/-- Of its parentheses, only those around the difference are needed. -/
def spacedProduct : Rendering :=
  .operation .times
    (.parentheses (.single ' ' (by simp [Blank]))
      (.operation .minus
        (.parentheses .none (.number .zero .none) (.single ' ' (by simp [Blank]))) .none
        (.number .one (.single '\t' (by simp [Blank])))) (.single '\n' (by simp [Blank]))) .none
    (.operation .divide (.number .zero .none) (.single '\x0B' (by simp [Blank]))
      (.parentheses .none (.number .one .none) .none))

private theorem sufficient_spacedProduct : spacedProduct.Sufficient := by
  refine .operation (.parentheses (.operation (.parentheses .number) .number ?_ ?_))
    (.operation .number (.parentheses .number) ?_ ?_) ?_ ?_
  all_goals simp [Rendering.bare?, Operator.enclosesRight, Operator.isSum]

theorem parse_inverts_rendering_spacedProduct :
    spacedProduct.Sufficient ∧
    parse "\r( (0) -1\t)\n*0/\x0B(1)" = .ok (.list [.text "*",
      .list [.text "-", .text "0", .text "1"], .list [.text "/", .text "0", .text "1"]]) ∧
    evaluate "\r( (0) -1\t)\n*0/\x0B(1)" = .ok 0 := by
  obtain ⟨parsed, value⟩ := (parse_inverts_rendering spacedProduct.formula).2 spacedProduct
    (.single '\r' (by simp [Blank])) sufficient_spacedProduct rfl
  exact ⟨sufficient_spacedProduct, parsed, value.trans rfl⟩

end LazyGrammar.Arith
