import LazyGrammar.Value

/-!
# The language of arithmetic

What an arithmetic expression is, apart from any parser: formulas, the texts that
stand for them, and the trees that they are read as.

    expr ::= term '+' expr | term '-' expr | term
    term ::= atom '*' term | atom '/' term | atom
    atom ::= [0-9]+ | '(' expr ')'

Every token may be followed by white space. Parentheses leave no trace in a formula.
-/

set_option autoImplicit false

namespace LazyGrammar.Arith

inductive Operator where
  | plus
  | minus
  | times
  | divide
  deriving DecidableEq

namespace Operator

def symbol : Operator → Char
  | plus => '+'
  | minus => '-'
  | times => '*'
  | divide => '/'

def text : Operator → String
  | plus => "+"
  | minus => "-"
  | times => "*"
  | divide => "/"

theorem text_toList (op : Operator) : op.text.toList = [op.symbol] := by
  cases op <;> rfl

theorem symbol_injective {op other : Operator} (same : op.symbol = other.symbol) :
    op = other := by
  cases op <;> cases other <;> cases same <;> rfl

end Operator

/-- A number as it is written, which may begin with zeros. -/
structure Numeral where
  digits : List Char
  nonempty : digits ≠ []
  decimal : ∀ c ∈ digits, c.isDigit = true

inductive Formula where
  | number (numeral : Numeral)
  | operation (op : Operator) (lhs rhs : Formula)

/-- Operators stand first in a list with their operands, and numbers are texts. -/
def Formula.tree : Formula → Value
  | .number numeral => .text (String.ofList numeral.digits)
  | .operation op lhs rhs => .list [.text op.text, lhs.tree, rhs.tree]

/-- White space: blanks, tabs, line feeds, carriage returns and vertical tabs. -/
def Blank (c : Char) : Prop := c ∈ [' ', '\t', '\n', '\r', '\x0B']

inductive Category where
  | expr
  | term
  | atom

/-- The text stands for the formula, and begins with a token. -/
inductive Denotes : Category → List Char → Formula → Prop where
  | sum {op : Operator} {left gap right : List Char} {lhs rhs : Formula} :
      op = .plus ∨ op = .minus → Denotes .term left lhs → (∀ c ∈ gap, Blank c) →
      Denotes .expr right rhs →
      Denotes .expr (left ++ op.symbol :: (gap ++ right)) (.operation op lhs rhs)
  | term {text : List Char} {formula : Formula} :
      Denotes .term text formula → Denotes .expr text formula
  | product {op : Operator} {left gap right : List Char} {lhs rhs : Formula} :
      op = .times ∨ op = .divide → Denotes .atom left lhs → (∀ c ∈ gap, Blank c) →
      Denotes .term right rhs →
      Denotes .term (left ++ op.symbol :: (gap ++ right)) (.operation op lhs rhs)
  | atom {text : List Char} {formula : Formula} :
      Denotes .atom text formula → Denotes .term text formula
  | number {numeral : Numeral} {gap : List Char} :
      (∀ c ∈ gap, Blank c) → Denotes .atom (numeral.digits ++ gap) (.number numeral)
  | parentheses {gap inner after : List Char} {formula : Formula} :
      (∀ c ∈ gap, Blank c) → Denotes .expr inner formula → (∀ c ∈ after, Blank c) →
      Denotes .atom ('(' :: (gap ++ inner) ++ ')' :: after) formula

/-- White space, and then an expression that is read as the tree. -/
def Reads (source : List Char) (tree : Value) : Prop :=
  ∃ gap text formula, source = gap ++ text ∧ (∀ c ∈ gap, Blank c) ∧
    Denotes .expr text formula ∧ tree = formula.tree

/-- A token begins with a digit or an opening parenthesis, if it begins an expression. -/
theorem Denotes.begins {category : Category} {text : List Char} {formula : Formula}
    (denotes : Denotes category text formula) :
    ∃ c rest, text = c :: rest ∧ (c.isDigit = true ∨ c = '(') := by
  induction denotes with
  | sum _ _ _ _ ih _ | product _ _ _ _ ih _ =>
      obtain ⟨c, rest, rfl, begins⟩ := ih
      exact ⟨c, _, rfl, begins⟩
  | term _ ih | atom _ ih => exact ih
  | @number numeral gap _ =>
      obtain ⟨c, rest, split⟩ := List.exists_cons_of_ne_nil numeral.nonempty
      refine ⟨c, rest ++ gap, by rw [split, List.cons_append], .inl ?_⟩
      exact numeral.decimal c (split ▸ List.mem_cons_self)
  | parentheses => exact ⟨'(', _, rfl, .inr rfl⟩

theorem not_blank_of_isDigit {c : Char} (digit : c.isDigit = true) : ¬ Blank c := by
  intro blank
  simp only [Blank, List.mem_cons, List.not_mem_nil, or_false] at blank
  rcases blank with rfl | rfl | rfl | rfl | rfl <;> cases digit

theorem Denotes.not_blank_head {category : Category} {text : List Char} {formula : Formula}
    (denotes : Denotes category text formula) : ∀ c ∈ text.head?, ¬ Blank c := by
  obtain ⟨first, rest, rfl, digit | rfl⟩ := denotes.begins
  · intro c isHead
    cases isHead
    exact not_blank_of_isDigit digit
  · intro c isHead
    cases isHead
    simp [Blank]

end LazyGrammar.Arith
