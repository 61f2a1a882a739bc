import LazyGrammar.Grammar
import LazyGrammar.Lexical

/-!
# Integer arithmetic

A grammar of sums, products and parentheses, and the evaluation of what it parses.

    expr ::= term '+' expr | term '-' expr | term
    term ::= atom '*' term | atom '/' term | atom
    atom ::= [0-9]+ | '(' expr ')'

White space may stand before the expression and after every token. The rules call
themselves on the right, so operators group from the right: `8 - 2 - 1` is
`8 - (2 - 1)`.

Trees are lists of an operator and its two operands, with numbers as the digits
that were written: `1 + 2 * 3` is `["+" "1" ["*" "2" "3"]]`.
-/

set_option autoImplicit false

namespace LazyGrammar.Arith

def digits : Regex.Pattern where
  source := "[0-9]+"
  program := (Regex.compile? "[0-9]+").get rfl
  compiled := (Option.some_get _).symm

/-- Puts the operator of `lhs op rhs` in front. -/
def operatorFirst : Value → Value
  | .pair lhs (.pair op rhs) => .list [op, lhs, rhs]
  | value => value

def binary (lhs : Expr) (op : String) (rhs : Expr) : Expr :=
  .map (.seq lhs (.seq (Lexical.word op) rhs)) operatorFirst

/-- The rules `expr`, `term` and `atom`, each alternative defined by itself. -/
def rules : Rules :=
  let expr := Rules.reference "expr"
  let term := Rules.reference "term"
  let atom := Rules.reference "atom"
  Rules.empty
    |>.define "expr" (binary term "+" expr)
    |>.define "expr" (binary term "-" expr)
    |>.define "expr" term
    |>.define "term" (binary atom "*" term)
    |>.define "term" (binary atom "/" term)
    |>.define "term" atom
    |>.define "atom" (.left (.regex digits) Lexical.whitespace)
    |>.define "atom" (.right (Lexical.word "(") (.left expr (Lexical.word ")")))

def start : Expr := .right Lexical.whitespace (Rules.reference "expr")

def grammar : Grammar := { rules, start }

inductive Error where
  | notExpression (source : String)
  | literalOutOfRange (digits : String)
  | divisionByZero (left right : Int)
  | overflow (left : Int) (op : String) (right : Int)
  | unknownOperator (op : String)
  | malformedTree (tree : Value)
  deriving DecidableEq

namespace Error

def message : Error → String
  | .notExpression source => Quoted.text source ++ " is not an arithmetic expression"
  | .literalOutOfRange digits => "integer literal " ++ digits ++ " is out of range"
  | .divisionByZero left right => "division by zero in " ++ toString left ++ " / " ++ toString right
  | .overflow left op right => "overflow in " ++ toString left ++ " " ++ op ++ " " ++ toString right
  | .unknownOperator op => "unknown operator " ++ Quoted.text op
  | .malformedTree tree => "malformed expression tree " ++ tree.display

/-- What lies behind an error, in the words of the one that met it first. -/
def causes : Error → List String
  | .literalOutOfRange _ => ["number too large to fit in target type"]
  | _ => []

end Error

/-- Fuel for an input. Between two characters at most three rules call each other, and a run of
white space takes at most one round a character. -/
def fuelFor (source : String) : Nat := 4 * (source.length + 2)

def parse (source : String) : Except Error Value :=
  match grammar.parseFirst (fuelFor source) source with
  | .item tree => .ok tree
  | _ => .error (.notExpression source)

def minInt : Int := -9223372036854775808

def maxInt : Int := 9223372036854775807

/-- Whether an integer has 64 bits. -/
def inRange (n : Int) : Bool := minInt ≤ n && n ≤ maxInt

/-- The value of a run of digits, which must have 64 bits. That the text is one is not checked: in
the tree of an expression nothing else stands where a number does. -/
def literalValue (digits : String) : Except Error Int :=
  let n := Int.ofNat (Nat.ofDigitChars 10 digits.toList 0)
  if inRange n then .ok n else .error (.literalOutOfRange digits)

/-- The exact result of an operator; division goes toward zero. -/
def exactResult (op : String) (left right : Int) : Except Error Int :=
  match op with
  | "+" => .ok (left + right)
  | "-" => .ok (left - right)
  | "*" => .ok (left * right)
  | "/" => if right = 0 then .error (.divisionByZero left right) else .ok (left.tdiv right)
  | _ => .error (.unknownOperator op)

/-- The result of an operator, which must have 64 bits. -/
def applyOperator (op : String) (left right : Int) : Except Error Int := do
  let result ← exactResult op left right
  if inRange result then return result else throw (.overflow left op right)

/-- The value of a tree: the left operand, the right operand and then the operator. -/
def valueOf : Value → Except Error Int
  | .text digits => literalValue digits
  | .list [.text op, lhs, rhs] => do
      let left ← valueOf lhs
      let right ← valueOf rhs
      applyOperator op left right
  | tree => .error (.malformedTree tree)

def evaluate (source : String) : Except Error Int := do
  let tree ← parse source
  valueOf tree

end LazyGrammar.Arith
