import LazyGrammar.GrammarError
import LazyGrammar.NameSet
import LazyGrammar.Regex.Match
import LazyGrammar.Value

/-!
# Parser expressions

The expressions that grammars are made of, and the functions that build them.
Grouping is explicit: `a b | c` is `.union [.seq a b, c]` and `a (b | c)` is
`.seq a (.union [b, c])`. A reference to a rule is only a name, so expressions
are finite also where rules refer to each other.
-/

set_option autoImplicit false

namespace LazyGrammar

/-- A union goes through all of its alternatives, `first` keeps to the first one that matches at
all. Repetitions go on as often as possible, `opt` is left out only if it cannot match, and `full`
keeps what uses up the whole input. -/
inductive Expr where
  | literal (text : String)
  | regex (pattern : Regex.Pattern)
  | oneOf (set : CharSet)
  | noneOf (set : CharSet)
  | seq (left right : Expr)
  | union (alternatives : List Expr)
  | first (alternatives : List Expr)
  | many (inner : Expr)
  | many1 (inner : Expr)
  | opt (inner : Expr)
  | map (inner : Expr) (transform : Value → Value)
  | full (inner : Expr)
  | rule (name : String)

namespace Expr

instance : Inhabited Expr := ⟨.union []⟩

def ofRegex (pattern : String) : Except GrammarError Expr :=
  match Regex.Pattern.read? pattern with
  | some compiled => .ok (.regex compiled)
  | none => .error (.invalidRegex pattern)

def ofClass (text : String) : Except GrammarError Expr :=
  match ClassText.read text with
  | .ok set => .ok (.oneOf set)
  | .error error => .error (.invalidCharSet error)

def ofNotClass (text : String) : Except GrammarError Expr :=
  match ClassText.read text with
  | .ok set => .ok (.noneOf set)
  | .error error => .error (.invalidCharSet error)

/-- `head` and then `tail`, whose value is a list; the value of `head` is put in front of it. -/
def cons (head tail : Expr) : Expr := .map (.seq head tail) Value.consList

def left (kept dropped : Expr) : Expr := .map (.seq kept dropped) Value.fst

def right (dropped kept : Expr) : Expr := .map (.seq dropped kept) Value.snd

/-!
## References
-/

noncomputable def stackSize : List Expr → Nat
  | [] => 0
  | expr :: stack => sizeOf expr + stackSize stack

private theorem stackSize_append (front back : List Expr) :
    stackSize (front ++ back) = stackSize front + stackSize back := by
  induction front with
  | nil => exact (Nat.zero_add _).symm
  | cons expr rest ih => rw [List.cons_append, stackSize, stackSize, ih, Nat.add_assoc]

private theorem stackSize_reverse (exprs : List Expr) :
    stackSize exprs.reverse = stackSize exprs := by
  induction exprs with
  | nil => rfl
  | cons expr rest ih =>
      rw [List.reverse_cons, stackSize_append, ih, stackSize, stackSize, stackSize, Nat.add_zero,
        Nat.add_comm]

private theorem stackSize_lt (exprs : List Expr) : stackSize exprs < sizeOf exprs := by
  induction exprs with
  | nil => exact Nat.zero_lt_one
  | cons expr rest ih =>
      rw [stackSize, List.cons.sizeOf_spec]
      omega

/-- Adds the names of the rules that the expressions on a stack refer to, the top of the stack
first. The parts of an expression take its place on the stack, the last part on top. -/
def addReferences (names : NameSet) : List Expr → NameSet
  | [] => names
  | .literal _ :: stack | .regex _ :: stack | .oneOf _ :: stack | .noneOf _ :: stack =>
      addReferences names stack
  | .seq left right :: stack => addReferences names (right :: left :: stack)
  | .union alternatives :: stack | .first alternatives :: stack =>
      addReferences names (alternatives.reverse ++ stack)
  | .many inner :: stack | .many1 inner :: stack | .opt inner :: stack | .map inner _ :: stack
  | .full inner :: stack => addReferences names (inner :: stack)
  | .rule name :: stack => addReferences (names.insert name) stack
termination_by stack => stackSize stack
decreasing_by
  all_goals
    simp only [stackSize, stackSize_append, stackSize_reverse, List.unattach_reverse,
      List.unattach_attach, literal.sizeOf_spec, regex.sizeOf_spec, oneOf.sizeOf_spec,
      noneOf.sizeOf_spec, seq.sizeOf_spec, union.sizeOf_spec, first.sizeOf_spec, many.sizeOf_spec,
      many1.sizeOf_spec, opt.sizeOf_spec, map.sizeOf_spec, full.sizeOf_spec, rule.sizeOf_spec]
    first
    | omega
    | have smaller := stackSize_lt alternatives
      omega

def references (expr : Expr) : NameSet := addReferences .empty [expr]

/-!
## Outlines
-/

mutual

/-- The expression with the name of every constructor. A rule is shown by its name, which is not
quoted, and a transform is not shown. -/
def outline : Expr → Outline
  | .literal text => .tuple "Literal" [.atom (Quoted.text text)]
  | .regex pattern => .tuple "Regex" [.atom (Quoted.text pattern.source)]
  | .oneOf set => .tuple "OneOf" [set.outline]
  | .noneOf set => .tuple "NoneOf" [set.outline]
  | .seq left right => .tuple "Seq" [left.outline, right.outline]
  | .union alternatives => .tuple "Union" [.list (outlines alternatives)]
  | .first alternatives => .tuple "First" [.list (outlines alternatives)]
  | .many inner => .tuple "Many" [inner.outline]
  | .many1 inner => .tuple "Many1" [inner.outline]
  | .opt inner => .tuple "Opt" [inner.outline]
  | .map inner _ => .tuple "Map" [inner.outline, .atom "_"]
  | .full inner => .tuple "Full" [inner.outline]
  | .rule name => .atom ("Rule(" ++ name ++ ")")

def outlines : List Expr → List Outline
  | [] => []
  | expr :: rest => expr.outline :: outlines rest

end

theorem outlines_eq_map (exprs : List Expr) : outlines exprs = exprs.map outline := by
  induction exprs with
  | nil => rfl
  | cons expr rest ih => rw [outlines, List.map_cons, ih]

end Expr

end LazyGrammar
