import LazyGrammar.Expr.Parses

/-!
# Grammars

A grammar is a start expression with the rules that it may refer to. It is put
together in one go and then frozen: every reference, reachable or not, must name
a bound rule, so that parsing never meets an unbound one.
-/

set_option autoImplicit false

namespace LazyGrammar

structure Grammar where
  rules : Rules
  start : Expr

namespace Grammar

/-- The smallest name that an expression refers to without its being bound. -/
def unbound? (rules : Rules) (expr : Expr) : Option String :=
  expr.references.find? fun name => !rules.contains name

/-- Checks the references of the start expression and then those of the definitions in ascending
order of their names. -/
def freeze (rules : Rules) (start : Expr) : Except GrammarError Grammar :=
  match (start :: rules.bindings.map Prod.snd).findSome? (unbound? rules) with
  | some name => .error (.unresolvedRule name)
  | none => .ok { rules, start }

def build (assemble : Rules → Except GrammarError (Rules × Expr)) :
    Except GrammarError Grammar :=
  match assemble .empty with
  | .ok (rules, start) => freeze rules start
  | .error error => .error error

def freezeNotice (grammar : Grammar) : Notice := .froze grammar.rules.size

def parse (grammar : Grammar) (fuel : Nat) (input : String) : Cursor Parse :=
  grammar.rules.cursor fuel grammar.start input.toList

def parseRule (grammar : Grammar) (fuel : Nat) (name input : String) :
    Except GrammarError (Cursor Parse) :=
  match grammar.rules.get? name with
  | some definition => .ok (grammar.rules.cursor fuel definition input.toList)
  | none => .error (.unknownRule name)

theorem parseRule_eq_ok {grammar : Grammar} {name : String} {definition : Expr}
    (bound : grammar.rules.get? name = some definition) (fuel : Nat) (input : String) :
    grammar.parseRule fuel name input =
      .ok (grammar.rules.cursor fuel definition input.toList) := by
  rw [parseRule, bound]

def completeValue? (parse : Parse) : Option Value :=
  if parse.rest.isEmpty then some parse.value else none

/-- The values of all parses that use up the whole input. -/
def parseFull (grammar : Grammar) (fuel : Nat) (input : String) : Cursor Value :=
  ⟨fun _ => ((grammar.parse fuel input).resume ()).filterMap completeValue?⟩

def parseFirst (grammar : Grammar) (fuel : Nat) (input : String) : Answer Value :=
  (grammar.parseFull fuel input).pull.1

def outline (grammar : Grammar) : Outline :=
  .record "Grammar"
    [("rules", grammar.rules.definitionsOutline), ("start", grammar.start.outline)]

end Grammar

end LazyGrammar
