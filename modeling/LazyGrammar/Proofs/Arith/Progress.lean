import LazyGrammar.Proofs.Arith.Digits
import LazyGrammar.Proofs.Arith.Rules
import LazyGrammar.Proofs.Progress

/-!
# Progress of arithmetic

The rules call each other on their left in one direction only, from expressions to
terms and from there to atoms, and an atom begins with a digit or a parenthesis.
-/

set_option autoImplicit false

namespace LazyGrammar.Arith

private theorem not_matchesEmpty_digits : ¬ digits.MatchesEmpty := by
  intro matchesEmpty
  obtain ⟨input, found⟩ := matchesEmpty
  rw [digits_splitMatch?] at found
  split at found
  · cases found
  next some => exact some (Prod.mk.inj (Option.some.inj found)).1

private theorem not_nullable_atom : ¬ rules.Nullable (.rule "atom") := by
  rw [Rules.Nullable.nullable_rule (get?_eq_some_iff.mpr (.inl ⟨rfl, rfl⟩))]
  simp [atomDefinition, Expr.left, Expr.right, Lexical.word, not_matchesEmpty_digits]

private theorem not_nullable_term : ¬ rules.Nullable (.rule "term") := by
  rw [Rules.Nullable.nullable_rule (get?_eq_some_iff.mpr (.inr (.inr ⟨rfl, rfl⟩)))]
  simp [termDefinition, binary, not_nullable_atom]

/-- How far a rule is from the tokens. -/
def level (name : String) : Nat :=
  if name = "expr" then 2 else if name = "term" then 1 else 0

private theorem level_lt_of_leftCalls {caller callee : String}
    (calls : rules.LeftCalls rules.Nullable caller callee) : level callee < level caller := by
  obtain ⟨definition, bound, leftMentioned⟩ := calls
  rcases get?_eq_some_iff.mp bound with ⟨rfl, rfl⟩ | ⟨rfl, rfl⟩ | ⟨rfl, rfl⟩
  · simp [atomDefinition, Expr.left, Expr.right, Lexical.word, Lexical.whitespace,
      not_matchesEmpty_digits] at leftMentioned
  · simp [exprDefinition, binary, not_nullable_term] at leftMentioned
    simp [leftMentioned, level]
  · simp [termDefinition, binary, not_nullable_atom] at leftMentioned
    simp [leftMentioned, level]

private theorem level_lt_of_transGen {caller callee : String}
    (path : Relation.TransGen (rules.LeftCalls rules.Nullable) caller callee) :
    level callee < level caller := by
  induction path with
  | single calls => exact level_lt_of_leftCalls calls
  | tail _ calls ih => exact Nat.lt_trans (level_lt_of_leftCalls calls) ih

/-- Arithmetic makes progress, and so parsing it ends. -/
theorem progresses : grammar.Progresses rules.Nullable where
  closed := Rules.Nullable.closed rules
  acyclic name path := Nat.lt_irrefl _ (level_lt_of_transGen path)
  start := by
    simp [grammar, start, Expr.right, Lexical.whitespace, Rules.reference]
  definition name definition bound := by
    rcases get?_eq_some_iff.mp bound with ⟨rfl, rfl⟩ | ⟨rfl, rfl⟩ | ⟨rfl, rfl⟩
    · simp [atomDefinition, Expr.left, Expr.right, Lexical.word, Lexical.whitespace]
    · simp [exprDefinition, binary, Expr.left, Lexical.word, Lexical.whitespace]
    · simp [termDefinition, binary, Expr.left, Lexical.word, Lexical.whitespace]

end LazyGrammar.Arith
