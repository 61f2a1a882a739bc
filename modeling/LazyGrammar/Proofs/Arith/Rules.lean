import LazyGrammar.Arith
import LazyGrammar.Proofs.References

/-!
# The rules of arithmetic

Every rule has all its alternatives in one definition, and the names mentioned in
them are those of the rules.
-/

set_option autoImplicit false

namespace LazyGrammar.Arith

def exprDefinition : Expr :=
  .union [binary (.rule "term") "+" (.rule "expr"), binary (.rule "term") "-" (.rule "expr"),
    .rule "term"]

def termDefinition : Expr :=
  .union [binary (.rule "atom") "*" (.rule "term"), binary (.rule "atom") "/" (.rule "term"),
    .rule "atom"]

def atomDefinition : Expr :=
  .union [.left (.regex digits) Lexical.whitespace,
    .right (Lexical.word "(") (.left (.rule "expr") (Lexical.word ")"))]

private theorem rules_bindings :
    rules.bindings = [("atom", atomDefinition), ("expr", exprDefinition),
      ("term", termDefinition)] := rfl

theorem get?_eq_some_iff {name : String} {definition : Expr} :
    rules.get? name = some definition ↔
      name = "atom" ∧ definition = atomDefinition ∨ name = "expr" ∧ definition = exprDefinition ∨
        name = "term" ∧ definition = termDefinition := by
  rw [Rules.get?_eq_some_iff, rules_bindings]
  simp

private theorem contains_iff {name : String} :
    rules.contains name = true ↔ name = "atom" ∨ name = "expr" ∨ name = "term" := by
  rw [Rules.contains_iff_mem_names, Rules.names, rules_bindings]
  simp

theorem complete : rules.Complete start where
  start name mentioned := by
    simp [start, Expr.right, Lexical.whitespace, Rules.reference, Expr.mentions_iff_of_ne_rule,
      Expr.children] at mentioned
    exact contains_iff.mpr (.inr (.inl mentioned))
  definition name definition bound := by
    intro inner mentioned
    rw [contains_iff]
    rcases get?_eq_some_iff.mp bound with ⟨rfl, rfl⟩ | ⟨rfl, rfl⟩ | ⟨rfl, rfl⟩
    · simp [atomDefinition, Expr.left, Expr.right, Lexical.word, Lexical.whitespace,
        Expr.mentions_iff_of_ne_rule, Expr.children] at mentioned
      exact .inr (.inl mentioned)
    · simp [exprDefinition, binary, Expr.left, Lexical.word, Lexical.whitespace,
        Expr.mentions_iff_of_ne_rule, Expr.children] at mentioned
      grind
    · simp [termDefinition, binary, Expr.left, Lexical.word, Lexical.whitespace,
        Expr.mentions_iff_of_ne_rule, Expr.children] at mentioned
      grind

theorem freeze_rules : Grammar.freeze rules start = .ok grammar :=
  Grammar.freeze_eq_ok_iff.mpr ⟨rfl, complete⟩

end LazyGrammar.Arith
