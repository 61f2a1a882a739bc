import LazyGrammar.Expr.Parses

/-!
# Results as lists

What an expression yields on an input, as a finite list and without laziness or
fuel. The relation is partial: where searching does not end there is no list, and
a reference to an unbound rule yields nothing, not even the empty list.
-/

set_option autoImplicit false

namespace LazyGrammar

/-- Values found one after the other, in order, and what they leave of the input. -/
structure Repeated where
  values : List Value
  rest : List Char

/-- Every branch with one more value at its end, for every result on what it leaves. -/
def extendAll (results : List Char → List Parse) (frontier : List Repeated) : List Repeated :=
  frontier.flatMap fun branch =>
    (results branch.rest).map fun parse => ⟨branch.values ++ [parse.value], parse.rest⟩

def frontierAfter (results : List Char → List Parse) :
    List Repeated → Nat → List Repeated
  | frontier, 0 => frontier
  | frontier, rounds + 1 => frontierAfter results (extendAll results frontier) rounds

def Repeated.start (input : List Char) : Repeated := ⟨[], input⟩

namespace Rules

/-- Where an expression is evaluated several times, `results` gives its list for each place. -/
inductive Yields (rules : Rules) : Expr → List Char → List Parse → Prop where
  | literal {text : String} {rest : List Char} :
      Yields rules (.literal text) (text.toList ++ rest) [⟨.text text, rest⟩]
  | literalNone {text : String} {input : List Char} :
      ¬ text.toList <+: input → Yields rules (.literal text) input []
  | regex {pattern : Regex.Pattern} {input matched rest : List Char} :
      pattern.splitMatch? input = some (matched, rest) →
      Yields rules (.regex pattern) input [⟨.text (String.ofList matched), rest⟩]
  | regexNone {pattern : Regex.Pattern} {input : List Char} :
      pattern.splitMatch? input = none → Yields rules (.regex pattern) input []
  | oneOf {set : CharSet} {c : Char} {rest : List Char} :
      c ∈ set → Yields rules (.oneOf set) (c :: rest) [⟨.char c, rest⟩]
  | oneOfNone {set : CharSet} {input : List Char} :
      (∀ c ∈ input.head?, c ∉ set) → Yields rules (.oneOf set) input []
  | noneOf {set : CharSet} {c : Char} {rest : List Char} :
      c ∉ set → Yields rules (.noneOf set) (c :: rest) [⟨.char c, rest⟩]
  | noneOfNone {set : CharSet} {input : List Char} :
      (∀ c ∈ input.head?, c ∈ set) → Yields rules (.noneOf set) input []
  | seq {left right : Expr} {input : List Char} {firsts : List Parse}
      {results : List Char → List Parse} :
      Yields rules left input firsts →
      (∀ first ∈ firsts, Yields rules right first.rest (results first.rest)) →
      Yields rules (.seq left right) input
        (firsts.flatMap fun first => (results first.rest).map fun second =>
          ⟨.pair first.value second.value, second.rest⟩)
  | union {alternatives : List Expr} {input : List Char} {results : Expr → List Parse} :
      (∀ alternative ∈ alternatives, Yields rules alternative input (results alternative)) →
      Yields rules (.union alternatives) input (alternatives.flatMap results)
  | first {before after : List Expr} {winner : Expr} {input : List Char} {items : List Parse} :
      (∀ alternative ∈ before, Yields rules alternative input []) →
      Yields rules winner input items → items ≠ [] →
      Yields rules (.first (before ++ winner :: after)) input items
  | firstNone {alternatives : List Expr} {input : List Char} :
      (∀ alternative ∈ alternatives, Yields rules alternative input []) →
      Yields rules (.first alternatives) input []
  | many {inner : Expr} {input : List Char} {results : List Char → List Parse} {rounds : Nat} :
      (∀ round ≤ rounds, ∀ branch ∈ frontierAfter results [.start input] round,
        Yields rules inner branch.rest (results branch.rest)) →
      frontierAfter results [.start input] rounds ≠ [] →
      frontierAfter results [.start input] (rounds + 1) = [] →
      Yields rules (.many inner) input
        ((frontierAfter results [.start input] rounds).map fun branch =>
          ⟨.list branch.values, branch.rest⟩)
  | many1 {inner : Expr} {input : List Char} {heads : List Parse}
      {results : List Char → List Parse} {rounds : Parse → Nat} :
      Yields rules inner input heads →
      (∀ head ∈ heads, ∀ round ≤ rounds head,
        ∀ branch ∈ frontierAfter results [.start head.rest] round,
          Yields rules inner branch.rest (results branch.rest)) →
      (∀ head ∈ heads, frontierAfter results [.start head.rest] (rounds head) ≠ []) →
      (∀ head ∈ heads, frontierAfter results [.start head.rest] (rounds head + 1) = []) →
      Yields rules (.many1 inner) input
        (heads.flatMap fun head =>
          (frontierAfter results [.start head.rest] (rounds head)).map fun branch =>
            ⟨.list (head.value :: branch.values), branch.rest⟩)
  | opt {inner : Expr} {input : List Char} {items : List Parse} :
      Yields rules inner input items → items ≠ [] →
      Yields rules (.opt inner) input
        (items.map fun parse => ⟨.list [parse.value], parse.rest⟩)
  | optNone {inner : Expr} {input : List Char} :
      Yields rules inner input [] → Yields rules (.opt inner) input [⟨.list [], input⟩]
  | map {inner : Expr} {transform : Value → Value} {input : List Char} {items : List Parse} :
      Yields rules inner input items →
      Yields rules (.map inner transform) input
        (items.map fun parse => ⟨transform parse.value, parse.rest⟩)
  | full {inner : Expr} {input : List Char} {items : List Parse} :
      Yields rules inner input items →
      Yields rules (.full inner) input (items.filter fun parse => parse.rest.isEmpty)
  | rule {name : String} {definition : Expr} {input : List Char} {items : List Parse} :
      rules.get? name = some definition → Yields rules definition input items →
      Yields rules (.rule name) input items

end Rules

end LazyGrammar
