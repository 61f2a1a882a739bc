import LazyGrammar.Regex.Reader

/-!
# Reading patterns: classes in brackets

A class is a list of items, which form a union, with set operators between such
lists. The operators have one precedence and group from the left. Items are
characters, ranges, escapes that stand for sets, nested classes and, inside other
classes, named classes such as `[:digit:]`.
-/

set_option autoImplicit false

namespace LazyGrammar.Regex.Reader

/-- The opening of a class: whether it is negated, and the hyphens or the closing bracket in front
that count as characters. Reading begins at the opening bracket. -/
def classOpening : Reader (Bool × List ClassTree) := do
  advanceSpace
  let negated := (← current) = '^'
  if negated then advanceSpace
  let hyphens ← takeWhile (· = '-') (← rounds)
  if (← current) = ']' ∧ hyphens.isEmpty then
    advanceSpace
    let _ ← current
    return (negated, [.literal { value := ']', isByte := false }])
  else return (negated, hyphens.map fun c => .literal { value := c, isByte := false })

def asciiClass? : List Char → Option (ClassTree × List Char)
  | '[' :: ':' :: rest =>
      let (negated, named) := match rest with
        | '^' :: named => (true, named)
        | named => (false, named)
      match named.dropWhile (· ≠ ':') with
      | ':' :: ']' :: after =>
          (AsciiClass.named? (String.ofList (named.takeWhile (· ≠ ':')))).map fun kind =>
            (.ascii kind negated, after)
      | _ => none
  | _ => none

/-- The first significant character of what follows a hyphen. A comment sign counts as blank once,
and what follows it in its comment does not. Without any such character it is the very next one. -/
def significantAfter (ignoreSpace : Bool) (after : List Char) : Option Char :=
  if ignoreSpace then search false after <|> after.head? else after.head?
where
  search (inComment : Bool) : List Char → Option Char
    | [] => none
    | c :: rest =>
        if Text.isBlank c then search inComment rest
        else if !inComment && c = '#' then search true rest
        else some c

def classPrimitive : Reader Primitive := do
  let c ← current
  advance
  if c = '\\' then
    let _ ← current
    escape
  else return verbatim c

/-- A range or a single item. A hyphen makes a range unless a closing bracket or another hyphen
follows it. -/
def classItem : Reader ClassTree := do
  let first ← classPrimitive
  skipSpace
  let c ← current
  let state ← get
  let next := significantAfter state.ignoreSpace state.rest.tail
  if c ≠ '-' ∨ next = some ']' ∨ next = some '-' then first.inClass
  else
    advanceSpace
    let _ ← current
    let last ← classPrimitive
    let low ← first.rangeEnd
    let high ← last.rangeEnd
    if low.value ≤ high.value then return .range low high else failure

def setOp? : List Char → Option SetOp
  | '&' :: '&' :: _ => some .intersection
  | '-' :: '-' :: _ => some .difference
  | '~' :: '~' :: _ => some .symmetricDifference
  | _ => none

/-- The right operand of the operator that waits for one. -/
def applyPending (pending : Option (SetOp × ClassTree)) (items : List ClassTree) : ClassTree :=
  match pending with
  | some (op, left) => .binary op left (ClassTree.ofItems items)
  | none => ClassTree.ofItems items

/-- The body of a class and its closing bracket. The items since the last operator come in
reverse. -/
def classBody : Nat → Option (SetOp × ClassTree) → List ClassTree → Reader ClassTree
  | 0, _, _ => failure
  | fuel + 1, pending, items => do
      skipSpace
      let state ← get
      match ← current with
      | ']' =>
          advance
          return applyPending pending items.reverse
      | '[' =>
          match asciiClass? state.rest with
          | some (named, after) =>
              set { state with rest := after }
              classBody fuel pending (named :: items)
          | none =>
              let (negated, first) ← classOpening
              let nested ← classBody fuel none first.reverse
              classBody fuel pending (.bracketed negated nested :: items)
      | _ =>
          match setOp? state.rest with
          | some op =>
              advance
              advance
              classBody fuel (some (op, applyPending pending items.reverse)) []
          | none =>
              let item ← classItem
              classBody fuel pending (item :: items)

def bracketed : Reader ClassTree := do
  let (negated, first) ← classOpening
  let body ← classBody (← rounds) none first.reverse
  return .bracketed negated body

end LazyGrammar.Regex.Reader
