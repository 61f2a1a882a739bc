import LazyGrammar.Cursor
import LazyGrammar.Rules

/-!
# Parses of expressions

An expression on an input has an enumeration of parses, each a value with the rest
of the input. This is plain exhaustive search: a later alternative is entered only
when the results of the earlier ones are used up, and a rule only when a reference
to it is reached.

Searching need not end. A left-recursive rule calls itself on the same input
without end, and so does a repetition of something that can match without width.
So evaluation has fuel: a bound on how deeply rules call each other and on the
rounds of a repetition. An enumeration that does not halt for lack of fuel is the
same with more.
-/

set_option autoImplicit false

namespace LazyGrammar

structure Parse where
  value : Value
  rest : List Char
  deriving DecidableEq

/-- A branch of a repetition: the values so far, the last one first, and the rest of the input. -/
structure Branch where
  values : List Value
  rest : List Char
  deriving DecidableEq

namespace Branch

/-- The values of a branch in order, after those that stand before them. -/
def parse (before : List Value) (branch : Branch) : Parse :=
  ⟨.list (before ++ branch.values.reverse), branch.rest⟩

end Branch

/-- Every branch with one more value, for every parse of what is left of it. -/
def expand (step : List Char → Enumeration Parse) (frontier : List Branch) : Enumeration Branch :=
  (Enumeration.ofList frontier).flatMap fun branch =>
    (step branch.rest).map fun parse => ⟨parse.value :: branch.values, parse.rest⟩

/-- Expands all branches at once, round by round, and returns the last branches that there were. -/
def lastFrontier (step : List Char → Enumeration Parse) :
    Nat → List Branch → Except Halt (List Branch)
  | 0, _ => .error .outOfFuel
  | rounds + 1, frontier =>
      match (expand step frontier).collect with
      | .ok [] => .ok frontier
      | .ok (branch :: others) => lastFrontier step rounds (branch :: others)
      | .error why => .error why

def repetitionParses (step : List Char → Enumeration Parse) (rounds : Nat) (before : List Value)
    (input : List Char) : Enumeration Parse :=
  (Enumeration.ofExcept (lastFrontier step rounds [⟨[], input⟩])).map (Branch.parse before)

def charParse? (accept : Char → Bool) : List Char → Option Parse
  | [] => none
  | c :: rest => if accept c then some ⟨.char c, rest⟩ else none

def literalParse? (text : String) (input : List Char) : Option Parse :=
  if text.toList.isPrefixOf input then some ⟨.text text, input.drop text.length⟩ else none

def regexParse? (pattern : Regex.Pattern) (input : List Char) : Option Parse :=
  (pattern.splitMatch? input).map fun (matched, rest) => ⟨.text (String.ofList matched), rest⟩

theorem charParse?_eq_some_iff {accept : Char → Bool} {input : List Char} {parse : Parse} :
    charParse? accept input = some parse ↔
      ∃ c rest, accept c = true ∧ input = c :: rest ∧ parse = ⟨.char c, rest⟩ := by
  cases input with
  | nil => simp [charParse?]
  | cons c rest =>
      rw [charParse?]
      constructor
      · intro found
        split at found
        next accepted =>
          cases found
          exact ⟨c, rest, accepted, rfl, rfl⟩
        next => cases found
      · intro first
        obtain ⟨_, _, accepted, same, rfl⟩ := first
        cases same
        rw [if_pos accepted]

theorem charParse?_eq_none_iff {accept : Char → Bool} {input : List Char} :
    charParse? accept input = none ↔ ∀ c ∈ input.head?, accept c = false := by
  cases input with
  | nil => simp [charParse?]
  | cons c rest => simp [charParse?]

section CharSet

variable {set : CharSet} {input : List Char} {parse : Parse}

theorem charParse?_contains_eq_some_iff :
    charParse? set.contains input = some parse ↔
      ∃ c rest, c ∈ set ∧ input = c :: rest ∧ parse = ⟨.char c, rest⟩ := by
  simp only [charParse?_eq_some_iff, CharSet.contains_iff]

theorem charParse?_contains_eq_none_iff :
    charParse? set.contains input = none ↔ ∀ c ∈ input.head?, c ∉ set := by
  simp only [charParse?_eq_none_iff, CharSet.contains_eq_false_iff]

theorem charParse?_not_contains_eq_some_iff :
    charParse? (fun c => !set.contains c) input = some parse ↔
      ∃ c rest, c ∉ set ∧ input = c :: rest ∧ parse = ⟨.char c, rest⟩ := by
  simp only [charParse?_eq_some_iff, CharSet.not_contains_iff]

theorem charParse?_not_contains_eq_none_iff :
    charParse? (fun c => !set.contains c) input = none ↔ ∀ c ∈ input.head?, c ∈ set := by
  simp only [charParse?_eq_none_iff, CharSet.not_contains_eq_false_iff]

end CharSet

theorem literalParse?_eq_some_iff {text : String} {input : List Char} {parse : Parse} :
    literalParse? text input = some parse ↔
      ∃ rest, input = text.toList ++ rest ∧ parse = ⟨.text text, rest⟩ := by
  rw [literalParse?]
  constructor
  · intro found
    split at found
    next begins =>
      cases found
      obtain ⟨rest, rfl⟩ := List.isPrefixOf_iff_prefix.mp begins
      exact ⟨rest, rfl, by rw [String.length, List.drop_left]⟩
    next => cases found
  · intro begins
    obtain ⟨rest, rfl, rfl⟩ := begins
    rw [if_pos (List.isPrefixOf_iff_prefix.mpr (List.prefix_append _ _)), String.length,
      List.drop_left]

theorem literalParse?_eq_none_iff {text : String} {input : List Char} :
    literalParse? text input = none ↔ ¬ text.toList <+: input := by
  rw [literalParse?, ← List.isPrefixOf_iff_prefix]
  split
  next begins => simp [begins]
  next differs => simp [differs]

namespace Expr

mutual

/-- The parses of an expression on an input. `rounds` bounds the rounds of its repetitions and
`call` gives the parses of rules. -/
def parsesWith (rounds : Nat) (call : String → List Char → Enumeration Parse) :
    Expr → List Char → Enumeration Parse
  | .literal text, input => .ofOption (literalParse? text input)
  | .regex pattern, input => .ofOption (regexParse? pattern input)
  | .oneOf set, input => .ofOption (charParse? set.contains input)
  | .noneOf set, input => .ofOption (charParse? (fun c => !set.contains c) input)
  | .seq left right, input =>
      (left.parsesWith rounds call input).flatMap fun first =>
        (right.parsesWith rounds call first.rest).map fun second =>
          ⟨.pair first.value second.value, second.rest⟩
  | .union alternatives, input => unionParses rounds call alternatives input
  | .first alternatives, input => firstParses rounds call alternatives input
  | .many inner, input =>
      repetitionParses (fun rest => inner.parsesWith rounds call rest) rounds [] input
  | .many1 inner, input =>
      (inner.parsesWith rounds call input).flatMap fun head =>
        repetitionParses (fun rest => inner.parsesWith rounds call rest) rounds [head.value]
          head.rest
  | .opt inner, input =>
      match inner.parsesWith rounds call input with
      | .done => .single ⟨.list [], input⟩
      | found => found.map fun parse => ⟨.list [parse.value], parse.rest⟩
  | .map inner transform, input =>
      (inner.parsesWith rounds call input).map fun parse => ⟨transform parse.value, parse.rest⟩
  | .full inner, input =>
      (inner.parsesWith rounds call input).filter fun parse => parse.rest.isEmpty
  | .rule name, input => call name input

def unionParses (rounds : Nat) (call : String → List Char → Enumeration Parse) :
    List Expr → List Char → Enumeration Parse
  | [], _ => .done
  | expr :: rest, input =>
      (expr.parsesWith rounds call input).append fun _ => unionParses rounds call rest input

def firstParses (rounds : Nat) (call : String → List Char → Enumeration Parse) :
    List Expr → List Char → Enumeration Parse
  | [], _ => .done
  | expr :: rest, input =>
      match expr.parsesWith rounds call input with
      | .done => firstParses rounds call rest input
      | found => found

end

variable {rounds : Nat} {call : String → List Char → Enumeration Parse} {input : List Char}

theorem unionParses_eq_flatMap (alternatives : List Expr) :
    unionParses rounds call alternatives input =
      (Enumeration.ofList alternatives).flatMap fun alternative =>
        alternative.parsesWith rounds call input := by
  induction alternatives with
  | nil => rw [unionParses]; rfl
  | cons alternative rest ih => rw [unionParses, ih]; rfl

theorem firstParses_of_done {before : List Expr}
    (failed : ∀ alternative ∈ before, alternative.parsesWith rounds call input = .done)
    (after : List Expr) :
    firstParses rounds call (before ++ after) input = firstParses rounds call after input := by
  induction before with
  | nil => rfl
  | cons alternative rest ih =>
      obtain ⟨headFailed, restFailed⟩ := List.forall_mem_cons.mp failed
      rw [List.cons_append, firstParses, headFailed]
      exact ih restFailed

theorem firstParses_cons_of_ne_done {winner : Expr} {after : List Expr}
    (found : winner.parsesWith rounds call input ≠ .done) :
    firstParses rounds call (winner :: after) input = winner.parsesWith rounds call input := by
  rw [firstParses]
  split
  next failed => exact (found failed).elim
  next => rfl

theorem firstParses_cases (alternatives : List Expr) :
    (firstParses rounds call alternatives input = .done ∧
      ∀ alternative ∈ alternatives, alternative.parsesWith rounds call input = .done) ∨
    ∃ before winner after, alternatives = before ++ winner :: after ∧
      (∀ alternative ∈ before, alternative.parsesWith rounds call input = .done) ∧
      winner.parsesWith rounds call input ≠ .done ∧
      firstParses rounds call alternatives input = winner.parsesWith rounds call input := by
  induction alternatives with
  | nil => exact .inl ⟨by rw [firstParses], nofun⟩
  | cons alternative rest ih =>
      by_cases failed : alternative.parsesWith rounds call input = .done
      · have skipped : firstParses rounds call (alternative :: rest) input =
            firstParses rounds call rest input := by rw [firstParses, failed]
        rcases ih with ⟨ended, allFailed⟩ | ⟨before, winner, after, split, othersFailed, found, eq⟩
        · exact .inl ⟨skipped.trans ended, List.forall_mem_cons.mpr ⟨failed, allFailed⟩⟩
        · refine .inr ⟨alternative :: before, winner, after, by rw [split]; rfl, ?_, found, ?_⟩
          · exact List.forall_mem_cons.mpr ⟨failed, othersFailed⟩
          · exact skipped.trans eq
      · exact .inr ⟨[], alternative, rest, rfl, nofun, failed,
          firstParses_cons_of_ne_done failed⟩

end Expr

namespace Rules

/-- The parses of a rule. Every call of a rule uses up one unit of fuel. -/
def call (rules : Rules) : Nat → String → List Char → Enumeration Parse
  | 0, _, _ => .halted .outOfFuel
  | fuel + 1, name, input =>
      match rules.get? name with
      | some definition => definition.parsesWith fuel (rules.call fuel) input
      | none => .halted (.unbound name)

def parses (rules : Rules) (fuel : Nat) (expr : Expr) (input : List Char) : Enumeration Parse :=
  expr.parsesWith fuel (rules.call fuel) input

def cursor (rules : Rules) (fuel : Nat) (expr : Expr) (input : List Char) : Cursor Parse :=
  ⟨fun _ => rules.parses fuel expr input⟩

variable {rules : Rules} {fuel : Nat} {input : List Char}

theorem parses_seq (left right : Expr) :
    rules.parses fuel (.seq left right) input =
      (rules.parses fuel left input).flatMap fun first =>
        (rules.parses fuel right first.rest).map fun second =>
          ⟨.pair first.value second.value, second.rest⟩ := by
  rw [parses, Expr.parsesWith]
  rfl

theorem parses_union (alternatives : List Expr) :
    rules.parses fuel (.union alternatives) input =
      (Enumeration.ofList alternatives).flatMap fun alternative =>
        rules.parses fuel alternative input := by
  rw [parses, Expr.parsesWith, Expr.unionParses_eq_flatMap]
  rfl

theorem parses_many (inner : Expr) :
    rules.parses fuel (.many inner) input =
      repetitionParses (rules.parses fuel inner) fuel [] input := by
  rw [parses, Expr.parsesWith]
  rfl

theorem parses_many1 (inner : Expr) :
    rules.parses fuel (.many1 inner) input =
      (rules.parses fuel inner input).flatMap fun head =>
        repetitionParses (rules.parses fuel inner) fuel [head.value] head.rest := by
  rw [parses, Expr.parsesWith]
  rfl

theorem parses_map (inner : Expr) (transform : Value → Value) :
    rules.parses fuel (.map inner transform) input =
      (rules.parses fuel inner input).map fun parse => ⟨transform parse.value, parse.rest⟩ := by
  rw [parses, Expr.parsesWith]
  rfl

theorem parses_full (inner : Expr) :
    rules.parses fuel (.full inner) input =
      (rules.parses fuel inner input).filter fun parse => parse.rest.isEmpty := by
  rw [parses, Expr.parsesWith]
  rfl

end Rules

namespace Expr

/-- Parses an input without any rules. An expression with a reference is refused, and the smallest
name that it refers to is reported. -/
def parse (expr : Expr) (fuel : Nat) (input : String) : Except GrammarError (Cursor Parse) :=
  match expr.references.least? with
  | some name => .error (.unresolvedRule name)
  | none => .ok (Rules.empty.cursor fuel expr input.toList)

end Expr

end LazyGrammar
