import LazyGrammar.Regex.Program
import LazyGrammar.Regex.Reader.Pattern
import LazyGrammar.Regex.Resolved

/-!
# Matching at the beginning of a text

All paths through a program advance together, one character at a time, in the
order of preference. At every place an instruction is entered only once, by the
most preferred path that reaches it. The match found is that of the most
preferred accepting path, which need not be the longest.
-/

set_option autoImplicit false

namespace LazyGrammar.Regex

namespace Look

def isWordChar (unicode : Bool) (c : Char) : Bool := (LetterClass.word.chars unicode).contains c

def isWord (unicode : Bool) (c? : Option Char) : Bool := c?.any (isWordChar unicode)

/-- Whether a condition holds between two characters; a missing one is the end of the text. With
`crlf` a line ends at `\r\n`, `\r` or `\n`, and never within the first of these. -/
def holds (before after : Option Char) : Look → Bool
  | .textStart => before.isNone
  | .textEnd => after.isNone
  | .lineStart crlf =>
      before.isNone || before = some '\n' || (crlf && before = some '\r' && after != some '\n')
  | .lineEnd crlf =>
      after.isNone || (crlf && after = some '\r') ||
        (after = some '\n' && !(crlf && before = some '\r'))
  | .wordBoundary unicode => isWord unicode before != isWord unicode after
  | .notWordBoundary unicode => isWord unicode before == isWord unicode after
  | .wordStart unicode => !isWord unicode before && isWord unicode after
  | .wordEnd unicode => isWord unicode before && !isWord unicode after
  | .wordStartHalf unicode => !isWord unicode before
  | .wordEndHalf unicode => !isWord unicode after

end Look

namespace Program

/-- The addresses that wait for a character, or accept, reached from the addresses on the stack
without going past a character; most preferred first. Each of the steps allowed enters one
address, so twice the program's length and the stack's are enough. -/
def settle (program : Program) (before after : Option Char) :
    Nat → List Nat → Array Bool → List Nat
  | 0, _, _ => []
  | _ + 1, [], _ => []
  | fuel + 1, address :: stack, entered =>
      if entered.getD address true then settle program before after fuel stack entered
      else
        let entered := entered.setIfInBounds address true
        match program[address]? with
        | some (.take _) | none =>
            address :: settle program before after fuel stack entered
        | some (.check condition) =>
            if condition.holds before after then
              settle program before after fuel ((address + 1) :: stack) entered
            else settle program before after fuel stack entered
        | some (.fork preferred other) =>
            settle program before after fuel (preferred :: other :: stack) entered
        | some (.jump target) => settle program before after fuel (target :: stack) entered

/-- The waiting and accepting addresses reached from some addresses, in order of preference. -/
def threads (program : Program) (before after : Option Char) (starts : List Nat) : List Nat :=
  settle program before after (starts.length + 2 * program.size + 3) starts
    (Array.replicate (program.size + 1) false)

def advance (program : Program) (c : Char) (addresses : List Nat) : List Nat :=
  addresses.filterMap fun address =>
    match (program[address]? : Option Instruction) with
    | some (.take chars) => if chars.contains c then some (address + 1) else none
    | _ => none

/-- The length of the match of the most preferred path. `starts` are the addresses that paths have
reached after `consumed` characters, all of them preferred to the match `best` found before. -/
def run (program : Program) (starts : List Nat) (before : Option Char) (consumed : Nat)
    (best : Option Nat) : List Char → Option Nat
  | [] =>
      if program.size ∈ program.threads before none starts then some consumed else best
  | c :: rest =>
      let waiting := program.threads before (some c) starts
      let best := if program.size ∈ waiting then some consumed else best
      match program.advance c (waiting.takeWhile (· ≠ program.size)) with
      | [] => best
      | next => run program next (some c) (consumed + 1) best rest

def matchLength? (program : Program) (input : List Char) : Option Nat :=
  program.run [0] none 0 none input

end Program

/-- The program of a pattern, however large it is, and none if the pattern is malformed. -/
def compile? (pattern : String) : Option Program := do
  let tree ← Tree.read? pattern.toList
  let (meaning, _) ← tree.meaning? {}
  return meaning.program

/-- A well-formed pattern with its program. -/
structure Pattern where
  source : String
  program : Program
  compiled : compile? source = some program

namespace Pattern

def read? (source : String) : Option Pattern :=
  match compiled : compile? source with
  | some program => some { source, program, compiled }
  | none => none

theorem ext_source {p q : Pattern} (same : p.source = q.source) : p = q := by
  have programs : some p.program = some q.program := by
    rw [← p.compiled, ← q.compiled, same]
  cases p
  cases q
  simp only [Option.some.injEq] at same programs
  subst same programs
  rfl

instance : DecidableEq Pattern := fun p q =>
  if same : p.source = q.source then isTrue (ext_source same)
  else isFalse fun eq => same (eq ▸ rfl)

/-- The text that a pattern matches at the beginning of the input, and the rest. -/
def splitMatch? (pattern : Pattern) (input : List Char) : Option (List Char × List Char) :=
  (pattern.program.matchLength? input).map fun length => (input.take length, input.drop length)

end Pattern

end LazyGrammar.Regex
