import LazyGrammar.Regex.Reader.Class
import LazyGrammar.Unicode.Additions

/-!
# Reading patterns: rows, choices, groups and repetitions

The outermost layer of the reader of patterns. A group reads its body by the same
function as the whole pattern; a closing parenthesis ends it, and one that no
group waits for makes the pattern malformed.
-/

set_option autoImplicit false

namespace LazyGrammar.Regex

namespace Reader

def flag? : Char → Option Flag
  | 'i' => some .caseInsensitive
  | 'm' => some .multiLine
  | 's' => some .dotMatchesNewLine
  | 'U' => some .swapGreed
  | 'u' => some .unicode
  | 'R' => some .crlf
  | 'x' => some .ignoreSpace
  | _ => none

/-- Flag letters up to a colon or a closing parenthesis, at which reading stops. Flags after the
one hyphen are switched off. No flag occurs twice, and a hyphen is not the last sign. -/
def flagChanges (negated dangling : Bool) (changes : FlagChanges) : Nat → Reader FlagChanges
  | 0 => failure
  | fuel + 1 => do
      match ← current with
      | ':' | ')' => if dangling then failure else return changes
      | '-' =>
          if negated then failure
          else
            advance
            flagChanges true true changes fuel
      | c =>
          match flag? c with
          | some flag =>
              if (changes.state? flag).isSome then failure
              else
                advance
                flagChanges negated false (changes ++ [(flag, !negated)]) fuel
          | none => failure

def alphabetic : CharSet := Unicode.Property.alphabetic.union Unicode.Additions.alphabetic

def numeric : CharSet :=
  (Unicode.GeneralCategory.charsOfAny [.decimalNumber, .letterNumber, .otherNumber]).union
    Unicode.Additions.numeric

def beginsName (c : Char) : Bool := c = '_' || alphabetic.contains c

def continuesName (c : Char) : Bool :=
  c ∈ ['_', '.', '[', ']'] || alphabetic.contains c || numeric.contains c

/-- The name of a group up to its closing angle bracket, and that bracket. Names are not empty and
differ from each other. -/
def groupName : Reader Unit := do
  let state ← get
  let name := state.rest.takeWhile (· ≠ '>')
  match name, state.rest.dropWhile (· ≠ '>') with
  | first :: others, _ :: after =>
      if beginsName first && others.all continuesName && !state.names.contains name then
        set { state with rest := after, names := name :: state.names }
      else failure
  | _, _ => failure

inductive Opening where
  | directive (changes : FlagChanges)
  | group (kind : GroupKind)

def capture : Reader Opening := do
  let state ← get
  set { state with captures := state.captures + 1 }
  return .group (.capture state.captures)

/-- The signs that begin a condition on what stands before or after, which patterns do not have. -/
def lookaroundSigns : List (List Char) :=
  [['?', '='], ['?', '!'], ['?', '<', '='], ['?', '<', '!']]

def opening : Reader Opening := do
  advance
  skipSpace
  let state ← get
  if lookaroundSigns.any (·.isPrefixOf state.rest) then failure
  else if (← skipText ['?', 'P', '<']) || (← skipText ['?', '<']) then
    groupName
    capture
  else if ← skipText ['?'] then
    let changes ← flagChanges false false [] (← rounds)
    let close ← current
    advance
    if close = ')' then
      if changes.isEmpty then failure else return .directive changes
    else return .group (.flags changes)
  else capture

/-- Goes past blank characters, which may stand around the numbers of a repetition even where
blanks count. -/
def skipBlanks : Reader Unit :=
  modify fun state => { state with rest := state.rest.dropWhile Text.isBlank }

/-- A decimal number below `2 ^ 32` with any blanks around it. -/
def decimal : Reader Nat := do
  skipBlanks
  let digits ← takeWhile Char.isDigit (← rounds)
  skipBlanks
  let n := Nat.ofDigitChars 10 digits 0
  if digits.isEmpty ∨ 4294967296 ≤ n then failure else return n

def repetitionBounds : Reader (Nat × Option Nat) := do
  advanceSpace
  let _ ← current
  let min ← decimal
  if (← current) = ',' then
    advanceSpace
    if (← current) = '\x7d' then return (min, none)
    else
      let max ← decimal
      if min ≤ max then return (min, some max) else failure
  else return (min, some min)

def lazyMark : Reader Bool := skipText ['?']

def repetition (sign : Char) (body : Tree) : Reader Tree := do
  match sign with
  | '?' =>
      advance
      return .repetition 0 (some 1) (!(← lazyMark)) body
  | '*' =>
      advance
      return .repetition 0 none (!(← lazyMark)) body
  | '+' =>
      advance
      return .repetition 1 none (!(← lazyMark)) body
  | _ =>
      let (min, max) ← repetitionBounds
      if (← current) = '\x7d' then
        advanceSpace
        return .repetition min max (!(← lazyMark)) body
      else failure

def applySpace (changes : FlagChanges) : Reader Unit :=
  modify fun state =>
    { state with ignoreSpace := (changes.state? .ignoreSpace).getD state.ignoreSpace }

def changesOf : GroupKind → FlagChanges
  | .capture _ => []
  | .flags changes => changes

/-- A choice up to a closing parenthesis or the end, at which reading stops. The branches before
the current one and the parts of the current one come in reverse. -/
def alternation : Nat → List Tree → List Tree → Reader Tree
  | 0, _, _ => failure
  | fuel + 1, branches, parts => do
      skipSpace
      match ← peek with
      | none | some ')' => return .ofBranches (.ofParts parts.reverse :: branches).reverse
      | some '|' =>
          advance
          alternation fuel (.ofParts parts.reverse :: branches) []
      | some '(' =>
          match ← opening with
          | .directive changes =>
              applySpace changes
              alternation fuel branches (.flags changes :: parts)
          | .group kind =>
              let outside := (← get).ignoreSpace
              applySpace (changesOf kind)
              let body ← alternation fuel [] []
              let _ ← current
              modify fun state => { state with ignoreSpace := outside }
              advance
              alternation fuel branches (.group kind body :: parts)
      | some '[' =>
          let chars ← bracketed
          alternation fuel branches (.set chars :: parts)
      | some '.' =>
          advance
          alternation fuel branches (.dot :: parts)
      | some '^' =>
          advance
          alternation fuel branches (.assertion .lineStart :: parts)
      | some '$' =>
          advance
          alternation fuel branches (.assertion .lineEnd :: parts)
      | some '\\' =>
          advance
          let primitive ← escape
          alternation fuel branches (primitive.tree :: parts)
      | some c =>
          if c ∈ ['?', '*', '+', '\x7b'] then
            match parts with
            | body :: before =>
                if body.isRepeatable then
                  let repeated ← repetition c body
                  alternation fuel branches (repeated :: before)
                else failure
            | [] => failure
          else
            advance
            alternation fuel branches ((verbatim c).tree :: parts)

end Reader

/-- Reads a pattern, none if it is malformed or nested too deeply. -/
def Tree.read? (pattern : List Char) : Option Tree := do
  let (tree, state) ← Reader.alternation (pattern.length + 1) [] [] { rest := pattern }
  if state.rest.isEmpty ∧ tree.depth ≤ depthLimit then some tree else none

end LazyGrammar.Regex
