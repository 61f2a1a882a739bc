import LazyGrammar.Regex.Tree
import LazyGrammar.Text.Blank

/-!
# Reading patterns: characters and escapes

The state of a reader of patterns, the blanks and comments that it may skip, and
everything that begins with a backslash. Reading a malformed pattern yields
nothing. Loops take a bound on their rounds; every round uses up a character of
the pattern, so the length of the pattern suffices.
-/

set_option autoImplicit false

namespace LazyGrammar.Regex

structure ReaderState where
  rest : List Char
  /-- Whether blanks and comments between the parts of the pattern are skipped. -/
  ignoreSpace : Bool := false
  names : List (List Char) := []
  captures : Nat := 0

/-- A step of reading; nothing if the pattern is malformed. -/
abbrev Reader := StateT ReaderState Option

namespace Reader

/-- Skips blanks and comments. A comment goes from a `#` to the end of its line. -/
def dropSpace (inComment : Bool) : List Char → List Char
  | [] => []
  | c :: rest =>
      if inComment then dropSpace (c != '\n') rest
      else if Text.isBlank c then dropSpace false rest
      else if c = '#' then dropSpace true rest
      else c :: rest

def peek : Reader (Option Char) := do return (← get).rest.head?

def current : Reader Char := do
  match (← get).rest with
  | c :: _ => return c
  | [] => failure

def advance : Reader Unit := modify fun state => { state with rest := state.rest.tail }

def skipSpace : Reader Unit :=
  modify fun state =>
    if state.ignoreSpace then { state with rest := dropSpace false state.rest } else state

def advanceSpace : Reader Unit := do
  advance
  skipSpace

/-- Goes past a text if it comes next. -/
def skipText (text : List Char) : Reader Bool := do
  let state ← get
  if text.isPrefixOf state.rest then
    set { state with rest := state.rest.drop text.length }
    return true
  else return false

/-- The rounds that a loop over the rest of the pattern can need. -/
def rounds : Reader Nat := do return (← get).rest.length + 1

def takeWhile (test : Char → Bool) : Nat → Reader (List Char)
  | 0 => failure
  | fuel + 1 => do
      match ← peek with
      | some c =>
          if test c then
            advanceSpace
            return c :: (← takeWhile test fuel)
          else return []
      | none => return []

/-- The characters between an opening brace, at the current place, and the next closing one, at
which reading stops. -/
def insideBraces : Reader (List Char) := do
  advanceSpace
  let inside ← takeWhile (· ≠ '\x7d') (← rounds)
  let _ ← current
  return inside

inductive Primitive where
  | literal (only : Literal)
  | assertion (kind : Assertion)
  | set (chars : ClassTree)

namespace Primitive

def tree : Primitive → Tree
  | .literal only => .literal only
  | .assertion kind => .assertion kind
  | .set chars => .set chars

/-- A primitive as a part of a class, where conditions have no meaning. -/
def inClass : Primitive → Reader ClassTree
  | .literal only => return .literal only
  | .set chars => return chars
  | .assertion _ => failure

def rangeEnd : Primitive → Reader Literal
  | .literal only => return only
  | _ => failure

end Primitive

def scalar (n : Nat) : Reader Char :=
  if n.isValidChar then return Char.ofNat n else failure

/-- A number of exactly so many hexadecimal digits, read on from the digits before. -/
def hexDigits (before : Nat) : Nat → Reader Nat
  | 0 => return before
  | count + 1 => do
      match Hexadecimal.digit? (← current) with
      | some d =>
          advanceSpace
          hexDigits (before * 16 + d) count
      | none => failure

/-- A character by its code point: in braces or with a fixed number of digits. Two digits may
also stand for a byte. -/
def hexLiteral (digits : Nat) : Reader Primitive := do
  advanceSpace
  if (← current) = '\x7b' then
    let inside ← insideBraces
    advanceSpace
    match Hexadecimal.ofDigits? inside with
    | some n =>
        if inside.isEmpty then failure
        else return .literal { value := ← scalar n, isByte := false }
    | none => failure
  else
    let n ← hexDigits 0 digits
    return .literal { value := ← scalar n, isByte := digits == 2 }

def splitAtFirst? (separator : List Char) : List Char → Option (List Char × List Char)
  | [] => none
  | c :: rest =>
      if separator.isPrefixOf (c :: rest) then some ([], (c :: rest).drop separator.length)
      else (splitAtFirst? separator rest).map fun (left, right) => (c :: left, right)

/-- The query that a name in braces makes, and whether it asks for the characters without the
property: the inequality sign, which is looked for first of the separators, does. -/
def propertyQuery (inside : List Char) : Unicode.PropertyQuery × Bool :=
  match splitAtFirst? ['!', '='] inside with
  | some (name, value) => (.withValue name value, true)
  | none =>
      match splitAtFirst? [':'] inside <|> splitAtFirst? ['='] inside with
      | some (name, value) => (.withValue name value, false)
      | none => (.named inside, false)

def propertyClass (negated : Bool) : Reader Primitive := do
  advanceSpace
  let c ← current
  if c = '\x7b' then
    let inside ← insideBraces
    advance
    let (query, unequal) := propertyQuery inside
    return .set (.property query (negated != unequal))
  else if c = '\\' then failure
  else
    advanceSpace
    return .set (.property (.named [c]) negated)

def isMeta (c : Char) : Bool :=
  c ∈ ['\\', '.', '+', '*', '?', '(', ')', '|', '[', ']', '\x7b', '\x7d', '^', '$', '#', '&', '-',
    '~']

/-- The characters that a backslash makes literal: the ASCII characters but letters, digits and
the angle brackets. -/
def isEscapable (c : Char) : Bool :=
  isMeta c || (c.toNat < 0x80 && !c.isAlphanum && c != '<' && c != '>')

def isBoundaryNameChar (c : Char) : Bool := c.isAlpha || c = '-'

def wordBoundary? : String → Option Assertion
  | "start" => some .wordStart
  | "end" => some .wordEnd
  | "start-half" => some .wordStartHalf
  | "end-half" => some .wordEndHalf
  | _ => none

/-- A word boundary after its letter. A name in braces selects a special one; braces around
anything that cannot begin a name are left for a repetition. -/
def wordBoundary : Reader Assertion := do
  let state ← get
  if (← peek) = some '\x7b' then
    advanceSpace
    if isBoundaryNameChar (← current) then
      let name ← takeWhile isBoundaryNameChar (← rounds)
      if (← current) = '\x7d' then
        advance
        match wordBoundary? (String.ofList name) with
        | some kind => return kind
        | none => failure
      else failure
    else
      set state
      return .wordBoundary
  else return .wordBoundary

def verbatim (c : Char) : Primitive := .literal { value := c, isByte := false }

def escape : Reader Primitive := do
  match ← current with
  | 'x' => hexLiteral 2
  | 'u' => hexLiteral 4
  | 'U' => hexLiteral 8
  | 'p' => propertyClass false
  | 'P' => propertyClass true
  | c =>
      advance
      if isEscapable c then return verbatim c
      else match c with
        | 'd' => return .set (.letter .digit false)
        | 's' => return .set (.letter .space false)
        | 'w' => return .set (.letter .word false)
        | 'D' => return .set (.letter .digit true)
        | 'S' => return .set (.letter .space true)
        | 'W' => return .set (.letter .word true)
        | 'a' => return verbatim '\x07'
        | 'f' => return verbatim '\x0C'
        | 't' => return verbatim '\t'
        | 'n' => return verbatim '\n'
        | 'r' => return verbatim '\r'
        | 'v' => return verbatim '\x0B'
        | 'A' => return .assertion .textStart
        | 'z' => return .assertion .textEnd
        | 'b' => return .assertion (← wordBoundary)
        | 'B' => return .assertion .notWordBoundary
        | '<' => return .assertion .wordStart
        | '>' => return .assertion .wordEnd
        | _ => failure

end Reader

end LazyGrammar.Regex
