import LazyGrammar.Unicode.Lookup

/-!
# Trees of regular expressions

The structure of a pattern as it is written: flags are still directives at their
places, and classes are still expressions over sets. How deeply the parts of a
pattern are nested is bounded, so that no later stage has to bound it.
-/

set_option autoImplicit false

namespace LazyGrammar.Regex

inductive Flag where
  | caseInsensitive
  | multiLine
  | dotMatchesNewLine
  | swapGreed
  | unicode
  | crlf
  | ignoreSpace
  deriving DecidableEq

abbrev FlagChanges := List (Flag × Bool)

def FlagChanges.state? (changes : FlagChanges) (flag : Flag) : Option Bool :=
  (changes.find? fun change => change.1 = flag).map Prod.snd

/-- A character of a pattern. It may also name a byte if it was written with two hexadecimal
digits. -/
structure Literal where
  value : Char
  isByte : Bool
  deriving DecidableEq

inductive Assertion where
  | lineStart
  | lineEnd
  | textStart
  | textEnd
  | wordBoundary
  | notWordBoundary
  | wordStart
  | wordEnd
  | wordStartHalf
  | wordEndHalf
  deriving DecidableEq

inductive LetterClass where
  | digit
  | space
  | word
  deriving DecidableEq

inductive AsciiClass where
  | alnum | alpha | ascii | blank | cntrl | digit | graph | lower | print | punct | space | upper
  | word | xdigit
  deriving DecidableEq

namespace AsciiClass

def named? : String → Option AsciiClass
  | "alnum" => some .alnum
  | "alpha" => some .alpha
  | "ascii" => some .ascii
  | "blank" => some .blank
  | "cntrl" => some .cntrl
  | "digit" => some .digit
  | "graph" => some .graph
  | "lower" => some .lower
  | "print" => some .print
  | "punct" => some .punct
  | "space" => some .space
  | "upper" => some .upper
  | "word" => some .word
  | "xdigit" => some .xdigit
  | _ => none

def ranges : AsciiClass → List (Char × Char)
  | .alnum => [('0', '9'), ('A', 'Z'), ('a', 'z')]
  | .alpha => [('A', 'Z'), ('a', 'z')]
  | .ascii => [('\x00', '\x7F')]
  | .blank => [('\t', '\t'), (' ', ' ')]
  | .cntrl => [('\x00', '\x1F'), ('\x7F', '\x7F')]
  | .digit => [('0', '9')]
  | .graph => [('!', '~')]
  | .lower => [('a', 'z')]
  | .print => [(' ', '~')]
  | .punct => [('!', '/'), (':', '@'), ('[', '\x60'), ('\x7b', '~')]
  | .space => [('\t', '\r'), (' ', ' ')]
  | .upper => [('A', 'Z')]
  | .word => [('0', '9'), ('A', 'Z'), ('_', '_'), ('a', 'z')]
  | .xdigit => [('0', '9'), ('A', 'F'), ('a', 'f')]

def chars (kind : AsciiClass) : CharSet := .ofRanges kind.ranges

end AsciiClass

inductive SetOp where
  | intersection
  | difference
  | symmetricDifference
  deriving DecidableEq

inductive ClassTree where
  | empty
  | literal (only : Literal)
  | range (first last : Literal)
  | ascii (kind : AsciiClass) (negated : Bool)
  | letter (kind : LetterClass) (negated : Bool)
  | property (query : Unicode.PropertyQuery) (negated : Bool)
  | bracketed (negated : Bool) (body : ClassTree)
  | union (items : List ClassTree)
  | binary (op : SetOp) (left right : ClassTree)

namespace ClassTree

def ofItems : List ClassTree → ClassTree
  | [] => .empty
  | [item] => item
  | items => .union items

mutual

def depth : ClassTree → Nat
  | .empty | .literal _ | .range _ _ | .ascii _ _ | .letter _ _ | .property _ _ => 0
  | .bracketed _ body => body.depth + 1
  | .union items => depthOfItems items + 1
  | .binary _ left right => max left.depth right.depth + 1

def depthOfItems : List ClassTree → Nat
  | [] => 0
  | item :: rest => max item.depth (depthOfItems rest)

end

end ClassTree

/-- What a group is for: capturing, with its number among the capturing groups, or holding flag
changes together. -/
inductive GroupKind where
  | capture (index : Nat)
  | flags (changes : FlagChanges)
  deriving DecidableEq

inductive Tree where
  | empty
  | flags (changes : FlagChanges)
  | literal (only : Literal)
  | dot
  | assertion (kind : Assertion)
  | set (chars : ClassTree)
  | repetition (min : Nat) (max : Option Nat) (greedy : Bool) (body : Tree)
  | group (kind : GroupKind) (body : Tree)
  | concat (parts : List Tree)
  | alternation (branches : List Tree)

namespace Tree

def ofParts : List Tree → Tree
  | [] => .empty
  | [part] => part
  | parts => .concat parts

def ofBranches : List Tree → Tree
  | [] => .empty
  | [branch] => branch
  | branches => .alternation branches

def isRepeatable : Tree → Bool
  | .empty | .flags _ => false
  | _ => true

mutual

def depth : Tree → Nat
  | .empty | .flags _ | .literal _ | .dot | .assertion _ => 0
  | .set chars => chars.depth
  | .repetition _ _ _ body => body.depth + 1
  | .group _ body => body.depth + 1
  | .concat parts => depthOfParts parts + 1
  | .alternation branches => depthOfParts branches + 1

def depthOfParts : List Tree → Nat
  | [] => 0
  | part :: rest => max part.depth (depthOfParts rest)

end

end Tree

def depthLimit : Nat := 250

end LazyGrammar.Regex
