import LazyGrammar.Regex.Meaning
import LazyGrammar.Regex.Tree
import LazyGrammar.Unicode.CaseFolding

/-!
# Meanings of pattern trees

Flags are resolved from left to right: a directive acts up to the end of its
group, also on later branches of a choice. With the Unicode flag off only ASCII
characters can be named by sets, and what would match more, such as a negated
class, has no meaning.
-/

set_option autoImplicit false

namespace LazyGrammar.Regex

structure Flags where
  caseInsensitive : Bool := false
  multiLine : Bool := false
  dotMatchesNewLine : Bool := false
  swapGreed : Bool := false
  unicode : Bool := true
  crlf : Bool := false

namespace Flags

/-- Ignoring blanks is a matter of reading only. -/
def switch (flags : Flags) : Flag × Bool → Flags
  | (.caseInsensitive, on) => { flags with caseInsensitive := on }
  | (.multiLine, on) => { flags with multiLine := on }
  | (.dotMatchesNewLine, on) => { flags with dotMatchesNewLine := on }
  | (.swapGreed, on) => { flags with swapGreed := on }
  | (.unicode, on) => { flags with unicode := on }
  | (.crlf, on) => { flags with crlf := on }
  | (.ignoreSpace, _) => flags

def apply (flags : Flags) (changes : FlagChanges) : Flags := changes.foldl switch flags

def fold (flags : Flags) (chars : CharSet) : CharSet :=
  if flags.caseInsensitive then
    if flags.unicode then Unicode.foldCase chars else Unicode.foldAsciiCase chars
  else chars

/-- The complement of a set, if it is to be negated. There is none with the Unicode flag off. -/
def negate (flags : Flags) (negated : Bool) (chars : CharSet) : Option CharSet :=
  if negated then if flags.unicode then some chars.compl else none else some chars

end Flags

def asciiChars : CharSet := .range '\x00' '\x7F'

/-- The characters of words: letters, marks, decimal numbers, connectors and join controls. -/
def wordChars : CharSet :=
  ((Unicode.GeneralCategory.charsOfAny
    [.nonspacingMark, .spacingMark, .enclosingMark, .decimalNumber, .connectorPunctuation]).union
    Unicode.Property.alphabetic).union Unicode.Property.joinControl

namespace LetterClass

def chars (unicode : Bool) : LetterClass → CharSet
  | .digit =>
      if unicode then Unicode.GeneralCategory.chars .decimalNumber else AsciiClass.digit.chars
  | .space => if unicode then Unicode.Property.whiteSpace else AsciiClass.space.chars
  | .word => if unicode then wordChars else AsciiClass.word.chars

end LetterClass

namespace SetOp

def apply : SetOp → CharSet → CharSet → CharSet
  | .intersection => .inter
  | .difference => .diff
  | .symmetricDifference => .symmDiff

end SetOp

namespace Literal

/-- The character of a literal. With the Unicode flag off a byte beyond ASCII is none. -/
def char? (flags : Flags) (literal : Literal) : Option Char :=
  if !flags.unicode && literal.isByte && !asciiChars.contains literal.value then none
  else some literal.value

/-- The character of a literal in a class, an ASCII one with the Unicode flag off. -/
def classChar? (flags : Flags) (literal : Literal) : Option Char :=
  if !flags.unicode && !asciiChars.contains literal.value then none else some literal.value

end Literal

namespace ClassTree

mutual

/-- The set that a class stands for. Case is folded before a set is negated and before an operator
applies. -/
def chars? (flags : Flags) : ClassTree → Option CharSet
  | .empty => some .empty
  | .literal only => do
      let c ← only.classChar? flags
      return .singleton c
  | .range first last => do
      let low ← first.classChar? flags
      let high ← last.classChar? flags
      return .range low high
  | .ascii kind negated => flags.negate negated (flags.fold kind.chars)
  | .letter kind negated => flags.negate negated (kind.chars flags.unicode)
  | .property query negated =>
      if flags.unicode then do
        let chars ← query.chars?
        flags.negate negated (flags.fold chars)
      else none
  | .bracketed negated body => do
      let chars ← body.chars? flags
      flags.negate negated (flags.fold chars)
  | .union items => unionChars? flags items
  | .binary op left right => do
      let left ← left.chars? flags
      let right ← right.chars? flags
      return op.apply (flags.fold left) (flags.fold right)

def unionChars? (flags : Flags) : List ClassTree → Option CharSet
  | [] => some .empty
  | item :: rest => do
      let chars ← item.chars? flags
      let others ← unionChars? flags rest
      return chars.union others

end

end ClassTree

namespace Assertion

def look (flags : Flags) : Assertion → Look
  | .lineStart => if flags.multiLine then .lineStart flags.crlf else .textStart
  | .lineEnd => if flags.multiLine then .lineEnd flags.crlf else .textEnd
  | .textStart => .textStart
  | .textEnd => .textEnd
  | .wordBoundary => .wordBoundary flags.unicode
  | .notWordBoundary => .notWordBoundary flags.unicode
  | .wordStart => .wordStart flags.unicode
  | .wordEnd => .wordEnd flags.unicode
  | .wordStartHalf => .wordStartHalf flags.unicode
  | .wordEndHalf => .wordEndHalf flags.unicode

end Assertion

namespace Tree

def dotChars (flags : Flags) : CharSet :=
  if flags.dotMatchesNewLine then .full
  else if flags.crlf then (CharSet.ofList ['\r', '\n']).compl
  else (CharSet.singleton '\n').compl

mutual

/-- The meaning of a pattern under flags, and the flags after it. -/
def meaning? (flags : Flags) : Tree → Option (Meaning × Flags)
  | .empty => some (.empty, flags)
  | .flags changes => some (.empty, flags.apply changes)
  | .literal only => do
      let c ← only.char? flags
      let chars := if flags.unicode || asciiChars.contains c then flags.fold (.singleton c)
        else .singleton c
      return (.ofSet flags.unicode chars, flags)
  | .dot => if flags.unicode then some (.ofSet true (dotChars flags), flags) else none
  | .assertion kind => some (.look (kind.look flags), flags)
  | .set chars => do
      let chars ← chars.chars? flags
      return (.ofSet flags.unicode chars, flags)
  | .repetition min max greedy body => do
      let (body, after) ← body.meaning? flags
      return (.repeated min max (greedy != after.swapGreed) body, after)
  | .group (.capture index) body => do
      let (body, _) ← body.meaning? flags
      return (.capture index body, flags)
  | .group (.flags changes) body => do
      let (body, _) ← body.meaning? (flags.apply changes)
      return (body, flags)
  | .concat parts => do
      let (parts, after) ← meanings? flags parts
      return (.row parts, after)
  | .alternation branches => do
      let (branches, after) ← meanings? flags branches
      return (.choice branches, after)

def meanings? (flags : Flags) : List Tree → Option (List Meaning × Flags)
  | [] => some ([], flags)
  | part :: rest => do
      let (meaning, between) ← part.meaning? flags
      let (meanings, after) ← meanings? between rest
      return (meaning :: meanings, after)

end

end Tree

end LazyGrammar.Regex
