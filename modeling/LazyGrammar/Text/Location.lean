import LazyGrammar.Text.Blank

/-!
# Locations in a text

A location cuts a text in two. It is reported by the number of its line, the
line itself and a caret under the place.
-/

set_option autoImplicit false

namespace LazyGrammar.Text

/-- A place in a text, given by what stands before it and what stands from it on. -/
structure Location where
  before : List Char
  after : List Char
  deriving DecidableEq

namespace Location

def source (place : Location) : List Char := place.before ++ place.after

def lineNumber (place : Location) : Nat := 1 + place.before.count '\n'

def lineStart (place : Location) : List Char :=
  (place.before.reverse.takeWhile (· ≠ '\n')).reverse

/-- The line of the place, without blank characters at its end. -/
def line (place : Location) : List Char :=
  trimEnd (place.lineStart ++ place.after.takeWhile (· ≠ '\n'))

/-- The number of bytes before the place in its line, in UTF-8. -/
def column (place : Location) : Nat :=
  place.lineStart.foldr (fun c bytes => c.utf8Size + bytes) 0

/-- A caret under the place, for output in which every byte before it takes one column. -/
def caret (place : Location) : List Char := List.replicate place.column ' ' ++ ['^']

end Location

end LazyGrammar.Text
