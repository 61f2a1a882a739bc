import LazyGrammar.CharSet.Basic
import LazyGrammar.Text.Hexadecimal

/-!
# Tables of code points

Sets of characters written as ranges of hexadecimal code points, such as
`41-5A 61-7A AA`: words apart by blanks or line ends, each a single code point or
the two ends of a range. The tables of the Unicode properties have this form.
-/

set_option autoImplicit false

namespace LazyGrammar.Unicode

def words (table : String) : List (List Char) :=
  (table.toList.splitOnP fun c => c == ' ' || c == '\n').filter fun word => !word.isEmpty

/-- The character that a word of digits names; no character for anything else. -/
def charOfHex? (digits : List Char) : Option Char :=
  match Hexadecimal.ofDigits? digits with
  | some n => if n.isValidChar then some (Char.ofNat n) else none
  | none => none

/-- The range that a word names: a code point alone or two with a hyphen between them. -/
def rangeOfWord? (word : List Char) : Option (Char × Char) :=
  match (word.splitOn '-').map charOfHex? with
  | [some only] => some (only, only)
  | [some first, some last] => some (first, last)
  | _ => none

def charsOfRanges (table : String) : CharSet :=
  CharSet.ofRanges ((words table).filterMap rangeOfWord?)

def anyOf (sets : List CharSet) : CharSet := sets.foldl .union .empty

end LazyGrammar.Unicode
