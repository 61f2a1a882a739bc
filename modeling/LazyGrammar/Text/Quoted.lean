import LazyGrammar.Text.Hexadecimal
import LazyGrammar.Unicode.Additions
import LazyGrammar.Unicode.Property

/-!
# Quoted texts and characters

Texts stand in double quotes and characters in single quotes. The quote itself,
the backslash and four control characters have short escapes: NUL, the tab, the
carriage return and the line feed. Every other character that would not show, or
that would join the one before it, is written by its code point.
-/

set_option autoImplicit false

namespace LazyGrammar.Quoted

def letters : CharSet :=
  Unicode.GeneralCategory.charsOfAny
    [.uppercaseLetter, .lowercaseLetter, .titlecaseLetter, .modifierLetter, .otherLetter]

/-- The characters that do not show by themselves: controls, separators other than the space,
private, unassigned and ignorable characters, and marks that extend the character before them. -/
def invisible : CharSet :=
  (Unicode.anyOf [
    (Unicode.GeneralCategory.charsOfAny
      [.control, .format, .privateUse, .unassigned,
        .spaceSeparator, .lineSeparator, .paragraphSeparator]).diff (.singleton ' '),
    Unicode.Property.graphemeExtend.diff letters,
    Unicode.Property.defaultIgnorable]).diff Unicode.Additions.shown

/-- The letter that stands for a character after a backslash, inside the given quotes. -/
def shortEscape? (quote c : Char) : Option Char :=
  if c = '\x00' then some '0'
  else if c = '\t' then some 't'
  else if c = '\r' then some 'r'
  else if c = '\n' then some 'n'
  else if c = '\\' ∨ c = quote then some c
  else none

def escape (quote c : Char) : List Char :=
  match shortEscape? quote c with
  | some letter => ['\\', letter]
  | none =>
      if invisible.contains c then
        ['\\', 'u', '{'] ++ Hexadecimal.digits c.toNat ++ ['}']
      else [c]

def enclose (quote : Char) (chars : List Char) : String :=
  String.ofList (quote :: chars.flatMap (escape quote) ++ [quote])

def text (content : String) : String := enclose '"' content.toList

def char (c : Char) : String := enclose '\'' [c]

end LazyGrammar.Quoted
