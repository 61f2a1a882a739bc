import LazyGrammar.Unicode.Property
import LazyGrammar.Unicode.Script

/-!
# Word breaks

The classes of characters by which a text is divided into words. A character has
at most one of them. The letters of the scripts that are written without blanks
between words have none: there a dictionary has to decide.
-/

set_option autoImplicit false

namespace LazyGrammar.Unicode

inductive WordBreak where
  | carriageReturn | lineFeed | newline | extend | joiner | regionalIndicator | format | katakana
  | hebrewLetter | letter | singleQuote | doubleQuote | middleOfNumberOrWord | middleOfWord
  | middleOfNumber | numeric | connector | blank
  deriving DecidableEq

namespace WordBreak

def extendChars : CharSet :=
  anyOf [Property.graphemeExtend, GeneralCategory.chars .spacingMark, Property.emojiModifier]

def katakanaChars : CharSet :=
  (Script.charsOfAny ["kana"]).union (charsOfRanges "3031-3035 309B-309C 30A0 30FC FF70")

def hebrewLetters : CharSet :=
  (Script.charsOfAny ["hebr"]).inter (GeneralCategory.chars .otherLetter)

/-- The alphabetic characters of scripts with blanks between words, and the signs that are
written inside words. -/
def letters : CharSet :=
  (Property.alphabetic.diff (anyOf [Property.ideographic, extendChars, katakanaChars, hebrewLetters,
    Script.charsOfAny
      ["hira", "thai", "laoo", "mymr", "khmr", "tale", "talu", "lana", "tavt", "ahom"]])).union
    (charsOfRanges
      "B8 2C2-2C5 2D2-2D7 2DE-2DF 2E5-2EB 2ED 2EF-2FF 55A-55C 55E 58A 5F3 70F A708-A716 A720-A721
       A789-A78A AB5B")

/-- The digits of numbers, the marks put before them and the decimal sign of Arabic. -/
def numericChars : CharSet :=
  (anyOf [GeneralCategory.chars .decimalNumber, Property.prependedConcatenationMark,
    charsOfRanges "66B 19DA"]).diff letters

def chars : WordBreak → CharSet
  | .carriageReturn => .singleton '\r'
  | .lineFeed => .singleton '\n'
  | .newline => charsOfRanges "B-C 85 2028-2029"
  | .extend => extendChars
  | .joiner => .singleton '\u200D'
  | .regionalIndicator => Property.regionalIndicator
  | .format =>
      (GeneralCategory.chars .format).diff (anyOf [charsOfRanges "200B-200D",
        Property.prependedConcatenationMark, Property.graphemeExtend])
  | .katakana => katakanaChars
  | .hebrewLetter => hebrewLetters
  | .letter => letters
  | .singleQuote => .singleton '\''
  | .doubleQuote => .singleton '"'
  | .middleOfNumberOrWord => charsOfRanges "2E 2018-2019 2024 FE52 FF07 FF0E"
  | .middleOfWord => charsOfRanges "3A B7 387 55F 5F4 2027 FE13 FE55 FF1A"
  | .middleOfNumber =>
      charsOfRanges "2C 3B 37E 589 60C-60D 66C 7F8 2044 FE10 FE14 FE50 FE54 FF0C FF1B"
  | .numeric => numericChars
  | .connector => (GeneralCategory.chars .connectorPunctuation).insert '\u202F'
  | .blank => charsOfRanges "20 1680 2000-2006 2008-200A 205F 3000"

def named : List (List String × WordBreak) := [
  (["cr"], .carriageReturn),
  (["lf"], .lineFeed),
  (["newline", "nl"], .newline),
  (["extend"], .extend),
  (["zwj"], .joiner),
  (["regionalindicator", "ri"], .regionalIndicator),
  (["format", "fo"], .format),
  (["katakana", "ka"], .katakana),
  (["hebrewletter", "hl"], .hebrewLetter),
  (["aletter", "le"], .letter),
  (["singlequote", "sq"], .singleQuote),
  (["doublequote", "dq"], .doubleQuote),
  (["midnumlet", "mb"], .middleOfNumberOrWord),
  (["midletter", "ml"], .middleOfWord),
  (["midnum", "mn"], .middleOfNumber),
  (["numeric", "nu"], .numeric),
  (["extendnumlet", "ex"], .connector),
  (["wsegspace"], .blank)]

end WordBreak

end LazyGrammar.Unicode
