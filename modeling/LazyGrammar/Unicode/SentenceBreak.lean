import LazyGrammar.Unicode.WordBreak

/-!
# Sentence breaks

The classes of characters by which a text is divided into sentences. A character
has at most one of them.
-/

set_option autoImplicit false

namespace LazyGrammar.Unicode

inductive SentenceBreak where
  | carriageReturn | lineFeed | separator | extend | format | blank | lower | upper | otherLetter
  | numeric | fullStop | continuation | terminal | close
  deriving DecidableEq

namespace SentenceBreak

def extendChars : CharSet :=
  anyOf [Property.graphemeExtend, GeneralCategory.chars .spacingMark, charsOfRanges "200D"]

def numericChars : CharSet := WordBreak.numericChars.union (charsOfRanges "66C")

/-- The letters in lower case, without the Georgian ones that also begin sentences. -/
def lowerChars : CharSet :=
  Property.lowercase.diff (Property.graphemeExtend.union (charsOfRanges "10D0-10FA 10FD-10FF"))

/-- The letters in upper and title case, without the Georgian ones that begin no sentences. -/
def upperChars : CharSet :=
  (Property.uppercase.union (GeneralCategory.chars .titlecaseLetter)).diff
    (charsOfRanges "1C90-1CBA 1CBD-1CBF")

/-- The full stops, which also stand in abbreviations and numbers. -/
def fullStops : CharSet := charsOfRanges "2E 2024 FE52 FF0E"

def chars : SentenceBreak → CharSet
  | .carriageReturn => .singleton '\r'
  | .lineFeed => .singleton '\n'
  | .separator => charsOfRanges "85 2028-2029"
  | .extend => extendChars
  | .format =>
      (GeneralCategory.chars .format).diff
        (anyOf [charsOfRanges "200C-200D", numericChars, Property.graphemeExtend])
  | .blank => Property.whiteSpace.diff (charsOfRanges "A D 85 2028-2029")
  | .lower => lowerChars
  | .upper => upperChars
  | .otherLetter =>
      (Property.alphabetic.union (charsOfRanges "5F3")).diff
        (anyOf [lowerChars, upperChars, extendChars])
  | .numeric => numericChars
  | .fullStop => fullStops
  | .continuation =>
      charsOfRanges
        "2C-2D 3A-3B 37E 55D 60C-60D 7F8 1802 1808 2013-2014 3001 FE10-FE11 FE13-FE14 FE31-FE32
         FE50-FE51 FE54-FE55 FE58 FE63 FF0C-FF0D FF1A-FF1B FF64"
  | .terminal => Property.sentenceTerminal.diff fullStops
  | .close =>
      (GeneralCategory.charsOfAny
        [.openPunctuation, .closePunctuation, .initialPunctuation, .finalPunctuation]).union
        (charsOfRanges "22 27 275B-2760 2E00-2E01 2E06-2E08 2E0B 1F676-1F678")

def named : List (List String × SentenceBreak) := [
  (["cr"], .carriageReturn),
  (["lf"], .lineFeed),
  (["sep", "se"], .separator),
  (["extend", "ex"], .extend),
  (["format", "fo"], .format),
  (["sp"], .blank),
  (["lower", "lo"], .lower),
  (["upper", "up"], .upper),
  (["oletter", "le"], .otherLetter),
  (["numeric", "nu"], .numeric),
  (["aterm", "at"], .fullStop),
  (["scontinue", "sc"], .continuation),
  (["sterm", "st"], .terminal),
  (["close", "cl"], .close)]

end SentenceBreak

end LazyGrammar.Unicode
