import LazyGrammar.Unicode.Property

/-!
# Grapheme cluster breaks

The classes of characters by which a text is divided into grapheme clusters. A
character has at most one of them; most have none.
-/

set_option autoImplicit false

namespace LazyGrammar.Unicode

inductive GraphemeBreak where
  | carriageReturn | lineFeed | control | extend | joiner | regionalIndicator | prepend
  | spacingMark | leadingConsonant | vowel | trailingConsonant | openSyllable | closedSyllable
  deriving DecidableEq

namespace GraphemeBreak

/-- The marks, the joiners of no width and the modifiers that belong to the character before. -/
def extendChars : CharSet := Property.graphemeExtend.union Property.emojiModifier

/-- The Hangul syllables that end in a vowel. Behind each stand the 27 with a last consonant. -/
def openSyllableChars : CharSet :=
  .ofList ((List.range 399).map fun series => Char.ofNat (0xAC00 + 28 * series))

def chars : GraphemeBreak → CharSet
  | .carriageReturn => .singleton '\r'
  | .lineFeed => .singleton '\n'
  | .control =>
      ((GeneralCategory.charsOfAny
        [.lineSeparator, .paragraphSeparator, .control, .format]).union
        (Property.defaultIgnorable.diff GeneralCategory.assignedChars)).diff
        (anyOf [charsOfRanges "A D 200C-200D", Property.prependedConcatenationMark,
          Property.graphemeExtend])
  | .extend => extendChars
  | .joiner => .singleton '\u200D'
  | .regionalIndicator => Property.regionalIndicator
  | .prepend =>
      Property.prependedConcatenationMark.union (charsOfRanges
        "D4E 111C2-111C3 113D1 1193F 11941 11A3A 11A84-11A89 11D46 11F02")
  | .spacingMark =>
      ((GeneralCategory.chars .spacingMark).union (charsOfRanges "E33 EB3")).diff
        (extendChars.union (charsOfRanges
          "102B-102C 1038 1062-1064 1067-106D 1083 1087-108C 108F 109A-109C 1A61 1A63-1A64 AA7B
           AA7D 11720-11721"))
  | .leadingConsonant => charsOfRanges "1100-115F A960-A97C"
  | .vowel => charsOfRanges "1160-11A7 D7B0-D7C6 16D63 16D67-16D6A"
  | .trailingConsonant => charsOfRanges "11A8-11FF D7CB-D7FB"
  | .openSyllable => openSyllableChars
  | .closedSyllable => (CharSet.range '\uAC00' '\uD7A3').diff openSyllableChars

def named : List (List String × GraphemeBreak) := [
  (["cr"], .carriageReturn),
  (["lf"], .lineFeed),
  (["control", "cn"], .control),
  (["extend", "ex"], .extend),
  (["zwj"], .joiner),
  (["regionalindicator", "ri"], .regionalIndicator),
  (["prepend", "pp"], .prepend),
  (["spacingmark", "sm"], .spacingMark),
  (["l"], .leadingConsonant),
  (["v"], .vowel),
  (["t"], .trailingConsonant),
  (["lv"], .openSyllable),
  (["lvt"], .closedSyllable)]

end GraphemeBreak

end LazyGrammar.Unicode
