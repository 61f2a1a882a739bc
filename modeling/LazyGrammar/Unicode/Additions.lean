import LazyGrammar.Unicode.CodePoints

/-!
# Characters added in version 17.0

The properties that a pattern can name are those of version 16.0 of the Unicode
standard. Two rules know the characters that version 17.0 added as well: which
characters show between quotes, and which may stand in the name of a group.
-/

set_option autoImplicit false

namespace LazyGrammar.Unicode.Additions

def letters : CharSet :=
  charsOfRanges
    "88F C5C CDC A7CE-A7CF A7D2 A7D4 A7F1 10940-10959 10EC5-10EC7 11DB0-11DDB 16EA0-16EB8
     16EBB-16ED3 16FF2-16FF3 187F8-187FF 18D09-18D1E 18D80-18DF2 1E6C0-1E6DE 1E6E0-1E6E2
     1E6E4-1E6E5 1E6E7-1E6ED 1E6F0-1E6F4 1E6FE-1E6FF 2B73A-2B73F 2CEA2-2CEAD 323B0-33479"

def letterNumbers : CharSet := charsOfRanges "16FF4-16FF6"

def digits : CharSet := charsOfRanges "11DE0-11DE9"

def spacingMarks : CharSet := charsOfRanges "11B61 11B65 11B67"

def vowelMarks : CharSet :=
  charsOfRanges "10EFA-10EFB 11B60 11B62-11B64 11B66 1E6E3 1E6E6 1E6EE-1E6EF 1E6F5"

def symbols : CharSet :=
  charsOfRanges
    "20C1 2B96 FBC3-FBD2 FD90-FD91 FDC8-FDCE 10ED0-10ED8 1CCFA-1CCFC 1CEBA-1CED0 1CEE0-1CEF0 1F6D8
     1F777-1F77A 1F8D0-1F8D8 1FA54-1FA57 1FA8A 1FA8E 1FAC8 1FACD 1FAEA 1FAEF 1FBFA"

def alphabetic : CharSet := anyOf [letters, letterNumbers, spacingMarks, vowelMarks]

def numeric : CharSet := letterNumbers.union digits

/-- The characters that show by themselves: all but the nonspacing marks. -/
def shown : CharSet := anyOf [letters, letterNumbers, digits, spacingMarks, symbols]

end LazyGrammar.Unicode.Additions
