import LazyGrammar.Expr.Basic

/-!
# Lexical building blocks

Expressions for white space, words followed by white space, digits and letters.
White space is what ASCII has of it but the form feed, so a line may also end in a
carriage return and a line feed.
-/

set_option autoImplicit false

namespace LazyGrammar.Lexical

def whitespaceChars : CharSet := .ofList [' ', '\t', '\n', '\r', '\x0B']

def whitespace : Expr := .many (.oneOf whitespaceChars)

/-- A text followed by any white space, with the value of the text. -/
def word (text : String) : Expr := .left (.literal text) whitespace

def digit : Expr := .oneOf (.range '0' '9')

def nonzeroDigit : Expr := .oneOf (.range '1' '9')

def alpha : Expr := .oneOf (.ofRanges [('A', 'Z'), ('a', 'z')])

end LazyGrammar.Lexical
