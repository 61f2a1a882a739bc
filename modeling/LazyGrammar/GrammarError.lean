import LazyGrammar.CharSet.ClassText

/-!
# Errors of grammars

Mistakes of whoever writes a grammar. Text that a grammar does not match is no
error: it has no parses.
-/

set_option autoImplicit false

namespace LazyGrammar

inductive GrammarError where
  | invalidRegex (pattern : String)
  | invalidCharSet (error : ClassError)
  /-- A rule is referred to that is not bound. -/
  | unresolvedRule (name : String)
  /-- A parse is to start from a rule that is not bound. -/
  | unknownRule (name : String)
  deriving DecidableEq

namespace GrammarError

def message : GrammarError → String
  | .invalidRegex pattern => "invalid regular expression " ++ Quoted.text pattern
  | .invalidCharSet error => error.message
  | .unresolvedRule name => "reference to undefined rule `" ++ name ++ "`"
  | .unknownRule name => "no rule named `" ++ name ++ "` in this grammar"

end GrammarError

end LazyGrammar
