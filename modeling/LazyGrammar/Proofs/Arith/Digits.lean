import LazyGrammar.Arith
import LazyGrammar.Proofs.Matching

/-!
# Runs of digits

The pattern for numbers takes all digits at the beginning of the input, and does
not match without any. This is all that the theory of arithmetic knows of it.
-/

set_option autoImplicit false

namespace LazyGrammar.Arith

private theorem digits_program : digits.program = .someOf (.range '0' '9') := by
  have compiled : Regex.compile? "[0-9]+" = some (.someOf (.range '0' '9')) := rfl
  exact Option.some.inj (digits.compiled.symm.trans compiled)

theorem digits_matchesRuns : digits.MatchesRuns (.range '0' '9') :=
  Regex.Pattern.matchesRuns_of_program digits_program

def leadingDigits (input : List Char) : List Char :=
  input.takeWhile (CharSet.range '0' '9').contains

def afterDigits (input : List Char) : List Char :=
  input.dropWhile (CharSet.range '0' '9').contains

theorem leadingDigits_append_afterDigits (input : List Char) :
    leadingDigits input ++ afterDigits input = input := List.takeWhile_append_dropWhile

theorem digits_splitMatch? (input : List Char) :
    digits.splitMatch? input =
      if leadingDigits input = [] then none
      else some (leadingDigits input, afterDigits input) := digits_matchesRuns input

end LazyGrammar.Arith
