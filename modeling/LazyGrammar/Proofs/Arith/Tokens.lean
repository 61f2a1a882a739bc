import LazyGrammar.Proofs.Arith.Digits
import LazyGrammar.Proofs.Arith.Language
import LazyGrammar.Proofs.Words
import Mathlib.Data.List.TakeWhile

/-!
# Tokens of arithmetic

What the expressions for tokens find: the token, if the input begins with it, and
then all the white space that follows. A run of digits is taken as a whole, and so
is one of white space.
-/

set_option autoImplicit false

namespace LazyGrammar.Arith

/-!
## White space and digits
-/

def skipBlanks (input : List Char) : List Char :=
  input.dropWhile Lexical.whitespaceChars.contains

private theorem contains_digits (c : Char) : (CharSet.range '0' '9').contains c = c.isDigit := by
  rw [Bool.eq_iff_iff, CharSet.contains_iff, CharSet.mem_range]
  simp [Char.isDigit, Char.le_def]

theorem skipBlanks_append {gap rest : List Char} (blanks : ∀ c ∈ gap, Blank c)
    (solid : ∀ c ∈ rest.head?, ¬ Blank c) : skipBlanks (gap ++ rest) = rest := by
  refine Text.dropWhile_run (fun c member => ?_) fun c isHead => ?_
  · exact Lexical.contains_whitespaceChars.mpr (blanks c member)
  · rw [Bool.eq_false_iff, ne_eq, Lexical.contains_whitespaceChars]
    exact solid c isHead

theorem exists_blanks (input : List Char) :
    ∃ gap, (∀ c ∈ gap, Blank c) ∧ input = gap ++ skipBlanks input := by
  refine ⟨input.takeWhile Lexical.whitespaceChars.contains, fun c member => ?_, ?_⟩
  · exact Lexical.contains_whitespaceChars.mp (List.mem_takeWhile_imp member)
  · exact List.takeWhile_append_dropWhile.symm

theorem length_skipBlanks_le (input : List Char) : (skipBlanks input).length ≤ input.length :=
  (List.dropWhile_suffix _).length_le

private theorem exists_numeral {input : List Char} (present : leadingDigits input ≠ []) :
    ∃ numeral : Numeral, numeral.digits = leadingDigits input := by
  refine ⟨⟨leadingDigits input, present, fun c member => ?_⟩, rfl⟩
  rw [← contains_digits]
  exact List.mem_takeWhile_imp member

private theorem digits_append (numeral : Numeral) {rest : List Char}
    (ended : ∀ c ∈ rest.head?, c.isDigit = false) :
    leadingDigits (numeral.digits ++ rest) = numeral.digits ∧
      afterDigits (numeral.digits ++ rest) = rest := by
  have after : afterDigits (numeral.digits ++ rest) = rest := by
    refine Text.dropWhile_run (fun c member => ?_) fun c isHead => ?_
    · rw [contains_digits]
      exact numeral.decimal c member
    · rw [contains_digits]
      exact ended c isHead
  have whole := leadingDigits_append_afterDigits (numeral.digits ++ rest)
  rw [after] at whole
  exact ⟨List.append_cancel_right whole, after⟩

/-!
## Token expressions
-/

def afterSymbol? (symbol : Char) : List Char → Option (List Char)
  | [] => none
  | c :: rest => if c = symbol then some (skipBlanks rest) else none

theorem afterSymbol?_eq_some_iff {symbol : Char} {input rest : List Char} :
    afterSymbol? symbol input = some rest ↔
      ∃ after, input = symbol :: after ∧ rest = skipBlanks after := by
  cases input with
  | nil => simp [afterSymbol?]
  | cons c after =>
      by_cases same : c = symbol
      · subst same
        simp [afterSymbol?, eq_comm]
      · simp [afterSymbol?, same]

theorem length_lt_of_afterSymbol? {symbol : Char} {input rest : List Char}
    (found : afterSymbol? symbol input = some rest) : rest.length < input.length := by
  obtain ⟨after, rfl, rfl⟩ := afterSymbol?_eq_some_iff.mp found
  exact Nat.lt_succ_of_le (length_skipBlanks_le after)

def number? (input : List Char) : Option Parse :=
  if leadingDigits input = [] then none
  else some ⟨.text (String.ofList (leadingDigits input)), skipBlanks (afterDigits input)⟩

theorem number?_eq_some_iff {input : List Char} {item : Parse} :
    number? input = some item ↔ ∃ numeral after, input = Numeral.digits numeral ++ after ∧
      (∀ c ∈ after.head?, c.isDigit = false) ∧
      item = ⟨.text (String.ofList numeral.digits), skipBlanks after⟩ := by
  rw [number?]
  constructor
  · intro isNumber
    split at isNumber
    · cases isNumber
    next present =>
      cases isNumber
      obtain ⟨numeral, same⟩ := exists_numeral present
      refine ⟨numeral, afterDigits input, ?_, fun c isHead => ?_, by rw [same]⟩
      · rw [same, leadingDigits_append_afterDigits]
      · rw [← contains_digits]
        have refused := List.head?_dropWhile_not (CharSet.range '0' '9').contains input
        rw [← afterDigits, Option.mem_def.mp isHead] at refused
        simpa using refused
  · intro begins
    obtain ⟨numeral, after, rfl, ended, rfl⟩ := begins
    obtain ⟨leading, rest⟩ := digits_append numeral ended
    rw [leading, rest, if_neg numeral.nonempty]

variable {rounds : Nat} {call : String → List Char → Enumeration Parse} {input : List Char}

theorem parsesWith_word {text : String} {symbol : Char} (single : text.toList = [symbol])
    (enough : input.length ≤ rounds) :
    (Lexical.word text).parsesWith rounds call input =
      .ofOption ((afterSymbol? symbol input).map fun rest => ⟨.text text, rest⟩) := by
  have shorter : ∀ rest, input = text.toList ++ rest → rest.length < rounds := by
    rintro rest rfl
    rw [single] at enough
    exact enough
  rw [Lexical.parsesWith_word shorter]
  cases found : literalParse? text input with
  | none =>
      have absent : afterSymbol? symbol input = none := by
        rw [Option.eq_none_iff_forall_not_mem]
        intro rest isAfter
        obtain ⟨after, rfl, rfl⟩ := afterSymbol?_eq_some_iff.mp isAfter
        rw [literalParse?_eq_none_iff, single] at found
        exact found (List.prefix_append [symbol] after)
      rw [absent]
      rfl
  | some parse =>
      obtain ⟨after, begins, rfl⟩ := literalParse?_eq_some_iff.mp found
      rw [single] at begins
      rw [afterSymbol?_eq_some_iff.mpr ⟨after, begins, rfl⟩]
      rfl

theorem parsesWith_number (enough : input.length ≤ rounds) :
    (Expr.left (.regex digits) Lexical.whitespace).parsesWith rounds call input =
      .ofOption (number? input) := by
  have whole := congrArg List.length (leadingDigits_append_afterDigits input)
  rw [List.length_append] at whole
  have first : (Expr.regex digits).parsesWith rounds call input =
      .ofOption (regexParse? digits input) := by rw [Expr.parsesWith]
  rw [Lexical.parsesWith_left_whitespace first]
  · rw [regexParse?, digits_splitMatch?, number?]
    split <;> rfl
  · intro parse found
    rw [regexParse?, digits_splitMatch?] at found
    split at found
    · cases found
    next present =>
      cases found
      have taken := List.length_pos_of_ne_nil present
      show (afterDigits input).length < rounds
      omega

end LazyGrammar.Arith
