/-!
# Hexadecimal numbers

Numbers in base sixteen: written in lower case without leading zeros, read in
either case. Reading takes back what was written (`ofDigits?_digits`).
-/

set_option autoImplicit false

namespace LazyGrammar.Hexadecimal

def digit? (c : Char) : Option Nat :=
  if '0' ≤ c ∧ c ≤ '9' then some (c.toNat - '0'.toNat)
  else if 'a' ≤ c ∧ c ≤ 'f' then some (c.toNat - 'a'.toNat + 10)
  else if 'A' ≤ c ∧ c ≤ 'F' then some (c.toNat - 'A'.toNat + 10)
  else none

/-- Reads on from a number that stands before the digits; `none` if one of them is no digit. -/
def readOn (before : Nat) : List Char → Option Nat
  | [] => some before
  | c :: rest =>
      match digit? c with
      | some d => readOn (before * 16 + d) rest
      | none => none

/-- The number that the digits write, zero if there are none. -/
def ofDigits? (digits : List Char) : Option Nat := readOn 0 digits

/-- The digits of a number, in lower case and without leading zeros. -/
def digits (n : Nat) : List Char := Nat.toDigits 16 n

private theorem digit?_digitChar {d : Nat} (small : d < 16) : digit? d.digitChar = some d := by
  have all : ∀ d < 16, digit? d.digitChar = some d := by decide
  exact all d small

private theorem readOn_append (before : Nat) (first second : List Char) :
    readOn before (first ++ second) = (readOn before first).bind (readOn · second) := by
  induction first generalizing before with
  | nil => rfl
  | cons c rest ih =>
      simp only [List.cons_append, readOn]
      cases digit? c with
      | none => rfl
      | some d => exact ih _

theorem ofDigits?_digits (n : Nat) : ofDigits? (digits n) = some n := by
  induction n using Nat.strongRecOn with
  | ind n ih =>
      by_cases small : n < 16
      · rw [digits, Nat.toDigits_of_lt_base small]
        simp only [ofDigits?, readOn, digit?_digitChar small, Nat.zero_mul, Nat.zero_add]
      · have shorter : n / 16 < n := by omega
        have last : n % 16 < 16 := Nat.mod_lt _ (by decide)
        rw [digits, Nat.toDigits_of_base_le (by decide) (by omega), ofDigits?, readOn_append]
        have front : readOn 0 (Nat.toDigits 16 (n / 16)) = some (n / 16) := ih _ shorter
        simp only [front, Option.bind_some, readOn, digit?_digitChar last]
        rw [Nat.mul_comm, Nat.div_add_mod]

theorem digits_injective {m n : Nat} (same : digits m = digits n) : m = n := by
  have read := ofDigits?_digits m
  rw [same, ofDigits?_digits n] at read
  exact (Option.some.inj read).symm

end LazyGrammar.Hexadecimal
