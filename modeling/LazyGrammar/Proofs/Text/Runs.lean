import LazyGrammar.Text.Hexadecimal
import Mathlib.Data.List.TakeWhile

/-!
# Runs

A run of characters that pass a test ends where one follows that does not, and so it can
be told from what comes after it. The digits of a number are such runs.
-/

set_option autoImplicit false

namespace LazyGrammar.Text

theorem dropWhile_run {test : Char → Bool} {run rest : List Char}
    (inside : ∀ c ∈ run, test c = true) (ended : ∀ c ∈ rest.head?, test c = false) :
    (run ++ rest).dropWhile test = rest := by
  rw [List.dropWhile_append_of_pos inside]
  cases rest with
  | nil => rfl
  | cons c others => rw [List.dropWhile_cons_of_neg (by simp [ended c rfl])]

theorem run_eq {test : Char → Bool} {run other rest more : List Char}
    (inside : ∀ c ∈ run, test c = true) (otherInside : ∀ c ∈ other, test c = true)
    (ended : ∀ c ∈ rest.head?, test c = false) (otherEnded : ∀ c ∈ more.head?, test c = false)
    (same : run ++ rest = other ++ more) : run = other ∧ rest = more := by
  have rests := congrArg (List.dropWhile test) same
  rw [dropWhile_run inside ended, dropWhile_run otherInside otherEnded] at rests
  subst rests
  exact ⟨List.append_cancel_right same, rfl⟩

def isNumeral (c : Char) : Bool := c == '-' || c.isDigit

theorem isNumeral_of_mem_repr {n : Int} : ∀ c ∈ n.repr.toList, isNumeral c = true := by
  have digit : ∀ {m : Nat}, ∀ c ∈ m.repr.toList, isNumeral c = true := by
    intro m c member
    rw [Nat.repr, String.toList_ofList] at member
    rw [isNumeral, Nat.isDigit_of_mem_toDigits (by decide) (by decide) member, Bool.or_true]
  rw [Int.repr_eq_if]
  split
  · exact digit
  · rw [String.toList_append]
    exact List.forall_mem_append.mpr ⟨by simp [isNumeral], digit⟩

theorem repr_begins (n : Int) : ∃ c after, n.repr.toList = c :: after ∧ isNumeral c = true := by
  cases numerals : n.repr.toList with
  | nil =>
      rw [String.toList_eq_nil_iff, Int.repr_eq_if] at numerals
      split at numerals
      · exact (Nat.repr_ne_empty numerals).elim
      · exact (Nat.repr_ne_empty (String.append_eq_empty_iff.mp numerals).2).elim
  | cons c after =>
      exact ⟨c, after, rfl, isNumeral_of_mem_repr c (numerals ▸ List.mem_cons_self)⟩

end LazyGrammar.Text

namespace LazyGrammar.Hexadecimal

private theorem isSome_digit?_of_readOn {before n : Nat} {chars : List Char}
    (read : readOn before chars = some n) : ∀ c ∈ chars, (digit? c).isSome = true := by
  induction chars generalizing before with
  | nil => exact nofun
  | cons c rest ih =>
      rw [readOn] at read
      cases found : digit? c with
      | none => simp [found] at read
      | some d =>
          rw [found] at read
          exact List.forall_mem_cons.mpr ⟨by rw [found]; rfl, ih read⟩

theorem isSome_digit?_of_mem_digits {n : Nat} :
    ∀ c ∈ digits n, (digit? c).isSome = true :=
  isSome_digit?_of_readOn (ofDigits?_digits n)

end LazyGrammar.Hexadecimal
