import LazyGrammar.Regex.Match

/-!
# What parsing relies on in matching

Parsers come to patterns through `splitMatch?` and nothing else, and proofs about
parses know two things of it. Any pattern matches at the beginning of the input
(`matchesPrefixes`), and a pattern whose program repeats the characters of a set takes
the longest run of them (`matchesRuns_of_program`), as that for numbers does with
digits. How programs are read and run is needed for these two and not beyond them.

The program for a run has two instructions, one that goes past a character and one
that goes back to it or, less preferred, leaves.
-/

set_option autoImplicit false

namespace LazyGrammar.Regex

namespace Pattern

/-- What is matched and what is left make up the input. -/
def MatchesPrefixes (pattern : Pattern) : Prop :=
  ∀ ⦃input matched rest : List Char⦄,
    pattern.splitMatch? input = some (matched, rest) → matched ++ rest = input

/-- The longest run of characters of a set is matched, unless it is empty. -/
def MatchesRuns (pattern : Pattern) (set : CharSet) : Prop :=
  ∀ input : List Char, pattern.splitMatch? input =
    if input.takeWhile set.contains = [] then none
    else some (input.takeWhile set.contains, input.dropWhile set.contains)

theorem matchesPrefixes (pattern : Pattern) : pattern.MatchesPrefixes := by
  intro input matched rest found
  simp only [splitMatch?, Option.map_eq_some_iff] at found
  obtain ⟨length, _, split⟩ := found
  cases split
  exact List.take_append_drop length input

end Pattern

namespace Program

/-- The program of one or more characters of a set, as many as there are. -/
def someOf (set : CharSet) : Program := #[.take set, .fork 0 2]

variable {set : CharSet} {before after : Option Char}

private theorem threads_someOf_start : threads (someOf set) before after [0] = [0] := rfl

/-- After a character of the set, going on is preferred to accepting. -/
private theorem threads_someOf_next : threads (someOf set) before after [1] = [0, 2] := rfl

private theorem advance_someOf (c : Char) :
    advance (someOf set) c [0] = if set.contains c then [1] else [] := by
  cases inSet : set.contains c with
  | true => simp [advance, someOf, inSet]
  | false => simp [advance, someOf, inSet]

private theorem run_someOf (consumed : Nat) (best : Option Nat) (input : List Char) :
    (someOf set).run [1] before consumed best input =
      some (consumed + (input.takeWhile set.contains).length) := by
  induction input generalizing before consumed best with
  | nil => rfl
  | cons c rest ih =>
      have accepts : (someOf set).size ∈ threads (someOf set) before (some c) [1] := by
        rw [threads_someOf_next]
        exact List.mem_cons_of_mem 0 List.mem_cons_self
      have onward : (threads (someOf set) before (some c) [1]).takeWhile
          (· ≠ (someOf set).size) = [0] := by
        rw [threads_someOf_next]
        rfl
      rw [run, if_pos accepts, onward, advance_someOf, List.takeWhile_cons]
      cases inSet : set.contains c with
      | true =>
          simp only [if_true, ih, List.length_cons]
          congr 1
          omega
      | false => rfl

private theorem matchLength?_someOf (input : List Char) :
    (someOf set).matchLength? input =
      if input.takeWhile set.contains = [] then none
      else some (input.takeWhile set.contains).length := by
  cases input with
  | nil => rfl
  | cons c rest =>
      have goesOn : (threads (someOf set) none (some c) [0]).takeWhile
          (· ≠ (someOf set).size) = [0] := rfl
      have notYet : (someOf set).size ∉ threads (someOf set) none (some c) [0] := by
        rw [threads_someOf_start]
        exact List.not_mem_cons_of_ne_of_not_mem nofun List.not_mem_nil
      rw [matchLength?, run, if_neg notYet, goesOn, advance_someOf, List.takeWhile_cons]
      cases inSet : set.contains c with
      | true => simp [run_someOf, Nat.add_comm]
      | false => rfl

end Program

theorem Pattern.matchesRuns_of_program {pattern : Pattern} {set : CharSet}
    (repeats : pattern.program = .someOf set) : pattern.MatchesRuns set := by
  intro input
  rw [splitMatch?, repeats, Program.matchLength?_someOf]
  split
  · rfl
  · have whole : input.takeWhile set.contains ++ input.dropWhile set.contains = input :=
      List.takeWhile_append_dropWhile
    have taken := congrArg (List.take (input.takeWhile set.contains).length) whole
    have dropped := congrArg (List.drop (input.takeWhile set.contains).length) whole
    rw [List.take_left] at taken
    rw [List.drop_left] at dropped
    rw [Option.map_some, ← taken, ← dropped]

end LazyGrammar.Regex
