import LazyGrammar.Proofs.CharacterRuns
import LazyGrammar.Proofs.Text.Runs

/-!
# Words

A repetition of characters of a set takes the longest run of them, character by
character, and has no second result. So a word is its text with all the white space
behind it, and there is one way to read it at most.
-/

set_option autoImplicit false

namespace LazyGrammar

/-- The longest run of characters with a property that a text begins with, and what comes after. -/
structure LongestRun (inside : Char → Prop) (text run rest : List Char) : Prop where
  split : text = run ++ rest
  all : ∀ c ∈ run, inside c
  longest : ∀ other, other <+: text → (∀ c ∈ other, inside c) → other.length ≤ run.length

/-- A run is the longest if what comes after it does not go on with such a character. -/
theorem longestRun_of_ended {inside : Char → Prop} {run rest : List Char}
    (all : ∀ c ∈ run, inside c) (ended : ∀ c ∈ rest.head?, ¬ inside c) :
    LongestRun inside (run ++ rest) run rest := by
  refine ⟨rfl, all, fun other begins otherAll => ?_⟩
  apply Nat.le_of_not_lt
  intro longer
  obtain ⟨more, rfl⟩ :=
    List.prefix_of_prefix_length_le (List.prefix_append run rest) begins (Nat.le_of_lt longer)
  cases more with
  | nil => simp at longer
  | cons c others =>
      obtain ⟨after, same⟩ := (List.prefix_append_right_inj run).mp begins
      refine ended c ?_ (otherAll c (by simp))
      rw [← same]
      rfl

theorem LongestRun.unique {inside : Char → Prop} {text run rest other more : List Char}
    (one : LongestRun inside text run rest) (two : LongestRun inside text other more) :
    run = other ∧ rest = more := by
  have le := two.longest run ⟨rest, one.split.symm⟩ one.all
  have ge := one.longest other ⟨more, two.split.symm⟩ two.all
  exact List.append_inj (one.split.symm.trans two.split) (Nat.le_antisymm le ge)

theorem longestRun_takeWhile {inside : Char → Prop} {test : Char → Bool}
    (decides : ∀ c, test c = true ↔ inside c) (text : List Char) :
    LongestRun inside text (text.takeWhile test) (text.dropWhile test) := by
  have longest : LongestRun inside (text.takeWhile test ++ text.dropWhile test)
      (text.takeWhile test) (text.dropWhile test) := by
    apply longestRun_of_ended
    · intro c member
      exact (decides c).mp (List.mem_takeWhile_imp member)
    · intro c isHead isInside
      have refused := List.head?_dropWhile_not test text
      rw [Option.mem_def.mp isHead] at refused
      simp [(decides c).mpr isInside] at refused
  rwa [List.takeWhile_append_dropWhile] at longest

namespace Lexical

variable {rounds : Nat} {call : String → List Char → Enumeration Parse} {input : List Char}

theorem contains_whitespaceChars {c : Char} :
    whitespaceChars.contains c = true ↔ c ∈ [' ', '\t', '\n', '\r', '\x0B'] := by
  rw [CharSet.contains_iff, whitespaceChars, CharSet.mem_ofList]

theorem parsesWith_whitespace (enough : input.length < rounds) :
    whitespace.parsesWith rounds call input =
      .single ⟨.list ((input.takeWhile whitespaceChars.contains).map .char),
        input.dropWhile whitespaceChars.contains⟩ :=
  Expr.parsesWith_many_oneOf
    (Nat.lt_of_le_of_lt (List.takeWhile_prefix _).length_le enough)

theorem parsesWith_left_whitespace {kept : Expr} {found : Option Parse}
    (first : kept.parsesWith rounds call input = .ofOption found)
    (enough : ∀ parse ∈ found, parse.rest.length < rounds) :
    (Expr.left kept whitespace).parsesWith rounds call input =
      .ofOption (found.map fun parse =>
        ⟨parse.value, parse.rest.dropWhile whitespaceChars.contains⟩) := by
  rw [Expr.left, Expr.parsesWith, Expr.parsesWith, first]
  cases found with
  | none => rfl
  | some parse =>
      rw [Enumeration.ofOption, Enumeration.flatMap_single,
        parsesWith_whitespace (enough parse rfl)]
      rfl

theorem parsesWith_word {text : String}
    (enough : ∀ rest, input = text.toList ++ rest → rest.length < rounds) :
    (word text).parsesWith rounds call input =
      .ofOption ((literalParse? text input).map fun parse =>
        ⟨parse.value, parse.rest.dropWhile whitespaceChars.contains⟩) := by
  have first : (Expr.literal text).parsesWith rounds call input =
      .ofOption (literalParse? text input) := by rw [Expr.parsesWith]
  refine parsesWith_left_whitespace first fun parse found => ?_
  obtain ⟨rest, begins, rfl⟩ := literalParse?_eq_some_iff.mp found
  exact enough rest begins

end Lexical

namespace Rules

/-- Repeating the characters of a set has exactly one result, the longest run of them, and needs no
more rounds than there are characters and one to stop. Where at least one is asked for, this is the
result unless the run is empty. A word is found exactly where its text is, once, and leaves what
comes behind the longest run of white space after it. -/
theorem repeated_characters_are_longest_run (rules : Rules) (input : List Char) {fuel : Nat}
    (enough : input.length < fuel) :
    (∀ set : CharSet, ∃ run rest, LongestRun (· ∈ set) input run rest ∧
      (rules.cursor fuel (.many (.oneOf set)) input).RunsOut [⟨.list (run.map .char), rest⟩] ∧
      (rules.cursor fuel (.many1 (.oneOf set)) input).RunsOut
        (if run = [] then [] else [⟨.list (run.map .char), rest⟩])) ∧
    ∀ text : String,
      (∀ after, input = text.toList ++ after →
        ∃ gap rest, LongestRun (· ∈ [' ', '\t', '\n', '\r', '\x0B']) after gap rest ∧
          (rules.cursor fuel (Lexical.word text) input).RunsOut [⟨.text text, rest⟩]) ∧
      (¬ text.toList <+: input →
        (rules.cursor fuel (Lexical.word text) input).RunsOut []) := by
  refine ⟨fun set => ?_, fun text => ⟨fun after begins => ?_, fun absent => ?_⟩⟩
  · have inRun : (input.takeWhile set.contains).length < fuel :=
      Nat.lt_of_le_of_lt (List.takeWhile_prefix _).length_le enough
    refine ⟨_, _, longestRun_takeWhile (fun _ => CharSet.contains_iff) input, ?_, ?_⟩
    · exact Cursor.runsOut_iff.mpr (Expr.parsesWith_many_oneOf inRun)
    · refine Cursor.runsOut_iff.mpr ((Expr.parsesWith_many1_oneOf inRun).trans ?_)
      split <;> rfl
  · refine ⟨_, _, longestRun_takeWhile (fun _ => Lexical.contains_whitespaceChars) after, ?_⟩
    have found := literalParse?_eq_some_iff.mpr ⟨after, begins, rfl⟩
    refine Cursor.runsOut_iff.mpr ((Lexical.parsesWith_word fun rest behind => ?_).trans ?_)
    · rw [behind, List.length_append] at enough
      exact Nat.lt_of_le_of_lt (Nat.le_add_left _ _) enough
    · rw [found]
      rfl
  · have missing := literalParse?_eq_none_iff.mpr absent
    refine Cursor.runsOut_iff.mpr ((Lexical.parsesWith_word fun rest behind => ?_).trans ?_)
    · exact (absent (behind ▸ List.prefix_append _ _)).elim
    · rw [missing]
      rfl

theorem repeated_characters_are_longest_run_greek :
    "λαλ\r\n x".toList.length < 8 ∧
    (empty.cursor 8 (.many (.oneOf (.ofText "αλ"))) "λαλ\r\n x".toList).RunsOut
      [⟨.list [.char 'λ', .char 'α', .char 'λ'], "\r\n x".toList⟩] ∧
    (empty.cursor 8 (Lexical.word "λα") "λαλ\r\n x".toList).RunsOut
      [⟨.text "λα", "λ\r\n x".toList⟩] ∧
    (empty.cursor 8 (Lexical.word "λαλ") "λαλ\r\n x".toList).RunsOut
      [⟨.text "λαλ", ['x']⟩] := by
  have enough : "λαλ\r\n x".toList.length < 8 := by decide
  obtain ⟨classes, words⟩ := repeated_characters_are_longest_run empty _ enough
  obtain ⟨run, rest, longest, many, _⟩ := classes (.ofText "αλ")
  obtain ⟨rfl, rfl⟩ := longest.unique (longestRun_takeWhile (fun _ => CharSet.contains_iff) _)
  refine ⟨enough, many, ?_, ?_⟩
  · obtain ⟨gap, rest, longest, once⟩ := (words "λα").1 "λ\r\n x".toList rfl
    obtain ⟨rfl, rfl⟩ := longest.unique
      (longestRun_takeWhile (fun _ => Lexical.contains_whitespaceChars) _)
    exact once
  · obtain ⟨gap, rest, longest, once⟩ := (words "λαλ").1 "\r\n x".toList rfl
    obtain ⟨rfl, rfl⟩ := longest.unique
      (longestRun_takeWhile (fun _ => Lexical.contains_whitespaceChars) _)
    exact once

end Rules

end LazyGrammar
