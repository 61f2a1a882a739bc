import LazyGrammar.Lexical
import LazyGrammar.Proofs.Repetition

/-!
# Runs of characters

A repetition of characters of a set takes the longest run of them that the input
begins with, and nothing else. It needs one round a character and one to find out
that there is no more.
-/

set_option autoImplicit false

namespace LazyGrammar

variable {rounds : Nat} {call : String → List Char → Enumeration Parse} {input : List Char}

private theorem repetitionParses_charParse? {accept : Char → Bool} (before : List Value)
    (enough : (input.takeWhile accept).length < rounds) :
    repetitionParses (fun rest => .ofOption (charParse? accept rest)) rounds before input =
      .single ⟨.list (before ++ (input.takeWhile accept).map .char), input.dropWhile accept⟩ := by
  obtain ⟨rounds, rfl⟩ := Nat.exists_eq_add_one.mpr (Nat.zero_lt_of_lt enough)
  induction input generalizing before rounds with
  | nil => rw [repetitionParses_of_done rfl, List.takeWhile_nil, List.map_nil, List.append_nil]; rfl
  | cons c rest ih =>
      rw [List.takeWhile_cons] at enough ⊢
      rw [List.dropWhile_cons]
      cases accepted : accept c with
      | false =>
          have refused : Enumeration.ofOption (charParse? accept (c :: rest)) = .done := by
            simp [charParse?, accepted, Enumeration.ofOption]
          rw [repetitionParses_of_done refused]
          simp
      | true =>
          have taken : Enumeration.ofOption (charParse? accept (c :: rest)) =
              .single ⟨.char c, rest⟩ := by
            simp [charParse?, accepted, Enumeration.ofOption]
          simp only [accepted, if_true, List.length_cons] at enough
          obtain ⟨rounds, rfl⟩ := Nat.exists_eq_add_one.mpr
            (Nat.zero_lt_of_lt (Nat.lt_of_succ_lt_succ enough))
          rw [repetitionParses_of_single taken, ih _ rounds (Nat.lt_of_succ_lt_succ enough)]
          simp

namespace Expr

theorem parsesWith_oneOf (set : CharSet) :
    (fun rest => (Expr.oneOf set).parsesWith rounds call rest) =
      fun rest => .ofOption (charParse? set.contains rest) := by
  funext rest
  rw [parsesWith]

theorem parsesWith_many_oneOf {set : CharSet}
    (enough : (input.takeWhile set.contains).length < rounds) :
    (Expr.many (.oneOf set)).parsesWith rounds call input =
      .single ⟨.list ((input.takeWhile set.contains).map .char),
        input.dropWhile set.contains⟩ := by
  rw [parsesWith, parsesWith_oneOf, repetitionParses_charParse? [] enough, List.nil_append]

/-- The first character is taken by itself, and the repetition goes on behind it. -/
theorem parsesWith_many1_oneOf {set : CharSet}
    (enough : (input.takeWhile set.contains).length < rounds) :
    (Expr.many1 (.oneOf set)).parsesWith rounds call input =
      if input.takeWhile set.contains = [] then .done
      else .single ⟨.list ((input.takeWhile set.contains).map .char),
        input.dropWhile set.contains⟩ := by
  rw [parsesWith, parsesWith_oneOf, parsesWith]
  cases input with
  | nil => rfl
  | cons c rest =>
      cases accepted : set.contains c with
      | false =>
          rw [List.takeWhile_cons_of_neg (by simp [accepted]), if_pos rfl, charParse?,
            if_neg (by simp [accepted])]
          rfl
      | true =>
          simp only [List.takeWhile_cons_of_pos accepted, List.length_cons] at enough ⊢
          rw [List.dropWhile_cons_of_pos accepted, if_neg (List.cons_ne_nil _ _), charParse?,
            if_pos accepted, Enumeration.ofOption, Enumeration.flatMap_single,
            repetitionParses_charParse? _ (Nat.lt_of_succ_lt enough)]
          rfl

end Expr

end LazyGrammar
