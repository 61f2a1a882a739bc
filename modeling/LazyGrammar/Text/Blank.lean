import LazyGrammar.Unicode.Property

/-!
# Blank characters

The characters with the Unicode property `White_Space`, and texts without them
at the end.
-/

set_option autoImplicit false

namespace LazyGrammar.Text

def isBlank (c : Char) : Bool := Unicode.Property.whiteSpace.contains c

def trimEnd (chars : List Char) : List Char :=
  (chars.reverse.dropWhile isBlank).reverse

theorem trimEnd_append_blanks (chars : List Char) :
    ∃ blanks, chars = trimEnd chars ++ blanks ∧ ∀ c ∈ blanks, isBlank c = true := by
  refine ⟨(chars.reverse.takeWhile isBlank).reverse, ?_, fun c member => ?_⟩
  · rw [trimEnd, ← List.reverse_append, List.takeWhile_append_dropWhile, List.reverse_reverse]
  · exact List.all_eq_true.mp List.all_takeWhile c (List.mem_reverse.mp member)

end LazyGrammar.Text
