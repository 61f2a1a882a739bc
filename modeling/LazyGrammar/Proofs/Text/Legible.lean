import LazyGrammar.Proofs.Text.Runs
import LazyGrammar.Text.Quoted
import Mathlib

/-!
# Legible texts

What is written in front of other text is legible if it can be told where it ends and
what it stands for. Quoted texts and characters end with their quote, whatever they
contain. A number has no such end, but no digit is a delimiter, and so it is enough
that a delimiter follows, or nothing.
-/

set_option autoImplicit false

namespace LazyGrammar.Text

/-- What may stand after a value or an expression that is written inside another. -/
def Delimiter (c : Char) : Prop := c ∈ [' ', ',', ')', ']', '\x7d']

instance (c : Char) : Decidable (Delimiter c) := inferInstanceAs (Decidable (c ∈ _))

/-- A text that is empty or begins with a delimiter. -/
def Delimited (rest : List Char) : Prop := ∀ c ∈ rest.head?, Delimiter c

theorem delimited_nil : Delimited [] := nofun

theorem delimited_cons {c : Char} (delimiter : Delimiter c) (rest : List Char) :
    Delimited (c :: rest) := by
  intro first same
  exact Option.some.inj same ▸ delimiter

variable {α : Type}

/-- Nothing else is written that begins the same text, and so it is known what follows. -/
def LegibleAt (written : α → List Char) (a : α) : Prop :=
  ∀ ⦃b : α⦄ ⦃rest other : List Char⦄, Delimited rest → Delimited other →
    written a ++ rest = written b ++ other → a = b ∧ rest = other

def Legible (written : α → List Char) : Prop := ∀ a, LegibleAt written a

theorem Legible.injective {written : α → List Char} (legible : Legible written) :
    Function.Injective written := by
  intro a b same
  exact (legible a delimited_nil delimited_nil (congrArg (· ++ []) same)).1

end LazyGrammar.Text

namespace LazyGrammar.Quoted

open Text

/-- The quotes of texts and of characters. Inside others an escape might be ambiguous. -/
def Quote (quote : Char) : Prop := quote = '"' ∨ quote = '\''

section Escape

variable {quote c d : Char} {rest other : List Char}

inductive Escaped (quote c : Char) : List Char → Prop where
  | short {letter : Char} :
      shortEscape? quote c = some letter → Escaped quote c ['\\', letter]
  | codePoint :
      shortEscape? quote c = none →
      Escaped quote c ('\\' :: 'u' :: '\x7b' :: (Hexadecimal.digits c.toNat ++ ['\x7d']))
  | shown : shortEscape? quote c = none → Escaped quote c [c]

private theorem escaped_escape (quote c : Char) : Escaped quote c (escape quote c) := by
  unfold escape
  cases short : shortEscape? quote c with
  | some letter => exact .short short
  | none =>
      dsimp only
      split
      · exact .codePoint short
      · exact .shown short

private theorem shortEscape?_backslash : shortEscape? quote '\\' = some '\\' := by
  simp [shortEscape?]

private theorem shortEscape?_quote (isQuote : Quote quote) :
    shortEscape? quote quote = some quote := by
  rcases isQuote with rfl | rfl <;> rfl

/-- What a letter after a backslash stands for, if it is the letter of a short escape. -/
def named : Char → Char
  | '0' => '\x00'
  | 't' => '\t'
  | 'r' => '\r'
  | 'n' => '\n'
  | letter => letter

private theorem named_of_shortEscape? (isQuote : Quote quote) {letter : Char}
    (short : shortEscape? quote c = some letter) : named letter = c := by
  unfold shortEscape? at short
  rcases isQuote with rfl | rfl <;> grind [named]

/-- The letter of an escape by code point is none of the short ones. -/
private theorem shortEscape?_ne_u (isQuote : Quote quote) : shortEscape? quote c ≠ some 'u' := by
  intro short
  obtain rfl := named_of_shortEscape? isQuote short
  rcases isQuote with rfl | rfl <;> cases short

namespace Escaped

variable {chars more : List Char}

private theorem begins (isQuote : Quote quote) (escaped : Escaped quote c chars) :
    ∃ first after, chars = first :: after ∧ first ≠ quote := by
  have backslash : '\\' ≠ quote := by rcases isQuote with rfl | rfl <;> decide
  cases escaped with
  | short | codePoint => exact ⟨_, _, rfl, backslash⟩
  | shown unescaped =>
      refine ⟨_, _, rfl, ?_⟩
      rintro rfl
      cases unescaped.symm.trans (shortEscape?_quote isQuote)

/-- A character that is shown is no backslash, so that the first two characters tell how it goes
on. -/
private theorem eq (isQuote : Quote quote) (one : Escaped quote c chars)
    (two : Escaped quote d more) (same : chars ++ rest = more ++ other) : c = d ∧ rest = other := by
  cases one with
  | short short =>
      cases two with
      | short otherShort =>
          simp only [List.cons_append, List.nil_append, List.cons.injEq, true_and] at same
          obtain ⟨rfl, rfl⟩ := same
          have here := named_of_shortEscape? isQuote short
          exact ⟨here.symm.trans (named_of_shortEscape? isQuote otherShort), rfl⟩
      | codePoint =>
          simp only [List.cons_append, List.nil_append, List.cons.injEq, true_and] at same
          exact (shortEscape?_ne_u isQuote (same.1 ▸ short)).elim
      | shown unescaped =>
          obtain ⟨rfl, _⟩ := List.cons.inj same
          cases unescaped.symm.trans shortEscape?_backslash
  | codePoint =>
      cases two with
      | short short =>
          simp only [List.cons_append, List.nil_append, List.cons.injEq, true_and] at same
          exact (shortEscape?_ne_u isQuote (same.1 ▸ short)).elim
      | codePoint =>
          simp only [List.cons_append, List.append_assoc, List.nil_append, List.cons.injEq,
            true_and] at same
          obtain ⟨digits, after⟩ := run_eq Hexadecimal.isSome_digit?_of_mem_digits
            Hexadecimal.isSome_digit?_of_mem_digits (by simp; rfl) (by simp; rfl) same
          exact ⟨Char.toNat_inj.mp (Hexadecimal.digits_injective digits), (List.cons.inj after).2⟩
      | shown unescaped =>
          obtain ⟨rfl, _⟩ := List.cons.inj same
          cases unescaped.symm.trans shortEscape?_backslash
  | shown unescaped =>
      cases two with
      | short | codePoint =>
          obtain ⟨rfl, _⟩ := List.cons.inj same
          cases unescaped.symm.trans shortEscape?_backslash
      | shown => exact List.cons.inj same

end Escaped

end Escape

/-- The closing quote is the first one that no backslash stands before. -/
theorem enclose_eq {quote : Char} (isQuote : Quote quote) {chars more rest other : List Char}
    (same : (enclose quote chars).toList ++ rest = (enclose quote more).toList ++ other) :
    chars = more ∧ rest = other := by
  simp only [enclose, String.toList_ofList, List.cons_append, List.append_assoc,
    List.nil_append, List.cons.injEq, true_and] at same
  induction chars generalizing more with
  | nil =>
      cases more with
      | nil => exact ⟨rfl, (List.cons.inj same).2⟩
      | cons d after =>
          obtain ⟨first, _, escape, differs⟩ := (escaped_escape quote d).begins isQuote
          rw [List.flatMap_cons, escape] at same
          exact (differs (List.cons.inj same).1.symm).elim
  | cons c before ih =>
      cases more with
      | nil =>
          obtain ⟨first, _, escape, differs⟩ := (escaped_escape quote c).begins isQuote
          rw [List.flatMap_cons, escape] at same
          exact (differs (List.cons.inj same).1).elim
      | cons d after =>
          rw [List.flatMap_cons, List.flatMap_cons, List.append_assoc, List.append_assoc] at same
          obtain ⟨rfl, after⟩ := (escaped_escape quote c).eq isQuote (escaped_escape quote d) same
          obtain ⟨rfl, rests⟩ := ih after
          exact ⟨rfl, rests⟩

theorem enclose_begins (quote : Char) (chars : List Char) :
    ∃ after, (enclose quote chars).toList = quote :: after := by
  rw [enclose, String.toList_ofList]
  exact ⟨_, rfl⟩

theorem legible_text : Legible fun content => (text content).toList := by
  intro content other rest more _ _ same
  obtain ⟨chars, rests⟩ := enclose_eq (.inl rfl) same
  exact ⟨String.toList_inj.mp chars, rests⟩

theorem legible_char : Legible fun c => (char c).toList := by
  intro c d rest more _ _ same
  obtain ⟨chars, rests⟩ := enclose_eq (.inr rfl) same
  exact ⟨(List.cons.inj chars).1, rests⟩

end LazyGrammar.Quoted

namespace LazyGrammar.Text

theorem Delimiter.not_numeral {c : Char} (delimiter : Delimiter c) : isNumeral c = false := by
  have all : ∀ c ∈ [' ', ',', ')', ']', '\x7d'], isNumeral c = false := by simp [isNumeral]
  exact all c delimiter

theorem legible_int : Legible fun n : Int64 => (toString n.toInt).toList := by
  intro m n rest other delimited otherDelimited same
  obtain ⟨numerals, rests⟩ := run_eq isNumeral_of_mem_repr isNumeral_of_mem_repr
    (fun c first => (delimited c first).not_numeral)
    (fun c first => (otherDelimited c first).not_numeral) same
  exact ⟨Int64.toInt_inj.mp (Int.repr_inj.mp (String.toList_inj.mp numerals)), rests⟩

end LazyGrammar.Text
