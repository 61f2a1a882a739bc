import LazyGrammar.Proofs.ClassNotation
import Mathlib.Data.List.TakeWhile

/-!
# Defects of class texts

Reading a class text fails at its leftmost defect. The items are read from the left, so
that is the first range whose ends are out of order; a backslash that is left over at the
end is found only if there is no such range. A defect is reported twice, as a rule and in
its context, with the line that it is in.
-/

set_option autoImplicit false

namespace LazyGrammar

/-!
## Lines
-/

namespace Text

/-- What stands in the line of a place before it and after it. The line begins behind the last line
break before the place, or with the text, and it goes on to the first one after the place, or to the
end. -/
structure Location.InLine (place : Location) (start rest : List Char) : Prop where
  before : ∃ earlier, place.before = earlier ++ start ∧ ∀ c ∈ earlier.getLast?, c = '\n'
  after : ∃ later, place.after = rest ++ later ∧ ∀ c ∈ later.head?, c = '\n'
  noBreak : '\n' ∉ start ++ rest

/-- A text is another one with blank characters behind it, and that one does not end with any. -/
structure Trimmed (text trimmed : List Char) : Prop where
  blanks : ∃ blanks, text = trimmed ++ blanks ∧ ∀ c ∈ blanks, isBlank c = true
  last : ∀ c ∈ trimmed.getLast?, isBlank c = false

private theorem head?_dropWhile {test : Char → Bool} {chars : List Char} {c : Char}
    (isHead : c ∈ (chars.dropWhile test).head?) : test c = false := by
  have fails := List.head?_dropWhile_not test chars
  rw [Option.mem_def.mp isHead] at fails
  exact fails

theorem trimmed_trimEnd (text : List Char) : Trimmed text (trimEnd text) where
  blanks := trimEnd_append_blanks text
  last c isLast := by
    rw [trimEnd, List.getLast?_reverse] at isLast
    exact head?_dropWhile isLast

namespace Location

variable (place : Location)

theorem inLine : place.InLine place.lineStart (place.after.takeWhile (· ≠ '\n')) where
  before := by
    refine ⟨(place.before.reverse.dropWhile (· ≠ '\n')).reverse, ?_, fun c isLast => ?_⟩
    · rw [lineStart, ← List.reverse_append, List.takeWhile_append_dropWhile, List.reverse_reverse]
    · rw [List.getLast?_reverse] at isLast
      simpa using head?_dropWhile isLast
  after := by
    refine ⟨place.after.dropWhile (· ≠ '\n'), List.takeWhile_append_dropWhile.symm, ?_⟩
    intro c isHead
    simpa using head?_dropWhile isHead
  noBreak := by
    intro member
    rw [lineStart, List.mem_append, List.mem_reverse] at member
    rcases member with before | after
    · simpa using List.mem_takeWhile_imp before
    · simpa using List.mem_takeWhile_imp after

theorem column_eq : place.column = (String.ofList place.lineStart).utf8ByteSize := by
  rw [column]
  induction place.lineStart with
  | nil => rfl
  | cons c rest ih =>
      rw [List.foldr_cons, ih, String.ofList_cons, String.utf8ByteSize_append,
        String.utf8ByteSize_singleton]

end Location

end Text

/-!
## The leftmost defect
-/

namespace ClassText

/-- Where a text has its leftmost defect, with the rule that it breaks and its context. A backslash
that is left over counts only if no range is out of order. -/
inductive LeftmostDefect (text : List Char) : Text.Location → String → String → Prop where
  | reversedRange {front back : List Item} {first last : Single} :
      items (cut text) = front ++ .range first last :: back →
      (∀ item ∈ front, ¬ item.Reversed) → last.value < first.value →
      LeftmostDefect text
        ⟨front.flatMap Item.source,
          first.source ++ '-' :: last.source ++ back.flatMap Item.source ++ uncut text⟩
        "Verify" "range bounds out of order"
  | danglingEscape :
      (∀ item ∈ items (cut text), ¬ item.Reversed) → Odd (trailingBackslashes text) →
      LeftmostDefect text ⟨text, []⟩ "Eof" "expected a character after `\\`"

private theorem resultOf_eq_error {parts : List Item} {leftOver place : List Char} {defect : Defect}
    (failed : resultOf parts leftOver = .error (defect, place)) :
    (∃ front first last back, parts = front ++ .range first last :: back ∧
      (∀ item ∈ front, ¬ item.Reversed) ∧ last.value < first.value ∧ defect = .reversedRange ∧
      place = first.source ++ '-' :: last.source ++ back.flatMap Item.source ++ leftOver) ∨
    ((∀ item ∈ parts, ¬ item.Reversed) ∧ leftOver ≠ [] ∧ defect = .danglingEscape ∧
      place = []) := by
  induction parts with
  | nil =>
      cases leftOver with
      | nil => cases failed
      | cons c rest =>
          cases failed
          exact .inr ⟨nofun, List.cons_ne_nil _ _, rfl, rfl⟩
  | cons item others ih =>
      rw [resultOf] at failed
      split at failed
      next reversed =>
        cases failed
        -- Only a range can be out of order.
        cases item with
        | single only => exact reversed.elim
        | range first last =>
            refine .inl ⟨[], first, last, others, rfl, nofun, reversed, rfl, ?_⟩
            rw [List.flatMap_cons, Item.source]
      next ordered =>
        cases later : resultOf others leftOver with
        | ok result => rw [later] at failed; cases failed
        | error failure =>
            rw [later] at failed
            cases failed
            rcases ih later with ⟨front, first, last, back, rfl, before, reversed, rfl, rfl⟩ |
              ⟨allOrdered, nonempty, rfl, rfl⟩
            · exact .inl ⟨item :: front, first, last, back, rfl,
                List.forall_mem_cons.mpr ⟨ordered, before⟩, reversed, rfl, rfl⟩
            · exact .inr ⟨List.forall_mem_cons.mpr ⟨ordered, allOrdered⟩, nonempty, rfl, rfl⟩

private theorem LeftmostDefect.source_eq {text : List Char} {place : Text.Location}
    {rule context : String}
    (found : LeftmostDefect text place rule context) : place.source = text := by
  cases found with
  | reversedRange split _ _ =>
      have whole := source_cut_append_uncut text
      rw [← source_items, split, List.flatMap_append, List.flatMap_cons, Item.source,
        List.append_assoc, List.append_assoc] at whole
      rw [Text.Location.source, List.append_assoc]
      exact whole
  | danglingEscape => exact List.append_nil text

private theorem LeftmostDefect.placeOf_eq {text : List Char} {place : Text.Location}
    {rule context : String} (found : LeftmostDefect text place rule context) :
    placeOf text place.after = place := by
  rw [← found.source_eq]
  simp [placeOf, Text.Location.source]

private theorem exists_readItems_eq_error {text : String} {error : ClassError}
    (refused : read text = .error error) :
    ∃ place, readItems text.toList = .error (error.defect, place) ∧
      error.place = placeOf text.toList place := by
  unfold read at refused
  cases outcome : readItems text.toList with
  | ok result =>
      obtain ⟨ranges, left⟩ := result
      have found := outcome
      rw [readItems_eq, resultOf_eq_ok_iff] at found
      obtain ⟨_, _, _, rfl⟩ := found
      rw [outcome] at refused
      cases refused
  | error failure =>
      obtain ⟨defect, place⟩ := failure
      rw [outcome] at refused
      cases refused
      exact ⟨place, rfl, rfl⟩

private theorem leftmostDefect_of_read {text : String} {error : ClassError}
    (refused : read text = .error error) :
    ∃ rule context, LeftmostDefect text.toList error.place rule context ∧
      error.defect.rule = rule ∧ error.defect.context? = some context := by
  obtain ⟨place, failed, placeEq⟩ := exists_readItems_eq_error refused
  rw [readItems_eq] at failed
  rcases resultOf_eq_error failed with
    ⟨front, first, last, back, split, ordered, reversed, isDefect, rfl⟩ |
    ⟨ordered, leftOver, isDefect, rfl⟩
  · have found := LeftmostDefect.reversedRange split ordered reversed
    rw [placeEq, isDefect, found.placeOf_eq]
    exact ⟨_, _, found, rfl, rfl⟩
  · rw [ne_eq, uncut_eq_nil_iff, Classical.not_not] at leftOver
    have found := LeftmostDefect.danglingEscape ordered leftOver
    rw [placeEq, isDefect, found.placeOf_eq]
    exact ⟨_, _, found, rfl, rfl⟩

/-- A text that is refused has a range that is out of order or a backslash that is left over, and
the leftmost of these is reported. The trace has an entry for the rule and one for the context and
no other, each with the number of the line, the line and a caret under the place. -/
theorem read_reports_leftmost_defect {text : String} {error : ClassError}
    (refused : read text = .error error) :
    error.source = text ∧
    ∃ rule context start rest line number shown,
      LeftmostDefect text.toList error.place rule context ∧
      number = toString (1 + error.place.before.count '\n') ∧
      error.place.InLine start rest ∧ Text.Trimmed (start ++ rest) line ∧
      shown = String.ofList line ++ "\n" ++
        String.ofList (List.replicate (String.ofList start).utf8ByteSize ' ') ++ "^\n\n" ∧
      error.trace =
        "0: at line " ++ number ++ ", in " ++ rule ++ ":\n" ++ shown ++
          ("1: at line " ++ number ++ ", in " ++ context ++ ":\n" ++ shown) := by
  obtain ⟨rule, context, found, isRule, isContext⟩ := leftmostDefect_of_read refused
  refine ⟨?_, rule, context, _, _, _, _, _, found, rfl, error.place.inLine,
    Text.trimmed_trimEnd _, rfl, ?_⟩
  · rw [ClassError.source, found.source_eq, String.ofList_toList]
  · rw [ClassError.trace, isRule, isContext, ← Text.Location.column_eq]
    simp only [ClassError.traceEntry, Text.Location.caret, Text.Location.line,
      Text.Location.lineNumber, String.ofList_append, String.append_assoc]
    rfl

/-- A range that begins with a backslash, behind a character of two bytes in the second line.
Another backslash is left over at the end. -/
def twoDefects : String := "a\r\nü\\z-a\t\r\n\\"

theorem read_reports_leftmost_defect_twoDefects :
    ∃ error, read twoDefects = .error error ∧ error.source = twoDefects ∧
      ∃ rule context shown,
        LeftmostDefect twoDefects.toList ⟨"a\r\nü".toList, "\\z-a\t\r\n\\".toList⟩ rule context ∧
        error.trace = "0: at line " ++ toString 2 ++ ", in " ++ rule ++ ":\n" ++ shown ++
          ("1: at line " ++ toString 2 ++ ", in " ++ context ++ ":\n" ++ shown) := by
  let error : ClassError :=
    ⟨.reversedRange, ⟨"a\r\nü".toList, "\\z-a\t\r\n\\".toList⟩⟩
  have refused : read twoDefects = .error error := by cbv
  obtain ⟨source, rule, context, _, _, _, number, shown, found, isNumber, _, _, _, trace⟩ :=
    read_reports_leftmost_defect refused
  have second : number = toString 2 := isNumber
  rw [second] at trace
  exact ⟨error, refused, source, rule, context, shown, found, trace⟩

example :
    let place : Text.Location := ⟨"a\r\nü".toList, "\\z-a\t\r\n\\".toList⟩
    ClassError.trace ⟨.reversedRange, place⟩ =
      "0: at line 2, in Verify:\nü\\z-a\n  ^\n\n" ++
        "1: at line 2, in range bounds out of order:\nü\\z-a\n  ^\n\n" := by cbv

end ClassText

end LazyGrammar
