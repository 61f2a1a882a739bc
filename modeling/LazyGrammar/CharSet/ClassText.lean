import LazyGrammar.CharSet.Basic
import LazyGrammar.Text.Location
import LazyGrammar.Text.Outline
import LazyGrammar.Text.Quoted

/-!
# Class texts

A compact way to write character sets. A class is any number of items, an item is a
range `x-y` of singles or one single, and a single is a raw character or a backslash
with the character that it makes literal. The alternatives are tried in this order,
so that a hyphen which has no single on one of its sides is a single itself.

Two defects make a text malformed, and no alternative is tried after one: a range
whose ends are out of order, and a backslash at the end. The first that is met is
reported with its location.
-/

set_option autoImplicit false

namespace LazyGrammar

namespace ClassText

inductive Defect where
  | reversedRange
  | danglingEscape
  /-- The items end before the text does. -/
  | trailingText
  deriving DecidableEq

def Defect.rule : Defect → String
  | .reversedRange => "Verify"
  | .danglingEscape | .trailingText => "Eof"

/-- What was expected where a defect is. At the end of the items, nothing in particular was. -/
def Defect.context? : Defect → Option String
  | .reversedRange => some "range bounds out of order"
  | .danglingEscape => some "expected a character after `\\`"
  | .trailingText => none

end ClassText

/-- A malformed class text with the place of its leftmost defect. -/
structure ClassError where
  defect : ClassText.Defect
  place : Text.Location
  deriving DecidableEq

namespace ClassError

def source (error : ClassError) : String := String.ofList error.place.source

/-- One entry of a trace: where, in which rule or context, and the line with a caret under the
place. -/
def traceEntry (place : Text.Location) (number : Nat) (context : String) : String :=
  toString number ++ ": at line " ++ toString place.lineNumber ++ ", in " ++ context ++ ":\n" ++
    String.ofList place.line ++ "\n" ++ String.ofList place.caret ++ "\n\n"

/-- The rule that was broken and then its context, both at the same place. -/
def trace (error : ClassError) : String :=
  traceEntry error.place 0 error.defect.rule ++
    match error.defect.context? with
    | some context => traceEntry error.place 1 context
    | none => ""

def message (error : ClassError) : String :=
  "invalid character class " ++ Quoted.text error.source ++ "\nerror trace:\n" ++ error.trace

def outline (error : ClassError) : Outline :=
  .record "CharSetError"
    [("class", .atom (Quoted.text error.source)), ("trace", .atom (Quoted.text error.trace))]

end ClassError

namespace ClassText

/-- What reading at a place of a text comes to. After a refusal something else may be read at the
same place; after a failure nothing is, and `place` is the text from the defect on. -/
inductive Outcome (α : Type) where
  | read (result : α) (rest : List Char)
  | refused
  | failed (defect : Defect) (place : List Char)

namespace Outcome

variable {α β : Type}

def andThen (outcome : Outcome α) (next : α → List Char → Outcome β) : Outcome β :=
  match outcome with
  | .read result rest => next result rest
  | .refused => .refused
  | .failed defect place => .failed defect place

def orElse (outcome : Outcome α) (alternative : Unit → Outcome α) : Outcome α :=
  match outcome with
  | .refused => alternative ()
  | _ => outcome

theorem andThen_eq_read_iff {outcome : Outcome α} {next : α → List Char → Outcome β} {b : β}
    {rest : List Char} :
    outcome.andThen next = .read b rest ↔
      ∃ a between, outcome = .read a between ∧ next a between = .read b rest := by
  cases outcome with
  | read a between => simp [andThen, and_assoc]
  | refused | failed => simp [andThen]

theorem orElse_eq_read_iff {outcome : Outcome α} {alternative : Unit → Outcome α} {a : α}
    {rest : List Char} :
    outcome.orElse alternative = .read a rest ↔
      outcome = .read a rest ∨ outcome = .refused ∧ alternative () = .read a rest := by
  cases outcome <;> simp [orElse]

end Outcome

/-- A backslash and the character after it, which cannot be missing. -/
def readEscaped : List Char → Outcome Char
  | '\\' :: c :: rest => .read c rest
  | ['\\'] => .failed .danglingEscape []
  | _ => .refused

def readRaw : List Char → Outcome Char
  | [] => .refused
  | c :: rest => if c = '\\' then .refused else .read c rest

def readSingle (text : List Char) : Outcome Char :=
  (readEscaped text).orElse fun _ => readRaw text

def readHyphen : List Char → Outcome Unit
  | '-' :: rest => .read () rest
  | _ => .refused

/-- A range, whose ends must be in order. -/
def readRange (text : List Char) : Outcome (Char × Char) :=
  (readSingle text).andThen fun first rest =>
    (readHyphen rest).andThen fun _ rest =>
      (readSingle rest).andThen fun last rest =>
        if last < first then .failed .reversedRange text else .read (first, last) rest

/-- A range, or a single as the range from itself to itself. -/
def readItem (text : List Char) : Outcome (Char × Char) :=
  (readRange text).orElse fun _ =>
    (readSingle text).andThen fun only rest => .read (only, only) rest

private theorem length_lt_of_readSingle {text rest : List Char} {c : Char}
    (found : readSingle text = .read c rest) : rest.length < text.length := by
  rcases Outcome.orElse_eq_read_iff.mp found with escaped | ⟨_, raw⟩
  · unfold readEscaped at escaped
    split at escaped <;> cases escaped
    exact Nat.lt_add_of_pos_right Nat.zero_lt_two
  · unfold readRaw at raw
    split at raw
    · cases raw
    · split at raw <;> cases raw
      exact Nat.lt_succ_self _

private theorem length_lt_of_readHyphen {text rest : List Char}
    (found : readHyphen text = .read () rest) : rest.length < text.length := by
  unfold readHyphen at found
  split at found <;> cases found
  exact Nat.lt_succ_self _

private theorem length_lt_of_readRange {text rest : List Char} {ends : Char × Char}
    (found : readRange text = .read ends rest) : rest.length < text.length := by
  simp only [readRange, Outcome.andThen_eq_read_iff] at found
  obtain ⟨first, afterFirst, firstFound, _, afterHyphen, hyphenFound, last, afterLast, lastFound,
    inOrder⟩ := found
  split at inOrder <;> cases inOrder
  have := length_lt_of_readSingle firstFound
  have := length_lt_of_readHyphen hyphenFound
  have := length_lt_of_readSingle lastFound
  omega

/-- No item is empty, so that reading items one after the other comes to an end. -/
theorem length_lt_of_readItem {text rest : List Char} {ends : Char × Char}
    (found : readItem text = .read ends rest) : rest.length < text.length := by
  rcases Outcome.orElse_eq_read_iff.mp found with range | ⟨_, single⟩
  · exact length_lt_of_readRange range
  · obtain ⟨only, after, onlyFound, same⟩ := Outcome.andThen_eq_read_iff.mp single
    cases same
    exact length_lt_of_readSingle onlyFound

/-- As many items as there are, with the text after them, or the first defect with its place. -/
def readItems (text : List Char) : Except (Defect × List Char) (List (Char × Char) × List Char) :=
  match _ : readItem text with
  | .read ends rest => (readItems rest).map fun (others, left) => (ends :: others, left)
  | .refused => .ok ([], text)
  | .failed defect place => .error (defect, place)
termination_by text.length
decreasing_by exact length_lt_of_readItem ‹_›

theorem readItems_of_read {text rest : List Char} {ends : Char × Char}
    (found : readItem text = .read ends rest) :
    readItems text = (readItems rest).map fun (others, left) => (ends :: others, left) := by
  rw [readItems]
  split <;> simp_all

theorem readItems_of_refused {text : List Char} (refused : readItem text = .refused) :
    readItems text = .ok ([], text) := by
  rw [readItems]
  split <;> simp_all

theorem readItems_of_failed {text place : List Char} {defect : Defect}
    (failed : readItem text = .failed defect place) :
    readItems text = .error (defect, place) := by
  rw [readItems]
  split <;> simp_all

def placeOf (text rest : List Char) : Text.Location where
  before := text.take (text.length - rest.length)
  after := rest

/-- The set that a text writes. The items must make up the whole text. -/
def read (text : String) : Except ClassError CharSet :=
  match readItems text.toList with
  | .ok (ranges, []) => .ok (CharSet.ofRanges ranges)
  | .ok (_, left) => .error { defect := .trailingText, place := placeOf text.toList left }
  | .error (defect, rest) => .error { defect, place := placeOf text.toList rest }

end ClassText

namespace CharSet

def outline (set : CharSet) : Outline :=
  .tuple "CharSet" [.set (set.toList.map fun c => .atom (Quoted.char c))]

end CharSet

end LazyGrammar
