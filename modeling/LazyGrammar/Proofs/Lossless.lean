import LazyGrammar.Proofs.Consumption
import LazyGrammar.Proofs.Expr.Parts

/-!
# Nothing that is consumed is lost

A parse leaves the end of the input. If values are only ever put into lists, and
not transformed otherwise, the characters of its value are the rest of the input:
none is lost, duplicated or moved.
-/

set_option autoImplicit false

namespace LazyGrammar

namespace Value

mutual

/-- The characters of the texts and characters in a value, in order. -/
def leaves : Value → List Char
  | .text content => content.toList
  | .char c => [c]
  | .int _ => []
  | .pair left right => left.leaves ++ right.leaves
  | .list items => itemLeaves items

def itemLeaves : List Value → List Char
  | [] => []
  | item :: rest => item.leaves ++ itemLeaves rest

end

@[simp] theorem leaves_text (content : String) : (text content).leaves = content.toList := by
  rw [leaves]

@[simp] theorem leaves_char (c : Char) : (char c).leaves = [c] := by rw [leaves]

@[simp] theorem leaves_pair (left right : Value) :
    (pair left right).leaves = left.leaves ++ right.leaves := by rw [leaves]

@[simp] theorem leaves_list (items : List Value) :
    (list items).leaves = items.flatMap leaves := by
  rw [leaves]
  induction items with
  | nil => rfl
  | cons item rest ih => rw [itemLeaves, ih, List.flatMap_cons]

@[simp] theorem leaves_consList (value : Value) : value.consList.leaves = value.leaves := by
  cases value with
  | text | char | int | list => simp [consList]
  | pair head tail => cases tail <;> simp [consList]

end Value

namespace Rules

/-- The expressions inside a whole one and inside the definitions that it refers to, directly or
through other definitions. -/
inductive Reaches (rules : Rules) (whole : Expr) : Expr → Prop where
  | whole : Reaches rules whole whole
  | child {outer child : Expr} :
      Reaches rules whole outer → child ∈ outer.children → Reaches rules whole child
  | definition {name : String} {definition : Expr} :
      Reaches rules whole (.rule name) → rules.get? name = some definition →
      Reaches rules whole definition

/-- No other transform than putting an item in front of a list can be reached. -/
def OnlyConsList (rules : Rules) (expr : Expr) : Prop :=
  ∀ inner transform, rules.Reaches expr (.map inner transform) → transform = Value.consList

variable {rules : Rules} {expr : Expr} {input : List Char} {parse : Parse}

theorem Reaches.trans {part inside : Expr} (outer : rules.Reaches expr part)
    (inner : rules.Reaches part inside) : rules.Reaches expr inside := by
  induction inner with
  | whole => exact outer
  | child _ member ih => exact .child ih member
  | definition _ bound ih => exact .definition ih bound

private theorem Reaches.of_many {inner part : Expr} (reached : rules.Reaches (.many inner) part) :
    part = .many inner ∨ rules.Reaches inner part := by
  induction reached with
  | whole => exact .inl rfl
  | child _ member ih =>
      rcases ih with rfl | deeper
      · rw [List.mem_singleton.mp member]
        exact .inr .whole
      · exact .inr (.child deeper member)
  | definition _ bound ih =>
      rcases ih with same | deeper
      · cases same
      · exact .inr (.definition deeper bound)

namespace OnlyConsList

theorem child {part : Expr} (only : rules.OnlyConsList expr) (member : part ∈ expr.children) :
    rules.OnlyConsList part :=
  fun inner transform reached =>
    only inner transform (Reaches.trans (.child .whole member) reached)

theorem definition {name : String} {definition : Expr}
    (only : rules.OnlyConsList (.rule name)) (bound : rules.get? name = some definition) :
    rules.OnlyConsList definition :=
  fun inner transform reached =>
    only inner transform (Reaches.trans (.definition .whole bound) reached)

/-- A repetition is no transform, so that only its body counts. -/
private theorem many {inner : Expr} (only : rules.OnlyConsList inner) :
    rules.OnlyConsList (.many inner) := by
  intro _ transform reached
  rcases reached.of_many with same | deeper
  · cases same
  · exact only _ transform deeper

/-- It is enough to look at the expression and at all definitions, reached or not. -/
theorem of_parts
    (here : ∀ inner transform, (Expr.map inner transform).Part expr → transform = Value.consList)
    (everywhere : ∀ name definition, rules.get? name = some definition →
      ∀ inner transform, (Expr.map inner transform).Part definition →
        transform = Value.consList) : rules.OnlyConsList expr := by
  intro inner transform reached
  have all : ∀ {outer : Expr}, rules.Reaches expr outer → ∀ inner transform,
      (Expr.map inner transform).Part outer → transform = Value.consList := by
    intro outer reached
    induction reached with
    | whole => exact here
    | child _ member ih => exact fun inner transform inside => ih _ _ (.inside member inside)
    | definition _ bound _ => exact everywhere _ _ bound
  exact all reached inner transform .whole

end OnlyConsList

theorem Derives.leaves_append_rest (derived : rules.Derives expr input parse)
    (only : rules.OnlyConsList expr) : parse.value.leaves ++ parse.rest = input := by
  induction derived with
  | literal => simp
  | regex split => simpa using Regex.Pattern.matchesPrefixes _ split
  | oneOf | noneOf => simp
  | seq _ _ leftIH rightIH =>
      have left := leftIH (only.child (by simp [Expr.children]))
      have right := rightIH (only.child (by simp [Expr.children]))
      rw [Value.leaves_pair, List.append_assoc, right, left]
  | union member _ ih | first member _ ih => exact ih (only.child member)
  | manyNone | optNone => simp
  | manyMore _ _ soFarIH nextIH =>
      -- The new value stands at the end, and what it took stood behind all that was taken before.
      have soFar := soFarIH only
      have next := nextIH (only.child List.mem_cons_self)
      rw [Value.leaves_list] at soFar
      rw [Value.leaves_list, List.flatMap_append, List.flatMap_singleton, List.append_assoc, next,
        soFar]
  | many1 _ _ headIH restIH =>
      -- The repetition after the head is no part of the expression, but its body is.
      have onlyInner := only.child List.mem_cons_self
      have head := headIH onlyInner
      have rest := restIH onlyInner.many
      rw [Value.leaves_list] at rest
      rw [Value.leaves_list, List.flatMap_cons, List.append_assoc, rest, head]
  | opt _ ih => simpa using ih (only.child List.mem_cons_self)
  | map _ ih =>
      obtain rfl := only _ _ .whole
      rw [Value.leaves_consList]
      exact ih (only.child List.mem_cons_self)
  | full _ _ ih => exact ih (only.child List.mem_cons_self)
  | rule bound _ ih => exact ih (only.definition bound)

/-- Whatever is pulled, no matter how often and whether or not there is an end, leaves the end of
the input, and with its value put back in front of that it is the input again. -/
theorem pulled_lossless (rules : Rules) (expr : Expr) (fuel limit : Nat) (input : List Char) :
    ∀ parse ∈ ((rules.cursor fuel expr input).pullUpTo limit).1,
      parse.rest <:+ input ∧
      (rules.OnlyConsList expr → parse.value.leaves ++ parse.rest = input) := by
  intro parse pulled
  have all : ((rules.cursor fuel expr input).resume ()).All (rules.Derives expr input)
      fun _ => True := allDerived_parses rules fuel expr input
  have derived := (Cursor.pullUpTo_invariant all limit).1 parse pulled
  exact ⟨derived.rest_suffix, derived.leaves_append_rest⟩

/-- Items up to a separator, each put in front of the list of those after it. -/
def untilSemicolon : Rules :=
  empty.define "items"
    (.first [.cons (.noneOf (.ofText ";")) (.rule "items"), .opt (.literal ";")])

private theorem onlyConsList_untilSemicolon : untilSemicolon.OnlyConsList (.rule "items") := by
  refine .of_parts (fun inner transform inside => ?_)
    fun name definition bound inner transform inside => ?_
  · simp [Expr.part_iff_of_ne, Expr.children] at inside
  · obtain ⟨_, rfl⟩ := get?_define_empty_eq_some_iff.mp bound
    simp [Expr.part_iff_of_ne, Expr.part_map_iff, Expr.children, Expr.cons] at inside
    exact inside.2

theorem pulled_lossless_untilSemicolon :
    untilSemicolon.OnlyConsList (.rule "items") ∧
    (⟨.list [.char 'a', .char 'ñ', .text ";"], ['z']⟩ : Parse) ∈
      ((untilSemicolon.cursor 4 (.rule "items") "añ;z".toList).pullUpTo 1).1 ∧
    (Value.list [.char 'a', .char 'ñ', .text ";"]).leaves ++ ['z'] = "añ;z".toList := by
  have pulled : (⟨.list [.char 'a', .char 'ñ', .text ";"], ['z']⟩ : Parse) ∈
      ((untilSemicolon.cursor 4 (.rule "items") "añ;z".toList).pullUpTo 1).1 := by decide
  refine ⟨onlyConsList_untilSemicolon, pulled, ?_⟩
  exact (pulled_lossless untilSemicolon (.rule "items") 4 1 "añ;z".toList _ pulled).2
    onlyConsList_untilSemicolon

end Rules

end LazyGrammar
