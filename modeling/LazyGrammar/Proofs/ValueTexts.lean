import LazyGrammar.Proofs.Text.Form
import LazyGrammar.Value

/-!
# Values are told apart by their texts

Both texts of a value are those of bracketed forms. In the written form a pair and a
list have brackets of their own, and in the other one the name of the constructor
opens every group. No two values have the same form.
-/

set_option autoImplicit false

namespace LazyGrammar.Value

open Text

@[elab_as_elim, induction_eliminator]
theorem inductionOn {motive : Value → Prop}
    (text : ∀ content, motive (.text content))
    (char : ∀ c, motive (.char c))
    (int : ∀ n, motive (.int n))
    (pair : ∀ left right, motive left → motive right → motive (.pair left right))
    (list : ∀ items, (∀ item ∈ items, motive item) → motive (.list items))
    (value : Value) : motive value :=
  @Value.rec motive (fun items => ∀ item ∈ items, motive item) text char int pair list
    (fun _ member => (List.not_mem_nil member).elim)
    (fun _ _ head tail item member =>
      (List.mem_cons.mp member).elim (fun same => same ▸ head) (tail item))
    value

inductive Atom where
  | text (content : String)
  | char (c : Char)
  | int (n : Int64)

namespace Atom

def written : Atom → List Char
  | .text content => (Quoted.text content).toList
  | .char c => (Quoted.char c).toList
  | .int n => (toString n.toInt).toList

/-- The first character tells what kind of atom it is. -/
inductive Begins : Atom → Char → Prop where
  | text {content : String} : Begins (.text content) '"'
  | char {c : Char} : Begins (.char c) '\''
  | int {n : Int64} {first : Char} : isNumeral first = true → Begins (.int n) first

private theorem begins (a : Atom) : ∃ first after, a.written = first :: after ∧ a.Begins first := by
  cases a with
  | text content =>
      obtain ⟨after, eq⟩ := Quoted.enclose_begins '"' content.toList
      exact ⟨_, after, eq, .text⟩
  | char c =>
      obtain ⟨after, eq⟩ := Quoted.enclose_begins '\'' [c]
      exact ⟨_, after, eq, .char⟩
  | int n =>
      obtain ⟨first, after, eq, numeral⟩ := repr_begins n.toInt
      exact ⟨first, after, eq, .int numeral⟩

private theorem legible_written : Legible written := by
  intro a b rest other delimited otherDelimited same
  obtain ⟨first, after, eq, begins⟩ := a.begins
  obtain ⟨otherFirst, otherAfter, otherEq, otherBegins⟩ := b.begins
  have firsts : first = otherFirst := by
    rw [eq, otherEq] at same
    exact (List.cons.inj same).1
  subst firsts
  cases begins with
  | text =>
      cases otherBegins with
      | text =>
          obtain ⟨rfl, rests⟩ := Quoted.legible_text _ delimited otherDelimited same
          exact ⟨rfl, rests⟩
      | int numeral => cases numeral
  | char =>
      cases otherBegins with
      | char =>
          obtain ⟨rfl, rests⟩ := Quoted.legible_char _ delimited otherDelimited same
          exact ⟨rfl, rests⟩
      | int numeral => cases numeral
  | int numeral =>
      cases otherBegins with
      | text | char => cases numeral
      | int =>
          obtain ⟨rfl, rests⟩ := legible_int _ delimited otherDelimited same
          exact ⟨rfl, rests⟩

/-- What begins with none of the first characters of atoms differs from all of them. -/
private theorem written_append_ne {a : Atom} {first : Char} {rest more : List Char}
    (differs : first ≠ '"' ∧ first ≠ '\'' ∧ isNumeral first = false) :
    a.written ++ rest ≠ first :: more := by
  obtain ⟨_, _, eq, begins⟩ := a.begins
  rw [eq]
  intro same
  obtain rfl := (List.cons.inj same).1
  cases begins with
  | text => exact differs.1 rfl
  | char => exact differs.2.1 rfl
  | int numeral => exact Bool.false_ne_true (differs.2.2.symm.trans numeral)

private theorem begins_not_delimiter (a : Atom) :
    ∃ c rest, a.written = c :: rest ∧ ¬ Delimiter c := by
  obtain ⟨first, after, eq, begins⟩ := a.begins
  refine ⟨first, after, eq, fun delimiter => ?_⟩
  cases begins with
  | text | char => exact absurd delimiter (by decide)
  | int numeral => exact Bool.false_ne_true (delimiter.not_numeral.symm.trans numeral)

end Atom

/-- Where the parts of a value go in a form. Nothing is lost, and it can be told which constructor
they are of. -/
structure Layout (κ : Type) where
  leaf : Atom → Form Atom κ
  pair : List (Form Atom κ) → Form Atom κ
  list : List (Form Atom κ) → Form Atom κ
  leaf_inj : ∀ {a b}, leaf a = leaf b → a = b
  pair_inj : ∀ {items others}, pair items = pair others → items = others
  list_inj : ∀ {items others}, list items = list others → items = others
  leaf_ne_pair : ∀ {a items}, leaf a ≠ pair items
  leaf_ne_list : ∀ {a items}, leaf a ≠ list items
  pair_ne_list : ∀ {items others}, pair items ≠ list others

namespace Layout

variable {κ : Type} (layout : Layout κ)

mutual

def form : Value → Form Atom κ
  | .text content => layout.leaf (.text content)
  | .char c => layout.leaf (.char c)
  | .int n => layout.leaf (.int n)
  | .pair left right => layout.pair [form left, form right]
  | .list items => layout.list (forms items)

def forms : List Value → List (Form Atom κ)
  | [] => []
  | item :: rest => form item :: forms rest

end

private theorem forms_eq_map (items : List Value) : layout.forms items = items.map layout.form := by
  induction items with
  | nil => rfl
  | cons item rest ih => rw [forms, List.map_cons, ih]

private theorem eq_of_forms_eq {items others : List Value}
    (tells : ∀ item ∈ items, ∀ ⦃other⦄, layout.form item = layout.form other → item = other)
    (same : layout.forms items = layout.forms others) : items = others := by
  induction items generalizing others with
  | nil =>
      cases others with
      | nil => rfl
      | cons => cases same
  | cons item rest ih =>
      cases others with
      | nil => cases same
      | cons other others =>
          obtain ⟨tellsItem, tellsRest⟩ := List.forall_mem_cons.mp tells
          obtain ⟨head, tail⟩ := List.cons.inj same
          rw [tellsItem head, ih tellsRest tail]

theorem form_injective : Function.Injective layout.form := by
  intro value
  induction value with
  | text | char | int =>
      intro other same
      cases other with
      | text | char | int => cases layout.leaf_inj same <;> rfl
      | pair => exact (layout.leaf_ne_pair same).elim
      | list => exact (layout.leaf_ne_list same).elim
  | pair left right leftIH rightIH =>
      intro other same
      cases other with
      | text | char | int => exact (layout.leaf_ne_pair same.symm).elim
      | pair =>
          obtain ⟨lefts, rights⟩ := List.cons.inj (layout.pair_inj same)
          rw [leftIH lefts, rightIH (List.cons.inj rights).1]
      | list => exact (layout.pair_ne_list same).elim
  | list items ih =>
      intro other same
      cases other with
      | text | char | int => exact (layout.leaf_ne_list same.symm).elim
      | pair => exact (layout.pair_ne_list same.symm).elim
      | list => rw [layout.eq_of_forms_eq ih (layout.list_inj same)]

private theorem map_write_forms (style : Style Atom κ) {text : Value → List Char}
    {items : List Value} (written : ∀ item ∈ items, style.write (layout.form item) = text item) :
    (layout.forms items).map style.write = items.map text := by
  rw [forms_eq_map, List.map_map]
  exact List.map_congr_left written

end Layout

/-!
## The written form
-/

inductive Bracket where
  | round
  | square

def displayStyle : Style Atom Bracket where
  atom := Atom.written
  opening
    | .round => ['(']
    | .square => ['[']
  separator
    | .round => [' ', '.', ' ']
    | .square => [' ']
  closing
    | .round => ')'
    | .square => ']'
  legible_atom := Atom.legible_written
  opening_inj {kind other rest more} same := by
    cases kind <;> cases other <;> first | rfl | cases (List.cons.inj same).1
  atom_ne_opening {a kind rest more} := by
    cases kind <;> exact Atom.written_append_ne (by decide)
  atom_begins := Atom.begins_not_delimiter
  opening_begins kind := by cases kind <;> exact ⟨_, _, rfl, by decide⟩
  separator_begins kind := by cases kind <;> exact ⟨_, _, rfl, by decide, by decide⟩
  closing_delimiter kind := by cases kind <;> decide

def displayLayout : Layout Bracket where
  leaf := .atom
  pair := .group .round
  list := .group .square
  leaf_inj := Form.atom.inj
  pair_inj same := (Form.group.inj same).2
  list_inj same := (Form.group.inj same).2
  leaf_ne_pair := nofun
  leaf_ne_list := nofun
  pair_ne_list := nofun

private theorem toList_displayItems (items : List Value) :
    (displayItems items).toList =
      " ".toList.intercalate (items.map fun item => item.display.toList) :=
  toList_eq_intercalate (by rw [displayItems]) (fun _ => by rw [displayItems])
    (fun _ _ _ => by rw [displayItems]) items

theorem write_display (value : Value) :
    displayStyle.write (displayLayout.form value) = value.display.toList := by
  induction value with
  | text | char | int =>
      simp [Layout.form, displayLayout, Style.write, display, Atom.written, displayStyle]
  | pair left right leftIH rightIH =>
      have parts : displayStyle.write (displayLayout.form (pair left right)) =
          ['('] ++ [' ', '.', ' '].intercalate
            [displayStyle.write (displayLayout.form left),
              displayStyle.write (displayLayout.form right)] ++ [')'] :=
        displayStyle.write_group .round _
      rw [parts, leftIH, rightIH, display]
      simp [List.intercalate_cons_cons]
  | list items ih =>
      have parts : displayStyle.write (displayLayout.form (list items)) =
          ['['] ++ [' '].intercalate ((displayLayout.forms items).map displayStyle.write) ++
            [']'] :=
        displayStyle.write_group .square _
      rw [parts, displayLayout.map_write_forms displayStyle ih, display]
      simp [toList_displayItems]

/-!
## The form with names
-/

inductive Name where
  | str
  | char
  | int
  | pair
  | list
  | items

def Atom.name : Atom → Name
  | .text _ => .str
  | .char _ => .char
  | .int _ => .int

def outlineStyle : Style Atom Name where
  atom := Atom.written
  opening
    | .str => ['S', 't', 'r', '(']
    | .char => ['C', 'h', 'a', 'r', '(']
    | .int => ['I', 'n', 't', '(']
    | .pair => ['P', 'a', 'i', 'r', '(']
    | .list => ['L', 'i', 's', 't', '(']
    | .items => ['[']
  separator _ := [',', ' ']
  closing
    | .items => ']'
    | _ => ')'
  legible_atom := Atom.legible_written
  opening_inj {kind other rest more} same := by
    cases kind <;> cases other <;> first | rfl | cases (List.cons.inj same).1
  atom_ne_opening {a kind rest more} := by
    cases kind <;> exact Atom.written_append_ne (by decide)
  atom_begins := Atom.begins_not_delimiter
  opening_begins kind := by cases kind <;> exact ⟨_, _, rfl, by decide⟩
  separator_begins kind := by cases kind <;> exact ⟨_, _, rfl, by decide, by decide⟩
  closing_delimiter kind := by cases kind <;> decide

def outlineLayout : Layout Name where
  leaf a := .group a.name [.atom a]
  pair := .group .pair
  list items := .group .list [.group .items items]
  leaf_inj same := Form.atom.inj (List.cons.inj (Form.group.inj same).2).1
  pair_inj same := (Form.group.inj same).2
  list_inj same := (Form.group.inj (List.cons.inj (Form.group.inj same).2).1).2
  leaf_ne_pair {a items} same := by cases a <;> cases same
  leaf_ne_list {a items} same := by cases a <;> cases same
  pair_ne_list := nofun

theorem write_outline (value : Value) :
    outlineStyle.write (outlineLayout.form value) = value.outline.compact.toList := by
  induction value with
  | text content | char c | int n =>
      simp [Layout.form, outlineLayout, Atom.name, Style.write_group, Style.write, outline,
        Outline.compact, Outline.compactItems, Atom.written, outlineStyle]
  | pair left right leftIH rightIH =>
      have parts : outlineStyle.write (outlineLayout.form (pair left right)) =
          "Pair(".toList ++ [',', ' '].intercalate
            [outlineStyle.write (outlineLayout.form left),
              outlineStyle.write (outlineLayout.form right)] ++ [')'] :=
        outlineStyle.write_group .pair _
      rw [parts, leftIH, rightIH, outline]
      simp [Outline.compact, Outline.compactItems, List.intercalate_cons_cons]
  | list items ih =>
      have parts : outlineStyle.write (outlineLayout.form (list items)) =
          "List(".toList ++ [',', ' '].intercalate
            [outlineStyle.write (.group .items (outlineLayout.forms items))] ++ [')'] :=
        outlineStyle.write_group .list _
      have inner : outlineStyle.write (.group .items (outlineLayout.forms items)) =
          ['['] ++ [',', ' '].intercalate ((outlineLayout.forms items).map outlineStyle.write) ++
            [']'] :=
        outlineStyle.write_group .items _
      rw [parts, inner, outlineLayout.map_write_forms outlineStyle ih, outline]
      simp [Outline.compact, Outline.compactItems, Outline.toList_compactItems, outlines_eq_map,
        Function.comp_def]

/-- Equal texts are those of equal values, whatever the values contain. -/
theorem texts_tell_apart (v w : Value) :
    (v.display = w.display ↔ v = w) ∧ (v.outline.compact = w.outline.compact ↔ v = w) := by
  refine ⟨⟨fun same => ?_, fun same => same ▸ rfl⟩, ⟨fun same => ?_, fun same => same ▸ rfl⟩⟩
  · apply displayLayout.form_injective
    apply displayStyle.legible_write.injective
    rw [write_display, write_display, same]
  · apply outlineLayout.form_injective
    apply outlineStyle.legible_write.injective
    rw [write_outline, write_outline, same]

end LazyGrammar.Value
