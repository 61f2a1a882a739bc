import LazyGrammar.Proofs.Text.Legible
import LazyGrammar.Text.Outline

/-!
# Bracketed forms

What is written as a tree: atoms, and groups between an opening and a closing text with
separators between their items. If atoms are legible and neither they nor an opening
begin like something else, the tree can be read off its text, however deep it is.
-/

set_option autoImplicit false

namespace LazyGrammar.Text

private theorem intercalate_cons (separator first : List Char) (others : List (List Char)) :
    separator.intercalate (first :: others) = first ++ others.flatMap (separator ++ ·) := by
  induction others generalizing first with
  | nil => simp
  | cons next others ih =>
      rw [List.intercalate_cons_cons, ih, List.flatMap_cons]
      simp only [List.append_assoc]

/-- Texts with a separator between them, put together one by one. -/
theorem toList_eq_intercalate {α : Type} {joined : List α → String} {text : α → String}
    {separator : String} (none : joined [] = "") (single : ∀ a, joined [a] = text a)
    (more : ∀ a next rest,
      joined (a :: next :: rest) = text a ++ separator ++ joined (next :: rest))
    (items : List α) :
    (joined items).toList = separator.toList.intercalate (items.map fun a => (text a).toList) := by
  induction items with
  | nil =>
      rw [none]
      rfl
  | cons a rest ih =>
      cases rest with
      | nil => rw [single, List.map_singleton, List.intercalate_singleton]
      | cons next rest =>
          rw [more, String.toList_append, String.toList_append, ih]
          exact List.intercalate_cons_cons.symm

inductive Form (α κ : Type) where
  | atom (a : α)
  | group (kind : κ) (items : List (Form α κ))

@[elab_as_elim, induction_eliminator]
theorem Form.inductionOn {α κ : Type} {motive : Form α κ → Prop}
    (atom : ∀ a, motive (.atom a))
    (group : ∀ kind items, (∀ item ∈ items, motive item) → motive (.group kind items))
    (form : Form α κ) : motive form :=
  @Form.rec α κ motive (fun items => ∀ item ∈ items, motive item) atom group
    (fun _ member => (List.not_mem_nil member).elim)
    (fun _ _ head tail item member =>
      (List.mem_cons.mp member).elim (fun same => same ▸ head) (tail item))
    form

/-- A way to write forms. What an atom or an opening begins with is no delimiter, and what a
separator or a closing text begins with is one, and tells the two apart. -/
structure Style (α κ : Type) where
  atom : α → List Char
  opening : κ → List Char
  separator : κ → List Char
  closing : κ → Char
  legible_atom : Legible atom
  opening_inj : ∀ {kind other rest more}, opening kind ++ rest = opening other ++ more →
    kind = other
  atom_ne_opening : ∀ {a kind rest more}, atom a ++ rest ≠ opening kind ++ more
  atom_begins : ∀ a, ∃ c rest, atom a = c :: rest ∧ ¬ Delimiter c
  opening_begins : ∀ kind, ∃ c rest, opening kind = c :: rest ∧ ¬ Delimiter c
  separator_begins : ∀ kind, ∃ c rest, separator kind = c :: rest ∧ Delimiter c ∧
    c ≠ closing kind
  closing_delimiter : ∀ kind, Delimiter (closing kind)

namespace Style

variable {α κ : Type} (style : Style α κ)

mutual

def write : Form α κ → List Char
  | .atom a => style.atom a
  | .group kind items =>
      style.opening kind ++ (style.separator kind).intercalate (writeAll items) ++
        [style.closing kind]

def writeAll : List (Form α κ) → List (List Char)
  | [] => []
  | form :: rest => write form :: writeAll rest

end

private theorem writeAll_eq_map (items : List (Form α κ)) :
    style.writeAll items = items.map style.write := by
  induction items with
  | nil => rfl
  | cons form rest ih => rw [writeAll, List.map_cons, ih]

theorem write_group (kind : κ) (items : List (Form α κ)) :
    style.write (.group kind items) =
      style.opening kind ++ (style.separator kind).intercalate (items.map style.write) ++
        [style.closing kind] := by
  rw [write, writeAll_eq_map]

/-- The items after the first one, each after a separator, up to the end of the group. -/
def writeTail (kind : κ) (items : List (Form α κ)) (rest : List Char) : List Char :=
  items.flatMap (fun item => style.separator kind ++ style.write item) ++ style.closing kind :: rest

variable {style} {kind : κ} {form other : Form α κ} {items others : List (Form α κ)}
  {rest more : List Char}

theorem write_group_nil :
    style.write (.group kind []) ++ rest = style.opening kind ++ style.closing kind :: rest := by
  rw [write_group, List.append_assoc, List.append_assoc]
  rfl

theorem write_group_cons :
    style.write (.group kind (form :: items)) ++ rest =
      style.opening kind ++ (style.write form ++ style.writeTail kind items rest) := by
  rw [write_group, List.map_cons, intercalate_cons, List.flatMap_map, writeTail]
  simp only [List.append_assoc, List.singleton_append]

private theorem write_begins (form : Form α κ) :
    ∃ c rest, style.write form = c :: rest ∧ ¬ Delimiter c := by
  cases form with
  | atom a =>
      rw [write]
      exact style.atom_begins a
  | group kind items =>
      obtain ⟨c, rest, begins, differs⟩ := style.opening_begins kind
      rw [write, begins]
      exact ⟨c, _, rfl, differs⟩

private theorem write_append_ne {c : Char} (delimiter : Delimiter c) :
    style.write form ++ rest ≠ c :: more := by
  obtain ⟨first, _, begins, differs⟩ := style.write_begins form
  rw [begins]
  intro same
  exact differs ((List.cons.inj same).1 ▸ delimiter)

private theorem delimited_writeTail : Delimited (style.writeTail kind items rest) := by
  cases items with
  | nil => exact delimited_cons (style.closing_delimiter kind) rest
  | cons form items =>
      obtain ⟨c, _, begins, delimiter, _⟩ := style.separator_begins kind
      rw [writeTail, List.flatMap_cons, begins]
      exact delimited_cons delimiter _

private theorem writeTail_eq (legible : ∀ item ∈ items, LegibleAt style.write item)
    (same : style.writeTail kind items rest = style.writeTail kind others more) :
    items = others ∧ rest = more := by
  obtain ⟨c, _, begins, _, differs⟩ := style.separator_begins kind
  induction items generalizing others with
  | nil =>
      cases others with
      | nil => exact ⟨rfl, (List.cons.inj same).2⟩
      | cons form others =>
          rw [writeTail, writeTail, List.flatMap_cons, begins] at same
          exact (differs (List.cons.inj same).1.symm).elim
  | cons item items ih =>
      cases others with
      | nil =>
          rw [writeTail, writeTail, List.flatMap_cons, begins] at same
          exact (differs (List.cons.inj same).1).elim
      | cons form others =>
          obtain ⟨legibleItem, legibleRest⟩ := List.forall_mem_cons.mp legible
          simp only [writeTail, List.flatMap_cons, List.append_assoc] at same
          obtain ⟨rfl, after⟩ := legibleItem delimited_writeTail delimited_writeTail
            (List.append_cancel_left same)
          obtain ⟨rfl, rests⟩ := ih legibleRest after
          exact ⟨rfl, rests⟩

/-- The closing text of a group is not taken for the beginning of an item. -/
theorem write_group_eq (legible : ∀ item ∈ items, LegibleAt style.write item)
    (same : style.write (.group kind items) ++ rest = style.write (.group kind others) ++ more) :
    items = others ∧ rest = more := by
  have noItem := @style.closing_delimiter kind
  cases items with
  | nil =>
      cases others with
      | nil =>
          rw [write_group_nil, write_group_nil] at same
          exact ⟨rfl, (List.cons.inj (List.append_cancel_left same)).2⟩
      | cons other others =>
          rw [write_group_nil, write_group_cons] at same
          exact (write_append_ne noItem (List.append_cancel_left same).symm).elim
  | cons item items =>
      cases others with
      | nil =>
          rw [write_group_cons, write_group_nil] at same
          exact (write_append_ne noItem (List.append_cancel_left same)).elim
      | cons other others =>
          obtain ⟨legibleItem, legibleRest⟩ := List.forall_mem_cons.mp legible
          rw [write_group_cons, write_group_cons] at same
          obtain ⟨rfl, after⟩ := legibleItem delimited_writeTail delimited_writeTail
            (List.append_cancel_left same)
          obtain ⟨rfl, rests⟩ := writeTail_eq legibleRest after
          exact ⟨rfl, rests⟩

/-- A form can be read off its text, from the outside in and from left to right. -/
theorem legible_write (style : Style α κ) : Legible style.write := by
  intro form
  induction form with
  | atom a =>
      intro other rest more delimited otherDelimited same
      cases other with
      | atom b =>
          obtain ⟨rfl, rests⟩ := style.legible_atom a delimited otherDelimited same
          exact ⟨rfl, rests⟩
      | group kind others =>
          simp only [write, List.append_assoc] at same
          exact (style.atom_ne_opening same).elim
  | group kind items ih =>
      intro other rest more _ _ same
      cases other with
      | atom b =>
          simp only [write, List.append_assoc] at same
          exact (style.atom_ne_opening same.symm).elim
      | group otherKind others =>
          have kinds : kind = otherKind := by
            simp only [write, List.append_assoc] at same
            exact style.opening_inj same
          subst kinds
          obtain ⟨rfl, rests⟩ := write_group_eq ih same
          exact ⟨rfl, rests⟩

end Style

end LazyGrammar.Text

namespace LazyGrammar.Outline

theorem toList_compactItems (items : List Outline) :
    (compactItems items).toList =
      ", ".toList.intercalate (items.map fun item => item.compact.toList) :=
  Text.toList_eq_intercalate (by rw [compactItems]) (fun _ => by rw [compactItems])
    (fun _ _ _ => by rw [compactItems]) items

end LazyGrammar.Outline
