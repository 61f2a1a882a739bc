import LazyGrammar.Proofs.Text.Form
import LazyGrammar.Proofs.Transforms

/-!
# Expressions are told apart by their texts

The text of an expression is that of a bracketed form: constructors open groups by
their names, alternatives stand in square brackets and characters in curly ones. The
name of a rule stands there as it is, so it may look like anything that comes before its
closing parenthesis. If it contains none itself, everything can be read off the text but
the transforms, for which there is only a sign.
-/

set_option autoImplicit false

namespace LazyGrammar.Expr

open Text

/-- A name that ends where the parenthesis after it closes. -/
def ClearName (name : String) : Prop := ')' ∉ name.toList

private theorem ClearName.all_ne {name : String} (clear : ClearName name) :
    ∀ c ∈ name.toList, (c != ')') = true := by
  intro c member
  exact bne_iff_ne.mpr (ne_of_mem_of_not_mem member clear)

instance (name : String) : Decidable (ClearName name) := inferInstanceAs (Decidable (_ ∉ _))

/-- What stands in the text of an expression without any parts. -/
inductive Atom where
  | text (content : String)
  | char (c : Char)
  | transform
  | rule (name : String) (clear : ClearName name)

namespace Atom

def written : Atom → List Char
  | .text content => (Quoted.text content).toList
  | .char c => (Quoted.char c).toList
  | .transform => ['_']
  | .rule name _ => "Rule".toList ++ '(' :: (name.toList ++ [')'])

/-- The first character tells what kind of atom it is. -/
def first : Atom → Char
  | .text _ => '"'
  | .char _ => '\''
  | .transform => '_'
  | .rule _ _ => 'R'

private theorem written_begins (a : Atom) : ∃ after, a.written = a.first :: after := by
  cases a with
  | text content => exact Quoted.enclose_begins '"' content.toList
  | char c => exact Quoted.enclose_begins '\'' [c]
  | transform | rule => exact ⟨_, rfl⟩

private theorem legible_written : Legible written := by
  intro a b rest other delimited otherDelimited same
  have firsts : a.first = b.first := by
    obtain ⟨_, begins⟩ := a.written_begins
    obtain ⟨_, otherBegins⟩ := b.written_begins
    rw [begins, otherBegins] at same
    exact (List.cons.inj same).1
  cases a with
  | text =>
      cases b with
      | text =>
          obtain ⟨rfl, rests⟩ := Quoted.legible_text _ delimited otherDelimited same
          exact ⟨rfl, rests⟩
      | char | transform | rule => cases firsts
  | char =>
      cases b with
      | char =>
          obtain ⟨rfl, rests⟩ := Quoted.legible_char _ delimited otherDelimited same
          exact ⟨rfl, rests⟩
      | text | transform | rule => cases firsts
  | transform =>
      cases b with
      | transform => exact ⟨rfl, (List.cons.inj same).2⟩
      | text | char | rule => cases firsts
  | rule name clear =>
      cases b with
      | rule otherName otherClear =>
          simp only [written, List.append_assoc, List.append_cancel_left_eq, List.cons_append,
            List.cons.injEq, true_and, List.nil_append] at same
          obtain ⟨names, rests⟩ := run_eq clear.all_ne otherClear.all_ne (by simp) (by simp) same
          obtain rfl := String.toList_inj.mp names
          exact ⟨rfl, (List.cons.inj rests).2⟩
      | text | char | transform => cases firsts

end Atom

/-- What a group is of: the parts of a node or of a set, or the items of a list. -/
inductive Group where
  | literal
  | regex
  | oneOf
  | noneOf
  | seq
  | union
  | first
  | many
  | many1
  | opt
  | map
  | full
  | charSet
  | members
  | alternatives

namespace Group

def word : Group → String
  | .literal => "Literal"
  | .regex => "Regex"
  | .oneOf => "OneOf"
  | .noneOf => "NoneOf"
  | .seq => "Seq"
  | .union => "Union"
  | .first => "First"
  | .many => "Many"
  | .many1 => "Many1"
  | .opt => "Opt"
  | .map => "Map"
  | .full => "Full"
  | .charSet => "CharSet"
  | .members | .alternatives => ""

def bracket : Group → Char
  | .members => '\x7b'
  | .alternatives => '['
  | _ => '('

def closing : Group → Char
  | .members => '\x7d'
  | .alternatives => ']'
  | _ => ')'

private theorem no_bracket_in_word (group : Group) :
    ∀ c ∈ group.word.toList, (c != '(' && c != '[' && c != '\x7b') = true := by
  cases group <;> simp [word]

private theorem bracket_opens (group : Group) {rest : List Char} :
    ∀ c ∈ (group.bracket :: rest).head?, (c != '(' && c != '[' && c != '\x7b') = false := by
  cases group <;> simp [bracket]

private theorem eq_of_word_of_bracket {group other : Group} (words : group.word = other.word)
    (brackets : group.bracket = other.bracket) : group = other := by
  cases group <;> cases other <;>
    first
    | rfl
    | exact absurd words (by decide)
    | exact absurd brackets (by decide)

end Group

/-- A name that a rule is shown by opens no group, although one of them begins in the same way. -/
private theorem written_append_ne_opening {a : Atom} {group : Group} {rest more : List Char} :
    a.written ++ rest ≠ group.word.toList ++ [group.bracket] ++ more := by
  intro same
  cases a with
  | text | char =>
      obtain ⟨_, begins⟩ := Atom.written_begins _
      rw [begins] at same
      cases group <;> cases (List.cons.inj same).1
  | transform => cases group <;> cases (List.cons.inj same).1
  | rule =>
      simp only [Atom.written, List.append_assoc, List.cons_append] at same
      obtain ⟨words, _⟩ :=
        run_eq (by simp) group.no_bracket_in_word (by simp) group.bracket_opens same
      cases group <;> exact absurd (String.toList_inj.mp words) (by decide)

def outlineStyle : Style Atom Group where
  atom := Atom.written
  opening group := group.word.toList ++ [group.bracket]
  separator _ := [',', ' ']
  closing := Group.closing
  legible_atom := Atom.legible_written
  opening_inj {group other rest more} same := by
    simp only [List.append_assoc, List.singleton_append] at same
    obtain ⟨words, brackets⟩ := run_eq group.no_bracket_in_word other.no_bracket_in_word
      group.bracket_opens other.bracket_opens same
    exact Group.eq_of_word_of_bracket (String.toList_inj.mp words) (List.cons.inj brackets).1
  atom_ne_opening := written_append_ne_opening
  atom_begins a := by
    obtain ⟨after, begins⟩ := a.written_begins
    exact ⟨_, after, begins, by cases a <;> simp [Atom.first, Delimiter]⟩
  opening_begins group := by cases group <;> exact ⟨_, _, rfl, by decide⟩
  separator_begins group := by cases group <;> exact ⟨_, _, rfl, by decide, by decide⟩
  closing_delimiter group := by cases group <;> decide

/-!
## Forms
-/

/-- The atom of a reference. Names that are not clear share one, since they cannot be told apart. -/
def nameAtom (name : String) : Atom :=
  if clear : ClearName name then .rule name clear else .transform

private theorem nameAtom_inj {name other : String} (clear : ClearName name)
    (otherClear : ClearName other)
    (same : nameAtom name = nameAtom other) : name = other := by
  rw [nameAtom, nameAtom, dif_pos clear, dif_pos otherClear] at same
  exact Atom.rule.inj same

def setForm (set : CharSet) : Form Atom Group :=
  .group .charSet [.group .members (set.toList.map fun c => .atom (.char c))]

private theorem setForm_injective : Function.Injective setForm := by
  intro set other same
  have members := (Form.group.inj (List.cons.inj (Form.group.inj same).2).1).2
  have lists : set.toList = other.toList :=
    List.map_injective_iff.mpr (fun c d atoms => Atom.char.inj (Form.atom.inj atoms)) members
  apply CharSet.ext
  intro c
  rw [← CharSet.mem_toList, lists, CharSet.mem_toList]

mutual

def form : Expr → Form Atom Group
  | .literal text => .group .literal [.atom (.text text)]
  | .regex pattern => .group .regex [.atom (.text pattern.source)]
  | .oneOf set => .group .oneOf [setForm set]
  | .noneOf set => .group .noneOf [setForm set]
  | .seq left right => .group .seq [form left, form right]
  | .union alternatives => .group .union [.group .alternatives (forms alternatives)]
  | .first alternatives => .group .first [.group .alternatives (forms alternatives)]
  | .many inner => .group .many [form inner]
  | .many1 inner => .group .many1 [form inner]
  | .opt inner => .group .opt [form inner]
  | .map inner _ => .group .map [form inner, .atom .transform]
  | .full inner => .group .full [form inner]
  | .rule name => .atom (nameAtom name)

def forms : List Expr → List (Form Atom Group)
  | [] => []
  | expr :: rest => form expr :: forms rest

end

private theorem forms_eq_map (exprs : List Expr) : forms exprs = exprs.map form := by
  induction exprs with
  | nil => rfl
  | cons expr rest ih => rw [forms, List.map_cons, ih]

private theorem write_atom (a : Atom) : outlineStyle.write (.atom a) = a.written := rfl

section Write

variable {group : Group} {parts : List (Form Atom Group)} {outlines : List Outline}

private theorem write_group
    (each : parts.map outlineStyle.write = outlines.map fun o => o.compact.toList) :
    outlineStyle.write (.group group parts) =
      group.word.toList ++
        group.bracket :: ((Outline.compactItems outlines).toList ++ [group.closing]) := by
  rw [Style.write_group, each, Outline.toList_compactItems]
  simp [outlineStyle]

private theorem write_tuple (round : group.bracket = '(' ∧ group.closing = ')')
    (each : parts.map outlineStyle.write = outlines.map fun o => o.compact.toList) :
    outlineStyle.write (.group group parts) =
      (Outline.tuple group.word outlines).compact.toList := by
  rw [write_group each, round.1, round.2]
  simp [Outline.compact]

private theorem write_alternatives
    (each : parts.map outlineStyle.write = outlines.map fun o => o.compact.toList) :
    outlineStyle.write (.group .alternatives parts) = (Outline.list outlines).compact.toList := by
  rw [write_group each]
  simp [Outline.compact, Group.word, Group.bracket, Group.closing]

private theorem write_setForm (set : CharSet) :
    outlineStyle.write (setForm set) = set.outline.compact.toList := by
  have each : (set.toList.map fun c => Form.atom (Atom.char c)).map outlineStyle.write =
      (set.toList.map fun c => Outline.atom (Quoted.char c)).map fun o => o.compact.toList := by
    simp [write_atom, Atom.written, Outline.compact]
  have members : outlineStyle.write
        (.group .members (set.toList.map fun c => .atom (.char c))) =
      (Outline.set (set.toList.map fun c => .atom (Quoted.char c))).compact.toList := by
    rw [write_group each]
    simp [Outline.compact, Group.word, Group.bracket, Group.closing]
  exact write_tuple ⟨rfl, rfl⟩ (by simp [members])

end Write

def Clear (expr : Expr) : Prop := ∀ name, expr.Mentions name → ClearName name

private theorem Clear.child {child expr : Expr} (clear : expr.Clear)
    (member : child ∈ expr.children) :
    child.Clear :=
  forall_mentions_child member clear

theorem write_form {expr : Expr} (clear : expr.Clear) :
    outlineStyle.write expr.form = expr.outline.compact.toList := by
  induction expr with
  | literal | regex =>
      apply write_tuple ⟨rfl, rfl⟩
      simp [write_atom, Atom.written, Outline.compact]
  | oneOf set | noneOf set =>
      apply write_tuple ⟨rfl, rfl⟩
      simp [write_setForm]
  | seq left right leftIH rightIH =>
      have leftWritten := leftIH (clear.child (List.mem_pair.mpr (.inl rfl)))
      have rightWritten := rightIH (clear.child (List.mem_pair.mpr (.inr rfl)))
      apply write_tuple ⟨rfl, rfl⟩
      simp [leftWritten, rightWritten]
  | union alternatives ih | first alternatives ih =>
      have each : (forms alternatives).map outlineStyle.write =
          (outlines alternatives).map fun o => o.compact.toList := by
        rw [forms_eq_map, outlines_eq_map, List.map_map, List.map_map]
        apply List.map_congr_left
        exact fun alternative member => ih alternative member (clear.child member)
      apply write_tuple ⟨rfl, rfl⟩
      simp [write_alternatives each]
  | many inner ih | many1 inner ih | opt inner ih | full inner ih =>
      have written := ih (clear.child (List.mem_singleton.mpr rfl))
      apply write_tuple ⟨rfl, rfl⟩
      simp [written]
  | map inner transform ih =>
      have written := ih (clear.child (List.mem_singleton.mpr rfl))
      apply write_tuple ⟨rfl, rfl⟩
      simp [written, write_atom, Atom.written, Outline.compact]
  | rule name =>
      have clearName := clear name (mentions_rule.mpr rfl)
      rw [form, nameAtom, dif_pos clearName, write_atom]
      simp [Atom.written, outline, Outline.compact]

/-!
## What can be read off
-/

theorem outline_withoutTransforms (expr : Expr) :
    expr.withoutTransforms.outline = expr.outline := by
  induction expr with
  | literal | regex | oneOf | noneOf | rule => rw [withoutTransforms]
  | seq left right leftIH rightIH => simp only [withoutTransforms, outline, leftIH, rightIH]
  | union alternatives ih | first alternatives ih =>
      have each : outlines (allWithoutTransforms alternatives) = outlines alternatives := by
        rw [outlines_eq_map, outlines_eq_map, allWithoutTransforms_eq_map, List.map_map]
        exact List.map_congr_left ih
      simp only [withoutTransforms, outline, each]
  | many inner ih | many1 inner ih | opt inner ih | map inner _ ih | full inner ih =>
      simp only [withoutTransforms, outline, ih]

section Parts

variable {group : Group} {part other : Form Atom Group}

private theorem part_eq (same : Form.group group [part] = .group group [other]) : part = other :=
  List.singleton_inj.mp (Form.group.inj same).2

private theorem text_eq {content text : String}
    (same : Form.group group [.atom (Atom.text content)] = .group group [.atom (Atom.text text)]) :
    content = text :=
  Atom.text.inj (Form.atom.inj (part_eq same))

end Parts

/-- Alternatives can be read off one by one. -/
private theorem allWithoutTransforms_eq_of_forms_eq {exprs twins : List Expr}
    (each : ∀ expr ∈ exprs, ∀ twin ∈ twins, expr.form = twin.form →
      expr.withoutTransforms = twin.withoutTransforms)
    (same : forms exprs = forms twins) :
    allWithoutTransforms exprs = allWithoutTransforms twins := by
  induction exprs generalizing twins with
  | nil =>
      cases twins with
      | nil => rfl
      | cons => cases same
  | cons expr rest ih =>
      cases twins with
      | nil => cases same
      | cons twin others =>
          obtain ⟨head, tail⟩ := List.cons.inj same
          have heads := each expr List.mem_cons_self twin List.mem_cons_self head
          have tails := ih (fun expr member twin twinMember =>
            each expr (.tail _ member) twin (.tail _ twinMember)) tail
          simp only [allWithoutTransforms, heads, tails]

theorem withoutTransforms_eq_of_form_eq {expr twin : Expr} (clear : expr.Clear)
    (twinClear : twin.Clear) (same : expr.form = twin.form) :
    expr.withoutTransforms = twin.withoutTransforms := by
  induction expr generalizing twin with
  | literal text =>
      cases twin with
      | literal => exact congrArg literal (text_eq same)
      | _ => cases same
  | regex pattern =>
      cases twin with
      | regex => exact congrArg regex (Regex.Pattern.ext_source (text_eq same))
      | _ => cases same
  | oneOf set =>
      cases twin with
      | oneOf => exact congrArg oneOf (setForm_injective (part_eq same))
      | _ => cases same
  | noneOf set =>
      cases twin with
      | noneOf => exact congrArg noneOf (setForm_injective (part_eq same))
      | _ => cases same
  | seq left right leftIH rightIH =>
      cases twin with
      | seq =>
          obtain ⟨lefts, rights⟩ := List.cons.inj (Form.group.inj same).2
          apply congrArg₂ seq
          · exact leftIH (clear.child (List.mem_pair.mpr (.inl rfl)))
              (twinClear.child (List.mem_pair.mpr (.inl rfl))) lefts
          · exact rightIH (clear.child (List.mem_pair.mpr (.inr rfl)))
              (twinClear.child (List.mem_pair.mpr (.inr rfl))) (List.singleton_inj.mp rights)
      | _ => cases same
  | union alternatives ih =>
      cases twin with
      | union =>
          apply congrArg union
          apply allWithoutTransforms_eq_of_forms_eq _ (Form.group.inj (part_eq same)).2
          exact fun alternative member twin twinMember =>
            ih alternative member (clear.child member) (twinClear.child twinMember)
      | _ => cases same
  | first alternatives ih =>
      cases twin with
      | first =>
          apply congrArg first
          apply allWithoutTransforms_eq_of_forms_eq _ (Form.group.inj (part_eq same)).2
          exact fun alternative member twin twinMember =>
            ih alternative member (clear.child member) (twinClear.child twinMember)
      | _ => cases same
  | many inner ih =>
      cases twin with
      | many =>
          apply congrArg many
          exact ih (clear.child (.head _)) (twinClear.child (.head _)) (part_eq same)
      | _ => cases same
  | many1 inner ih =>
      cases twin with
      | many1 =>
          apply congrArg many1
          exact ih (clear.child (.head _)) (twinClear.child (.head _)) (part_eq same)
      | _ => cases same
  | opt inner ih =>
      cases twin with
      | opt =>
          apply congrArg opt
          exact ih (clear.child (.head _)) (twinClear.child (.head _)) (part_eq same)
      | _ => cases same
  | map inner transform ih =>
      cases twin with
      | map =>
          apply congrArg (map · fun value => value)
          exact ih (clear.child (.head _)) (twinClear.child (.head _))
            (List.cons.inj (Form.group.inj same).2).1
      | _ => cases same
  | full inner ih =>
      cases twin with
      | full =>
          apply congrArg full
          exact ih (clear.child (.head _)) (twinClear.child (.head _)) (part_eq same)
      | _ => cases same
  | rule name =>
      cases twin with
      | rule other =>
          apply congrArg rule
          exact nameAtom_inj (clear name (mentions_rule.mpr rfl))
            (twinClear other (mentions_rule.mpr rfl)) (Form.atom.inj same)
      | _ => cases same

/-- There is no transform anywhere in the expression. -/
def MapFree (expr : Expr) : Prop := ∀ inner transform, ¬ (map inner transform).Part expr

private theorem MapFree.child {child expr : Expr} (mapFree : expr.MapFree)
    (member : child ∈ expr.children) : child.MapFree :=
  fun inner transform deeper => mapFree inner transform (.inside member deeper)

theorem MapFree.withoutTransforms_eq {expr : Expr} (mapFree : expr.MapFree) :
    expr.withoutTransforms = expr := by
  induction expr with
  | literal | regex | oneOf | noneOf | rule => rw [withoutTransforms]
  | seq left right leftIH rightIH =>
      rw [withoutTransforms, leftIH (mapFree.child (List.mem_pair.mpr (.inl rfl))),
        rightIH (mapFree.child (List.mem_pair.mpr (.inr rfl)))]
  | union alternatives ih | first alternatives ih =>
      have each (alternative : Expr) (member : alternative ∈ alternatives) :
          alternative.withoutTransforms = alternative :=
        ih alternative member (mapFree.child member)
      rw [withoutTransforms, allWithoutTransforms_eq_map, List.map_congr_left each, List.map_id']
  | many inner ih | many1 inner ih | opt inner ih | full inner ih =>
      rw [withoutTransforms, ih (mapFree.child (.head _))]
  | map inner transform => exact (mapFree inner transform .whole).elim

/-- The text of an expression identifies it up to its transforms, if no name in it contains a
closing parenthesis. Without transforms and references, the same text means the same parses. -/
theorem texts_identify_up_to_transforms {x y : Expr}
    (clear : ∀ name, x.Mentions name → ClearName name)
    (otherClear : ∀ name, y.Mentions name → ClearName name) :
    (x.outline.compact = y.outline.compact ↔ x.withoutTransforms = y.withoutTransforms) ∧
    (x.MapFree → y.MapFree → (∀ name, ¬ x.Mentions name) → (∀ name, ¬ y.Mentions name) →
      x.outline.compact = y.outline.compact →
      x = y ∧ ∀ fuel input, ∃ cursor,
        x.parse fuel input = .ok cursor ∧ y.parse fuel input = .ok cursor) := by
  have identified : x.outline.compact = y.outline.compact ↔
      x.withoutTransforms = y.withoutTransforms := by
    constructor
    · intro same
      apply withoutTransforms_eq_of_form_eq clear otherClear
      apply outlineStyle.legible_write.injective
      rw [write_form clear, write_form otherClear, same]
    · intro same
      rw [← outline_withoutTransforms, same, outline_withoutTransforms]
  refine ⟨identified, ?_⟩
  intro mapFree otherMapFree noReferences _ same
  obtain rfl : x = y := by
    rw [← mapFree.withoutTransforms_eq, identified.mp same, otherMapFree.withoutTransforms_eq]
  exact ⟨rfl, fun fuel input => ⟨_, parse_eq_ok_iff.mpr ⟨rfl, noReferences⟩,
    parse_eq_ok_iff.mpr ⟨rfl, noReferences⟩⟩⟩

/-- The name of a rule may begin like an alternative, a character or a set. -/
def named (transform : Value → Value) : Expr :=
  .map (.seq (.rule "a, [Literal(\"'\x7b") (.literal ")")) transform

private theorem mentions_named_iff {transform : Value → Value} {name : String} :
    (named transform).Mentions name ↔ name = "a, [Literal(\"'\x7b" := by
  simp [named, mentions_iff_of_ne_rule, children]

theorem texts_identify_up_to_transforms_named :
    (named Value.fst).withoutTransforms = (named Value.snd).withoutTransforms ∧
      (∀ transform name, (named transform).Mentions name → ClearName name) ∧
      (opt (.literal "a")).MapFree ∧ (∀ name, ¬ (opt (.literal "a")).Mentions name) ∧
      ∃ cursor, (opt (.literal "a")).parse 1 "ab" = .ok cursor := by
  have clear (transform : Value → Value) :
      ∀ name, (named transform).Mentions name → ClearName name := by
    intro name mentioned
    rw [mentions_named_iff.mp mentioned]
    decide
  have mapFree : (opt (.literal "a")).MapFree := by
    intro inner transform
    simp [part_iff_of_ne, children]
  have noReferences (name : String) : ¬ (opt (.literal "a")).Mentions name := by
    simp [mentions_iff_of_ne_rule, children]
  have named := texts_identify_up_to_transforms (clear Value.fst) (clear Value.snd)
  have optional := texts_identify_up_to_transforms
    (fun name mentioned => (noReferences name mentioned).elim)
    (fun name mentioned => (noReferences name mentioned).elim)
  obtain ⟨_, results⟩ := optional.2 mapFree mapFree noReferences noReferences rfl
  obtain ⟨cursor, opened, _⟩ := results 1 "ab"
  exact ⟨named.1.mp rfl, clear, mapFree, noReferences, cursor, opened⟩

/-- A name with a closing parenthesis can be mistaken for two names. -/
example : (union [.rule "a), Rule(b"]).outline.compact =
    (union [.rule "a", .rule "b"]).outline.compact := by
  decide

end LazyGrammar.Expr
