import LazyGrammar.Expr.Basic

/-!
# Rules

Definitions under names. Defining a name again does not replace its definition
but adds an alternative, as if the rule were the union of all its definitions in
the order they were given. Names are kept in ascending code point order, which is
the order in which they are listed and shown.
-/

set_option autoImplicit false

namespace LazyGrammar

/-!
## What stands beside a name
-/

section Lookup

variable {β : Type} {entries : List (String × β)} {name : String}

theorem lookup_cons_eq_ite {first : String} {value : β} :
    ((first, value) :: entries).lookup name =
      if name = first then some value else entries.lookup name := by
  by_cases same : name = first
  · rw [if_pos same, same, List.lookup_cons_self]
  · rw [if_neg same, List.lookup_cons, beq_eq_false_iff_ne.mpr same]

theorem lookup_eq_none_iff_not_mem :
    entries.lookup name = none ↔ name ∉ entries.map Prod.fst := by
  simp only [List.lookup_eq_none_iff, bne_iff_ne, List.mem_map, not_exists, not_and]
  exact forall₂_congr fun _ _ => ne_comm

/-- In ascending order every name stands once, and so whatever is beside it is found. -/
theorem lookup_eq_some_iff_mem {value : β} (ascending : (entries.map Prod.fst).Pairwise (· < ·)) :
    entries.lookup name = some value ↔ (name, value) ∈ entries := by
  rw [List.lookup_eq_some_iff]
  constructor
  · intro found
    obtain ⟨before, after, rfl, _⟩ := found
    exact List.mem_append_right before List.mem_cons_self
  · intro member
    obtain ⟨before, after, rfl⟩ := List.append_of_mem member
    refine ⟨before, after, rfl, fun entry isBefore => bne_iff_ne.mpr fun same => ?_⟩
    rw [List.pairwise_map, List.pairwise_append] at ascending
    exact String.lt_irrefl entry.1
      (same ▸ ascending.2.2 entry isBefore (name, value) List.mem_cons_self)

theorem lookup_filter (keep : String → Bool) (kept : keep name = true) :
    (entries.filter fun entry => keep entry.1).lookup name = entries.lookup name := by
  induction entries with
  | nil => rfl
  | cons entry rest ih =>
      obtain ⟨first, value⟩ := entry
      rw [List.filter_cons]
      split
      · rw [lookup_cons_eq_ite, lookup_cons_eq_ite, ih]
      next dropped =>
        have differ : name ≠ first := fun same => dropped (same ▸ kept)
        rw [lookup_cons_eq_ite, if_neg differ, ih]

theorem lookup_map {γ : Type} (change : String → β → γ) :
    (entries.map fun entry => (entry.1, change entry.1 entry.2)).lookup name =
      (entries.lookup name).map (change name) := by
  induction entries with
  | nil => rfl
  | cons entry rest ih =>
      obtain ⟨first, value⟩ := entry
      rw [List.map_cons, lookup_cons_eq_ite, lookup_cons_eq_ite, ih]
      split
      next same => rw [same, Option.map_some]
      next => rfl

end Lookup

/-!
## Definitions under names
-/

def Expr.withAlternative : Expr → Expr → Expr
  | .union alternatives, more => .union (alternatives ++ [more])
  | expr, more => .union [expr, more]

def Expr.alternativeCount : Expr → Nat
  | .union alternatives => alternatives.length
  | _ => 1

structure Rules where
  bindings : List (String × Expr)
  ascending : (bindings.map Prod.fst).Pairwise (· < ·)

namespace Rules

def empty : Rules := ⟨[], List.Pairwise.nil⟩

def get? (rules : Rules) (name : String) : Option Expr := rules.bindings.lookup name

def contains (rules : Rules) (name : String) : Bool := (rules.get? name).isSome

def names (rules : Rules) : List String := rules.bindings.map Prod.fst

def size (rules : Rules) : Nat := rules.bindings.length

def defineIn (name : String) (expr : Expr) : List (String × Expr) → List (String × Expr)
  | [] => [(name, expr)]
  | (other, definition) :: rest =>
      if name < other then (name, expr) :: (other, definition) :: rest
      else if name = other then (other, definition.withAlternative expr) :: rest
      else (other, definition) :: defineIn name expr rest

private theorem mem_defineIn {name : String} {expr : Expr} {bindings : List (String × Expr)}
    {other : String} (member : other ∈ (defineIn name expr bindings).map Prod.fst) :
    other = name ∨ other ∈ bindings.map Prod.fst := by
  induction bindings with
  | nil => simpa [defineIn] using member
  | cons head rest ih =>
      obtain ⟨first, definition⟩ := head
      rw [defineIn] at member
      split at member
      · simpa using member
      · split at member
        · exact .inr (by simpa using member)
        · rw [List.map_cons, List.mem_cons] at member
          rcases member with same | later
          · exact .inr (by simp [same])
          · rcases ih later with same | inRest
            · exact .inl same
            · exact .inr (by simp only [List.map_cons, List.mem_cons]; exact .inr inRest)

private theorem ascending_defineIn {name : String} {expr : Expr}
    {bindings : List (String × Expr)} (ascending : (bindings.map Prod.fst).Pairwise (· < ·)) :
    ((defineIn name expr bindings).map Prod.fst).Pairwise (· < ·) := by
  induction bindings with
  | nil => simp [defineIn]
  | cons head rest ih =>
      obtain ⟨other, definition⟩ := head
      rw [List.map_cons, List.pairwise_cons] at ascending
      rw [defineIn]
      split
      next before =>
        rw [List.map_cons, List.map_cons, List.pairwise_cons, List.pairwise_cons]
        refine ⟨fun key member => ?_, ascending⟩
        rcases List.mem_cons.mp member with same | later
        · rw [same]; exact before
        · exact String.lt_trans before (ascending.1 key later)
      next notBefore =>
        split
        · rw [List.map_cons, List.pairwise_cons]
          exact ascending
        next differ =>
          rw [List.map_cons, List.pairwise_cons]
          refine ⟨fun key member => ?_, ih ascending.2⟩
          rcases mem_defineIn member with same | inRest
          · rw [same]
            exact NameSet.lt_of_not_lt_of_ne notBefore differ
          · exact ascending.1 key inRest

/-- Binds a name, or adds an alternative to its definition if it is bound. -/
def define (rules : Rules) (name : String) (expr : Expr) : Rules where
  bindings := defineIn name expr rules.bindings
  ascending := ascending_defineIn rules.ascending

def reference (name : String) : Expr := .rule name

theorem get?_empty {name : String} : empty.get? name = none := rfl

theorem get?_eq_some_iff {rules : Rules} {name : String} {definition : Expr} :
    rules.get? name = some definition ↔ (name, definition) ∈ rules.bindings :=
  lookup_eq_some_iff_mem rules.ascending

private theorem lookup_defineIn {name : String} {expr : Expr} {bindings : List (String × Expr)}
    (ascending : (bindings.map Prod.fst).Pairwise (· < ·)) {other : String} :
    (defineIn name expr bindings).lookup other =
      if other = name then
        some (match bindings.lookup name with
          | some definition => definition.withAlternative expr
          | none => expr)
      else bindings.lookup other := by
  induction bindings with
  | nil => rw [defineIn, lookup_cons_eq_ite, List.lookup_nil, List.lookup_nil]
  | cons head rest ih =>
      obtain ⟨first, definition⟩ := head
      rw [List.map_cons, List.pairwise_cons] at ascending
      rw [defineIn]
      split
      next before =>
        have absent : ((first, definition) :: rest).lookup name = none := by
          rw [lookup_eq_none_iff_not_mem, List.map_cons, List.mem_cons]
          rintro (same | inRest)
          · subst same
            exact String.lt_irrefl _ before
          · exact String.lt_asymm before (ascending.1 name inRest)
        rw [absent, lookup_cons_eq_ite]
      next notBefore =>
        split
        next same =>
          subst same
          simp only [lookup_cons_eq_ite, if_true]
          split <;> rfl
        next differ =>
          simp only [lookup_cons_eq_ite, ih ascending.2, if_neg differ]
          by_cases same : other = name
          · simp only [same, if_true, if_neg differ]
          · simp only [if_neg same]

/-- Defining a name changes what that name is bound to, and nothing else. -/
theorem get?_define {rules : Rules} {name other : String} {expr : Expr} :
    (rules.define name expr).get? other =
      if other = name then
        some (match rules.get? name with
          | some definition => definition.withAlternative expr
          | none => expr)
      else rules.get? other := lookup_defineIn rules.ascending

theorem get?_define_empty {name other : String} {expr : Expr} :
    (empty.define name expr).get? other = if other = name then some expr else none := by
  rw [get?_define, get?_empty, get?_empty]

theorem get?_define_empty_eq_some_iff {name other : String} {expr definition : Expr} :
    (empty.define name expr).get? other = some definition ↔ other = name ∧ definition = expr := by
  rw [get?_define_empty, Option.ite_none_right_eq_some, Option.some_inj, @eq_comm _ expr]

theorem contains_iff_mem_names {rules : Rules} {name : String} :
    rules.contains name = true ↔ name ∈ rules.names := by
  rw [contains, get?, names, Option.isSome_iff_ne_none, ne_eq,
    lookup_eq_none_iff_not_mem, Classical.not_not]

def definitionsOutline (rules : Rules) : Outline :=
  .map (rules.bindings.map fun binding => (Quoted.text binding.1, binding.2.outline))

def outline (rules : Rules) : Outline := .record "Rules" [("defs", rules.definitionsOutline)]

end Rules

inductive Notice where
  | defined (name : String)
  | extended (name : String) (alternatives : Nat)
  | froze (rules : Nat)
  deriving DecidableEq

namespace Notice

def message : Notice → String
  | .defined name => "defining rule `" ++ name ++ "`"
  | .extended name alternatives =>
      "rule `" ++ name ++ "` now has " ++ toString alternatives ++ " alternatives"
  | .froze rules => "froze grammar with " ++ toString rules ++ " rule(s)"

end Notice

def Rules.defineNotice (rules : Rules) (name : String) : Notice :=
  match rules.get? name with
  | none => .defined name
  | some definition => .extended name (definition.alternativeCount + 1)

end LazyGrammar
