/-!
# Sets of names

Names in strictly ascending code point order, each of them once. Going through a
set from its beginning therefore meets the smallest name with a property first.
-/

set_option autoImplicit false

namespace LazyGrammar

structure NameSet where
  names : List String
  ascending : names.Pairwise (· < ·)

namespace NameSet

theorem ascending_nil : ([] : List String).Pairwise (· < ·) := List.Pairwise.nil

def empty : NameSet := ⟨[], ascending_nil⟩

instance : EmptyCollection NameSet := ⟨empty⟩

instance : Membership String NameSet := ⟨fun set name => name ∈ set.names⟩

/-- Puts a name into its place among ascending names, if it is not there yet. -/
def insertIn (name : String) : List String → List String
  | [] => [name]
  | other :: rest =>
      if name < other then name :: other :: rest
      else if name = other then other :: rest
      else other :: insertIn name rest

theorem lt_of_not_lt_of_ne {name other : String} (notBefore : ¬ name < other)
    (differ : name ≠ other) : other < name := by
  apply Classical.byContradiction
  intro notAfter
  exact differ (String.le_antisymm (String.not_lt.mp notAfter) (String.not_lt.mp notBefore))

private theorem mem_insertIn {name other : String} {names : List String} :
    other ∈ insertIn name names ↔ other = name ∨ other ∈ names := by
  induction names with
  | nil => simp [insertIn]
  | cons head rest ih =>
      rw [insertIn]
      split
      · exact List.mem_cons
      · split
        next same =>
          subst same
          exact ⟨.inr, fun either => either.elim (fun eq => eq ▸ List.mem_cons_self) id⟩
        · rw [List.mem_cons, List.mem_cons, ih]
          exact or_left_comm

private theorem ascending_insertIn {name : String} {names : List String}
    (ascending : names.Pairwise (· < ·)) : (insertIn name names).Pairwise (· < ·) := by
  induction names with
  | nil => simp [insertIn]
  | cons head rest ih =>
      obtain ⟨headFirst, restAscending⟩ := List.pairwise_cons.mp ascending
      rw [insertIn]
      split
      next before =>
        refine List.pairwise_cons.mpr ⟨fun other member => ?_, ascending⟩
        rcases List.mem_cons.mp member with same | later
        · rw [same]; exact before
        · exact String.lt_trans before (headFirst other later)
      next notBefore =>
        split
        · exact ascending
        next differ =>
          refine List.pairwise_cons.mpr ⟨fun other member => ?_, ih restAscending⟩
          rcases mem_insertIn.mp member with same | inRest
          · rw [same]
            exact lt_of_not_lt_of_ne notBefore differ
          · exact headFirst other inRest

def insert (set : NameSet) (name : String) : NameSet where
  names := insertIn name set.names
  ascending := ascending_insertIn set.ascending

@[simp] theorem not_mem_empty {name : String} : name ∉ (∅ : NameSet) := List.not_mem_nil

@[simp] theorem mem_insert {set : NameSet} {name other : String} :
    other ∈ set.insert name ↔ other = name ∨ other ∈ set := mem_insertIn

def find? (set : NameSet) (test : String → Bool) : Option String := set.names.find? test

def least? (set : NameSet) : Option String := set.names.head?

theorem find?_eq_none_iff {set : NameSet} {test : String → Bool} :
    set.find? test = none ↔ ∀ name ∈ set, test name = false := by
  simp only [find?, List.find?_eq_none, Bool.not_eq_true]
  exact Iff.rfl

private theorem le_of_mem_ascending {least other : String} {names : List String}
    (ascending : (least :: names).Pairwise (· < ·)) (member : other ∈ least :: names) :
    least ≤ other := by
  rcases List.mem_cons.mp member with same | later
  · exact same ▸ String.le_refl least
  · exact String.not_lt.mp (String.lt_asymm ((List.pairwise_cons.mp ascending).1 other later))

theorem find?_eq_some_iff {set : NameSet} {test : String → Bool} {name : String} :
    set.find? test = some name ↔
      name ∈ set ∧ test name = true ∧ ∀ other ∈ set, test other = true → name ≤ other := by
  obtain ⟨names, ascending⟩ := set
  change names.find? test = some name ↔
    name ∈ names ∧ test name = true ∧ ∀ other ∈ names, test other = true → name ≤ other
  induction names with
  | nil => simp
  | cons head rest ih =>
      obtain ⟨headFirst, restAscending⟩ := List.pairwise_cons.mp ascending
      cases passes : test head with
      | true =>
          rw [List.find?_cons_of_pos passes, Option.some.injEq]
          constructor
          · intro same
            subst same
            exact ⟨List.mem_cons_self, passes,
              fun other member _ => le_of_mem_ascending ascending member⟩
          · intro found
            obtain ⟨member, _, least⟩ := found
            exact String.le_antisymm (le_of_mem_ascending ascending member)
              (least head List.mem_cons_self passes)
      | false =>
          have fails : ¬ test head = true := by simp [passes]
          rw [List.find?_cons_of_neg fails, ih restAscending]
          simp only [List.mem_cons, forall_eq_or_imp, passes, Bool.false_eq_true, false_implies,
            true_and]
          constructor
          · intro found
            obtain ⟨member, holds, least⟩ := found
            exact ⟨.inr member, holds, least⟩
          · intro found
            obtain ⟨same | member, holds, least⟩ := found
            · exact (fails (same ▸ holds)).elim
            · exact ⟨member, holds, least⟩

theorem least?_eq_find? {set : NameSet} : set.least? = set.find? fun _ => true := by
  obtain ⟨names, _⟩ := set
  cases names <;> rfl

theorem least?_eq_none_iff {set : NameSet} : set.least? = none ↔ ∀ name, name ∉ set := by
  simp [least?_eq_find?, find?_eq_none_iff]

theorem least?_eq_some_iff {set : NameSet} {name : String} :
    set.least? = some name ↔ name ∈ set ∧ ∀ other ∈ set, name ≤ other := by
  simp [least?_eq_find?, find?_eq_some_iff]

end NameSet

end LazyGrammar
