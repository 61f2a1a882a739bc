import LazyGrammar.Rules
import Mathlib.Data.List.Pairwise

/-!
# What names are bound to

Rules are nothing but what their names are bound to: the order in which bindings
stand is that of the names. Changing every definition changes what each name is
bound to, and leaves the names as they are.
-/

set_option autoImplicit false

namespace LazyGrammar.Rules

private theorem bindings_eq_of_mem_iff {first second : List (String × Expr)}
    (ascending : (first.map Prod.fst).Pairwise (· < ·))
    (otherAscending : (second.map Prod.fst).Pairwise (· < ·))
    (same : ∀ binding, binding ∈ first ↔ binding ∈ second) : first = second := by
  have distinct {bindings : List (String × Expr)}
      (ordered : (bindings.map Prod.fst).Pairwise (· < ·)) : bindings.Nodup := by
    refine (List.pairwise_map.mp ordered).imp ?_
    intro one other less equal
    exact String.lt_irrefl _ (equal ▸ less)
  have perm : first.Perm second :=
    (List.perm_ext_iff_of_nodup (distinct ascending) (distinct otherAscending)).mpr same
  refine perm.eq_of_pairwise (fun one other _ _ less greater => ?_)
    (List.pairwise_map.mp ascending) (List.pairwise_map.mp otherAscending)
  exact (String.lt_asymm less greater).elim

theorem ext_get? {rules other : Rules} (same : ∀ name, rules.get? name = other.get? name) :
    rules = other := by
  have bindings : rules.bindings = other.bindings := by
    refine bindings_eq_of_mem_iff rules.ascending other.ascending fun binding => ?_
    obtain ⟨name, definition⟩ := binding
    rw [← get?_eq_some_iff, ← get?_eq_some_iff, same]
  cases rules
  cases other
  cases bindings
  rfl

def mapDefinitions (rules : Rules) (change : String → Expr → Expr) : Rules where
  bindings := rules.bindings.map fun binding => (binding.1, change binding.1 binding.2)
  ascending := by simpa [List.map_map, Function.comp_def] using rules.ascending

variable {rules : Rules} {change : String → Expr → Expr} {name : String}

theorem get?_mapDefinitions :
    (rules.mapDefinitions change).get? name = (rules.get? name).map (change name) :=
  lookup_map change

end LazyGrammar.Rules
