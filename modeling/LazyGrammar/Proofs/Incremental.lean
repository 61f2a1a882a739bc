import LazyGrammar.Expr.Parses
import LazyGrammar.Proofs.Definitions
import LazyGrammar.Proofs.References

/-!
# Rules defined bit by bit

A name may be defined again and again, with definitions of other names between. What
it is bound to in the end depends on its own expressions only, and their results come
in the order in which the expressions were given: whether the first of them is a
union, which takes in the later ones, or not, makes no difference.
-/

set_option autoImplicit false

namespace LazyGrammar

namespace Expr

theorem withAlternative_cases (expr more : Expr) :
    (∃ alternatives, expr = .union alternatives ∧
      expr.withAlternative more = .union (alternatives ++ [more])) ∨
    expr.withAlternative more = .union [expr, more] := by
  cases expr with
  | union alternatives => exact .inl ⟨alternatives, rfl, rfl⟩
  | _ => exact .inr rfl

section Parses

variable {rounds : Nat} {call : String → List Char → Enumeration Parse} {input : List Char}

private theorem unionParses_append (alternatives others : List Expr) :
    unionParses rounds call (alternatives ++ others) input =
      (unionParses rounds call alternatives input).append fun _ =>
        unionParses rounds call others input := by
  induction alternatives with
  | nil => rw [List.nil_append, unionParses]; rfl
  | cons alternative rest ih =>
      rw [List.cons_append, unionParses, unionParses, ih, Enumeration.append_assoc]

private theorem unionParses_singleton (expr : Expr) :
    unionParses rounds call [expr] input = expr.parsesWith rounds call input := by
  rw [unionParses]
  exact Enumeration.append_done _

theorem parsesWith_withAlternative (expr more : Expr) :
    (expr.withAlternative more).parsesWith rounds call input =
      (expr.parsesWith rounds call input).append fun _ => more.parsesWith rounds call input := by
  obtain ⟨alternatives, rfl, extended⟩ | paired := withAlternative_cases expr more
  · rw [extended, parsesWith, parsesWith, unionParses_append, unionParses_singleton]
  · rw [paired, parsesWith, unionParses, unionParses_singleton]

theorem parsesWith_foldl_withAlternative (expr : Expr) (others : List Expr) :
    (others.foldl withAlternative expr).parsesWith rounds call input =
      (Enumeration.ofList (expr :: others)).flatMap fun alternative =>
        alternative.parsesWith rounds call input := by
  induction others generalizing expr with
  | nil => exact (Enumeration.append_done _).symm
  | cons next rest ih =>
      rw [List.foldl_cons, ih, Enumeration.ofList, Enumeration.flatMap,
        parsesWith_withAlternative, Enumeration.append_assoc]
      rfl

end Parses

theorem alternativeCount_withAlternative (expr more : Expr) :
    (expr.withAlternative more).alternativeCount = expr.alternativeCount + 1 := by
  cases expr with
  | union alternatives => exact List.length_append
  | _ => rfl

private theorem alternativeCount_foldl_withAlternative (expr : Expr) (others : List Expr) :
    (others.foldl withAlternative expr).alternativeCount =
      expr.alternativeCount + others.length := by
  induction others generalizing expr with
  | nil => rfl
  | cons next rest ih =>
      rw [List.foldl_cons, ih, alternativeCount_withAlternative, List.length_cons]
      omega

end Expr

namespace Rules

def defineAll (rules : Rules) : List (String × Expr) → Rules
  | [] => rules
  | (name, expr) :: later => (rules.define name expr).defineAll later

def definedBy (name : String) (calls : List (String × Expr)) : List Expr :=
  (calls.filter fun call => call.1 = name).map Prod.snd

/-- What a name is bound to after further expressions. -/
def merged : Option Expr → List Expr → Option Expr
  | none, [] => none
  | none, first :: rest => some (rest.foldl Expr.withAlternative first)
  | some definition, exprs => some (exprs.foldl Expr.withAlternative definition)

variable {rules : Rules} {name : String} {calls : List (String × Expr)}

@[simp] private theorem merged_nil (bound : Option Expr) : merged bound [] = bound := by
  cases bound <;> rfl

private theorem definedBy_cons_self {expr : Expr} :
    definedBy name ((name, expr) :: calls) = expr :: definedBy name calls := by
  simp [definedBy]

private theorem definedBy_cons_of_ne {other : String} (differ : other ≠ name) {expr : Expr} :
    definedBy name ((other, expr) :: calls) = definedBy name calls := by
  simp [definedBy, differ]

private theorem definedBy_eq_nil_iff : definedBy name calls = [] ↔ name ∉ calls.map Prod.fst := by
  rw [definedBy, List.map_eq_nil_iff, List.filter_eq_nil_iff, List.mem_map]
  simp only [decide_eq_true_eq, not_exists, not_and]

/-- Only a name's own expressions count for what it is bound to. -/
theorem get?_defineAll :
    (rules.defineAll calls).get? name = merged (rules.get? name) (definedBy name calls) := by
  induction calls generalizing rules with
  | nil => exact (merged_nil _).symm
  | cons call later ih =>
      obtain ⟨other, expr⟩ := call
      rw [defineAll, ih, get?_define]
      by_cases same : other = name
      · subst same
        rw [if_pos rfl, definedBy_cons_self]
        cases rules.get? other <;> rfl
      · rw [if_neg (Ne.symm same), definedBy_cons_of_ne same]

private theorem defineAll_congr {others : List (String × Expr)}
    (same : ∀ name, definedBy name calls = definedBy name others) :
    rules.defineAll calls = rules.defineAll others := by
  refine ext_get? fun name => ?_
  rw [get?_defineAll, get?_defineAll, same]

private theorem get?_defineAll_of_not_mem (absent : name ∉ calls.map Prod.fst) :
    (rules.defineAll calls).get? name = rules.get? name := by
  rw [get?_defineAll, definedBy_eq_nil_iff.mpr absent, merged_nil]

theorem mem_names_defineAll :
    name ∈ (empty.defineAll calls).names ↔ name ∈ calls.map Prod.fst := by
  rw [← contains_iff_mem_names, contains, get?_defineAll, get?_empty]
  have mentioned := not_congr (@definedBy_eq_nil_iff name calls)
  cases own : definedBy name calls with
  | nil => simpa [own, merged] using mentioned
  | cons first rest => simpa [own, merged] using mentioned

/-- The definition that was given first is told to be new, and each later one with the number of
alternatives that there are then. -/
theorem defineNotice_defineAll :
    (empty.defineAll calls).defineNotice name =
      match definedBy name calls with
      | [] => .defined name
      | first :: rest => .extended name (first.alternativeCount + (first :: rest).length) := by
  rw [defineNotice, get?_defineAll, get?_empty]
  cases definedBy name calls with
  | nil => rfl
  | cons first rest =>
      dsimp only [merged]
      rw [Expr.alternativeCount_foldl_withAlternative, Nat.add_assoc, List.length_cons]

theorem get?_defineAll_of_definedBy {first : Expr} {rest : List Expr}
    (own : definedBy name calls = first :: rest) :
    (empty.defineAll calls).get? name = some (rest.foldl Expr.withAlternative first) := by
  rw [get?_defineAll, get?_empty, own, merged]

/-- A rule yields what its expressions yield, one after the other, whether parsing starts from it
or reaches it through a reference, which takes one call. -/
theorem parses_defined {first : Expr} {rest : List Expr}
    (own : definedBy name calls = first :: rest) {definition : Expr}
    (bound : (empty.defineAll calls).get? name = some definition) (fuel : Nat)
    (input : List Char) :
    (empty.defineAll calls).parses fuel definition input =
        (Enumeration.ofList (first :: rest)).flatMap
          (fun expr => (empty.defineAll calls).parses fuel expr input) ∧
      (empty.defineAll calls).parses (fuel + 1) (.rule name) input =
        (empty.defineAll calls).parses fuel definition input := by
  constructor
  · rw [get?_defineAll_of_definedBy own] at bound
    obtain rfl := Option.some.inj bound
    exact Expr.parsesWith_foldl_withAlternative first rest
  · rw [parses, Expr.parsesWith, call, bound]
    rfl

/-- Definitions of several names, in any order: each name keeps to its own expressions, also where
one of them was copied from another name; the names are listed in ascending order; the results of a
rule are those of its expressions in turn; and each call is told with the number of alternatives
that there are then. -/
theorem definitions_grow_by_name (calls : List (String × Expr)) :
    (∀ (rules : Rules) (others : List (String × Expr)),
      (∀ name, definedBy name calls = definedBy name others) →
        rules.defineAll calls = rules.defineAll others) ∧
    (∀ (rules : Rules) name, name ∉ calls.map Prod.fst →
      (rules.defineAll calls).get? name = rules.get? name) ∧
    (∀ (rules : Rules) source target definition, rules.get? source = some definition →
      rules.get? target = none → target ∉ calls.map Prod.fst →
        ((rules.define target definition).defineAll calls).get? target = some definition) ∧
    ((empty.defineAll calls).names.Pairwise (· < ·) ∧
      ∀ name, name ∈ (empty.defineAll calls).names ↔ name ∈ calls.map Prod.fst) ∧
    (∀ assemble start grammar, assemble empty = .ok (empty.defineAll calls, start) →
      Grammar.build assemble = .ok grammar →
        ∀ name first rest, definedBy name calls = first :: rest → ∀ fuel input,
          (∃ cursor, grammar.parseRule fuel name input = .ok cursor ∧
            cursor.resume () = (Enumeration.ofList (first :: rest)).flatMap fun expr =>
              grammar.rules.parses fuel expr input.toList) ∧
          grammar.rules.parses (fuel + 1) (.rule name) input.toList =
            (Enumeration.ofList (first :: rest)).flatMap fun expr =>
              grammar.rules.parses fuel expr input.toList) ∧
    ∀ name, (empty.defineAll calls).defineNotice name =
      match definedBy name calls with
      | [] => .defined name
      | first :: rest => .extended name (first.alternativeCount + (first :: rest).length) := by
  refine ⟨fun rules others => defineAll_congr, fun rules name => get?_defineAll_of_not_mem, ?_,
    ⟨(empty.defineAll calls).ascending, fun name => mem_names_defineAll⟩, ?_,
    fun name => defineNotice_defineAll⟩
  · intro rules source target definition _ unbound absent
    rw [get?_defineAll_of_not_mem absent, get?_define, if_pos rfl, unbound]
  · intro assemble start grammar assembled built name first rest own fuel input
    simp only [Grammar.build, assembled, Grammar.freeze_eq_ok_iff] at built
    obtain ⟨rfl, _⟩ := built
    have bound := get?_defineAll_of_definedBy own
    obtain ⟨inTurn, referred⟩ := parses_defined own bound fuel input.toList
    exact ⟨⟨_, Grammar.parseRule_eq_ok bound fuel input, inTurn⟩, referred.trans inTurn⟩

/-- Two names in turn, the first of them with a union that takes in what comes later. -/
def interleaved : List (String × Expr) :=
  [("x", .union [.literal "a", .literal "b"]), ("y", .rule "x"), ("x", .literal "a")]

theorem definitions_grow_by_name_interleaved :
    empty.defineAll interleaved =
      empty.defineAll [("y", .rule "x"), ("x", .union [.literal "a", .literal "b"]),
        ("x", .literal "a")] ∧
    (empty.defineAll interleaved).defineNotice "x" = .extended "x" 4 := by
  have grow := definitions_grow_by_name interleaved
  refine ⟨grow.1 empty _ fun name => ?_, grow.2.2.2.2.2 "x"⟩
  by_cases isX : "x" = name
  · subst isX
    rfl
  · by_cases isY : "y" = name
    · subst isY
      rfl
    · simp [definedBy, interleaved, isX, isY]

end Rules

end LazyGrammar
