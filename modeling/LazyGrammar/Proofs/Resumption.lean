import LazyGrammar.Proofs.Adapters
import LazyGrammar.Proofs.Choice
import LazyGrammar.Proofs.Inlining
import LazyGrammar.Proofs.Optionals

/-!
# Searches are resumed where they were left

The adapters of a search stand for an enumeration: what is left of the inner searches and,
after it, what the closures will give. A pull that comes to an end finds the first item and
leaves what stands for the tail, so it does not matter how much was pulled before. And a
pull comes to an end wherever the enumeration has an answer.
-/

set_option autoImplicit false

namespace LazyGrammar

open Filter

/-- An answer, and what comes after it if it is an item. -/
def Enumeration.answering {α : Type} : Option α → Enumeration α → Enumeration α
  | none, _ => .done
  | some a, rest => .item a fun _ => rest

theorem Enumeration.map_answering {α β : Type} (f : α → β) (answer : Option α)
    (rest : Enumeration α) :
    (answering answer rest).map f = answering (answer.map f) (rest.map f) := by
  cases answer <;> rfl

def Closure.parses (rules : Rules) (fuel : Nat) : Closure → Enumeration Parse
  | .second first right =>
      (rules.parses fuel right first.rest).map fun second =>
        ⟨.pair first.value second.value, second.rest⟩
  | .alternative expr input => rules.parses fuel expr input
  | .choice alternatives input => rules.parses fuel (.first alternatives) input
  | .repetition before inner input =>
      repetitionParses (rules.parses fuel inner) fuel before input
  | .optional inner input => rules.parses fuel (.opt inner) input
  | .definition name input => rules.parses fuel (.rule name) input

/-- What is left of a search. The definition of a rule has one unit of fuel less. -/
def Adapter.parses (rules : Rules) : Adapter → Nat → Enumeration Parse
  | .found parse?, _ => .ofOption parse?
  | .branches parses, _ => .ofList parses
  | .flat waiting current, fuel =>
      (current.parses rules fuel).append fun _ =>
        (Enumeration.ofList waiting).flatMap (Closure.parses rules fuel)
  | .chained source onto current, fuel =>
      (current.parses rules fuel).append fun _ =>
        (source.parses rules fuel).flatMap fun parse => (onto parse).parses rules fuel
  | .peekable peeked inner, fuel =>
      (Enumeration.ofOption peeked).append fun _ => inner.parses rules fuel
  | .mapped transform inner, fuel => (inner.parses rules fuel).map transform
  | .filtered inner, fuel => (inner.parses rules fuel).filter fun parse => parse.rest.isEmpty
  | .called _, 0 => .halted .outOfFuel
  | .called inner, fuel + 1 => inner.parses rules fuel

variable {rules : Rules}

/-- Nothing is lost by opening a search. -/
theorem Expr.parses_opened (expr : Expr) (input : List Char) (fuel : Nat) :
    (expr.opened input).parses rules fuel = rules.parses fuel expr input := by
  induction expr with
  | literal | regex | oneOf | noneOf => rw [opened, Adapter.parses, Rules.parses, parsesWith]
  | seq left right leftIH =>
      rw [opened, Adapter.parses, leftIH, Rules.parses_seq]
      rfl
  | union alternatives =>
      rw [opened, Adapter.parses, Rules.parses_union, ← Enumeration.map_ofList,
        Enumeration.flatMap_map]
      rfl
  | many1 inner ih =>
      rw [opened, Adapter.parses, ih, Rules.parses_many1]
      rfl
  | map inner transform ih => rw [opened, Adapter.parses, ih, Rules.parses_map]
  | full inner ih => rw [opened, Adapter.parses, ih, Rules.parses_full]
  | many inner =>
      rw [Rules.parses_many]
      exact Enumeration.append_done _
  | first | opt | rule => exact Enumeration.append_done _

/-!
## What a pull finds
-/

mutual

/-- A pull finds the first item and leaves what stands for the tail. -/
theorem Adapter.Pulls.parses {adapter after : Adapter} {answer : Option Parse} :
    adapter.Pulls rules answer after → ∀ᶠ fuel in atTop,
      adapter.parses rules fuel = .answering answer (after.parses rules fuel)
  | .found none | .found (some _) => .of_forall fun _ => rfl
  | .noBranch => .of_forall fun _ => rfl
  | .branch _ _ => .of_forall fun _ => rfl
  | .flatItem inside => by
      filter_upwards [inside.parses] with fuel current
      rw [Adapter.parses, current]
      rfl
  | .flatNext ended runs goesOn => by
      filter_upwards [ended.parses, runs.parses, goesOn.parses] with fuel current next further
      rw [← further, Adapter.parses, Adapter.parses, current, ← next]
      rfl
  | .flatEnd ended => by
      filter_upwards [ended.parses] with fuel current
      rw [Adapter.parses, current]
      rfl
  | .chainedItem inside => by
      filter_upwards [inside.parses] with fuel current
      rw [Adapter.parses, current]
      rfl
  | .chainedNext ended found runs goesOn => by
      filter_upwards [ended.parses, found.parses, runs.parses, goesOn.parses]
        with fuel current source next further
      rw [← further, Adapter.parses, Adapter.parses, current, source, ← next]
      rfl
  | .chainedEnd ended sourceEnded => by
      filter_upwards [ended.parses, sourceEnded.parses] with fuel current source
      rw [Adapter.parses, current, source]
      rfl
  | .peeked _ _ => .of_forall fun _ => rfl
  | .unpeeked inside => by
      filter_upwards [inside.parses] with fuel inner
      exact inner
  | .mapped inside => by
      filter_upwards [inside.parses] with fuel inner
      rw [Adapter.parses, inner]
      exact Enumeration.map_answering _ _ _
  | .filteredItem inside complete => by
      filter_upwards [inside.parses] with fuel inner
      rw [Adapter.parses, inner]
      exact if_pos complete
  | .filteredNext inside incomplete goesOn => by
      filter_upwards [inside.parses, goesOn.parses] with fuel inner further
      rw [← further, Adapter.parses, Adapter.parses, inner]
      exact if_neg (Bool.eq_false_iff.mp incomplete)
  | .filteredEnd inside => by
      filter_upwards [inside.parses] with fuel inner
      rw [Adapter.parses, inner]
      rfl
  | .called inside => by
      -- The definition has one unit of fuel less, which does not matter from some amount on.
      rw [← map_add_atTop_eq_nat 1]
      exact eventually_map.mpr inside.parses

theorem Closure.Runs.parses {closure : Closure} {search : Adapter} :
    closure.Runs rules search → ∀ᶠ fuel in atTop,
      closure.parses rules fuel = search.parses rules fuel
  | .second first right => .of_forall fun fuel => by
      rw [Adapter.parses, Expr.parses_opened]
      rfl
  | .alternative expr input => .of_forall fun fuel => (expr.parses_opened input fuel).symm
  | .noChoice input => .of_forall fun fuel => Rules.parses_first_nil
  | .choiceFails failed runs => by
      filter_upwards [failed.parses, runs.parses] with fuel alternative others
      rw [Expr.parses_opened] at alternative
      rw [Closure.parses, Rules.parses_first_cons, alternative, ← others]
      rfl
  | .choiceFinds found => by
      filter_upwards [found.parses] with fuel alternative
      rw [Expr.parses_opened] at alternative
      rw [Closure.parses, Rules.parses_first_cons, alternative]
      rfl
  | .repetition repeats => by
      obtain ⟨rounds, performed⟩ := repeats.performs
      -- The fuel also bounds the rounds.
      filter_upwards [performed, eventually_gt_atTop rounds] with fuel performs enough
      rw [Closure.parses, repetitionParses, lastFrontier_eq_ok_iff.mpr ⟨rounds, enough, performs⟩]
      exact Enumeration.map_ofList _ _
  | .optionFails failed => by
      filter_upwards [failed.parses] with fuel inner
      rw [Expr.parses_opened] at inner
      exact Rules.parses_opt_of_done inner
  | .optionFinds found => by
      filter_upwards [found.parses] with fuel inner
      rw [Expr.parses_opened] at inner
      have nonempty : rules.parses fuel _ _ ≠ .done := fun ended => nomatch inner.symm.trans ended
      rw [Closure.parses, Rules.parses_opt_of_ne_done nonempty, inner]
      rfl
  | .definition bound => by
      filter_upwards [eventually_gt_atTop 0] with fuel positive
      obtain ⟨fuel, rfl⟩ := Nat.exists_eq_add_one.mpr positive
      rw [Closure.parses, Rules.parses_rule_of_bound bound, Adapter.parses, Expr.parses_opened]

theorem Adapter.Collects.parses {adapter : Adapter} {parses : List Parse} :
    adapter.Collects rules parses → ∀ᶠ fuel in atTop,
      adapter.parses rules fuel = .ofList parses
  | .nil ended => ended.parses
  | .cons found collects => by
      filter_upwards [found.parses, collects.parses] with fuel first others
      rw [first, others]
      rfl

theorem Expr.Expands.expand {inner : Expr} {frontier next : List Branch} :
    inner.Expands rules frontier next → ∀ᶠ fuel in atTop,
      expand (rules.parses fuel inner) frontier = .ofList next
  | .nil _ => .of_forall fun _ => rfl
  | .cons collects expands => by
      filter_upwards [collects.parses, expands.expand] with fuel first others
      rw [Expr.parses_opened] at first
      refine Enumeration.append_eq_ofList_iff.mpr ⟨_, _, ?_, others, rfl⟩
      exact Enumeration.map_eq_ofList_iff.mpr ⟨_, first, rfl⟩

theorem Expr.Repeats.performs {inner : Expr} {frontier last : List Branch} :
    inner.Repeats rules frontier last → ∃ rounds, ∀ᶠ fuel in atTop,
      Performs (rules.parses fuel inner) frontier rounds last
  | .stop expands => by
      refine ⟨0, ?_⟩
      filter_upwards [expands.expand] with fuel expanded
      exact .stop expanded
  | .round expands repeats => by
      obtain ⟨rounds, performed⟩ := repeats.performs
      refine ⟨rounds + 1, ?_⟩
      filter_upwards [expands.expand, performed] with fuel expanded performs
      exact .round expanded performs

end

/-!
## What can be pulled
-/

/-- Pulls of the search find the items of the enumeration and its end, up to where it halts. -/
inductive Adapter.Follows (rules : Rules) : Adapter → Enumeration Parse → Prop where
  | done {search ended : Adapter} :
      search.Pulls rules none ended → Follows rules search .done
  | item {search after : Adapter} {parse : Parse} {tail : Unit → Enumeration Parse} :
      search.Pulls rules (some parse) after → Follows rules after (tail ()) →
      Follows rules search (.item parse tail)
  | halted (search : Adapter) (why : Halt) : Follows rules search (.halted why)

/-- Running the closure comes to an end with what follows the enumeration, unless that halts. -/
inductive Closure.Follows (rules : Rules) : Closure → Enumeration Parse → Prop where
  | runs {closure : Closure} {search : Adapter} {parses : Enumeration Parse} :
      closure.Runs rules search → search.Follows rules parses → Follows rules closure parses
  | halted (closure : Closure) (why : Halt) : Follows rules closure (.halted why)

/-- It is enough to look at the search that the closure ends with. -/
private theorem Closure.Follows.enter {closure : Closure} {search : Adapter}
    {parses : Enumeration Parse}
    {rest : Unit → Enumeration Parse} (follows : closure.Follows rules parses)
    (enters : ∀ next, closure.Runs rules next → next.Follows rules parses →
      search.Follows rules (parses.append rest)) :
    search.Follows rules (parses.append rest) := by
  cases follows with
  | runs runs further => exact enters _ runs further
  | halted => exact .halted _ _

namespace Adapter.Follows

variable {search other current source : Adapter} {parses sourceParses : Enumeration Parse}
  {onto : Parse → Closure} {results : Parse → Enumeration Parse}

private theorem cleared : Adapter.cleared.Follows rules .done := .done (.found none)

private theorem of_pulls (follows : other.Follows rules parses)
    (same : ∀ answer after, other.Pulls rules answer after → search.Pulls rules answer after) :
    search.Follows rules parses := by
  cases follows with
  | done ended => exact .done (same _ _ ended)
  | item found further => exact .item (same _ _ found) further
  | halted => exact .halted _ _

private theorem branches (list : List Parse) :
    (Adapter.branches list).Follows rules (.ofList list) := by
  induction list with
  | nil => exact .done .noBranch
  | cons parse rest ih => exact .item (.branch parse rest) ih

private theorem found (parse? : Option Parse) :
    (Adapter.found parse?).Follows rules (.ofOption parse?) := by
  cases parse? with
  | none => exact .cleared
  | some parse => exact .item (.found _) .cleared

private theorem flat {waiting : List Closure} {enumerate : Closure → Enumeration Parse}
    (each : ∀ closure ∈ waiting, closure.Follows rules (enumerate closure))
    (follows : current.Follows rules parses) :
    (Adapter.flat waiting current).Follows rules
      (parses.append fun _ => (Enumeration.ofList waiting).flatMap enumerate) := by
  induction waiting generalizing current parses with
  | nil =>
      induction follows with
      | done ended => exact .done (.flatEnd ended)
      | item found _ ih => exact .item (.flatItem found) ih
      | halted => exact .halted _ _
  | cons closure waiting waitingIH =>
      induction follows with
      | done ended =>
          obtain ⟨head, later⟩ := List.forall_mem_cons.mp each
          apply head.enter
          intro next runs further
          exact (waitingIH later further).of_pulls fun _ _ => .flatNext ended runs
      | item found _ ih => exact .item (.flatItem found) ih
      | halted => exact .halted _ _

private theorem chained (sources : source.Follows rules sourceParses)
    (each : ∀ parse, (onto parse).Follows rules (results parse))
    (follows : current.Follows rules parses) :
    (Adapter.chained source onto current).Follows rules
      (parses.append fun _ => sourceParses.flatMap results) := by
  induction sources generalizing current parses with
  | done sourceEnded =>
      induction follows with
      | done ended => exact .done (.chainedEnd ended sourceEnded)
      | item found _ ih => exact .item (.chainedItem found) ih
      | halted => exact .halted _ _
  | @item _ _ parse _ sourceFound _ sourceIH =>
      induction follows with
      | done ended =>
          apply (each parse).enter
          intro next runs further
          exact (sourceIH further).of_pulls fun _ _ => .chainedNext ended sourceFound runs
      | item found _ ih => exact .item (.chainedItem found) ih
      | halted => exact .halted _ _
  | halted =>
      induction follows with
      | done => exact .halted _ _
      | item found _ ih => exact .item (.chainedItem found) ih
      | halted => exact .halted _ _

private theorem unpeeked (follows : search.Follows rules parses) :
    (Adapter.peekable none search).Follows rules parses := by
  induction follows with
  | done ended => exact .done (.unpeeked ended)
  | item found _ ih => exact .item (.unpeeked found) ih
  | halted => exact .halted _ _

private theorem peeked {parse : Parse} {tail : Unit → Enumeration Parse}
    (follows : search.Follows rules (tail ())) :
    (Adapter.peekable (some parse) search).Follows rules (.item parse tail) :=
  .item (.peeked parse search) follows.unpeeked

private theorem mapped (transform : Parse → Parse) (follows : search.Follows rules parses) :
    (Adapter.mapped transform search).Follows rules (parses.map transform) := by
  induction follows with
  | done ended => exact .done (.mapped ended)
  | item found _ ih => exact .item (.mapped found) ih
  | halted => exact .halted _ _

private theorem filtered (follows : search.Follows rules parses) :
    (Adapter.filtered search).Follows rules (parses.filter fun parse => parse.rest.isEmpty) := by
  induction follows with
  | done ended => exact .done (.filteredEnd ended)
  | @item _ _ parse _ found _ ih =>
      rw [Enumeration.filter]
      cases complete : parse.rest.isEmpty with
      | true => exact .item (.filteredItem found complete) ih
      | false => exact ih.of_pulls fun _ _ => .filteredNext found complete
  | halted => exact .halted _ _

private theorem called (follows : search.Follows rules parses) :
    (Adapter.called search).Follows rules parses := by
  induction follows with
  | done ended => exact .done (.called ended)
  | item found _ ih => exact .item (.called found) ih
  | halted => exact .halted _ _

private theorem collects {list : List Parse} (follows : search.Follows rules (.ofList list)) :
    search.Collects rules list := by
  induction list generalizing search with
  | nil =>
      cases follows with
      | done ended => exact .nil ended
  | cons parse rest ih =>
      cases follows with
      | item found further => exact .cons found (ih further)

end Adapter.Follows

/-- A closure that is run at the first pull. -/
private theorem Closure.Follows.deferred {closure : Closure} {parses : Enumeration Parse}
    (follows : closure.Follows rules parses) :
    (Adapter.flat [closure] .cleared).Follows rules parses := by
  have whole : (Adapter.flat [closure] .cleared).Follows rules
      (Enumeration.done.append fun _ => (Enumeration.ofList [closure]).flatMap fun _ => parses) :=
    .flat (List.forall_mem_singleton.mpr follows) .cleared
  rw [Enumeration.append, Enumeration.ofList, Enumeration.flatMap] at whole
  exact Enumeration.append_done parses ▸ whole

section Repetition

variable {inner : Expr} {fuel : Nat}

private theorem Expr.expands_of_expand
    (inside : ∀ input, (inner.opened input).Follows rules (rules.parses fuel inner input))
    {frontier next : List Branch}
    (expanded : expand (rules.parses fuel inner) frontier = .ofList next) :
    inner.Expands rules frontier next := by
  induction frontier generalizing next with
  | nil =>
      obtain rfl := Enumeration.ofList_eq_done_iff.mp expanded.symm
      exact .nil inner
  | cons branch frontier ih =>
      obtain ⟨_, _, first, others, rfl⟩ := Enumeration.append_eq_ofList_iff.mp expanded
      obtain ⟨parses, ends, rfl⟩ := Enumeration.map_eq_ofList_iff.mp first
      have follows := inside branch.rest
      rw [ends] at follows
      exact .cons follows.collects (ih others)

private theorem Expr.repeats_of_performs
    (inside : ∀ input, (inner.opened input).Follows rules (rules.parses fuel inner input))
    {frontier last : List Branch} {rounds : Nat}
    (performs : Performs (rules.parses fuel inner) frontier rounds last) :
    inner.Repeats rules frontier last := by
  induction performs with
  | stop expanded => exact .stop (expands_of_expand inside expanded)
  | round expanded _ ih => exact .round (expands_of_expand inside expanded) ih

private theorem Closure.follows_repetition
    (inside : ∀ input, (inner.opened input).Follows rules (rules.parses fuel inner input))
    (before : List Value) (input : List Char) :
    (Closure.repetition before inner input).Follows rules
      (repetitionParses (rules.parses fuel inner) fuel before input) := by
  rw [repetitionParses]
  cases reached : lastFrontier (rules.parses fuel inner) fuel [⟨[], input⟩] with
  | error why => exact .halted _ _
  | ok last =>
      obtain ⟨_, _, performs⟩ := lastFrontier_eq_ok_iff.mp reached
      rw [Enumeration.ofExcept, Enumeration.map_ofList]
      exact .runs (.repetition (Expr.repeats_of_performs inside performs)) (.branches _)

end Repetition

private theorem Closure.follows_choice {alternatives : List Expr} {input : List Char} {fuel : Nat}
    (each : ∀ alternative ∈ alternatives,
      (alternative.opened input).Follows rules (rules.parses fuel alternative input)) :
    (Closure.choice alternatives input).Follows rules
      (rules.parses fuel (.first alternatives) input) := by
  induction alternatives with
  | nil =>
      rw [Rules.parses_first_nil]
      exact .runs (.noChoice input) .cleared
  | cons alternative others ih =>
      obtain ⟨head, later⟩ := List.forall_mem_cons.mp each
      have othersFollow := ih later
      rw [Rules.parses_first_cons]
      generalize rules.parses fuel alternative input = parses at head
      generalize rules.parses fuel (.first others) input = otherParses at othersFollow
      cases head with
      | done failed =>
          cases othersFollow with
          | runs runs further => exact .runs (.choiceFails failed runs) further
          | halted => exact .halted _ _
      | item found further => exact .runs (.choiceFinds found) further.peeked
      | halted => exact .halted _ _

private theorem Closure.follows_optional {inner : Expr} {input : List Char} {fuel : Nat}
    (inside : (inner.opened input).Follows rules (rules.parses fuel inner input)) :
    (Closure.optional inner input).Follows rules (rules.parses fuel (.opt inner) input) := by
  rw [Rules.parses_opt]
  generalize rules.parses fuel inner input = parses at inside
  cases inside with
  | done failed => exact .runs (.optionFails failed) (.found (some _))
  | item found further => exact .runs (.optionFinds found) (further.peeked.mapped Rules.present)
  | halted => exact .halted _ _

namespace Expr

/-- The search follows the parses if that holds of the definitions of the rules. -/
private theorem follows_opened_of_calls {fuel : Nat}
    (calls : ∀ name input, (Closure.definition name input).Follows rules
      (rules.parses fuel (.rule name) input)) (expr : Expr) (input : List Char) :
    (expr.opened input).Follows rules (rules.parses fuel expr input) := by
  induction expr generalizing input with
  | literal | regex | oneOf | noneOf =>
      rw [Rules.parses, parsesWith]
      exact .found _
  | seq left right leftIH rightIH =>
      rw [Rules.parses_seq]
      apply Adapter.Follows.chained (leftIH input) _ .cleared
      exact fun first => .runs (.second first right) ((rightIH first.rest).mapped _)
  | union alternatives ih =>
      rw [← parses_opened]
      apply Adapter.Follows.flat _ .cleared
      intro closure member
      obtain ⟨alternative, inside, rfl⟩ := List.mem_map.mp member
      exact .runs (.alternative alternative input) (ih alternative inside input)
  | first alternatives ih =>
      exact (Closure.follows_choice fun alternative member => ih alternative member input).deferred
  | many inner ih =>
      rw [Rules.parses_many]
      exact (Closure.follows_repetition ih [] input).deferred
  | many1 inner ih =>
      rw [Rules.parses_many1]
      apply Adapter.Follows.chained (ih input) _ .cleared
      exact fun head => Closure.follows_repetition ih [head.value] head.rest
  | opt inner ih => exact (Closure.follows_optional (ih input)).deferred
  | map inner transform ih =>
      rw [Rules.parses_map]
      exact (ih input).mapped _
  | full inner ih =>
      rw [Rules.parses_full]
      exact (ih input).filtered
  | rule name => exact (calls name input).deferred

/-- The search for the parses of an input follows them, whatever the fuel. -/
theorem follows_opened (fuel : Nat) (expr : Expr) (input : List Char) :
    (expr.opened input).Follows rules (rules.parses fuel expr input) := by
  induction fuel generalizing expr input with
  | zero =>
      apply follows_opened_of_calls
      intro name input
      exact .halted _ _
  | succ fuel ih =>
      apply follows_opened_of_calls
      intro name input
      cases bound : rules.get? name with
      | some definition =>
          rw [Rules.parses_rule_of_bound bound]
          exact .runs (.definition bound) (ih definition input).called
      | none =>
          rw [Rules.parses, parsesWith, Rules.call, bound]
          exact .halted _ _

end Expr

end LazyGrammar
