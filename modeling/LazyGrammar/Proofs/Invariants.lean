import LazyGrammar.Expr.Parses

/-!
# Invariants of enumerations

A property of all items of an enumeration, and one of the halt if it meets one.
Every operation carries such properties from its arguments to its result, and they
hold of whatever is pulled.
-/

set_option autoImplicit false

namespace LazyGrammar

namespace Enumeration

variable {α β : Type}

/-- Every item has one property, and a halt at the end another. -/
inductive All (onItem : α → Prop) (onHalt : Halt → Prop) : Enumeration α → Prop where
  | done : All onItem onHalt .done
  | item {a : α} {tail : Unit → Enumeration α} :
      onItem a → All onItem onHalt (tail ()) → All onItem onHalt (.item a tail)
  | halted {why : Halt} : onHalt why → All onItem onHalt (.halted why)

namespace All

variable {onItem : α → Prop} {onResult : β → Prop} {onHalt : Halt → Prop}

theorem mono {onOther : α → Prop} {onOtherHalt : Halt → Prop} {items : Enumeration α}
    (all : items.All onItem onHalt) (items_imp : ∀ a, onItem a → onOther a)
    (halt_imp : ∀ why, onHalt why → onOtherHalt why) : items.All onOther onOtherHalt := by
  induction all with
  | done => exact .done
  | item head _ ih => exact .item (items_imp _ head) ih
  | halted reason => exact .halted (halt_imp _ reason)

theorem ofList {items : List α} (all : ∀ a ∈ items, onItem a) :
    (Enumeration.ofList items).All onItem onHalt := by
  induction items with
  | nil => exact .done
  | cons a rest ih =>
      obtain ⟨head, tail⟩ := List.forall_mem_cons.mp all
      exact .item head (ih tail)

theorem ofOption {found : Option α} (all : ∀ a ∈ found, onItem a) :
    (Enumeration.ofOption found).All onItem onHalt := by
  cases found with
  | none => exact .done
  | some a => exact .item (all a rfl) .done

theorem append {first : Enumeration α} {second : Unit → Enumeration α}
    (inFirst : first.All onItem onHalt) (inSecond : (second ()).All onItem onHalt) :
    (first.append second).All onItem onHalt := by
  induction inFirst with
  | done => exact inSecond
  | item head _ ih => exact .item head ih
  | halted reason => exact .halted reason

theorem map {source : Enumeration α} {f : α → β} (all : source.All onItem onHalt)
    (results : ∀ a, onItem a → onResult (f a)) : (source.map f).All onResult onHalt := by
  induction all with
  | done => exact .done
  | item head _ ih => exact .item (results _ head) ih
  | halted reason => exact .halted reason

theorem flatMap {source : Enumeration α} {f : α → Enumeration β} (all : source.All onItem onHalt)
    (results : ∀ a, onItem a → (f a).All onResult onHalt) :
    (source.flatMap f).All onResult onHalt := by
  induction all with
  | done => exact .done
  | item head _ ih => exact .append (results _ head) ih
  | halted reason => exact .halted reason

theorem filterMap {source : Enumeration α} {f : α → Option β} (all : source.All onItem onHalt)
    (results : ∀ a b, onItem a → f a = some b → onResult b) :
    (source.filterMap f).All onResult onHalt := by
  induction all with
  | done => exact .done
  | @item a tail head _ ih =>
      rw [Enumeration.filterMap]
      split
      next b found => exact .item (results a b head found) ih
      next => exact ih
  | halted reason => exact .halted reason

theorem filter {onPassing : α → Prop} {source : Enumeration α} {test : α → Bool}
    (all : source.All onItem onHalt) (results : ∀ a, onItem a → test a = true → onPassing a) :
    (source.filter test).All onPassing onHalt := by
  induction all with
  | done => exact .done
  | item head _ ih =>
      rw [Enumeration.filter]
      split
      next passes => exact .item (results _ head passes) ih
      next => exact ih
  | halted reason => exact .halted reason

theorem collect_ok {source : Enumeration α} {items : List α} (all : source.All onItem onHalt)
    (collected : source.collect = .ok items) : ∀ a ∈ items, onItem a := by
  induction all generalizing items with
  | done =>
      cases collected
      exact nofun
  | item head _ ih =>
      rw [collect] at collected
      split at collected
      next rest ended =>
        cases collected
        exact List.forall_mem_cons.mpr ⟨head, ih ended⟩
      next => cases collected
  | halted reason => cases collected

private theorem collect_error {source : Enumeration α} {why : Halt} (all : source.All onItem onHalt)
    (collected : source.collect = .error why) : onHalt why := by
  induction all with
  | done => cases collected
  | item head _ ih =>
      rw [collect] at collected
      split at collected
      next => cases collected
      next met =>
        cases collected
        exact ih met
  | halted reason =>
      cases collected
      exact reason

end All

end Enumeration

/-!
## Repetitions
-/

section Repetition

variable {step : List Char → Enumeration Parse} {onHalt : Halt → Prop} {onBranch : Branch → Prop}

/-- A property of branches that a round keeps is one of the last branches. -/
private theorem lastFrontier_invariant (fuelHalts : onHalt .outOfFuel)
    (kept : ∀ branch, onBranch branch → (step branch.rest).All
      (fun parse => onBranch ⟨parse.value :: branch.values, parse.rest⟩) onHalt)
    {frontier : List Branch} (all : ∀ branch ∈ frontier, onBranch branch) (rounds : Nat) :
    (∀ last, lastFrontier step rounds frontier = .ok last → ∀ branch ∈ last, onBranch branch) ∧
      ∀ why, lastFrontier step rounds frontier = .error why → onHalt why := by
  induction rounds generalizing frontier with
  | zero =>
      refine ⟨fun last reached => ?_, fun why met => ?_⟩
      · cases reached
      · cases met
        exact fuelHalts
  | succ rounds ih =>
      have expanded : (expand step frontier).All onBranch onHalt :=
        .flatMap (.ofList all) fun branch good => .map (kept branch good) fun _ next => next
      rw [lastFrontier]
      split
      next =>
        refine ⟨fun last reached => ?_, fun why met => ?_⟩
        · cases reached
          exact all
        · cases met
      next branch others collected => exact ih (expanded.collect_ok collected)
      next reason collected =>
        refine ⟨fun last reached => ?_, fun why met => ?_⟩
        · cases reached
        · cases met
          exact expanded.collect_error collected

theorem repetitionParses_invariant {onParse : Parse → Prop} (fuelHalts : onHalt .outOfFuel)
    (kept : ∀ branch, onBranch branch → (step branch.rest).All
      (fun parse => onBranch ⟨parse.value :: branch.values, parse.rest⟩) onHalt)
    {rounds : Nat} {before : List Value} {input : List Char} (start : onBranch ⟨[], input⟩)
    (results : ∀ branch, onBranch branch → onParse (branch.parse before)) :
    (repetitionParses step rounds before input).All onParse onHalt := by
  have all : ∀ branch ∈ [(⟨[], input⟩ : Branch)], onBranch branch := by
    intro branch member
    cases List.mem_singleton.mp member
    exact start
  obtain ⟨onLast, onError⟩ := lastFrontier_invariant fuelHalts kept all rounds
  rw [repetitionParses]
  refine .map ?_ results
  cases loop : lastFrontier step rounds [⟨[], input⟩] with
  | ok last => exact .ofList (onLast last loop)
  | error why => exact .halted (onError why loop)

/-- A repetition halts only where what is repeated does, or for lack of fuel. -/
theorem repetitionParses_halts (fuelHalts : onHalt .outOfFuel)
    (halts : ∀ input, (step input).All (fun _ => True) onHalt) {rounds : Nat}
    {before : List Value} {input : List Char} :
    (repetitionParses step rounds before input).All (fun _ => True) onHalt := by
  have kept : ∀ branch : Branch, True → (step branch.rest).All (fun _ => True) onHalt :=
    fun branch _ => halts branch.rest
  exact repetitionParses_invariant fuelHalts kept trivial fun _ _ => trivial

end Repetition

namespace Cursor

variable {α : Type} {onItem : α → Prop} {onHalt : Halt → Prop}

/-- What holds of an enumeration holds of whatever is pulled, no matter how often. -/
theorem pullUpTo_invariant {cursor : Cursor α} (all : (cursor.resume ()).All onItem onHalt)
    (limit : Nat) :
    (∀ a ∈ (cursor.pullUpTo limit).1, onItem a) ∧
      ∀ why, (cursor.pullUpTo limit).2 = .halted why → onHalt why := by
  induction limit generalizing cursor with
  | zero => exact ⟨nofun, nofun⟩
  | succ limit ih =>
      rw [pullUpTo, pull]
      cases found : cursor.resume () with
      | done => exact ⟨nofun, nofun⟩
      | item a tail =>
          rw [found] at all
          cases all with
          | item head rest =>
              obtain ⟨onItems, onStop⟩ := @ih ⟨tail⟩ rest
              exact ⟨List.forall_mem_cons.mpr ⟨head, onItems⟩, onStop⟩
      | halted reason =>
          rw [found] at all
          cases all with
          | halted good =>
              refine ⟨nofun, fun why stopped => ?_⟩
              cases stopped
              exact good

theorem pull_invariant {cursor : Cursor α} (all : (cursor.resume ()).All onItem onHalt) :
    (∀ a, cursor.pull.1 = .item a → onItem a) ∧
      ∀ why, cursor.pull.1 = .halted why → onHalt why := by
  rw [pull]
  cases found : cursor.resume () with
  | done => exact ⟨nofun, nofun⟩
  | item b tail =>
      rw [found] at all
      cases all with
      | item head _ =>
          refine ⟨fun a pulled => ?_, nofun⟩
          cases pulled
          exact head
  | halted reason =>
      rw [found] at all
      cases all with
      | halted good =>
          refine ⟨nofun, fun why pulled => ?_⟩
          cases pulled
          exact good

end Cursor

end LazyGrammar
