import LazyGrammar.Expr.Parses
import LazyGrammar.Proofs.Ending
import LazyGrammar.Proofs.Expr.Parts
import Mathlib.Data.List.Forall2

/-!
# Approximation

One enumeration approximates another if the other goes on as the first does, until
the first runs out of fuel. All operations carry this from their arguments to their
results. So a run with more fuel, or with calls of rules that get further, repeats
every answer that was found, and only adds to them where there was none.
-/

set_option autoImplicit false

namespace LazyGrammar

namespace Enumeration

variable {α β γ δ : Type}

/-- Items correspond one by one, and only a lack of fuel may be made up for. -/
inductive Approximates (related : α → β → Prop) : Enumeration α → Enumeration β → Prop where
  | done : Approximates related .done .done
  | item {a : α} {b : β} {tail : Unit → Enumeration α} {other : Unit → Enumeration β} :
      related a b → Approximates related (tail ()) (other ()) →
      Approximates related (.item a tail) (.item b other)
  | halted {why : Halt} : Approximates related (.halted why) (.halted why)
  | outOfFuel {further : Enumeration β} : Approximates related (.halted .outOfFuel) further

namespace Approximates

variable {related : α → β → Prop} {onResults : γ → δ → Prop}

theorem refl (items : Enumeration α) : items.Approximates Eq items := by
  induction items with
  | done => exact .done
  | item a tail ih => exact .item rfl (ih ())
  | halted why => exact .halted

theorem mono {onOthers : α → β → Prop} {source : Enumeration α} {other : Enumeration β}
    (sources : source.Approximates related other) (imp : ∀ a b, related a b → onOthers a b) :
    source.Approximates onOthers other := by
  induction sources with
  | done => exact .done
  | item head _ ih => exact .item (imp _ _ head) ih
  | halted => exact .halted
  | outOfFuel => exact .outOfFuel

theorem ofList {items : List α} {others : List β} (alike : List.Forall₂ related items others) :
    (Enumeration.ofList items).Approximates related (Enumeration.ofList others) := by
  induction alike with
  | nil => exact .done
  | cons head _ ih => exact .item head ih

theorem trans {first second third : Enumeration α} (before : first.Approximates Eq second)
    (after : second.Approximates Eq third) : first.Approximates Eq third := by
  induction before generalizing third with
  | done => exact after
  | item same _ ih =>
      cases after with
      | item sameAgain further => exact .item (same.trans sameAgain) (ih further)
  | halted => exact after
  | outOfFuel => exact .outOfFuel

/-- Nothing is added to an enumeration that ends. -/
theorem eq_of_ofList {items : List α} {other : Enumeration α}
    (approximates : (Enumeration.ofList items).Approximates Eq other) :
    other = Enumeration.ofList items := by
  induction items generalizing other with
  | nil =>
      cases approximates
      rfl
  | cons a rest ih =>
      cases approximates with
      | item same further =>
          subst same
          exact congrArg (Enumeration.item a) (funext fun _ => ih further)

theorem isPrefix_toList {source other : Enumeration α} (sources : source.Approximates Eq other) :
    source.toList <+: other.toList := by
  induction sources with
  | done => exact List.prefix_refl _
  | item same _ ih =>
      subst same
      exact (List.prefix_cons_inj _).mpr ih
  | halted | outOfFuel => exact List.nil_prefix

theorem append {first : Enumeration α} {other : Enumeration β} {second : Unit → Enumeration α}
    {otherSecond : Unit → Enumeration β} (firsts : first.Approximates related other)
    (seconds : (second ()).Approximates related (otherSecond ())) :
    (first.append second).Approximates related (other.append otherSecond) := by
  induction firsts with
  | done => exact seconds
  | item head _ ih => exact .item head ih
  | halted => exact .halted
  | outOfFuel => exact .outOfFuel

theorem map {source : Enumeration α} {other : Enumeration β} {f : α → γ} {g : β → δ}
    (sources : source.Approximates related other)
    (results : ∀ a b, related a b → onResults (f a) (g b)) :
    (source.map f).Approximates onResults (other.map g) := by
  induction sources with
  | done => exact .done
  | item head _ ih => exact .item (results _ _ head) ih
  | halted => exact .halted
  | outOfFuel => exact .outOfFuel

theorem flatMap {source : Enumeration α} {other : Enumeration β} {f : α → Enumeration γ}
    {g : β → Enumeration δ} (sources : source.Approximates related other)
    (results : ∀ a b, related a b → (f a).Approximates onResults (g b)) :
    (source.flatMap f).Approximates onResults (other.flatMap g) := by
  induction sources with
  | done => exact .done
  | item head _ ih => exact .append (results _ _ head) ih
  | halted => exact .halted
  | outOfFuel => exact .outOfFuel

theorem filter {source : Enumeration α} {other : Enumeration β} {test : α → Bool}
    {otherTest : β → Bool} (sources : source.Approximates related other)
    (same : ∀ a b, related a b → test a = otherTest b) :
    (source.filter test).Approximates related (other.filter otherTest) := by
  induction sources with
  | done => exact .done
  | @item a b _ _ head _ ih =>
      rw [Enumeration.filter, Enumeration.filter, same a b head]
      split
      · exact .item head ih
      · exact ih
  | halted => exact .halted
  | outOfFuel => exact .outOfFuel

/-- Collecting runs out of fuel, or meets the same halt, or finds lists that correspond. -/
private theorem collect_cases {source : Enumeration α} {other : Enumeration β}
    (sources : source.Approximates related other) :
    source.collect = .error .outOfFuel ∨
      (∃ why, source.collect = .error why ∧ other.collect = .error why) ∨
      ∃ items others, source.collect = .ok items ∧ other.collect = .ok others ∧
        List.Forall₂ related items others := by
  induction sources with
  | done => exact .inr (.inr ⟨[], [], rfl, rfl, .nil⟩)
  | @item a b _ _ head _ ih =>
      simp only [collect]
      rcases ih with out | ⟨why, met, otherMet⟩ | ⟨items, others, found, otherFound, alike⟩
      · rw [out]
        exact .inl rfl
      · rw [met, otherMet]
        exact .inr (.inl ⟨why, rfl, rfl⟩)
      · rw [found, otherFound]
        exact .inr (.inr ⟨a :: items, b :: others, rfl, rfl, .cons head alike⟩)
  | @halted why => exact .inr (.inl ⟨why, rfl, rfl⟩)
  | outOfFuel => exact .inl rfl

end Approximates

end Enumeration

/-!
## Repetitions
-/

section Repetition

variable {step other : List Char → Enumeration Parse} {related : Branch → Branch → Prop}

private theorem lastFrontier_approximates
    (kept : ∀ branch twin, related branch twin → (step branch.rest).Approximates
      (fun parse found => related ⟨parse.value :: branch.values, parse.rest⟩
        ⟨found.value :: twin.values, found.rest⟩) (other twin.rest))
    {frontier twins : List Branch} (alike : List.Forall₂ related frontier twins)
    {rounds more : Nat} (le : rounds ≤ more) :
    (Enumeration.ofExcept (lastFrontier step rounds frontier)).Approximates related
      (Enumeration.ofExcept (lastFrontier other more twins)) := by
  induction rounds generalizing more frontier twins with
  | zero => exact .outOfFuel
  | succ rounds ih =>
      obtain ⟨more, rfl⟩ := Nat.exists_eq_add_one.mpr (Nat.zero_lt_of_lt le)
      have expanded : (expand step frontier).Approximates related (expand other twins) :=
        .flatMap (.ofList alike) fun branch twin same =>
          .map (kept branch twin same) fun _ _ next => next
      rw [lastFrontier, lastFrontier]
      rcases expanded.collect_cases with
        out | ⟨why, met, otherMet⟩ | ⟨items, others, found, otherFound, next⟩
      · rw [out]
        exact .outOfFuel
      · rw [met, otherMet]
        exact .halted
      · rw [found, otherFound]
        cases next with
        | nil => exact .ofList alike
        | cons head rest => exact ih (.cons head rest) (Nat.le_of_succ_le_succ le)

private theorem repetitionParses_approximates {onParses : Parse → Parse → Prop}
    (kept : ∀ branch twin, related branch twin → (step branch.rest).Approximates
      (fun parse found => related ⟨parse.value :: branch.values, parse.rest⟩
        ⟨found.value :: twin.values, found.rest⟩) (other twin.rest))
    {rounds more : Nat} (le : rounds ≤ more) {before otherBefore : List Value}
    {input otherInput : List Char} (start : related ⟨[], input⟩ ⟨[], otherInput⟩)
    (results : ∀ branch twin, related branch twin →
      onParses (branch.parse before) (twin.parse otherBefore)) :
    (repetitionParses step rounds before input).Approximates onParses
      (repetitionParses other more otherBefore otherInput) :=
  .map (lastFrontier_approximates kept (.cons start .nil) le) results

theorem repetitionParses_approximates_self
    (steps : ∀ input, (step input).Approximates Eq (other input)) {rounds more : Nat}
    (le : rounds ≤ more) (before : List Value) (input : List Char) :
    (repetitionParses step rounds before input).Approximates Eq
      (repetitionParses other more before input) := by
  refine repetitionParses_approximates (fun branch _ same => ?_) le rfl fun _ _ same => by rw [same]
  subst same
  exact (steps branch.rest).mono fun _ _ next => by rw [next]

end Repetition

/-!
## Expressions and rules
-/

namespace Expr

variable {rounds more : Nat} {call other : String → List Char → Enumeration Parse}

private theorem firstParses_approximates {alternatives twins : List Expr} {input : List Char}
    (each : List.Forall₂ (fun alternative twin =>
      (alternative.parsesWith rounds call input).Approximates Eq
        (twin.parsesWith more other input)) alternatives twins) :
    (firstParses rounds call alternatives input).Approximates Eq
      (firstParses more other twins input) := by
  induction each with
  | nil =>
      rw [firstParses, firstParses]
      exact .done
  | @cons alternative twin _ _ head _ ih =>
      rw [firstParses, firstParses]
      generalize alternative.parsesWith rounds call input = found at head
      generalize twin.parsesWith more other input = further at head
      cases head with
      | done => exact ih
      | item head rest => exact .item head rest
      | halted => exact .halted
      | outOfFuel => exact .outOfFuel

/-- It is enough that the calls of rules and the changed parts get further. -/
theorem SameButFor.approximates {changes : Expr → Expr → Prop} (le : rounds ≤ more)
    (calls : ∀ name input, (call name input).Approximates Eq (other name input))
    (changed : ∀ part twin, changes part twin → ∀ input,
      (part.parsesWith rounds call input).Approximates Eq (twin.parsesWith more other input))
    {expr twin : Expr} (same : expr.SameButFor changes twin) (input : List Char) :
    (expr.parsesWith rounds call input).Approximates Eq (twin.parsesWith more other input) := by
  induction same generalizing input with
  | change change => exact changed _ _ change input
  | literal | regex | oneOf | noneOf =>
      rw [parsesWith, parsesWith]
      exact .refl _
  | seq _ _ leftIH rightIH =>
      rw [parsesWith, parsesWith]
      refine (leftIH input).flatMap fun first _ same => ?_
      subst same
      exact (rightIH first.rest).map fun second _ same => by rw [same]
  | union lengths _ ih =>
      rw [parsesWith, parsesWith, unionParses_eq_flatMap, unionParses_eq_flatMap]
      have pairs := List.forall₂_iff_zip.mpr ⟨lengths, ih⟩
      exact .flatMap (.ofList pairs) fun _ _ each => each input
  | first lengths _ ih =>
      rw [parsesWith, parsesWith]
      exact firstParses_approximates
        (List.forall₂_iff_zip.mpr ⟨lengths, fun paired => ih paired input⟩)
  | many _ ih =>
      rw [parsesWith, parsesWith]
      exact repetitionParses_approximates_self ih le [] input
  | many1 _ ih =>
      rw [parsesWith, parsesWith]
      refine (ih input).flatMap fun head _ same => ?_
      subst same
      exact repetitionParses_approximates_self ih le [head.value] head.rest
  | @opt inner twin _ ih =>
      have inside := ih input
      rw [parsesWith, parsesWith]
      generalize inner.parsesWith rounds call input = found at inside
      generalize twin.parsesWith more other input = further at inside
      cases inside with
      | done => exact .refl _
      | item head rest =>
          exact (Enumeration.Approximates.item head rest).map fun _ _ same => by rw [same]
      | halted => exact .halted
      | outOfFuel => exact .outOfFuel
  | map _ ih =>
      rw [parsesWith, parsesWith]
      exact (ih input).map fun _ _ same => by rw [same]
  | full _ ih =>
      rw [parsesWith, parsesWith]
      exact (ih input).filter fun _ _ same => by rw [same]
  | rule =>
      rw [parsesWith, parsesWith]
      exact calls _ input

theorem parsesWith_approximates (le : rounds ≤ more)
    (calls : ∀ name input, (call name input).Approximates Eq (other name input)) (expr : Expr)
    (input : List Char) :
    (expr.parsesWith rounds call input).Approximates Eq (expr.parsesWith more other input) := by
  have unchanged : expr.SameButFor (fun _ _ => False) expr := .refl expr
  exact unchanged.approximates le calls (fun _ _ changed => changed.elim) input

end Expr

namespace Rules

/-- The rules need not be the same where a rule is nothing but a reference to itself. -/
private theorem call_approximates {rules other : Rules}
    (agree : ∀ name, rules.get? name = some (.rule name) ∨ rules.get? name = other.get? name)
    {fuel more : Nat} (le : fuel ≤ more) (name : String) (input : List Char) :
    (rules.call fuel name input).Approximates Eq (other.call more name input) := by
  induction fuel generalizing more name input with
  | zero => exact .outOfFuel
  | succ fuel ih =>
      obtain ⟨more, rfl⟩ := Nat.exists_eq_add_one.mpr (Nat.zero_lt_of_lt le)
      have less := Nat.le_of_succ_le_succ le
      rw [call]
      rcases agree name with itself | same
      · -- The call goes on with the same call, with less fuel.
        rw [itself]
        exact ih (Nat.le_succ_of_le less) name input
      · rw [call, same]
        cases other.get? name with
        | none => exact .halted
        | some definition => exact Expr.parsesWith_approximates less (ih less) definition input

theorem parses_approximates {rules other : Rules}
    (agree : ∀ name, rules.get? name = some (.rule name) ∨ rules.get? name = other.get? name)
    {fuel more : Nat} (le : fuel ≤ more) (expr : Expr) (input : List Char) :
    (rules.parses fuel expr input).Approximates Eq (other.parses more expr input) :=
  Expr.parsesWith_approximates le (call_approximates agree le) expr input

theorem parses_approximates_self (rules : Rules) {fuel more : Nat} (le : fuel ≤ more) (expr : Expr)
    (input : List Char) :
    (rules.parses fuel expr input).Approximates Eq (rules.parses more expr input) :=
  parses_approximates (fun _ => .inr rfl) le expr input

/-- An end that was reached is reached with more fuel, after the same parses. -/
theorem runsOut_of_le {rules : Rules} {fuel more : Nat} (le : fuel ≤ more) {expr : Expr}
    {input : List Char} {items : List Parse}
    (runsOut : (rules.cursor fuel expr input).RunsOut items) :
    (rules.cursor more expr input).RunsOut items := by
  have ends := Cursor.runsOut_iff.mp runsOut
  have further := rules.parses_approximates_self le expr input
  rw [show rules.parses fuel expr input = _ from ends] at further
  exact Cursor.runsOut_iff.mpr further.eq_of_ofList

/-- However much fuel it takes to come to an end, it is the same one. -/
theorem runsOut_unique {rules : Rules} {fuel more : Nat} {expr : Expr} {input : List Char}
    {items others : List Parse} (runsOut : (rules.cursor fuel expr input).RunsOut items)
    (again : (rules.cursor more expr input).RunsOut others) : items = others :=
  (runsOut_of_le (Nat.le_max_left fuel more) runsOut).unique
    (runsOut_of_le (Nat.le_max_right fuel more) again)

end Rules

/-!
## Pulls
-/

namespace Cursor

variable {α β : Type} {related : α → β → Prop}

/-- All of the first pulls find an item or the end. -/
def Answers (cursor : Cursor α) (limit : Nat) : Prop :=
  ∀ why, (cursor.pullUpTo limit).2 ≠ .halted why

theorem RunsOut.answers {cursor : Cursor α} {items : List α} (runsOut : cursor.RunsOut items)
    (limit : Nat) : cursor.Answers limit := by
  intro why halted
  induction runsOut generalizing limit with
  | exhausted pulled =>
      cases limit with
      | zero => cases halted
      | succ limit =>
          rw [pullUpTo, pulled] at halted
          cases halted
  | item pulled _ ih =>
      cases limit with
      | zero => cases halted
      | succ limit =>
          rw [pullUpTo, pulled] at halted
          exact ih limit halted

theorem pullUpTo_approximates {cursor : Cursor α} {other : Cursor β}
    (approximates : (cursor.resume ()).Approximates related (other.resume ())) {limit : Nat}
    (answers : cursor.Answers limit) :
    List.Forall₂ related (cursor.pullUpTo limit).1 (other.pullUpTo limit).1 ∧
      (cursor.pullUpTo limit).2 = (other.pullUpTo limit).2 := by
  induction limit generalizing cursor other with
  | zero => exact ⟨.nil, rfl⟩
  | succ limit ih =>
      rw [Answers] at answers
      rw [pullUpTo, pull] at answers ⊢
      rw [pullUpTo, pull]
      generalize cursor.resume () = found at approximates answers
      generalize other.resume () = further at approximates
      cases approximates with
      | done => exact ⟨.nil, rfl⟩
      | @item a b tail otherTail head rest =>
          obtain ⟨items, stop⟩ := @ih ⟨tail⟩ ⟨otherTail⟩ rest answers
          exact ⟨.cons head items, stop⟩
      | @halted why => exact (answers why rfl).elim
      | outOfFuel => exact (answers .outOfFuel rfl).elim

theorem pullUpTo_eq_of_approximates {cursor other : Cursor α}
    (approximates : (cursor.resume ()).Approximates Eq (other.resume ())) {limit : Nat}
    (answers : cursor.Answers limit) : other.pullUpTo limit = cursor.pullUpTo limit := by
  obtain ⟨items, stop⟩ := pullUpTo_approximates approximates answers
  exact Prod.ext (List.forall₂_eq_eq_eq ▸ items : _ = _).symm stop.symm

end Cursor

end LazyGrammar
