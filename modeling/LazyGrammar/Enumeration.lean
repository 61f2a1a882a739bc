/-!
# Lazy enumerations

Results that are computed one after the other and only as far as they are asked
for. An enumeration ends, or it yields an item and says how to go on, or it halts:
it was not allowed enough steps to find out what comes next, or it met a rule that
is not bound. The tail of an item is not computed before it is asked for.

The operations are those of lists. What comes after a halt is never computed, so
every operation halts where its argument does.
-/

set_option autoImplicit false

namespace LazyGrammar

inductive Halt where
  | outOfFuel
  | unbound (name : String)
  deriving DecidableEq

/-- A lazy list that may halt. -/
inductive Enumeration (α : Type) where
  | done
  | item (head : α) (tail : Unit → Enumeration α)
  | halted (why : Halt)

namespace Enumeration

variable {α β γ : Type}

instance : Inhabited (Enumeration α) := ⟨.done⟩

def single (a : α) : Enumeration α := .item a fun _ => .done

def ofOption : Option α → Enumeration α
  | none => .done
  | some a => single a

def ofList : List α → Enumeration α
  | [] => .done
  | a :: rest => .item a fun _ => ofList rest

/-- The items of one enumeration and, once it has ended, those of another. -/
def append : Enumeration α → (Unit → Enumeration α) → Enumeration α
  | .done, second => second ()
  | .item a tail, second => .item a fun _ => append (tail ()) second
  | .halted why, _ => .halted why

def map (f : α → β) : Enumeration α → Enumeration β
  | .done => .done
  | .item a tail => .item (f a) fun _ => map f (tail ())
  | .halted why => .halted why

def flatMap : Enumeration α → (α → Enumeration β) → Enumeration β
  | .done, _ => .done
  | .item a tail, f => append (f a) fun _ => flatMap (tail ()) f
  | .halted why, _ => .halted why

def filterMap (f : α → Option β) : Enumeration α → Enumeration β
  | .done => .done
  | .item a tail =>
      match f a with
      | some b => .item b fun _ => filterMap f (tail ())
      | none => filterMap f (tail ())
  | .halted why => .halted why

def filter (test : α → Bool) : Enumeration α → Enumeration α
  | .done => .done
  | .item a tail =>
      if test a then .item a fun _ => filter test (tail ())
      else filter test (tail ())
  | .halted why => .halted why

/-- All items, if the enumeration ends. -/
def collect : Enumeration α → Except Halt (List α)
  | .done => .ok []
  | .item a tail =>
      match collect (tail ()) with
      | .ok rest => .ok (a :: rest)
      | .error why => .error why
  | .halted why => .error why

def ofExcept : Except Halt (List α) → Enumeration α
  | .ok items => ofList items
  | .error why => .halted why

/-!
## Laws
-/

theorem append_done (first : Enumeration α) : first.append (fun _ => .done) = first := by
  induction first with
  | done => rfl
  | item a tail ih => exact congrArg (item a) (funext fun u => ih u)
  | halted => rfl

theorem append_assoc (first : Enumeration α) (second third : Unit → Enumeration α) :
    (first.append second).append third = first.append fun u => (second u).append third := by
  induction first with
  | done => rfl
  | item a tail ih => exact congrArg (item a) (funext fun u => ih u)
  | halted => rfl

theorem map_append (f : α → β) (first : Enumeration α) (second : Unit → Enumeration α) :
    (first.append second).map f = (first.map f).append fun u => (second u).map f := by
  induction first with
  | done => rfl
  | item a tail ih => exact congrArg (item (f a)) (funext fun u => ih u)
  | halted => rfl

theorem map_map (f : α → β) (g : β → γ) (items : Enumeration α) :
    (items.map f).map g = items.map fun a => g (f a) := by
  induction items with
  | done => rfl
  | item a tail ih => exact congrArg (item (g (f a))) (funext fun u => ih u)
  | halted => rfl

theorem flatMap_append (first : Enumeration α) (second : Unit → Enumeration α)
    (f : α → Enumeration β) :
    (first.append second).flatMap f = (first.flatMap f).append fun u => (second u).flatMap f := by
  induction first with
  | done => rfl
  | item a tail ih =>
      simp only [append, flatMap, append_assoc]
      exact congrArg (append (f a)) (funext fun u => ih u)
  | halted => rfl

theorem flatMap_assoc (items : Enumeration α) (f : α → Enumeration β) (g : β → Enumeration γ) :
    (items.flatMap f).flatMap g = items.flatMap fun a => (f a).flatMap g := by
  induction items with
  | done => rfl
  | item a tail ih =>
      simp only [flatMap, flatMap_append]
      exact congrArg (append ((f a).flatMap g)) (funext fun u => ih u)
  | halted => rfl

theorem map_flatMap (f : α → Enumeration β) (g : β → γ) (items : Enumeration α) :
    (items.flatMap f).map g = items.flatMap fun a => (f a).map g := by
  induction items with
  | done => rfl
  | item a tail ih =>
      simp only [flatMap, map_append]
      exact congrArg (append ((f a).map g)) (funext fun u => ih u)
  | halted => rfl

theorem flatMap_map (f : α → β) (g : β → Enumeration γ) (items : Enumeration α) :
    (items.map f).flatMap g = items.flatMap fun a => g (f a) := by
  induction items with
  | done => rfl
  | item a tail ih => exact congrArg (append (g (f a))) (funext fun u => ih u)
  | halted => rfl

theorem filter_append (test : α → Bool) (first : Enumeration α)
    (second : Unit → Enumeration α) :
    (first.append second).filter test =
      (first.filter test).append fun u => (second u).filter test := by
  induction first with
  | done => rfl
  | item a tail ih =>
      simp only [append, filter]
      split
      · exact congrArg (item a) (funext fun u => ih u)
      · exact ih ()
  | halted => rfl

theorem filter_flatMap (test : β → Bool) (f : α → Enumeration β) (items : Enumeration α) :
    (items.flatMap f).filter test = items.flatMap fun a => (f a).filter test := by
  induction items with
  | done => rfl
  | item a tail ih =>
      simp only [flatMap, filter_append]
      exact congrArg (append ((f a).filter test)) (funext fun u => ih u)
  | halted => rfl

theorem filterMap_eq_map_filter (f : α → Option β) (test : α → Bool) (g : α → β)
    (same : ∀ a, f a = if test a then some (g a) else none) (items : Enumeration α) :
    items.filterMap f = (items.filter test).map g := by
  induction items with
  | done => rfl
  | item a tail ih =>
      simp only [filterMap, filter, same]
      by_cases holds : test a = true
      · simp only [holds, if_true, map]
        exact congrArg (item (g a)) (funext fun u => ih u)
      · simp only [holds]
        exact ih ()
  | halted => rfl

theorem collect_ofList (items : List α) : (ofList items).collect = .ok items := by
  induction items with
  | nil => rfl
  | cons a rest ih => simp only [ofList, collect, ih]

/-- An enumeration ends with a list of items exactly if it is the enumeration of that list. -/
theorem collect_eq_ok_iff {items : Enumeration α} {list : List α} :
    items.collect = .ok list ↔ items = ofList list := by
  constructor
  · intro ended
    induction items generalizing list with
    | done => cases ended; rfl
    | item a tail ih =>
        simp only [collect] at ended
        split at ended
        next rest collected =>
          cases ended
          exact congrArg (item a) (funext fun u => ih u collected)
        next => cases ended
    | halted why => cases ended
  · rintro rfl
    exact collect_ofList list

end Enumeration

end LazyGrammar
