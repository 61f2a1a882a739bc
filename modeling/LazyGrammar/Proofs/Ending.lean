import LazyGrammar.Cursor
import Mathlib.Data.List.Basic

/-!
# Enumerations that end

An enumeration ends if it is that of a list. For every operation, a result that
ends comes from arguments that end as far as they were asked for, and the lists
are related by the operation of the same name on lists.
-/

set_option autoImplicit false

namespace LazyGrammar

theorem pairwise_snd_zipIdx {α : Type} (items : List α) :
    items.zipIdx.Pairwise fun first second => first.2 < second.2 := by
  rw [← List.pairwise_map, List.zipIdx_map_snd]
  exact List.pairwise_lt_range'

namespace Enumeration

variable {α β : Type}

def toList : Enumeration α → List α
  | .done | .halted _ => []
  | .item a tail => a :: toList (tail ())

@[simp] theorem toList_ofList (items : List α) : (ofList items).toList = items := by
  induction items with
  | nil => rfl
  | cons a rest ih => rw [ofList, toList, ih]

theorem map_id (source : Enumeration α) : (source.map fun a => a) = source := by
  induction source with
  | done | halted => rfl
  | item a tail ih => exact congrArg (item a) (funext fun u => ih u)

theorem filter_map (f : α → β) (test : β → Bool) (source : Enumeration α) :
    (source.map f).filter test = (source.filter fun a => test (f a)).map f := by
  induction source with
  | done | halted => rfl
  | item a tail ih =>
      rw [map, filter, filter]
      split
      · exact congrArg (item (f a)) (funext fun u => ih u)
      · exact ih ()

theorem toList_map (f : α → β) (source : Enumeration α) :
    (source.map f).toList = source.toList.map f := by
  induction source with
  | done | halted => rfl
  | item a tail ih => rw [map, toList, toList, List.map_cons, ih]

theorem toList_filter (test : α → Bool) (source : Enumeration α) :
    (source.filter test).toList = source.toList.filter test := by
  induction source with
  | done | halted => rfl
  | item a tail ih =>
      rw [filter, toList, List.filter_cons]
      split
      · rw [toList, ih]
      · exact ih ()

theorem collect_map (f : α → β) (source : Enumeration α) :
    (source.map f).collect = source.collect.map (List.map f) := by
  induction source with
  | done | halted => rfl
  | item a tail ih =>
      rw [map, collect, collect, ih]
      cases (tail ()).collect <;> rfl

/-- What stands after a halt is not reached. -/
theorem isPrefix_toList_append (first : Enumeration α) (second : Unit → Enumeration α) :
    (first.append second).toList <+: first.toList ++ (second ()).toList := by
  induction first with
  | done => exact List.prefix_refl _
  | item a tail ih => exact (List.prefix_cons_inj a).mpr (ih ())
  | halted => exact List.nil_prefix

theorem isPrefix_toList_flatMap (source : Enumeration α) (f : α → Enumeration β) :
    (source.flatMap f).toList <+: source.toList.flatMap fun a => (f a).toList := by
  induction source with
  | done => exact List.prefix_refl _
  | item a tail ih =>
      rw [toList, List.flatMap_cons]
      exact (isPrefix_toList_append (f a) _).trans ((List.prefix_append_right_inj _).mpr (ih ()))
  | halted => exact List.nil_prefix

theorem ofList_injective {first second : List α} (same : ofList first = ofList second) :
    first = second := by
  rw [← toList_ofList first, same, toList_ofList]

@[simp] theorem ofList_eq_done_iff {items : List α} : ofList items = .done ↔ items = [] := by
  cases items with
  | nil => exact ⟨fun _ => rfl, fun _ => rfl⟩
  | cons a rest => exact ⟨nofun, nofun⟩

theorem item_eq_ofList_iff {a : α} {tail : Unit → Enumeration α} {items : List α} :
    item a tail = ofList items ↔ ∃ rest, tail () = ofList rest ∧ items = a :: rest := by
  constructor
  · intro same
    cases items with
    | nil => cases same
    | cons b rest =>
        cases same
        exact ⟨rest, rfl, rfl⟩
  · intro ending
    obtain ⟨rest, tailEnds, rfl⟩ := ending
    exact congrArg (item a) (funext fun _ => tailEnds)

theorem ofOption_eq_ofList (found : Option α) : ofOption found = ofList found.toList := by
  cases found <;> rfl

theorem ofOption_injective {found other : Option α} (same : ofOption found = ofOption other) :
    found = other := by
  cases found <;> cases other <;> cases same <;> rfl

theorem map_ofOption (f : α → β) (found : Option α) :
    (ofOption found).map f = ofOption (found.map f) := by
  cases found <;> rfl

theorem filter_ofOption (test : α → Bool) (found : Option α) :
    (ofOption found).filter test = ofOption (found.filter test) := by
  cases found with
  | none => rfl
  | some a =>
      rw [ofOption, single, filter, Option.filter]
      split <;> rfl

theorem flatMap_single (a : α) (f : α → Enumeration β) : (single a).flatMap f = f a :=
  append_done (f a)

theorem append_eq_ofList_iff {first : Enumeration α} {second : Unit → Enumeration α}
    {items : List α} :
    first.append second = ofList items ↔
      ∃ front back, first = ofList front ∧ second () = ofList back ∧ items = front ++ back := by
  induction first generalizing items with
  | done =>
      constructor
      · intro ends
        exact ⟨[], items, rfl, ends, rfl⟩
      · intro ending
        obtain ⟨front, back, frontEnds, backEnds, rfl⟩ := ending
        rw [ofList_eq_done_iff.mp frontEnds.symm]
        exact backEnds
  | item a tail ih =>
      simp only [append, item_eq_ofList_iff, ih]
      constructor
      · intro ending
        obtain ⟨rest, ⟨front, back, frontEnds, backEnds, rfl⟩, rfl⟩ := ending
        exact ⟨a :: front, back, ⟨front, frontEnds, rfl⟩, backEnds, rfl⟩
      · intro ending
        obtain ⟨_, back, ⟨front, frontEnds, rfl⟩, backEnds, rfl⟩ := ending
        exact ⟨front ++ back, ⟨front, back, frontEnds, backEnds, rfl⟩, rfl⟩
  | halted why =>
      constructor
      · intro ends
        cases items <;> cases ends
      · intro ending
        obtain ⟨front, _, frontEnds, _, _⟩ := ending
        cases front <;> cases frontEnds

theorem map_eq_ofList_iff {f : α → β} {source : Enumeration α} {items : List β} :
    source.map f = ofList items ↔ ∃ list, source = ofList list ∧ items = list.map f := by
  induction source generalizing items with
  | done =>
      constructor
      · intro ends
        exact ⟨[], rfl, ofList_eq_done_iff.mp ends.symm⟩
      · intro ending
        obtain ⟨list, ends, rfl⟩ := ending
        rw [ofList_eq_done_iff.mp ends.symm]
        rfl
  | item a tail ih =>
      simp only [map, item_eq_ofList_iff, ih]
      constructor
      · intro ending
        obtain ⟨_, ⟨list, ends, rfl⟩, rfl⟩ := ending
        exact ⟨a :: list, ⟨list, ends, rfl⟩, rfl⟩
      · intro ending
        obtain ⟨_, ⟨list, ends, rfl⟩, rfl⟩ := ending
        exact ⟨list.map f, ⟨list, ends, rfl⟩, rfl⟩
  | halted why =>
      constructor
      · intro ends
        cases items <;> cases ends
      · intro ending
        obtain ⟨list, ends, _⟩ := ending
        cases list <;> cases ends

theorem map_eq_done_iff {f : α → β} {source : Enumeration α} :
    source.map f = .done ↔ source = .done := by
  cases source <;> simp [map]

theorem map_ofList (f : α → β) (items : List α) :
    (ofList items).map f = ofList (items.map f) :=
  map_eq_ofList_iff.mpr ⟨items, rfl, rfl⟩

theorem filter_ofList (test : α → Bool) (items : List α) :
    (ofList items).filter test = ofList (items.filter test) := by
  induction items with
  | nil => rfl
  | cons a rest ih =>
      rw [ofList, filter, List.filter_cons]
      split
      · exact congrArg (item a) (funext fun _ => ih)
      · exact ih

theorem filterMap_ofList (f : α → Option β) (items : List α) :
    (ofList items).filterMap f = ofList (items.filterMap f) := by
  induction items with
  | nil => rfl
  | cons a rest ih =>
      rw [ofList, filterMap, List.filterMap_cons]
      cases f a with
      | none => exact ih
      | some b => exact congrArg (item b) (funext fun _ => ih)

theorem filter_eq_ofList_iff {test : α → Bool} {source : Enumeration α} {items : List α} :
    source.filter test = ofList items ↔
      ∃ list, source = ofList list ∧ items = list.filter test := by
  constructor
  · intro ends
    induction source generalizing items with
    | done => exact ⟨[], rfl, ofList_eq_done_iff.mp ends.symm⟩
    | item a tail ih =>
        rw [filter] at ends
        split at ends
        next passes =>
          obtain ⟨rest, tailEnds, rfl⟩ := item_eq_ofList_iff.mp ends
          obtain ⟨list, listEnds, rfl⟩ := ih () tailEnds
          exact ⟨a :: list, item_eq_ofList_iff.mpr ⟨list, listEnds, rfl⟩,
            by rw [List.filter_cons_of_pos passes]⟩
        next fails =>
          obtain ⟨list, listEnds, rfl⟩ := ih () ends
          exact ⟨a :: list, item_eq_ofList_iff.mpr ⟨list, listEnds, rfl⟩,
            by rw [List.filter_cons_of_neg fails]⟩
    | halted why => cases items <;> cases ends
  · intro ending
    obtain ⟨list, rfl, rfl⟩ := ending
    exact filter_ofList test list

/-- The lists of the parts are the items of the parts, since the parts end. -/
theorem flatMap_eq_ofList_iff {source : Enumeration α} {f : α → Enumeration β}
    {items : List β} :
    source.flatMap f = ofList items ↔
      ∃ list, source = ofList list ∧ (∀ a ∈ list, f a = ofList (f a).toList) ∧
        items = list.flatMap fun a => (f a).toList := by
  induction source generalizing items with
  | done =>
      constructor
      · intro ends
        exact ⟨[], rfl, nofun, ofList_eq_done_iff.mp ends.symm⟩
      · intro ending
        obtain ⟨list, ends, _, rfl⟩ := ending
        rw [ofList_eq_done_iff.mp ends.symm]
        rfl
  | item a tail ih =>
      simp only [flatMap, append_eq_ofList_iff, item_eq_ofList_iff, ih]
      constructor
      · intro ending
        obtain ⟨front, _, frontEnds, ⟨list, listEnds, partsEnd, rfl⟩, rfl⟩ := ending
        refine ⟨a :: list, ⟨list, listEnds, rfl⟩, ?_, ?_⟩
        · intro b member
          rcases List.mem_cons.mp member with rfl | inList
          · rw [frontEnds, toList_ofList]
          · exact partsEnd b inList
        · rw [List.flatMap_cons, frontEnds, toList_ofList]
      · intro ending
        obtain ⟨_, ⟨list, listEnds, rfl⟩, partsEnd, rfl⟩ := ending
        refine ⟨(f a).toList, _, partsEnd a List.mem_cons_self,
          ⟨list, listEnds, fun b member => partsEnd b (List.mem_cons_of_mem a member), rfl⟩, ?_⟩
        rw [List.flatMap_cons]
  | halted why =>
      constructor
      · intro ends
        cases items <;> cases ends
      · intro ending
        obtain ⟨list, ends, _⟩ := ending
        cases list <;> cases ends

theorem flatMap_ofList {items : List α} {f : α → Enumeration β} {results : α → List β}
    (partsEnd : ∀ a ∈ items, f a = ofList (results a)) :
    (ofList items).flatMap f = ofList (items.flatMap results) := by
  refine flatMap_eq_ofList_iff.mpr ⟨items, rfl, ?_, ?_⟩
  · intro a member
    rw [partsEnd a member, toList_ofList]
  · refine List.flatMap_congr fun a member => ?_
    rw [partsEnd a member, toList_ofList]

theorem flatMap_ofList_congr {items : List α} {f g : α → Enumeration β}
    (same : ∀ a ∈ items, f a = g a) : (ofList items).flatMap f = (ofList items).flatMap g := by
  induction items with
  | nil => rfl
  | cons a rest ih =>
      obtain ⟨head, tail⟩ := List.forall_mem_cons.mp same
      rw [ofList, flatMap, flatMap, head, ih tail]

end Enumeration

namespace Cursor

variable {α : Type}

/-- Pulling until the end is reported terminates, and the items pulled are these. -/
inductive RunsOut : Cursor α → List α → Prop where
  | exhausted {cursor next : Cursor α} :
      cursor.pull = (.exhausted, next) → RunsOut cursor []
  | item {cursor next : Cursor α} {a : α} {items : List α} :
      cursor.pull = (.item a, next) → RunsOut next items → RunsOut cursor (a :: items)

theorem runsOut_iff {cursor : Cursor α} {items : List α} :
    cursor.RunsOut items ↔ cursor.resume () = .ofList items := by
  constructor
  · intro runsOut
    induction runsOut with
    | @exhausted cursor next pulled =>
        cases found : cursor.resume () with
        | done => rfl
        | item a tail => simp [pull, found] at pulled
        | halted why => simp [pull, found] at pulled
    | @item cursor next a items pulled _ ih =>
        cases found : cursor.resume () with
        | done => simp [pull, found] at pulled
        | item b tail =>
            simp only [pull, found, Prod.mk.injEq, Answer.item.injEq] at pulled
            obtain ⟨rfl, rfl⟩ := pulled
            exact Enumeration.item_eq_ofList_iff.mpr ⟨items, ih, rfl⟩
        | halted why => simp [pull, found] at pulled
  · intro ends
    induction items generalizing cursor with
    | nil =>
        have pulled : cursor.pull = (.exhausted, finished) := by rw [pull, ends]; rfl
        exact .exhausted pulled
    | cons a rest ih =>
        have pulled : cursor.pull = (.item a, ⟨fun _ => .ofList rest⟩) := by rw [pull, ends]; rfl
        exact .item pulled (ih rfl)

theorem RunsOut.unique {cursor : Cursor α} {items others : List α} (runsOut : cursor.RunsOut items)
    (again : cursor.RunsOut others) : items = others :=
  Enumeration.ofList_injective ((runsOut_iff.mp runsOut).symm.trans (runsOut_iff.mp again))

theorem pullUpTo_map {β : Type} (f : α → β) (source : Enumeration α) (limit : Nat) :
    (⟨fun _ => source.map f⟩ : Cursor β).pullUpTo limit =
      (((⟨fun _ => source⟩ : Cursor α).pullUpTo limit).1.map f,
        ((⟨fun _ => source⟩ : Cursor α).pullUpTo limit).2) := by
  induction limit generalizing source with
  | zero => rfl
  | succ limit ih =>
      cases source with
      | done | halted => rfl
      | item a tail =>
          have further := ih (tail ())
          simp only [pullUpTo, pull, Enumeration.map]
          rw [further]
          rfl

/-- As many pulls as there are items do not get beyond them. -/
theorem pullUpTo_append (items : List α) (further : Unit → Enumeration α) :
    (⟨fun _ => (Enumeration.ofList items).append further⟩ : Cursor α).pullUpTo items.length =
      (items, .limit) := by
  induction items with
  | nil => rfl
  | cons a rest ih =>
      simp only [List.length_cons, pullUpTo, pull, Enumeration.ofList, Enumeration.append]
      rw [ih]

theorem pullUpTo_eq_take (cursor : Cursor α) (limit : Nat) :
    (cursor.pullUpTo limit).1 = (cursor.resume ()).toList.take limit := by
  induction limit generalizing cursor with
  | zero => exact List.take_zero.symm
  | succ limit ih =>
      rw [pullUpTo, pull]
      cases cursor.resume () with
      | done | halted => exact List.take_nil.symm
      | item a tail => exact congrArg (List.cons a) (ih ⟨tail⟩)

end Cursor

end LazyGrammar
