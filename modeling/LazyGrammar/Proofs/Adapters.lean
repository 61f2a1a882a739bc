import LazyGrammar.Expr.Parses
import LazyGrammar.Proofs.Expr.Parts

/-!
# Searches as nested adapters

A search that is under way is a tree of adapters, each of which keeps its own place: what
is left of a known result, the inner search that is pulled now, the closures that are still
waiting, a parse that was looked at but not handed out. Opening an expression builds such a
tree and no more. A pull changes the tree from within, and need not come to an end. The end
of a tree is final, although not every adapter sees to that by itself.
-/

set_option autoImplicit false

namespace LazyGrammar

/-- What is run when the inner search that it stands for is needed. -/
inductive Closure where
  | second (first : Parse) (right : Expr)
  | alternative (expr : Expr) (input : List Char)
  | choice (alternatives : List Expr) (input : List Char)
  | repetition (before : List Value) (inner : Expr) (input : List Char)
  | optional (inner : Expr) (input : List Char)
  | definition (name : String) (input : List Char)

/-- A search that is under way. -/
inductive Adapter where
  | found (parse? : Option Parse)
  | branches (parses : List Parse)
  /-- An inner search, and the closures that give the next ones. -/
  | flat (waiting : List Closure) (current : Adapter)
  /-- An inner search, and an outer one whose parses give the next ones. -/
  | chained (source : Adapter) (onto : Parse → Closure) (current : Adapter)
  /-- A search whose next parse may have been looked at. -/
  | peekable (peeked : Option Parse) (inner : Adapter)
  | mapped (transform : Parse → Parse) (inner : Adapter)
  | filtered (inner : Adapter)
  | called (inner : Adapter)

namespace Adapter

/-- What stands where a search was dropped at its end, or where there is none yet. -/
def cleared : Adapter := .found none

/-- No rule was entered and no repetition was run. -/
def Unstarted : Adapter → Prop
  | .found _ => True
  | .branches _ | .called _ => False
  | .flat _ current => current.Unstarted
  | .chained source _ current => source.Unstarted ∧ current.Unstarted
  | .peekable _ inner | .mapped _ inner | .filtered inner => inner.Unstarted

end Adapter

/-- The search for the parses of an input. Closures are put aside and not run. -/
def Expr.opened : Expr → List Char → Adapter
  | .literal text, input => .found (literalParse? text input)
  | .regex pattern, input => .found (regexParse? pattern input)
  | .oneOf set, input => .found (charParse? set.contains input)
  | .noneOf set, input => .found (charParse? (fun c => !set.contains c) input)
  | .seq left right, input => .chained (left.opened input) (.second · right) .cleared
  | .union alternatives, input => .flat (alternatives.map (.alternative · input)) .cleared
  | .first alternatives, input => .flat [.choice alternatives input] .cleared
  | .many inner, input => .flat [.repetition [] inner input] .cleared
  | .many1 inner, input =>
      .chained (inner.opened input) (fun head => .repetition [head.value] inner head.rest) .cleared
  | .opt inner, input => .flat [.optional inner input] .cleared
  | .map inner transform, input =>
      .mapped (fun parse => ⟨transform parse.value, parse.rest⟩) (inner.opened input)
  | .full inner, input => .filtered (inner.opened input)
  | .rule name, input => .flat [.definition name input] .cleared

theorem Expr.unstarted_opened (expr : Expr) (input : List Char) :
    (expr.opened input).Unstarted := by
  induction expr with
  | seq left _ leftIH => exact ⟨leftIH, trivial⟩
  | many1 inner ih => exact ⟨ih, trivial⟩
  | map inner _ ih | full inner ih => exact ih
  | _ => exact trivial

/-!
## Pulls
-/

mutual

/-- A pull of the adapter comes to an end with the answer, and leaves an adapter behind. -/
inductive Adapter.Pulls (rules : Rules) : Adapter → Option Parse → Adapter → Prop where
  | found (parse? : Option Parse) :
      Adapter.Pulls rules (.found parse?) parse? (.found none)
  | noBranch : Adapter.Pulls rules (.branches []) none (.branches [])
  | branch (parse : Parse) (parses : List Parse) :
      Adapter.Pulls rules (.branches (parse :: parses)) (some parse) (.branches parses)
  | flatItem {waiting : List Closure} {current after : Adapter} {parse : Parse} :
      Adapter.Pulls rules current (some parse) after →
      Adapter.Pulls rules (.flat waiting current) (some parse) (.flat waiting after)
  | flatNext {closure : Closure} {waiting : List Closure} {current ended next last : Adapter}
      {answer : Option Parse} :
      Adapter.Pulls rules current none ended →
      Closure.Runs rules closure next →
      Adapter.Pulls rules (.flat waiting next) answer last →
      Adapter.Pulls rules (.flat (closure :: waiting) current) answer last
  | flatEnd {current ended : Adapter} :
      Adapter.Pulls rules current none ended →
      Adapter.Pulls rules (.flat [] current) none (.flat [] .cleared)
  | chainedItem {source current after : Adapter} {onto : Parse → Closure} {parse : Parse} :
      Adapter.Pulls rules current (some parse) after →
      Adapter.Pulls rules (.chained source onto current) (some parse) (.chained source onto after)
  | chainedNext {source after current ended next last : Adapter} {onto : Parse → Closure}
      {parse : Parse} {answer : Option Parse} :
      Adapter.Pulls rules current none ended →
      Adapter.Pulls rules source (some parse) after →
      Closure.Runs rules (onto parse) next →
      Adapter.Pulls rules (.chained after onto next) answer last →
      Adapter.Pulls rules (.chained source onto current) answer last
  | chainedEnd {source current ended sourceEnded : Adapter} {onto : Parse → Closure} :
      Adapter.Pulls rules current none ended →
      Adapter.Pulls rules source none sourceEnded →
      Adapter.Pulls rules (.chained source onto current) none (.chained .cleared onto .cleared)
  | peeked (parse : Parse) (inner : Adapter) :
      Adapter.Pulls rules (.peekable (some parse) inner) (some parse) (.peekable none inner)
  | unpeeked {inner after : Adapter} {answer : Option Parse} :
      Adapter.Pulls rules inner answer after →
      Adapter.Pulls rules (.peekable none inner) answer (.peekable none after)
  | mapped {transform : Parse → Parse} {inner after : Adapter} {answer : Option Parse} :
      Adapter.Pulls rules inner answer after →
      Adapter.Pulls rules (.mapped transform inner) (answer.map transform)
        (.mapped transform after)
  | filteredItem {inner after : Adapter} {parse : Parse} :
      Adapter.Pulls rules inner (some parse) after → parse.rest.isEmpty = true →
      Adapter.Pulls rules (.filtered inner) (some parse) (.filtered after)
  | filteredNext {inner after last : Adapter} {parse : Parse} {answer : Option Parse} :
      Adapter.Pulls rules inner (some parse) after → parse.rest.isEmpty = false →
      Adapter.Pulls rules (.filtered after) answer last →
      Adapter.Pulls rules (.filtered inner) answer last
  | filteredEnd {inner after : Adapter} :
      Adapter.Pulls rules inner none after →
      Adapter.Pulls rules (.filtered inner) none (.filtered after)
  | called {inner after : Adapter} {answer : Option Parse} :
      Adapter.Pulls rules inner answer after →
      Adapter.Pulls rules (.called inner) answer (.called after)

/-- Running the closure comes to an end with a search. -/
inductive Closure.Runs (rules : Rules) : Closure → Adapter → Prop where
  | second (first : Parse) (right : Expr) :
      Closure.Runs rules (.second first right)
        (.mapped (fun second => ⟨.pair first.value second.value, second.rest⟩)
          (right.opened first.rest))
  | alternative (expr : Expr) (input : List Char) :
      Closure.Runs rules (.alternative expr input) (expr.opened input)
  | noChoice (input : List Char) : Closure.Runs rules (.choice [] input) .cleared
  | choiceFails {expr : Expr} {alternatives : List Expr} {input : List Char}
      {ended search : Adapter} :
      Adapter.Pulls rules (expr.opened input) none ended →
      Closure.Runs rules (.choice alternatives input) search →
      Closure.Runs rules (.choice (expr :: alternatives) input) search
  | choiceFinds {expr : Expr} {alternatives : List Expr} {input : List Char} {parse : Parse}
      {after : Adapter} :
      Adapter.Pulls rules (expr.opened input) (some parse) after →
      Closure.Runs rules (.choice (expr :: alternatives) input) (.peekable (some parse) after)
  | repetition {before : List Value} {inner : Expr} {input : List Char} {last : List Branch} :
      Expr.Repeats rules inner [⟨[], input⟩] last →
      Closure.Runs rules (.repetition before inner input)
        (.branches (last.map (Branch.parse before)))
  | optionFails {inner : Expr} {input : List Char} {ended : Adapter} :
      Adapter.Pulls rules (inner.opened input) none ended →
      Closure.Runs rules (.optional inner input) (.found (some ⟨.list [], input⟩))
  | optionFinds {inner : Expr} {input : List Char} {parse : Parse} {after : Adapter} :
      Adapter.Pulls rules (inner.opened input) (some parse) after →
      Closure.Runs rules (.optional inner input)
        (.mapped (fun parse => ⟨.list [parse.value], parse.rest⟩) (.peekable (some parse) after))
  | definition {name : String} {definition : Expr} {input : List Char} :
      rules.get? name = some definition →
      Closure.Runs rules (.definition name input) (.called (definition.opened input))

inductive Adapter.Collects (rules : Rules) : Adapter → List Parse → Prop where
  | nil {adapter ended : Adapter} :
      Adapter.Pulls rules adapter none ended → Adapter.Collects rules adapter []
  | cons {adapter after : Adapter} {parse : Parse} {parses : List Parse} :
      Adapter.Pulls rules adapter (some parse) after → Adapter.Collects rules after parses →
      Adapter.Collects rules adapter (parse :: parses)

inductive Expr.Expands (rules : Rules) : Expr → List Branch → List Branch → Prop where
  | nil (inner : Expr) : Expr.Expands rules inner [] []
  | cons {inner : Expr} {branch : Branch} {frontier next : List Branch} {parses : List Parse} :
      Adapter.Collects rules (inner.opened branch.rest) parses →
      Expr.Expands rules inner frontier next →
      Expr.Expands rules inner (branch :: frontier)
        (parses.map (fun parse => ⟨parse.value :: branch.values, parse.rest⟩) ++ next)

inductive Expr.Repeats (rules : Rules) : Expr → List Branch → List Branch → Prop where
  | stop {inner : Expr} {frontier : List Branch} :
      Expr.Expands rules inner frontier [] → Expr.Repeats rules inner frontier frontier
  | round {inner : Expr} {frontier others last : List Branch} {branch : Branch} :
      Expr.Expands rules inner frontier (branch :: others) →
      Expr.Repeats rules inner (branch :: others) last → Expr.Repeats rules inner frontier last

end

/-!
## The end
-/

/-- There is nothing left in any adapter. Some of them ask the inner search again after its end, so
it has to stay there as well. -/
inductive Adapter.Ended : Adapter → Prop where
  | found : Ended (.found none)
  | branches : Ended (.branches [])
  | flat {current : Adapter} : Ended current → Ended (.flat [] current)
  | chained {source current : Adapter} {onto : Parse → Closure} :
      Ended source → Ended current → Ended (.chained source onto current)
  | peekable {inner : Adapter} : Ended inner → Ended (.peekable none inner)
  | mapped {transform : Parse → Parse} {inner : Adapter} :
      Ended inner → Ended (.mapped transform inner)
  | filtered {inner : Adapter} : Ended inner → Ended (.filtered inner)
  | called {inner : Adapter} : Ended inner → Ended (.called inner)

namespace Adapter

variable {rules : Rules} {adapter after : Adapter} {answer : Option Parse}

/-- When there is no answer any more, nothing is left that could give one. -/
theorem Pulls.ended {rules : Rules} {adapter after : Adapter} {answer : Option Parse} :
    adapter.Pulls rules answer after → (answer = none → after.Ended)
  | .found none => fun _ => .found
  | .noBranch => fun _ => .branches
  | .found (some _) | .branch _ _ | .flatItem _ | .chainedItem _ | .peeked _ _
  | .filteredItem _ _ => nofun
  | .flatNext _ _ goesOn => goesOn.ended
  | .flatEnd _ => fun _ => .flat .found
  | .chainedNext _ _ _ goesOn => goesOn.ended
  | .chainedEnd _ _ => fun _ => .chained .found .found
  | .unpeeked inside => fun noAnswer => .peekable (inside.ended noAnswer)
  | .mapped inside => fun noAnswer => .mapped (inside.ended (Option.map_eq_none_iff.mp noAnswer))
  | .filteredNext _ _ goesOn => goesOn.ended
  | .filteredEnd inside => fun _ => .filtered (inside.ended rfl)
  | .called inside => fun noAnswer => .called (inside.ended noAnswer)

theorem Ended.pulls (rules : Rules) (ended : adapter.Ended) :
    ∃ after, adapter.Pulls rules none after := by
  induction ended with
  | found => exact ⟨_, .found none⟩
  | branches => exact ⟨_, .noBranch⟩
  | flat _ ih =>
      obtain ⟨_, current⟩ := ih
      exact ⟨_, .flatEnd current⟩
  | chained _ _ sourceIH currentIH =>
      obtain ⟨_, source⟩ := sourceIH
      obtain ⟨_, current⟩ := currentIH
      exact ⟨_, .chainedEnd current source⟩
  | peekable _ ih =>
      obtain ⟨_, inside⟩ := ih
      exact ⟨_, .unpeeked inside⟩
  | mapped _ ih =>
      obtain ⟨_, inside⟩ := ih
      exact ⟨_, .mapped inside⟩
  | filtered _ ih =>
      obtain ⟨_, inside⟩ := ih
      exact ⟨_, .filteredEnd inside⟩
  | called _ ih =>
      obtain ⟨_, inside⟩ := ih
      exact ⟨_, .called inside⟩

theorem Ended.no_answer (ended : adapter.Ended) (pulls : adapter.Pulls rules answer after) :
    answer = none := by
  induction ended generalizing answer after with
  | found => cases pulls with | found => rfl
  | branches => cases pulls with | noBranch => rfl
  | flat _ ih =>
      cases pulls with
      | flatItem inside => cases ih inside
      | flatEnd => rfl
  | chained _ _ sourceIH currentIH =>
      cases pulls with
      | chainedItem inside => cases currentIH inside
      | chainedNext _ source => cases sourceIH source
      | chainedEnd => rfl
  | peekable _ ih =>
      cases pulls with
      | unpeeked inside => exact ih inside
  | mapped _ ih =>
      cases pulls with
      | mapped inside => exact Option.map_eq_none_iff.mpr (ih inside)
  | filtered _ ih =>
      cases pulls with
      | filteredItem inside | filteredNext inside => cases ih inside
      | filteredEnd => rfl
  | called _ ih =>
      cases pulls with
      | called inside => exact ih inside

end Adapter

end LazyGrammar
