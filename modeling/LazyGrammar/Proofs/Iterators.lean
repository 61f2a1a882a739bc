import LazyGrammar.Session
import LazyGrammar.Proofs.Peg
import LazyGrammar.Proofs.Resumption

/-!
# Iterators over adapters

An iterator is a search that was opened through one of the entrances, and the values of
full parses are picked from those of another search. Pulls of the adapters come to an end
exactly where the enumeration of the iterator has an answer, with this answer, and after
the end there is nothing but the end.
-/

set_option autoImplicit false

namespace LazyGrammar

open Filter

namespace Answer

variable {α : Type}

def answers : Answer α → Bool
  | .halted _ => false
  | _ => true

def isEnd : Answer α → Bool
  | .exhausted => true
  | _ => false

private theorem answers_ofOption (answer : Option α) : (ofOption answer).answers = true := by
  cases answer <;> rfl

private theorem isEnd_ofOption_iff {answer : Option α} :
    (ofOption answer).isEnd = true ↔ answer = none := by
  cases answer <;> simp [ofOption, isEnd]

end Answer

namespace Finding

def answers : Finding → Bool
  | .parse answer => answer.answers
  | .value answer => answer.answers

def isEnd : Finding → Bool
  | .parse answer => answer.isEnd
  | .value answer => answer.isEnd

end Finding

/-- A pull for the value of a full parse. Other parses are passed over. -/
inductive Adapter.PullsValue (rules : Rules) : Adapter → Option Value → Adapter → Prop where
  | complete {search after : Adapter} {parse : Parse} {value : Value} :
      search.Pulls rules (some parse) after → Grammar.completeValue? parse = some value →
      PullsValue rules search (some value) after
  | incomplete {search after last : Adapter} {parse : Parse} {answer : Option Value} :
      search.Pulls rules (some parse) after → Grammar.completeValue? parse = none →
      PullsValue rules after answer last → PullsValue rules search answer last
  | noMore {search after : Adapter} :
      search.Pulls rules none after → PullsValue rules search none after

inductive Search where
  | parses (search : Adapter)
  | values (search : Adapter)

namespace Search

inductive Pulls (rules : Rules) : Search → Finding → Search → Prop where
  | parse {search after : Adapter} {answer : Option Parse} :
      search.Pulls rules answer after →
      Pulls rules (.parses search) (.parse (.ofOption answer)) (.parses after)
  | value {search after : Adapter} {answer : Option Value} :
      search.PullsValue rules answer after →
      Pulls rules (.values search) (.value (.ofOption answer)) (.values after)

inductive PullsAll (rules : Rules) : Search → List Finding → Search → Prop where
  | nil (search : Search) : PullsAll rules search [] search
  | cons {search after last : Search} {finding : Finding} {findings : List Finding} :
      search.Pulls rules finding after → PullsAll rules after findings last →
      PullsAll rules search (finding :: findings) last

def adapter : Search → Adapter
  | .parses search | .values search => search

def iterator (rules : Rules) (fuel : Nat) : Search → Iterator
  | .parses search => .parses ⟨fun _ => search.parses rules fuel⟩
  | .values search =>
      .values ⟨fun _ => (search.parses rules fuel).filterMap Grammar.completeValue?⟩

theorem cursor_eq_iterator (rules : Rules) (fuel : Nat) (expr : Expr) (input : List Char) :
    .parses (rules.cursor fuel expr input) = (parses (expr.opened input)).iterator rules fuel := by
  simp only [Rules.cursor, iterator, Expr.parses_opened]

end Search

namespace Grammar

variable {grammar : Grammar} {entrance : Entrance} {input : String}

def entered (grammar : Grammar) : Entrance → Option Expr
  | .start | .full => some grammar.start
  | .rule name => grammar.rules.get? name

/-- The search through an entrance. The rules are looked at for the name of the entrance only. -/
def search (grammar : Grammar) (entrance : Entrance) (input : String) :
    Except GrammarError Search :=
  match entrance with
  | .start => .ok (.parses (grammar.start.opened input.toList))
  | .rule name =>
      match grammar.rules.get? name with
      | some definition => .ok (.parses (definition.opened input.toList))
      | none => .error (.unknownRule name)
  | .full => .ok (.values (grammar.start.opened input.toList))

/-- What is opened depends on the expression that is entered, and not on any other rule. -/
theorem search_congr {other : Grammar} (same : other.entered entrance = grammar.entered entrance) :
    other.search entrance input = grammar.search entrance input := by
  cases entrance with
  | start | full =>
      rw [search, search, Option.some_inj.mp same]
  | rule name =>
      rw [search, search, show other.rules.get? name = grammar.rules.get? name from same]

theorem iterator_eq_map_search (fuel : Nat) :
    grammar.iterator fuel entrance input =
      (grammar.search entrance input).map (Search.iterator grammar.rules fuel) := by
  cases entrance with
  | start => exact congrArg Except.ok (Search.cursor_eq_iterator ..)
  | rule name =>
      rw [iterator, parseRule, search]
      cases grammar.rules.get? name with
      | none => rfl
      | some definition => exact congrArg Except.ok (Search.cursor_eq_iterator ..)
  | full =>
      simp only [iterator, parseFull, parse, Rules.cursor, ← Expr.parses_opened]
      rfl

end Grammar

/-!
## Pulls of adapters answer as the iterator does
-/

variable {rules : Rules}

private theorem Adapter.Ended.parses {adapter : Adapter} (ended : adapter.Ended) :
    ∀ᶠ fuel in atTop, adapter.parses rules fuel = .done := by
  obtain ⟨_, pulls⟩ := ended.pulls rules
  exact pulls.parses

theorem Adapter.PullsValue.parses {search after : Adapter} {answer : Option Value}
    (pulls : search.PullsValue rules answer after) : ∀ᶠ fuel in atTop,
      (search.parses rules fuel).filterMap Grammar.completeValue? =
        .answering answer ((after.parses rules fuel).filterMap Grammar.completeValue?) := by
  induction pulls with
  | complete found complete =>
      filter_upwards [found.parses] with fuel first
      rw [first, Enumeration.answering, Enumeration.filterMap, complete]
      rfl
  | incomplete found incomplete _ ih =>
      filter_upwards [found.parses, ih] with fuel first further
      rw [first, Enumeration.answering, Enumeration.filterMap, incomplete]
      exact further
  | noMore ended =>
      filter_upwards [ended.parses] with fuel first
      rw [first]
      rfl

theorem Adapter.PullsValue.ended {search after : Adapter} {answer : Option Value}
    (pulls : search.PullsValue rules answer after) (noAnswer : answer = none) : after.Ended := by
  induction pulls with
  | complete => cases noAnswer
  | incomplete _ _ _ ih => exact ih noAnswer
  | noMore ended => exact ended.ended rfl

private theorem Cursor.pull_answering {α : Type} {answer : Option α} {rest : Enumeration α}
    (ended : answer = none → rest = .done) :
    (⟨fun _ => .answering answer rest⟩ : Cursor α).pull = (.ofOption answer, ⟨fun _ => rest⟩) := by
  cases answer with
  | none =>
      rw [ended rfl]
      rfl
  | some a => rfl

namespace Search

variable {search after last : Search} {finding : Finding} {findings : List Finding}

/-- The iterator gives the same answer, and is left where the adapters are. -/
theorem Pulls.iterator (pulls : search.Pulls rules finding after) : ∀ᶠ fuel in atTop,
    (search.iterator rules fuel).pull = (finding, after.iterator rules fuel) := by
  cases pulls with
  | @parse _ after answer pulls =>
      have ended : ∀ᶠ fuel in atTop, answer = none → after.parses rules fuel = .done :=
        eventually_imp_distrib_left.mpr fun noAnswer => (pulls.ended noAnswer).parses
      filter_upwards [pulls.parses, ended] with fuel first ended
      rw [Search.iterator, first, Iterator.pull, Cursor.pull_answering ended]
      rfl
  | @value _ after answer pulls =>
      have ended : ∀ᶠ fuel in atTop, answer = none →
          (after.parses rules fuel).filterMap Grammar.completeValue? = .done := by
        refine eventually_imp_distrib_left.mpr fun noAnswer => ?_
        filter_upwards [(pulls.ended noAnswer).parses] with fuel ended
        rw [ended]
        rfl
      filter_upwards [pulls.parses, ended] with fuel first ended
      rw [Search.iterator, first, Iterator.pull, Cursor.pull_answering ended]
      rfl

theorem Pulls.answers (pulls : search.Pulls rules finding after) : finding.answers = true := by
  cases pulls with
  | parse | value => exact Answer.answers_ofOption _

theorem Pulls.ended (pulls : search.Pulls rules finding after) (isEnd : finding.isEnd = true) :
    after.adapter.Ended := by
  cases pulls with
  | parse pulls => exact pulls.ended (Answer.isEnd_ofOption_iff.mp isEnd)
  | value pulls => exact pulls.ended (Answer.isEnd_ofOption_iff.mp isEnd)

/-- After the end, a pull comes to an end again. -/
theorem exists_pulls_of_ended (ended : search.adapter.Ended) :
    ∃ finding after, search.Pulls rules finding after := by
  cases search with
  | parses search =>
      obtain ⟨_, pulls⟩ := ended.pulls rules
      exact ⟨_, _, .parse pulls⟩
  | values search =>
      obtain ⟨_, pulls⟩ := ended.pulls rules
      exact ⟨_, _, .value (.noMore pulls)⟩

/-- After the end, a pull reports the end. -/
theorem Pulls.isEnd_of_ended (pulls : search.Pulls rules finding after)
    (ended : search.adapter.Ended) : finding.isEnd = true := by
  cases pulls with
  | parse pulls => exact Answer.isEnd_ofOption_iff.mpr (ended.no_answer pulls)
  | value pulls =>
      apply Answer.isEnd_ofOption_iff.mpr
      cases pulls with
      | complete found | incomplete found => cases ended.no_answer found
      | noMore => rfl

end Search

def Iterator.pullTimes : Nat → Iterator → List Finding × Iterator
  | 0, iterator => ([], iterator)
  | pulls + 1, iterator =>
      let (findings, last) := pullTimes pulls iterator.pull.2
      (iterator.pull.1 :: findings, last)

theorem Iterator.length_pullTimes (pulls : Nat) (iterator : Iterator) :
    (iterator.pullTimes pulls).1.length = pulls := by
  induction pulls generalizing iterator with
  | zero => rfl
  | succ pulls ih => exact congrArg (· + 1) (ih iterator.pull.2)

namespace Search

variable {search after last : Search} {finding : Finding} {findings : List Finding}

theorem PullsAll.iterator (pulls : search.PullsAll rules findings last) : ∀ᶠ fuel in atTop,
    (search.iterator rules fuel).pullTimes findings.length =
      (findings, last.iterator rules fuel) := by
  induction pulls with
  | nil => exact .of_forall fun _ => rfl
  | cons pulls _ ih =>
      filter_upwards [pulls.iterator, ih] with fuel first others
      rw [List.length_cons, Iterator.pullTimes, first, others]

theorem PullsAll.answers (pulls : search.PullsAll rules findings last) :
    ∀ finding ∈ findings, finding.answers = true := by
  induction pulls with
  | nil => exact nofun
  | cons pulls _ ih => exact List.forall_mem_cons.mpr ⟨pulls.answers, ih⟩

theorem PullsAll.append {more : List Finding} (pulls : search.PullsAll rules findings after)
    (further : after.PullsAll rules more last) :
    search.PullsAll rules (findings ++ more) last := by
  induction pulls with
  | nil => exact further
  | cons pulls _ ih => exact .cons pulls (ih further)

theorem PullsAll.split {front back : List Finding}
    (pulls : search.PullsAll rules (front ++ finding :: back) last) :
    ∃ middle next, search.PullsAll rules front middle ∧ middle.Pulls rules finding next := by
  induction front generalizing search with
  | nil =>
      cases pulls with
      | cons pulls => exact ⟨search, _, .nil search, pulls⟩
  | cons first front ih =>
      cases pulls with
      | cons pulls further =>
          obtain ⟨middle, next, before, here⟩ := ih further
          exact ⟨middle, next, .cons pulls before, here⟩

private theorem PullsAll.ended_of_ended (pulls : search.PullsAll rules findings last)
    (ended : search.adapter.Ended) : last.adapter.Ended := by
  induction pulls with
  | nil => exact ended
  | cons pulls _ ih => exact ih (pulls.ended (pulls.isEnd_of_ended ended))

theorem PullsAll.ended (pulls : search.PullsAll rules findings last) (member : finding ∈ findings)
    (isEnd : finding.isEnd = true) : last.adapter.Ended := by
  induction pulls with
  | nil => cases member
  | cons pulls further ih =>
      cases member with
      | head => exact further.ended_of_ended (pulls.ended isEnd)
      | tail _ member => exact ih member

end Search

/-!
## Adapters can be pulled where the iterator answers
-/

private theorem Adapter.Ended.follows {adapter : Adapter} (ended : adapter.Ended) :
    adapter.Follows rules .done := by
  obtain ⟨_, pulls⟩ := ended.pulls rules
  exact .done pulls

namespace Adapter.Follows

variable {search : Adapter} {parses : Enumeration Parse}

private theorem exists_pulls {cursor : Cursor Parse} (follows : search.Follows rules parses)
    (resumed : cursor.resume () = parses) (answers : cursor.pull.1.answers = true) :
    ∃ answer after, search.Pulls rules answer after ∧ cursor.pull.1 = .ofOption answer ∧
      after.Follows rules (cursor.pull.2.resume ()) := by
  rw [Cursor.pull, resumed] at answers ⊢
  cases follows with
  | done ended => exact ⟨none, _, ended, rfl, (ended.ended rfl).follows⟩
  | item found further => exact ⟨some _, _, found, rfl, further⟩
  | halted => cases answers

private theorem exists_pullsValue {cursor : Cursor Value} (follows : search.Follows rules parses)
    (resumed : cursor.resume () = parses.filterMap Grammar.completeValue?)
    (answers : cursor.pull.1.answers = true) :
    ∃ answer after rest, search.PullsValue rules answer after ∧
      cursor.pull.1 = .ofOption answer ∧ after.Follows rules rest ∧
      cursor.pull.2.resume () = rest.filterMap Grammar.completeValue? := by
  induction follows with
  | done ended =>
      rw [Cursor.pull, resumed]
      exact ⟨none, _, .done, .noMore ended, rfl, (ended.ended rfl).follows, rfl⟩
  | @item _ _ parse _ found further ih =>
      cases complete : Grammar.completeValue? parse with
      | some value =>
          rw [Enumeration.filterMap, complete] at resumed
          rw [Cursor.pull, resumed]
          exact ⟨some value, _, _, .complete found complete, rfl, further, rfl⟩
      | none =>
          rw [Enumeration.filterMap, complete] at resumed
          obtain ⟨answer, after, rest, pulls, same⟩ := ih resumed
          exact ⟨answer, after, rest, .incomplete found complete pulls, same⟩
  | halted =>
      rw [Cursor.pull, resumed] at answers
      cases answers

end Adapter.Follows

namespace Search

/-- The pulls of the search find what those of the iterator do. -/
inductive Follows (rules : Rules) : Search → Iterator → Prop where
  | parses {search : Adapter} {cursor : Cursor Parse} :
      search.Follows rules (cursor.resume ()) → Follows rules (.parses search) (.parses cursor)
  | values {search : Adapter} {cursor : Cursor Value} {parses : Enumeration Parse} :
      search.Follows rules parses →
      cursor.resume () = parses.filterMap Grammar.completeValue? →
      Follows rules (.values search) (.values cursor)

variable {search : Search} {iterator : Iterator}

theorem Follows.pulls (follows : search.Follows rules iterator)
    (answers : iterator.pull.1.answers = true) :
    ∃ after, search.Pulls rules iterator.pull.1 after ∧ after.Follows rules iterator.pull.2 := by
  cases follows with
  | parses follows =>
      obtain ⟨answer, after, pulls, same, further⟩ := follows.exists_pulls rfl answers
      rw [Iterator.pull, same]
      exact ⟨_, .parse pulls, .parses further⟩
  | values follows resumed =>
      obtain ⟨answer, after, rest, pulls, same, further, resumedAfter⟩ :=
        follows.exists_pullsValue resumed answers
      rw [Iterator.pull, same]
      exact ⟨_, .value pulls, .values further resumedAfter⟩

theorem Follows.pullsAll (follows : search.Follows rules iterator) {pulls : Nat}
    (answers : ∀ finding ∈ (iterator.pullTimes pulls).1, finding.answers = true) :
    ∃ last, search.PullsAll rules (iterator.pullTimes pulls).1 last := by
  induction pulls generalizing search iterator with
  | zero => exact ⟨_, .nil search⟩
  | succ pulls ih =>
      obtain ⟨answersFirst, answersOthers⟩ := List.forall_mem_cons.mp answers
      obtain ⟨after, first, further⟩ := follows.pulls answersFirst
      obtain ⟨last, others⟩ := ih further answersOthers
      exact ⟨last, .cons first others⟩

end Search

namespace Search

theorem follows_iterator {search : Search} {expr : Expr} {input : List Char}
    (opened : search.adapter = expr.opened input) (fuel : Nat) :
    search.Follows rules (search.iterator rules fuel) := by
  have follows := @Expr.follows_opened rules fuel expr input
  rw [← expr.parses_opened, ← opened] at follows
  cases search with
  | parses => exact .parses follows
  | values => exact .values follows rfl

end Search

namespace Grammar

theorem adapter_search {grammar : Grammar} {entrance : Entrance} {input : String} {search : Search}
    (opened : grammar.search entrance input = .ok search) :
    ∃ expr, grammar.entered entrance = some expr ∧ search.adapter = expr.opened input.toList := by
  cases entrance with
  | start | full =>
      cases opened
      exact ⟨_, rfl, rfl⟩
  | rule name =>
      rw [Grammar.search] at opened
      cases bound : grammar.rules.get? name with
      | none =>
          rw [bound] at opened
          cases opened
      | some definition =>
          rw [bound] at opened
          cases opened
          exact ⟨definition, bound, rfl⟩

end Grammar

end LazyGrammar
