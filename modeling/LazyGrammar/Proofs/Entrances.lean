import LazyGrammar.Proofs.Inlining

/-!
# Entrances

There are several ways into a grammar, and all of them lead to the one search. The full
parses are what a start expression wrapped in a full match finds, the first of them is
the first that is pulled, and a rule is entered as a reference to it would enter it. What
is pulled through one entrance is what is pulled through another, up to the same stop: the
end, a lack of fuel, or nothing but the number of pulls.
-/

set_option autoImplicit false

namespace LazyGrammar

/-- What a single pull comes to. -/
def Answer.pulled {α : Type} : Answer α → List α × Stop
  | .item a => ([a], .limit)
  | .exhausted => ([], .exhausted)
  | .halted why => ([], .halted why)

private theorem Answer.pulled_inj {α : Type} {answer other : Answer α} :
    answer.pulled = other.pulled ↔ answer = other := by
  cases answer <;> cases other <;> simp [pulled]

private theorem Answer.pulled_eq_halted_iff {α : Type} {answer : Answer α} {why : Halt} :
    answer.pulled.2 = .halted why ↔ answer = .halted why := by
  cases answer <;> simp [pulled]

namespace Cursor

variable {α : Type}

theorem pullUpTo_one (cursor : Cursor α) : cursor.pullUpTo 1 = cursor.pull.1.pulled := by
  rw [pullUpTo]
  obtain ⟨answer, next⟩ := cursor.pull
  cases answer <;> rfl

theorem pullUpTo_item {a : α} {tail : Unit → Enumeration α} {limit : Nat} :
    (⟨fun _ => .item a tail⟩ : Cursor α).pullUpTo (limit + 1) =
      (a :: ((⟨tail⟩ : Cursor α).pullUpTo limit).1, ((⟨tail⟩ : Cursor α).pullUpTo limit).2) := rfl

/-!
## Pulls of what passes a test
-/

/-- So many pulls of what passes the test come to what so many pulls of everything do. -/
def PullsPassing (test : α → Bool) (source : Enumeration α) (limit pulls : Nat) : Prop :=
  (⟨fun _ => source.filter test⟩ : Cursor α).pullUpTo limit =
    (((⟨fun _ => source⟩ : Cursor α).pullUpTo pulls).1.filter test,
      ((⟨fun _ => source⟩ : Cursor α).pullUpTo pulls).2)

namespace PullsPassing

variable {test : α → Bool} {a : α} {tail : Unit → Enumeration α} {limit pulls : Nat}

private theorem item (passes : test a = true) (further : PullsPassing test (tail ()) limit pulls) :
    PullsPassing test (.item a tail) (limit + 1) (pulls + 1) := by
  unfold PullsPassing at further
  rw [PullsPassing, Enumeration.filter, if_pos passes, pullUpTo_item, pullUpTo_item,
    List.filter_cons_of_pos passes, further]

/-- What does not pass is pulled over. -/
private theorem skip (fails : ¬ test a = true) (further : PullsPassing test (tail ()) limit pulls) :
    PullsPassing test (.item a tail) limit (pulls + 1) := by
  rw [PullsPassing, Enumeration.filter, if_neg fails, pullUpTo_item,
    List.filter_cons_of_neg fails]
  exact further

private theorem exists_pulls (test : α → Bool) (source : Enumeration α) (limit : Nat) :
    ∃ pulls, PullsPassing test source limit pulls := by
  induction source generalizing limit with
  | done | halted =>
      cases limit with
      | zero => exact ⟨0, rfl⟩
      | succ limit => exact ⟨1, rfl⟩
  | item a tail ih =>
      cases limit with
      | zero => exact ⟨0, rfl⟩
      | succ limit =>
          by_cases passes : test a = true
          · obtain ⟨pulls, further⟩ := ih () limit
            exact ⟨pulls + 1, further.item passes⟩
          · obtain ⟨pulls, further⟩ := ih () (limit + 1)
            exact ⟨pulls + 1, further.skip passes⟩

private theorem exists_limit (test : α → Bool) (source : Enumeration α) (pulls : Nat) :
    ∃ limit, PullsPassing test source limit pulls := by
  induction pulls generalizing source with
  | zero => exact ⟨0, rfl⟩
  | succ pulls ih =>
      cases source with
      | done | halted => exact ⟨1, rfl⟩
      | item a tail =>
          obtain ⟨limit, further⟩ := ih (tail ())
          by_cases passes : test a = true
          · exact ⟨limit + 1, further.item passes⟩
          · exact ⟨limit, further.skip passes⟩

end PullsPassing

theorem pullUpTo_filter_iff {test : α → Bool} {source : Enumeration α} {passing : List α}
    {stop : Stop} :
    (∃ limit, (⟨fun _ => source.filter test⟩ : Cursor α).pullUpTo limit = (passing, stop)) ↔
      ∃ pulls items, (⟨fun _ => source⟩ : Cursor α).pullUpTo pulls = (items, stop) ∧
        passing = items.filter test := by
  constructor
  · intro pulled
    obtain ⟨limit, pulled⟩ := pulled
    obtain ⟨pulls, same⟩ := PullsPassing.exists_pulls test source limit
    obtain ⟨rfl, rfl⟩ := Prod.mk.inj (pulled.symm.trans same)
    exact ⟨pulls, _, rfl, rfl⟩
  · intro pulled
    obtain ⟨pulls, items, pulled, rfl⟩ := pulled
    obtain ⟨limit, same⟩ := PullsPassing.exists_limit test source pulls
    rw [PullsPassing, pulled] at same
    exact ⟨limit, same⟩

end Cursor

private theorem Rules.Complete.of_resolves {rules : Rules} {start expr : Expr}
    (complete : rules.Complete start) (resolves : rules.Resolves expr) : rules.Complete expr :=
  ⟨resolves, complete.definition⟩

private theorem Rules.resolves_full {rules : Rules} {expr : Expr} :
    rules.Resolves (.full expr) ↔ rules.Resolves expr := by
  simp [Rules.Resolves, Expr.mentions_iff_of_ne_rule, Expr.children]

/-- A rule that only refers to itself is called until there is no fuel left. -/
theorem Rules.parses_rule_of_itself {rules : Rules} {name : String}
    (itself : rules.get? name = some (.rule name)) (fuel : Nat) (input : List Char) :
    rules.parses fuel (.rule name) input = .halted .outOfFuel := by
  induction fuel with
  | zero => rfl
  | succ fuel ih => rw [parses_rule_of_bound itself, ih]

namespace Grammar

def wrapped (grammar : Grammar) : Grammar := { grammar with start := .full grammar.start }

def entering (grammar : Grammar) (name : String) : Grammar := { grammar with start := .rule name }

variable {grammar : Grammar} {fuel : Nat} {input : String}

/-!
## Full parses
-/

private theorem parse_wrapped :
    grammar.wrapped.parse fuel input =
      ⟨fun _ => ((grammar.parse fuel input).resume ()).filter fun parse => parse.rest.isEmpty⟩ :=
  congrArg Cursor.mk (funext fun _ => Rules.parses_full grammar.start)

/-- The test that is made behind the search is the one that is made in an expression. -/
theorem parseFull_eq_map :
    grammar.parseFull fuel input =
      ⟨fun _ => ((grammar.wrapped.parse fuel input).resume ()).map Parse.value⟩ := by
  rw [parse_wrapped, parseFull]
  refine congrArg Cursor.mk (funext fun _ => ?_)
  exact Enumeration.filterMap_eq_map_filter _ _ _ (fun _ => rfl) _

theorem pullUpTo_parseFull (limit : Nat) :
    (grammar.parseFull fuel input).pullUpTo limit =
      (((grammar.wrapped.parse fuel input).pullUpTo limit).1.map Parse.value,
        ((grammar.wrapped.parse fuel input).pullUpTo limit).2) := by
  rw [parseFull_eq_map, Cursor.pullUpTo_map]

private theorem pullUpTo_parseFull_iff {values : List Value} {stop : Stop} :
    (∃ limit, (grammar.parseFull fuel input).pullUpTo limit = (values, stop)) ↔
      ∃ pulls items, (grammar.parse fuel input).pullUpTo pulls = (items, stop) ∧
        values = (items.filter fun parse => parse.rest.isEmpty).map Parse.value := by
  have passing (complete : List Parse) :
      (∃ limit, (grammar.wrapped.parse fuel input).pullUpTo limit = (complete, stop)) ↔
      ∃ pulls items, (grammar.parse fuel input).pullUpTo pulls = (items, stop) ∧
        complete = items.filter fun parse => parse.rest.isEmpty := by
    rw [parse_wrapped]
    exact Cursor.pullUpTo_filter_iff
  constructor
  · intro pulled
    obtain ⟨limit, pulled⟩ := pulled
    rw [pullUpTo_parseFull] at pulled
    obtain ⟨rfl, rfl⟩ := Prod.mk.inj pulled
    obtain ⟨pulls, items, pulled, same⟩ := (passing _).mp ⟨limit, rfl⟩
    exact ⟨pulls, items, pulled, by rw [same]⟩
  · intro pulled
    obtain ⟨pulls, items, pulled, rfl⟩ := pulled
    obtain ⟨limit, pulled⟩ := (passing _).mpr ⟨pulls, items, pulled, rfl⟩
    exact ⟨limit, by rw [pullUpTo_parseFull, pulled]⟩

private theorem parseFull_approximates {more : Nat} (le : fuel ≤ more) :
    ((grammar.parseFull fuel input).resume ()).Approximates Eq
      ((grammar.parseFull more input).resume ()) := by
  rw [parseFull_eq_map, parseFull_eq_map]
  exact (Rules.parses_approximates_self _ le _ _).map fun _ _ same => by rw [same]

/-!
## The first full parse
-/

theorem parseFirst_eq_iff {answer : Answer Value} :
    grammar.parseFirst fuel input = answer ↔
      (grammar.parseFull fuel input).pullUpTo 1 = answer.pulled := by
  rw [Cursor.pullUpTo_one, Answer.pulled_inj, parseFirst]

/-- One answer is enough, since more fuel gives the same one. -/
theorem exists_parseFirst_iff {answer : Answer Value} (answered : ∀ why, answer ≠ .halted why) :
    (∃ fuel, grammar.parseFirst fuel input = answer) ↔
      Cursor.Settles (grammar.parseFull · input) 1 answer.pulled := by
  rw [Cursor.settles_iff_of_grows fun _ _ le => parseFull_approximates le]
  simp only [parseFirst_eq_iff, ne_eq, Answer.pulled_eq_halted_iff, answered, not_false_eq_true,
    implies_true, true_and]

theorem parseFirst_of_le {more : Nat} (le : fuel ≤ more)
    (answered : ∀ why, grammar.parseFirst fuel input ≠ .halted why) :
    grammar.parseFirst more input = grammar.parseFirst fuel input := by
  have once := parseFirst_eq_iff.mp (@rfl _ (grammar.parseFirst fuel input))
  have answers : (grammar.parseFull fuel input).Answers 1 := by
    intro why halted
    rw [once, Answer.pulled_eq_halted_iff] at halted
    exact answered why halted
  rw [parseFirst_eq_iff, ← once]
  exact Cursor.pullUpTo_eq_of_approximates (parseFull_approximates le) answers

/-!
## Rules
-/

section Rules

variable {name : String} {definition : Expr}

theorem parseRule_eq_error_iff {error : GrammarError} :
    grammar.parseRule fuel name input = .error error ↔
      error = .unknownRule name ∧ grammar.rules.contains name = false := by
  rw [parseRule, Rules.contains]
  cases grammar.rules.get? name <;> simp [eq_comm]

/-- A reference takes one call to enter the rule. -/
private theorem parse_entering (bound : grammar.rules.get? name = some definition) :
    (grammar.entering name).parse (fuel + 1) input =
      grammar.rules.cursor fuel definition input.toList :=
  congrArg Cursor.mk (funext fun _ => Rules.parses_rule_of_bound bound input.toList)

private theorem settleAlike_entering (bound : grammar.rules.get? name = some definition) :
    Cursor.SettleAlike (grammar.rules.cursor · definition input.toList)
      ((grammar.entering name).parse · input) := by
  refine Cursor.settleAlike_of_followedBy (fun fuel => ⟨fuel + 1, fun more le => ?_⟩)
    fun fuel => ⟨fuel, fun more le => ?_⟩
  · have called := grammar.rules.parses_approximates_self le (.rule name) input.toList
    rw [Rules.parses_rule_of_bound bound] at called
    exact called
  · have called := grammar.rules.parses_approximates_self (Nat.le_succ_of_le le) (.rule name)
      input.toList
    rw [Rules.parses_rule_of_bound bound] at called
    exact called

end Rules

/-- The entrances of a grammar agree. Full parses are the values of the parses without a rest, in
their order, and each pull of them answers as one of the values from the start expression wrapped
in a full match, which again makes a grammar. A first full parse is found, or found not to be
there, exactly if the first pull of full parses answers, whatever later ones do, and is the same
with more fuel. Only rules that are not bound are refused; another one is parsed as it is from a
reference to it as the start expression, which again makes a grammar and costs one more call. -/
theorem entrances_agree {assemble : Rules → Except GrammarError (Rules × Expr)}
    {grammar : Grammar} (built : build assemble = .ok grammar) (input : String) :
    (∀ fuel values stop,
      (∃ limit, (grammar.parseFull fuel input).pullUpTo limit = (values, stop)) ↔
        ∃ pulls items, (grammar.parse fuel input).pullUpTo pulls = (items, stop) ∧
          values = (items.filter fun parse => parse.rest.isEmpty).map Parse.value) ∧
    (freeze grammar.wrapped.rules grammar.wrapped.start = .ok grammar.wrapped ∧
      ∀ fuel limit, (grammar.parseFull fuel input).pullUpTo limit =
        (((grammar.wrapped.parse fuel input).pullUpTo limit).1.map Parse.value,
          ((grammar.wrapped.parse fuel input).pullUpTo limit).2)) ∧
    ((∀ value, (∃ fuel, grammar.parseFirst fuel input = .item value) ↔
        Cursor.Settles (grammar.parseFull · input) 1 ([value], .limit)) ∧
      ((∃ fuel, grammar.parseFirst fuel input = .exhausted) ↔
        Cursor.Settles (grammar.parseFull · input) 1 ([], .exhausted)) ∧
      ∀ fuel more, fuel ≤ more → (∀ why, grammar.parseFirst fuel input ≠ .halted why) →
        grammar.parseFirst more input = grammar.parseFirst fuel input) ∧
    ∀ name,
      (∀ fuel error, grammar.parseRule fuel name input = .error error ↔
        error = .unknownRule name ∧ grammar.rules.contains name = false) ∧
      (grammar.rules.contains name = true →
        freeze (grammar.entering name).rules (grammar.entering name).start =
          .ok (grammar.entering name) ∧
        ∃ cursor : Nat → Cursor Parse,
          (∀ fuel, grammar.parseRule fuel name input = .ok (cursor fuel)) ∧
          (∀ fuel limit, (cursor fuel).pullUpTo limit =
            ((grammar.entering name).parse (fuel + 1) input).pullUpTo limit) ∧
          Cursor.SettleAlike cursor ((grammar.entering name).parse · input)) := by
  have complete := complete_of_build built
  refine ⟨fun fuel values stop => ?_, ⟨?_, fun fuel limit => ?_⟩, ⟨fun value => ?_, ?_, ?_⟩,
    fun name => ⟨fun fuel error => ?_, fun bound => ⟨?_, ?_⟩⟩⟩
  · exact pullUpTo_parseFull_iff
  · exact freeze_eq_ok_iff.mpr ⟨rfl, complete.of_resolves (Rules.resolves_full.mpr complete.start)⟩
  · exact pullUpTo_parseFull limit
  · exact exists_parseFirst_iff nofun
  · exact exists_parseFirst_iff nofun
  · intro fuel more le
    exact parseFirst_of_le le
  · exact parseRule_eq_error_iff
  · refine freeze_eq_ok_iff.mpr ⟨rfl, complete.of_resolves fun mentioned isName => ?_⟩
    exact Expr.mentions_rule.mp isName ▸ bound
  · obtain ⟨definition, found⟩ := Option.isSome_iff_exists.mp bound
    refine ⟨_, fun fuel => parseRule_eq_ok found fuel input, fun fuel limit => ?_, ?_⟩
    · rw [parse_entering found]
    · exact settleAlike_entering found

/-- A full parse stands between one that leaves a rest and a search without end. -/
def beforeLoop : Grammar where
  rules := Rules.empty.define "loop" (.rule "loop")
  start := .union [.literal "a", .literal "ab", .rule "loop"]

private theorem freeze_beforeLoop : freeze beforeLoop.rules beforeLoop.start = .ok beforeLoop := by
  apply freeze_of_single_rule rfl
  · simp [beforeLoop, Expr.mentions_iff_of_ne_rule, Expr.children]
  · simp

private theorem pullUpTo_beforeLoop (fuel : Nat) :
    (beforeLoop.parseFull fuel "ab").pullUpTo 2 = ([.text "ab"], .halted .outOfFuel) := by
  have loops := @Rules.parses_rule_of_itself beforeLoop.rules "loop" rfl fuel ['a', 'b']
  have found : beforeLoop.parse fuel "ab" =
      ⟨fun _ => .item ⟨.text "a", ['b']⟩ fun _ => .item ⟨.text "ab", []⟩ fun _ =>
        .halted .outOfFuel⟩ := by
    refine congrArg Cursor.mk (funext fun _ => ?_)
    change beforeLoop.rules.parses fuel (.union _) ['a', 'b'] = _
    rw [Rules.parses_union]
    simp only [Enumeration.ofList, Enumeration.flatMap, loops]
    rfl
  rw [parseFull, found]
  rfl

theorem entrances_agree_beforeLoop :
    build (fun _ => .ok (beforeLoop.rules, beforeLoop.start)) = .ok beforeLoop ∧
    Cursor.Settles (beforeLoop.parseFull · "ab") 1 ([.text "ab"], .limit) ∧
    (∀ found, ¬ Cursor.Settles (beforeLoop.parseFull · "ab") 2 found) ∧
    (∀ fuel, beforeLoop.parseFirst fuel "ab" = .item (.text "ab")) ∧
    freeze (beforeLoop.entering "loop").rules (beforeLoop.entering "loop").start =
      .ok (beforeLoop.entering "loop") := by
  have first : beforeLoop.parseFirst 0 "ab" = .item (.text "ab") := rfl
  obtain ⟨_, _, ⟨settles, _, stays⟩, rules⟩ := @entrances_agree
    (fun _ => .ok (beforeLoop.rules, beforeLoop.start)) _ freeze_beforeLoop "ab"
  refine ⟨freeze_beforeLoop, (settles _).mp ⟨0, first⟩, fun found settled => ?_, fun fuel => ?_,
    ((rules "loop").2 rfl).1⟩
  · obtain ⟨answered, enough, same⟩ := settled
    rw [← same enough (Nat.le_refl enough), pullUpTo_beforeLoop] at answered
    exact answered _ rfl
  · rw [stays 0 fuel (Nat.zero_le fuel) (by rw [first]; nofun), first]

end Grammar

end LazyGrammar
