import LazyGrammar.Proofs.Entrances
import LazyGrammar.Proofs.Iterators
import Mathlib.Data.Option.Basic
import Mathlib.Logic.Function.Basic

/-!
# Interleaved iterators

Any number of iterators over one grammar may be open at the same time, and they may be
pulled in any order, while other inputs are parsed. What a pull finds depends on how often
its own iterator was pulled, and on nothing else: it is what the same pull finds if nothing
else is ever opened. An iterator that has reported its end does so for ever.
-/

set_option autoImplicit false

namespace LazyGrammar

open Filter

inductive Command where
  | enter (id : String) (entrance : Entrance) (input : String)
  | pull (id : String)
  /-- Parses an input with some expression and rules, and pulls so many times. -/
  | aside (rules : Rules) (expr : Expr) (input : String) (pulls : Nat)

namespace Session

/-- Performs a command, with what the pulls find. What is refused or absent is passed over. -/
def perform (grammar : Grammar) (fuel : Nat) (session : Session) :
    Command → List Finding × Session
  | .enter id entrance input =>
      match grammar.iterator fuel entrance input with
      | .ok iterator => ([], session.keep id iterator)
      | .error _ => ([], session)
  | .pull id =>
      match session.pull? id with
      | some (finding, next) => ([finding], next)
      | none => ([], session)
  | .aside rules expr input pulls =>
      (((Iterator.parses (rules.cursor fuel expr input.toList)).pullTimes pulls).1, session)

def run (grammar : Grammar) (fuel : Nat) : Session → List Command → List Finding × Session
  | session, [] => ([], session)
  | session, command :: commands =>
      let (findings, next) := session.perform grammar fuel command
      let (others, last) := next.run grammar fuel commands
      (findings ++ others, last)

end Session

/-- Where an iterator was opened, on which input, and how often it was pulled since. -/
structure History where
  entrance : Entrance
  input : String
  pulls : Nat

abbrev Desk := String → Option Search

/-- The same names stand for iterators in the session, each related to the search. -/
def Desk.Matches (related : Search → Iterator → Prop) (desk : Desk) (session : Session) : Prop :=
  ∀ id, Option.Rel related (desk id) (session.get? id)

private theorem Desk.Matches.keep {related : Search → Iterator → Prop} {desk : Desk}
    {session : Session}
    (matching : desk.Matches related session) (id : String) {search : Search}
    {iterator : Iterator} (holds : related search iterator) :
    Desk.Matches related (Function.update desk id (some search)) (session.keep id iterator) := by
  intro other
  rw [Session.get?_keep]
  by_cases same : other = id
  · rw [if_pos same, same, Function.update_self]
    exact .some holds
  · rw [if_neg same, Function.update_of_ne same]
    exact matching other

namespace Grammar

variable {grammar : Grammar} {desk next last : Desk} {command : Command}
  {commands : List Command} {findings : List Finding}

inductive Performs (grammar : Grammar) : Desk → Command → List Finding → Desk → Prop where
  | entered {desk : Desk} {id : String} {entrance : Entrance} {input : String} {search : Search} :
      grammar.search entrance input = .ok search →
      Performs grammar desk (.enter id entrance input) [] (Function.update desk id (some search))
  | refused {desk : Desk} {id : String} {entrance : Entrance} {input : String}
      {error : GrammarError} :
      grammar.search entrance input = .error error →
      Performs grammar desk (.enter id entrance input) [] desk
  | pulled {desk : Desk} {id : String} {search after : Search} {finding : Finding} :
      desk id = some search → search.Pulls grammar.rules finding after →
      Performs grammar desk (.pull id) [finding] (Function.update desk id (some after))
  | absent {desk : Desk} {id : String} :
      desk id = none → Performs grammar desk (.pull id) [] desk
  | aside {desk : Desk} {rules : Rules} {expr : Expr} {input : String} {after : Search}
      {findings : List Finding} :
      (Search.parses (expr.opened input.toList)).PullsAll rules findings after →
      Performs grammar desk (.aside rules expr input findings.length) findings desk

/-- All pulls that the commands make come to an end. -/
inductive Runs (grammar : Grammar) : Desk → List Command → List Finding → Desk → Prop where
  | nil (desk : Desk) : Runs grammar desk [] [] desk
  | cons {desk next last : Desk} {command : Command} {commands : List Command}
      {findings others : List Finding} :
      grammar.Performs desk command findings next → Runs grammar next commands others last →
      Runs grammar desk (command :: commands) (findings ++ others) last

/-!
## Sessions
-/

theorem Performs.session (performs : grammar.Performs desk command findings next) :
    ∀ᶠ fuel in atTop, ∀ session,
      desk.Matches (Search.iterator grammar.rules fuel · = ·) session →
        (session.perform grammar fuel command).1 = findings ∧
          next.Matches (Search.iterator grammar.rules fuel · = ·)
            (session.perform grammar fuel command).2 := by
  cases performs with
  | @entered id _ _ _ opened =>
      refine .of_forall fun fuel session shows => ?_
      rw [Session.perform, iterator_eq_map_search, opened]
      exact ⟨rfl, shows.keep id rfl⟩
  | refused refused =>
      refine .of_forall fun fuel session shows => ?_
      rw [Session.perform, iterator_eq_map_search, refused]
      exact ⟨rfl, shows⟩
  | @pulled id _ _ _ held pulls =>
      filter_upwards [pulls.iterator] with fuel pulled session shows
      have here := shows id
      rw [Session.perform, Session.pull?]
      generalize session.get? id = iterator? at here
      rw [held] at here
      cases here with
      | some same =>
          rw [← same, Option.map_some, pulled]
          exact ⟨rfl, shows.keep id rfl⟩
  | @absent id missing =>
      refine .of_forall fun fuel session shows => ?_
      have here := shows id
      rw [Session.perform, Session.pull?]
      generalize session.get? id = iterator? at here
      rw [missing] at here
      cases here with
      | none => exact ⟨rfl, shows⟩
  | aside pulls =>
      filter_upwards [pulls.iterator] with fuel pulled session shows
      rw [Session.perform, Search.cursor_eq_iterator, pulled]
      exact ⟨rfl, shows⟩

theorem Runs.session (runs : grammar.Runs desk commands findings last) :
    ∀ᶠ fuel in atTop, ∀ session,
      desk.Matches (Search.iterator grammar.rules fuel · = ·) session →
        (session.run grammar fuel commands).1 = findings := by
  induction runs with
  | nil => exact .of_forall fun _ _ _ => rfl
  | cons performs _ ih =>
      filter_upwards [performs.session, ih] with fuel performed ran session shows
      obtain ⟨first, showsNext⟩ := performed session shows
      rw [Session.run]
      exact congrArg₂ (· ++ ·) first (ran _ showsNext)

private theorem exists_search_of_iterator {fuel : Nat} {entrance : Entrance} {input : String}
    {iterator : Iterator} (opened : grammar.iterator fuel entrance input = .ok iterator) :
    ∃ search, grammar.search entrance input = .ok search ∧
      search.Follows grammar.rules iterator := by
  rw [iterator_eq_map_search] at opened
  cases entered : grammar.search entrance input with
  | error =>
      rw [entered] at opened
      cases opened
  | ok search =>
      rw [entered] at opened
      cases opened
      obtain ⟨_, _, adapter⟩ := adapter_search entered
      exact ⟨search, rfl, Search.follows_iterator adapter fuel⟩

private theorem search_eq_error {fuel : Nat} {entrance : Entrance} {input : String}
    {error : GrammarError} (refused : grammar.iterator fuel entrance input = .error error) :
    ∃ error, grammar.search entrance input = .error error := by
  rw [iterator_eq_map_search] at refused
  cases entered : grammar.search entrance input with
  | error error => exact ⟨error, rfl⟩
  | ok search =>
      rw [entered] at refused
      cases refused

private theorem performs_of_session {fuel : Nat} {session : Session}
    (follows : desk.Matches (Search.Follows grammar.rules) session)
    (answers : ∀ finding ∈ (session.perform grammar fuel command).1, finding.answers = true) :
    ∃ next, grammar.Performs desk command (session.perform grammar fuel command).1 next ∧
      next.Matches (Search.Follows grammar.rules) (session.perform grammar fuel command).2 := by
  cases command with
  | enter id entrance input =>
      rw [Session.perform]
      cases opened : grammar.iterator fuel entrance input with
      | ok iterator =>
          obtain ⟨search, entered, followsOne⟩ := exists_search_of_iterator opened
          exact ⟨_, .entered entered, follows.keep id followsOne⟩
      | error =>
          obtain ⟨_, refused⟩ := search_eq_error opened
          exact ⟨_, .refused refused, follows⟩
  | pull id =>
      rw [Session.perform, Session.pull?] at answers ⊢
      have here := follows id
      generalize held : desk id = search? at here
      generalize session.get? id = iterator? at here answers ⊢
      cases here with
      | some followsOne =>
          obtain ⟨after, pulls, further⟩ := followsOne.pulls (answers _ List.mem_cons_self)
          exact ⟨_, .pulled held pulls, follows.keep id further⟩
      | none => exact ⟨_, .absent held, follows⟩
  | aside rules expr input pulls =>
      rw [Session.perform] at answers ⊢
      have opened : (Search.parses (expr.opened input.toList)).Follows rules
          (.parses (rules.cursor fuel expr input.toList)) := by
        rw [Search.cursor_eq_iterator]
        exact Search.follows_iterator rfl fuel
      obtain ⟨after, pulled⟩ := opened.pullsAll answers
      have performs := @Performs.aside grammar desk _ _ _ _ _ pulled
      rw [Iterator.length_pullTimes] at performs
      exact ⟨_, performs, follows⟩

private theorem runs_of_session {fuel : Nat} {session : Session}
    (follows : desk.Matches (Search.Follows grammar.rules) session)
    (answers : ∀ finding ∈ (session.run grammar fuel commands).1, finding.answers = true) :
    ∃ last, grammar.Runs desk commands (session.run grammar fuel commands).1 last := by
  induction commands generalizing desk session with
  | nil => exact ⟨desk, .nil desk⟩
  | cons command commands ih =>
      obtain ⟨first, others⟩ := List.forall_mem_append.mp answers
      obtain ⟨next, performs, further⟩ := performs_of_session follows first
      obtain ⟨last, runs⟩ := ih further others
      exact ⟨last, .cons performs runs⟩

/-!
## What a pull depends on
-/

variable {id : String} {past : Option History}

/-- Only a rule must be bound to be entered. -/
def admits (grammar : Grammar) : Entrance → Bool
  | .start | .full => true
  | .rule name => grammar.rules.contains name

private theorem admits_iff {entrance : Entrance} {input : String} :
    grammar.admits entrance = true ↔ ∃ search, grammar.search entrance input = .ok search := by
  cases entrance with
  | start | full => exact iff_of_true rfl ⟨_, rfl⟩
  | rule name =>
      rw [admits, Rules.contains, search]
      cases grammar.rules.get? name <;> simp

/-- What becomes of the iterator under a name. -/
def track (grammar : Grammar) (id : String) (past : Option History) : Command → Option History
  | .enter other entrance input =>
      if id = other ∧ grammar.admits entrance = true then some ⟨entrance, input, 0⟩ else past
  | .pull other =>
      if id = other then past.map fun history => { history with pulls := history.pulls + 1 }
      else past
  | .aside _ _ _ _ => past

/-- The iterator that stands under a name after some commands. -/
def history (grammar : Grammar) (id : String) (commands : List Command) : Option History :=
  commands.foldl (grammar.track id) none

/-- The search is the one that was opened, after so many pulls. -/
inductive Tracks (grammar : Grammar) : Option Search → Option History → Prop where
  | none : Tracks grammar none none
  | some {entrance : Entrance} {input : String} {opened search : Search} {found : List Finding} :
      grammar.search entrance input = .ok opened → opened.PullsAll grammar.rules found search →
      Tracks grammar (some search) (some ⟨entrance, input, found.length⟩)

theorem Performs.tracks (performs : grammar.Performs desk command findings next)
    (tracks : grammar.Tracks (desk id) past) :
    grammar.Tracks (next id) (grammar.track id past command) := by
  cases performs with
  | @entered other entrance input search opened =>
      have admitted := admits_iff.mpr ⟨search, opened⟩
      rw [track]
      by_cases same : id = other
      · rw [if_pos ⟨same, admitted⟩, same, Function.update_self]
        exact .some opened (.nil search)
      · rw [if_neg fun both => same both.1, Function.update_of_ne same]
        exact tracks
  | @refused other entrance input error refused =>
      have notAdmitted : ¬ grammar.admits entrance = true := by
        intro admitted
        obtain ⟨_, opened⟩ := admits_iff.mp admitted
        cases refused.symm.trans opened
      rw [track, if_neg fun both => notAdmitted both.2]
      exact tracks
  | @pulled other search after finding found pulls =>
      rw [track]
      by_cases same : id = other
      · rw [if_pos same, same, Function.update_self]
        rw [same, found] at tracks
        cases tracks with
        | @some _ _ _ _ past opened before =>
            have more := before.append (.cons pulls (.nil after))
            have tracked := Tracks.some opened more
            rw [List.length_append] at tracked
            exact tracked
      · rw [if_neg same, Function.update_of_ne same]
        exact tracks
  | @absent other missing =>
      rw [track]
      by_cases same : id = other
      · rw [if_pos same, same]
        rw [same, missing] at tracks
        cases tracks with
        | none =>
            rw [missing]
            exact .none
      · rw [if_neg same]
        exact tracks
  | aside => exact tracks

theorem Runs.tracks (runs : grammar.Runs desk commands findings last)
    (tracks : grammar.Tracks (desk id) past) :
    grammar.Tracks (last id) (commands.foldl (grammar.track id) past) := by
  induction runs generalizing past with
  | nil => exact tracks
  | cons performs _ ih => exact ih (performs.tracks tracks)

/-- What an iterator finds after so many pulls if there is no other, with enough fuel. -/
def Finds (grammar : Grammar) (history : History) (finding : Finding) : Prop :=
  ∀ᶠ fuel in atTop, ∃ iterator,
    grammar.iterator fuel history.entrance history.input = .ok iterator ∧
      (iterator.pullTimes history.pulls).2.pull.1 = finding

theorem Finds.unique {history : History} {finding other : Finding}
    (finds : grammar.Finds history finding) (again : grammar.Finds history other) :
    finding = other := by
  obtain ⟨fuel, ⟨iterator, opened, found⟩, _, openedAgain, foundAgain⟩ := (finds.and again).exists
  cases opened.symm.trans openedAgain
  exact found.symm.trans foundAgain

section Opened

variable {entrance : Entrance} {input : String} {opened search after : Search}
  {found : List Finding}

private theorem finds_of_pulls (entered : grammar.search entrance input = .ok opened)
    (before : opened.PullsAll grammar.rules found search) {finding : Finding}
    (pulls : search.Pulls grammar.rules finding after) :
    grammar.Finds ⟨entrance, input, found.length⟩ finding := by
  filter_upwards [before.iterator, pulls.iterator] with fuel pulled answered
  refine ⟨opened.iterator grammar.rules fuel, ?_, ?_⟩
  · rw [iterator_eq_map_search, entered]
    rfl
  · rw [pulled, answered]

/-- What was found by an earlier pull is among what has been found. -/
private theorem mem_of_finds (entered : grammar.search entrance input = .ok opened)
    (pulled : opened.PullsAll grammar.rules found search) {earlier : Nat}
    (before : earlier < found.length) {finding : Finding}
    (finds : grammar.Finds ⟨entrance, input, earlier⟩ finding) : finding ∈ found := by
  have split : found = found.take earlier ++ found[earlier] :: found.drop (earlier + 1) := by
    rw [← List.drop_eq_getElem_cons before, List.take_append_drop]
  rw [split] at pulled
  obtain ⟨middle, next, front, pulls⟩ := pulled.split
  have same := finds_of_pulls entered front pulls
  rw [List.length_take_of_le (Nat.le_of_lt before)] at same
  exact finds.unique same ▸ List.getElem_mem before

end Opened

theorem Performs.answers (performs : grammar.Performs desk command findings next) :
    ∀ finding ∈ findings, finding.answers = true := by
  cases performs with
  | entered | refused | absent => exact nofun
  | pulled _ pulls => exact List.forall_mem_singleton.mpr pulls.answers
  | aside pulls => exact pulls.answers

theorem Runs.answers (runs : grammar.Runs desk commands findings last) :
    ∀ finding ∈ findings, finding.answers = true := by
  induction runs with
  | nil => exact nofun
  | cons performs _ ih => exact List.forall_mem_append.mpr ⟨performs.answers, ih⟩

/-- The pulls that come to an end are those that a session with enough fuel answers. -/
theorem exists_runs_iff : (∃ desk, grammar.Runs (fun _ => none) commands findings desk) ↔
    (∀ finding ∈ findings, finding.answers = true) ∧
      ∃ fuel, (Session.run grammar fuel {} commands).1 = findings := by
  constructor
  · intro ran
    obtain ⟨_, runs⟩ := ran
    obtain ⟨fuel, found⟩ := runs.session.exists
    exact ⟨runs.answers, fuel, found {} fun _ => .none⟩
  · intro session
    obtain ⟨answers, fuel, rfl⟩ := session
    exact runs_of_session (fun _ => .none) answers

/-- What a pull finds is settled by the history of the iterator. -/
theorem finds_of_performs {history : History}
    (tracks : grammar.Tracks (desk id) (some history)) {finding : Finding}
    (performs : grammar.Performs desk (.pull id) [finding] next) :
    grammar.Finds history finding := by
  generalize held : desk id = search? at tracks
  cases tracks with
  | some entered before =>
      cases performs with
      | pulled found pulls =>
          cases held.symm.trans found
          exact finds_of_pulls entered before pulls

private theorem isEnd_of_finds {history : History}
    (tracks : grammar.Tracks (desk id) (some history)) {earlier : Nat}
    (before : earlier < history.pulls) {ended : Finding} (isEnd : ended.isEnd = true)
    (finds : grammar.Finds { history with pulls := earlier } ended) :
    (∃ finding after, grammar.Performs desk (.pull id) [finding] after) ∧
      ∀ finding after, grammar.Performs desk (.pull id) [finding] after →
        finding.isEnd = true := by
  generalize held : desk id = search? at tracks
  cases tracks with
  | some entered pulled =>
      have member := mem_of_finds entered pulled before finds
      have nothingLeft := pulled.ended member isEnd
      constructor
      · obtain ⟨finding, after, pulls⟩ := Search.exists_pulls_of_ended nothingLeft
        exact ⟨finding, _, .pulled held pulls⟩
      · intro finding after performs
        cases performs with
        | pulled found pulls =>
            cases held.symm.trans found
            exact pulls.isEnd_of_ended nothingLeft

/-- Opening comes to an end with a search in which no rule was entered and no repetition was run,
whatever the rules are, and with no fuel at all. In whatever order iterators are opened and pulled
then, pulls come to an end where a session answers. Each finds what it would find if there were no
other iterator, and reports the end if an earlier one of the same iterator did. -/
theorem iterators_independent_and_resumable (grammar : Grammar) :
    (∀ entrance input, grammar.admits entrance = true →
      ∃ search, grammar.search entrance input = .ok search ∧ search.adapter.Unstarted ∧
        (∀ other : Grammar, other.entered entrance = grammar.entered entrance →
          other.search entrance input = .ok search) ∧
        ∀ fuel, grammar.iterator fuel entrance input =
          .ok (search.iterator grammar.rules fuel)) ∧
    (∀ commands findings, (∃ desk, grammar.Runs (fun _ => none) commands findings desk) ↔
      (∀ finding ∈ findings, finding.answers = true) ∧
        ∃ fuel, (Session.run grammar fuel {} commands).1 = findings) ∧
    ∀ commands findings desk, grammar.Runs (fun _ => none) commands findings desk →
      ∀ id history, grammar.history id commands = some history →
        (∀ finding after, grammar.Performs desk (.pull id) [finding] after →
          grammar.Finds history finding) ∧
        ∀ earlier < history.pulls, ∀ ended : Finding, ended.isEnd = true →
          grammar.Finds { history with pulls := earlier } ended →
          (∃ finding after, grammar.Performs desk (.pull id) [finding] after) ∧
            ∀ finding after, grammar.Performs desk (.pull id) [finding] after →
              finding.isEnd = true := by
  refine ⟨?_, fun _ _ => exists_runs_iff, ?_⟩
  · intro entrance input admitted
    obtain ⟨search, opened⟩ := admits_iff.mp admitted
    obtain ⟨expr, _, adapter⟩ := adapter_search opened
    refine ⟨search, opened, adapter ▸ expr.unstarted_opened _, ?_, ?_⟩
    · intro other same
      rw [search_congr same, opened]
    · intro fuel
      rw [iterator_eq_map_search, opened]
      rfl
  · intro commands findings desk runs id history found
    have tracks : grammar.Tracks (desk id) (grammar.history id commands) := runs.tracks .none
    rw [found] at tracks
    exact ⟨fun finding after => finds_of_performs tracks, fun earlier before ended isEnd =>
      isEnd_of_finds tracks before isEnd⟩

/-- A rule that only refers to itself, behind a choice that not every input decides. -/
def loopBehindChoice : Grammar where
  rules := Rules.empty.define "loop" (.rule "loop")
  start := .first [.union [.literal "a", .literal "ab"], .rule "loop"]

/-- Two iterators take turns, one that could never be pulled is open, and a sign is parsed. -/
def takingTurns : List Command :=
  [.enter "x" .start "ab", .enter "y" .full "a", .enter "z" (.rule "loop") "b", .pull "x",
    .pull "y", .aside .empty (.literal "-") "--" 1, .pull "x", .pull "y", .pull "x"]

private theorem freeze_loopBehindChoice :
    freeze loopBehindChoice.rules loopBehindChoice.start = .ok loopBehindChoice := by
  apply freeze_of_single_rule rfl
  · simp [loopBehindChoice, Expr.mentions_iff_of_ne_rule, Expr.children]
  · simp

theorem iterators_independent_and_resumable_takingTurns :
    build (fun _ => .ok (loopBehindChoice.rules, loopBehindChoice.start)) = .ok loopBehindChoice ∧
    (∃ search, loopBehindChoice.search (.rule "loop") "b" = .ok search) ∧
    (∀ fuel, (loopBehindChoice.rules.cursor fuel (.rule "loop") "b".toList).pull.1 =
      .halted .outOfFuel) ∧
    loopBehindChoice.history "x" takingTurns = some ⟨.start, "ab", 3⟩ ∧
    ∃ desk, loopBehindChoice.Runs (fun _ => none) takingTurns
        [.parse (.item ⟨.text "a", ['b']⟩), .value (.item (.text "a")),
          .parse (.item ⟨.text "-", ['-']⟩), .parse (.item ⟨.text "ab", []⟩), .value .exhausted,
          .parse .exhausted] desk ∧
      (∃ finding after, loopBehindChoice.Performs desk (.pull "x") [finding] after) ∧
      ∀ finding after, loopBehindChoice.Performs desk (.pull "x") [finding] after →
        loopBehindChoice.Finds ⟨.start, "ab", 3⟩ finding ∧ finding.isEnd = true := by
  obtain ⟨opens, runs, turns⟩ := iterators_independent_and_resumable loopBehindChoice
  obtain ⟨search, opened, _⟩ := opens (.rule "loop") "b" rfl
  obtain ⟨desk, ran⟩ := (runs takingTurns _).mpr ⟨by decide, 1, rfl⟩
  have past : loopBehindChoice.history "x" takingTurns = some ⟨.start, "ab", 3⟩ := rfl
  have ended : loopBehindChoice.Finds ⟨.start, "ab", 2⟩ (.parse .exhausted) :=
    .of_forall fun fuel => ⟨_, rfl, rfl⟩
  obtain ⟨finds, stays⟩ := turns _ _ desk ran "x" _ past
  obtain ⟨again, isEnd⟩ := stays 2 (by decide) _ rfl ended
  refine ⟨freeze_loopBehindChoice, ⟨search, opened⟩, ?_, past, desk, ran, again,
    fun finding after performs => ⟨finds finding after performs, isEnd finding after performs⟩⟩
  intro fuel
  have loops := @Rules.parses_rule_of_itself loopBehindChoice.rules "loop" rfl fuel ['b']
  change (Cursor.mk fun _ => loopBehindChoice.rules.parses fuel (.rule "loop") ['b']).pull.1 = _
  rw [loops]
  rfl

end Grammar

end LazyGrammar
