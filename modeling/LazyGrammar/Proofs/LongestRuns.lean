import LazyGrammar.Proofs.Chains

/-!
# Repetitions of either kind

Behind each first result, a repetition of at least one goes on as far as it gets from there,
also where it gets further behind another one. A repetition of any number keeps only what
gets furthest of all. So it selects the longest of the lists that the other kind finds.
-/

set_option autoImplicit false

namespace LazyGrammar

def Value.length? (value : Value) : Option Nat := value.asList?.map List.length

/-!
## Runs behind a first result
-/

/-- What a number of rounds behind a first result finds, with that result in front. -/
def runsBehind (results : List Char → List Parse) (rounds : Nat) (head : Parse) : List Parse :=
  (frontierAfter results [.start head.rest] rounds).map fun branch =>
    ⟨.list (head.value :: branch.values), branch.rest⟩

section Runs

variable {results : List Char → List Parse} {input : List Char} {head : Parse} {rounds last : Nat}

private theorem length?_of_mem_runsBehind {parse : Parse}
    (member : parse ∈ runsBehind results rounds head) :
    parse.value.length? = some (rounds + 1) := by
  obtain ⟨branch, inFrontier, rfl⟩ := List.mem_map.mp member
  have length := length_values_of_mem_frontierAfter inFrontier
  simp [Value.length?, Value.asList?, length]

private theorem runsBehind_ne_nil (alive : frontierAfter results [.start head.rest] rounds ≠ []) :
    runsBehind results rounds head ≠ [] := fun empty => alive (List.map_eq_nil_iff.mp empty)

private theorem flatMap_runsBehind_eq_nil_iff {lastBehind : Parse → Nat}
    (alive : ∀ head ∈ results input,
      frontierAfter results [.start head.rest] (lastBehind head) ≠ []) :
    (results input).flatMap (fun head => runsBehind results (lastBehind head) head) = [] ↔
      results input = [] := by
  rw [List.flatMap_eq_nil_iff, List.eq_nil_iff_forall_not_mem]
  refine forall_congr' fun head => forall_congr' fun member => ?_
  exact iff_false_intro (runsBehind_ne_nil (alive head member))

private theorem map_parse_frontierAfter_succ :
    ((frontierAfter results [.start input] (rounds + 1)).map fun branch =>
        (⟨.list branch.values, branch.rest⟩ : Parse)) =
      (results input).flatMap (runsBehind results rounds) := by
  rw [frontierAfter_start_succ, List.map_flatMap]
  refine List.flatMap_congr fun head _ => ?_
  rw [List.map_map]
  rfl

private theorem frontierAfter_start_succ_eq_nil_iff :
    frontierAfter results [.start input] (rounds + 1) = [] ↔
      ∀ head ∈ results input, frontierAfter results [.start head.rest] rounds = [] := by
  simp only [frontierAfter_start_succ, List.flatMap_eq_nil_iff, List.map_eq_nil_iff]

/-- After some number of rounds there is what has that length of all that is found, if the rounds
behind the head come to an end by then. -/
private theorem runsBehind_eq_filter
    (dead : frontierAfter results [.start head.rest] (last + 1) = []) (le : last ≤ rounds) :
    runsBehind results rounds head = (runsBehind results last head).filter fun parse =>
      parse.value.length? == some (rounds + 1) := by
  rcases Nat.lt_or_eq_of_le le with earlier | rfl
  · have ended : runsBehind results rounds head = [] :=
      List.map_eq_nil_iff.mpr (frontierAfter_eq_nil_of_le dead earlier)
    rw [ended, eq_comm, List.filter_eq_nil_iff]
    intro parse member
    rw [length?_of_mem_runsBehind member]
    simpa using Nat.ne_of_lt earlier
  · rw [eq_comm, List.filter_eq_self]
    intro parse member
    rw [length?_of_mem_runsBehind member]
    exact beq_self_eq_true _

section Heads

variable {lastBehind : Parse → Nat}
  (alive : ∀ head ∈ results input,
    frontierAfter results [.start head.rest] (lastBehind head) ≠ [])
  (dead : ∀ head ∈ results input,
    frontierAfter results [.start head.rest] (lastBehind head + 1) = [])

include alive dead

/-- The last round from an input is one after the last round behind the head that gets furthest. -/
private theorem exists_furthest_head
    (aliveHere : frontierAfter results [.start input] (last + 1) ≠ [])
    (deadHere : frontierAfter results [.start input] (last + 2) = []) :
    (∃ head ∈ results input, lastBehind head = last) ∧
      ∀ head ∈ results input, lastBehind head ≤ last := by
  rw [ne_eq, frontierAfter_start_succ_eq_nil_iff] at aliveHere
  rw [frontierAfter_start_succ_eq_nil_iff] at deadHere
  have within : ∀ head ∈ results input, lastBehind head ≤ last := by
    intro head member
    by_contra further
    exact (frontierAfter_ne_nil_iff (alive head member) (dead head member)).mpr
      (Nat.lt_of_not_le further) (deadHere head member)
  refine ⟨?_, within⟩
  by_contra! never
  refine aliveHere fun head member => ?_
  have earlier := Nat.lt_of_le_of_ne (within head member) (never head member)
  exact frontierAfter_eq_nil_of_le (dead head member) earlier

private theorem longest_runs (furthest : ∃ head ∈ results input, lastBehind head = last)
    (within : ∀ head ∈ results input, lastBehind head ≤ last) {runs : List Parse}
    (runs_eq : runs = (results input).flatMap fun head =>
      runsBehind results (lastBehind head) head) :
    (∃ parse ∈ runs, parse.value.length? = some (last + 1)) ∧
      (∀ parse ∈ runs, ∃ length ≤ last + 1, parse.value.length? = some length) ∧
      (results input).flatMap (runsBehind results last) =
        runs.filter fun parse => parse.value.length? == some (last + 1) := by
  subst runs_eq
  refine ⟨?_, fun parse member => ?_, ?_⟩
  · obtain ⟨head, member, rfl⟩ := furthest
    obtain ⟨parse, found⟩ :=
      List.exists_mem_of_ne_nil _ (runsBehind_ne_nil (alive head member))
    exact ⟨parse, List.mem_flatMap.mpr ⟨head, member, found⟩, length?_of_mem_runsBehind found⟩
  · obtain ⟨head, inHeads, found⟩ := List.mem_flatMap.mp member
    exact ⟨_, Nat.succ_le_succ (within head inHeads), length?_of_mem_runsBehind found⟩
  · rw [List.filter_flatMap]
    exact List.flatMap_congr fun head member =>
      runsBehind_eq_filter (dead head member) (within head member)

end Heads

end Runs

/-!
## Both kinds
-/

namespace Rules

variable {rules : Rules} {inner : Expr} {input : List Char} {fuel : Nat} {items : List Parse}
  {results : List Char → List Parse}

private theorem runsBehind_of_runsOut
    (results_eq : results = fun rest => (rules.parses fuel inner rest).toList)
    (runsOut : (rules.cursor fuel (.many1 inner) input).RunsOut items) :
    (rules.cursor fuel inner input).RunsOut (results input) ∧
    ∃ rounds : Parse → Nat,
      (∀ head ∈ results input, frontierAfter results [.start head.rest] (rounds head) ≠ []) ∧
      (∀ head ∈ results input, frontierAfter results [.start head.rest] (rounds head + 1) = []) ∧
      items = (results input).flatMap fun head => runsBehind results (rounds head) head := by
  have ends := Cursor.runsOut_iff.mp runsOut
  rw [cursor, parses_many1] at ends
  obtain ⟨heads, innerEnds, partsEnd, rfl⟩ := Enumeration.flatMap_eq_ofList_iff.mp ends
  have headsEq : results input = heads := by
    subst results_eq
    exact (congrArg Enumeration.toList innerEnds).trans (Enumeration.toList_ofList heads)
  rw [headsEq]
  choose! rounds _ alive dead part using fun head (member : head ∈ heads) =>
    endsOn_of_repetitionParses results_eq (partsEnd head member)
  exact ⟨Cursor.runsOut_iff.mpr innerEnds, rounds, alive, dead, List.flatMap_congr part⟩

theorem parses_many1_eq_cons (rules : Rules) (fuel : Nat) (inner : Expr) (input : List Char) :
    rules.parses fuel (.many1 inner) input =
      rules.parses fuel (.cons inner (.many inner)) input := by
  rw [parses_many1, Expr.cons, parses_map, parses_seq, Enumeration.map_flatMap]
  congr 1
  funext head
  rw [parses_many, repetitionParses, repetitionParses, Enumeration.map_map, Enumeration.map_map]
  rfl

section BothEnd

variable {more : Nat} {longestRuns runs : List Parse}

theorem many1_eq_nil_iff (many1Ends : (rules.cursor more (.many1 inner) input).RunsOut runs) :
    runs = [] ↔ (rules.cursor more inner input).RunsOut [] := by
  obtain ⟨headsEnd, lastBehind, alive, _, runsEq⟩ := runsBehind_of_runsOut rfl many1Ends
  rw [runsEq, flatMap_runsBehind_eq_nil_iff alive]
  constructor
  · intro empty
    rwa [empty] at headsEnd
  · exact headsEnd.unique

private theorem longestRuns_of_runsOut
    (manyEnds : (rules.cursor fuel (.many inner) input).RunsOut longestRuns)
    (many1Ends : (rules.cursor more (.many1 inner) input).RunsOut runs) :
    (runs = [] → longestRuns = [⟨.list [], input⟩]) ∧
    (runs ≠ [] → ∃ longest, (∃ parse ∈ runs, parse.value.length? = some longest) ∧
      (∀ parse ∈ runs, ∃ length ≤ longest, parse.value.length? = some length) ∧
      longestRuns = runs.filter fun parse => parse.value.length? == some longest) := by
  -- Both are compared with what is repeated by as much fuel as either of them had.
  let enough := max fuel more
  let results (rest : List Char) : List Parse := (rules.parses enough inner rest).toList
  obtain ⟨rounds, _, alive, dead, longestEq⟩ := @endsOn_of_repetitionParses _ results _ _ _ _ rfl
    (Cursor.runsOut_iff.mp (runsOut_of_le (Nat.le_max_left fuel more) manyEnds))
  obtain ⟨_, lastBehind, headsAlive, headsDead, runsEq⟩ :=
    @runsBehind_of_runsOut _ _ _ _ _ results rfl
      (runsOut_of_le (Nat.le_max_right fuel more) many1Ends)
  have empty_iff : runs = [] ↔ results input = [] := by
    rw [runsEq, flatMap_runsBehind_eq_nil_iff headsAlive]
  cases rounds with
  | zero =>
      refine ⟨fun _ => longestEq, fun nonempty => (nonempty (empty_iff.mpr ?_)).elim⟩
      exact results_eq_nil_of_extendAll dead (.start input) (List.mem_singleton_self _)
  | succ last =>
      refine ⟨fun ended => (alive (frontierAfter_start_succ_eq_nil_iff.mpr ?_)).elim, fun _ => ?_⟩
      · rw [empty_iff.mp ended]
        exact nofun
      · obtain ⟨furthest, within⟩ := exists_furthest_head headsAlive headsDead alive dead
        have selected := longest_runs headsAlive headsDead furthest within runsEq
        rw [← longestEq.trans map_parse_frontierAfter_succ] at selected
        exact ⟨last + 1, selected⟩

end BothEnd

/-- Where both kinds of repetition end, that of at least one finds nothing exactly if what it
repeats does, and then the other kind finds the empty list only. Otherwise the other kind finds the
longest of its lists. Whether they end or not, every pull of it answers like one of the other kind
behind a first item. -/
theorem many_selects_longest_runs (rules : Rules) (inner : Expr) (input : List Char) :
    (∀ fuel more longestRuns runs,
      (rules.cursor fuel (.many inner) input).RunsOut longestRuns →
      (rules.cursor more (.many1 inner) input).RunsOut runs →
      (runs = [] ↔ (rules.cursor more inner input).RunsOut []) ∧
      (runs = [] → longestRuns = [⟨.list [], input⟩]) ∧
      (runs ≠ [] → ∃ longest, (∃ parse ∈ runs, parse.value.length? = some longest) ∧
        (∀ parse ∈ runs, ∃ length ≤ longest, parse.value.length? = some length) ∧
        longestRuns = runs.filter fun parse => parse.value.length? == some longest)) ∧
    ∀ fuel limit, (rules.cursor fuel (.many1 inner) input).pullUpTo limit =
      (rules.cursor fuel (.cons inner (.many inner)) input).pullUpTo limit := by
  constructor
  · intro fuel more longestRuns runs manyEnds many1Ends
    exact ⟨many1_eq_nil_iff many1Ends, longestRuns_of_runsOut manyEnds many1Ends⟩
  · intro fuel limit
    rw [cursor, cursor, parses_many1_eq_cons]

theorem many_selects_longest_runs_marks :
    (empty.cursor 3 (.many marks) "!!".toList).RunsOut
      (.replicate 4 ⟨.list [.text "!", .text "!"], []⟩) ∧
    ∃ runs, (empty.cursor 3 (.many1 marks) "!!".toList).RunsOut runs ∧ runs.length = 5 ∧
      ∃ longest, List.replicate 4 ⟨.list [.text "!", .text "!"], []⟩ =
        runs.filter fun parse => parse.value.length? == some longest := by
  have manyEnds : (empty.cursor 3 (.many marks) "!!".toList).RunsOut
      (.replicate 4 ⟨.list [.text "!", .text "!"], []⟩) := Cursor.runsOut_iff.mpr rfl
  have many1Ends : (empty.cursor 3 (.many1 marks) "!!".toList).RunsOut
      [⟨.list [.text "!", .text "!"], []⟩, ⟨.list [.text "!", .text "!"], []⟩,
        ⟨.list [.text "!!"], []⟩, ⟨.list [.text "!", .text "!"], []⟩,
        ⟨.list [.text "!", .text "!"], []⟩] := Cursor.runsOut_iff.mpr rfl
  obtain ⟨_, _, selects⟩ := (many_selects_longest_runs empty marks _).1 3 3 _ _ manyEnds many1Ends
  obtain ⟨longest, _, _, selected⟩ := selects (List.cons_ne_nil _ _)
  exact ⟨manyEnds, _, many1Ends, rfl, longest, selected⟩

end Rules

end LazyGrammar
