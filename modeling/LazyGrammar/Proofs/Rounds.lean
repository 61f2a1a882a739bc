import LazyGrammar.Proofs.Chains
import LazyGrammar.Proofs.Consumption

/-!
# Rounds of a repetition

Whether the rounds of a repetition come to an end. A result that leaves all that there was is
there again in the next round, and so a chain that meets one goes on for ever. If no chain
meets any, every link consumes, and no chain has more links than the input has characters.
-/

set_option autoImplicit false

namespace LazyGrammar

namespace Rules

/-- Along some chain there is a result that leaves all that the chain left. -/
def Idles (rules : Rules) (inner : Expr) (input : List Char) : Prop :=
  ∃ links, rules.Chain inner input links ∧ ∃ index parse,
    rules.Pulls inner (Repeated.along input links).rest index parse ∧
      parse.rest = (Repeated.along input links).rest

variable {rules : Rules} {inner : Expr} {input : List Char} {links : List Link} {link : Link}

theorem Pulls.derives {expr : Expr} {index : Nat} {parse : Parse}
    (pulls : rules.Pulls expr input index parse) : rules.Derives expr input parse := by
  obtain ⟨_, pulled⟩ := pulls
  exact derives_of_pulled (List.mem_of_getElem? pulled)

private theorem Idles.of_pulls (pulls : rules.Pulls inner input link.index link.parse)
    (same : link.parse.rest = input) : rules.Idles inner input :=
  ⟨[], .nil, link.index, link.parse, pulls, same⟩

private theorem Idles.cons (pulls : rules.Pulls inner input link.index link.parse)
    (later : rules.Idles inner link.parse.rest) : rules.Idles inner input := by
  obtain ⟨links, chain, index, parse, again, same⟩ := later
  exact ⟨link :: links, .cons pulls chain, index, parse, again, same⟩

/-- Without idling every link takes a character at least. -/
private theorem Chain.length_le (chain : rules.Chain inner input links)
    (busy : ¬ rules.Idles inner input) :
    links.length + (Repeated.along input links).rest.length ≤ input.length := by
  induction chain with
  | nil => exact Nat.le_of_eq (Nat.zero_add _)
  | @cons input link others pulls _ ih =>
      have isEnd := pulls.derives.rest_suffix
      have consumes : link.parse.rest.length < input.length := by
        refine Nat.lt_of_le_of_ne isEnd.length_le fun same => ?_
        exact busy (.of_pulls pulls (isEnd.eq_of_length same))
      have behind := ih fun later => busy (.cons pulls later)
      calc (link :: others).length + (Repeated.along link.parse.rest others).rest.length
          = others.length + (Repeated.along link.parse.rest others).rest.length + 1 := by
            rw [List.length_cons, Nat.add_right_comm]
        _ ≤ link.parse.rest.length + 1 := Nat.succ_le_succ behind
        _ ≤ input.length := consumes

private theorem Chain.replicate (pulls : rules.Pulls inner input link.index link.parse)
    (same : link.parse.rest = input) (length : Nat) :
    rules.Chain inner input (List.replicate length link) := by
  induction length with
  | zero => exact .nil
  | succ length ih => exact .cons pulls (same.symm ▸ ih)

private theorem Idles.exists_chain (idles : rules.Idles inner input) (length : Nat) :
    ∃ links, rules.Chain inner input links ∧ length ≤ links.length := by
  obtain ⟨links, chain, index, parse, pulls, same⟩ := idles
  have again := @Chain.replicate _ _ _ ⟨index, parse⟩ pulls same length
  refine ⟨_, chain.append again, ?_⟩
  rw [List.length_append, List.length_replicate]
  exact Nat.le_add_left length links.length

private theorem LongestChains.not_idles {length : Nat} {chains : List (List Link)}
    (longest : rules.LongestChains inner input length chains) : ¬ rules.Idles inner input := by
  intro idles
  obtain ⟨links, chain, longer⟩ := idles.exists_chain (length + 1)
  have le := longest.isGreatest.2 ⟨links, chain, rfl⟩
  exact absurd longer (Nat.not_lt_of_le le)

theorem exists_rounds_of_not_idles {results : List Char → List Parse}
    (yields : ∀ rest, rest <:+ input → rules.Yields inner rest (results rest))
    (busy : ¬ rules.Idles inner input) :
    ∃ rounds, (∀ round ≤ rounds, ∀ branch ∈ frontierAfter results [.start input] round,
        rules.Yields inner branch.rest (results branch.rest)) ∧
      frontierAfter results [.start input] rounds ≠ [] ∧
      frontierAfter results [.start input] (rounds + 1) = [] := by
  have suffixes : ∀ rest, rest <:+ input → ∀ parse ∈ results rest, parse.rest <:+ rest :=
    fun rest isEnd parse produced => ((yields rest isEnd).derives parse produced).rest_suffix
  have onBranches (round : Nat) : ∀ branch ∈ frontierAfter results [.start input] round,
      rules.Yields inner branch.rest (results branch.rest) :=
    fun branch member => yields branch.rest (rest_suffix_of_mem_frontierAfter suffixes member)
  have ended : frontierAfter results [.start input] (input.length + 1) = [] := by
    rw [frontierAfter_eq_map_chainsOf, List.map_eq_nil_iff, List.eq_nil_iff_forall_not_mem]
    intro links member
    have length := length_of_mem_chainsOf member
    have chain := (Chain.iff_mem_chainsOf fun round _ => onBranches round).mpr
      (length.symm ▸ member)
    have le := chain.length_le busy
    omega
  obtain ⟨rounds, alive, dead⟩ := exists_last_round ended
  exact ⟨rounds, fun round _ => onBranches round, alive, dead⟩

/-- If what is repeated ends on all ends of the input, the repetition stops exactly if no result
along a chain leaves all that there was. It then goes through at most one round a character. -/
theorem many_stops_iff_not_idles {rules : Rules} {inner : Expr} {input : List Char}
    (ends : ∀ rest, rest <:+ input →
      ∃ fuel items, (rules.cursor fuel inner rest).RunsOut items) :
    ((∃ fuel, (rules.cursor fuel (.many inner) input).Answers 1) ↔ ¬ rules.Idles inner input) ∧
    ((∃ enough, ∀ fuel, enough ≤ fuel → (rules.cursor fuel (.many inner) input).Answers 1) ↔
      ¬ rules.Idles inner input) ∧
    ∀ fuel, (rules.cursor fuel (.many inner) input).Answers 1 →
      ∃ rounds last, Performs (rules.parses fuel inner) [⟨[], input⟩] rounds last ∧
        (rules.cursor fuel (.many inner) input).RunsOut (last.map (Branch.parse [])) ∧
        rounds ≤ input.length := by
  have performed {fuel : Nat} (answers : (rules.cursor fuel (.many inner) input).Answers 1) :
      ¬ rules.Idles inner input ∧
      ∃ rounds last, Performs (rules.parses fuel inner) [⟨[], input⟩] rounds last ∧
        (rules.cursor fuel (.many inner) input).RunsOut (last.map (Branch.parse [])) ∧
        rounds ≤ input.length := by
    obtain ⟨rounds, last, performs, runsOut⟩ := exists_performs_of_answers answers
    have longest := longestChains_of_performs performs
    obtain ⟨links, chain, rfl⟩ := longest.isGreatest.1
    have le := chain.length_le longest.not_idles
    exact ⟨longest.not_idles, _, last, performs, runsOut, by omega⟩
  have stops (busy : ¬ rules.Idles inner input) :
      ∃ enough, ∀ fuel, enough ≤ fuel → (rules.cursor fuel (.many inner) input).Answers 1 := by
    choose! fuel results runsOut using ends
    obtain ⟨rounds, onBranches, alive, dead⟩ :=
      exists_rounds_of_not_idles (fun rest isEnd => .of_runsOut (runsOut rest isEnd)) busy
    obtain ⟨enough, found⟩ := (Yields.many onBranches alive dead).eventually_runsOut
    exact ⟨enough, fun fuel le => (found fuel le).answers 1⟩
  refine ⟨⟨?_, fun busy => ?_⟩, ⟨?_, stops⟩, fun fuel answers => (performed answers).2⟩
  · rintro ⟨fuel, answers⟩
    exact (performed answers).1
  · obtain ⟨enough, answers⟩ := stops busy
    exact ⟨enough, answers enough (Nat.le_refl enough)⟩
  · rintro ⟨enough, answers⟩
    exact (performed (answers enough (Nat.le_refl enough))).1

/-- A mark, and nothing at the end of the input. -/
def markOrEnd : Expr := .union [.literal "!", .full (.literal "")]

private theorem markOrEnd_ends (input : List Char) :
    ∃ fuel items, (empty.cursor fuel markOrEnd input).RunsOut items := by
  have each : ∀ alternative ∈ [Expr.literal "!", .full (.literal "")],
      ∃ items, empty.Yields alternative input items := by
    rw [List.forall_mem_cons, List.forall_mem_singleton]
    exact ⟨⟨_, .of_literalParse?⟩, ⟨_, .full .of_literalParse?⟩⟩
  choose! results yields using each
  obtain ⟨enough, runsOut⟩ := (Yields.union yields).eventually_runsOut
  exact ⟨enough, _, runsOut enough (Nat.le_refl enough)⟩

/-- Behind the mark either something else stands in the way of the end, or the end is reached. -/
theorem many_stops_iff_not_idles_markOrEnd :
    ¬ empty.Idles markOrEnd "!?".toList ∧ empty.Idles markOrEnd "!".toList ∧
    ∀ fuel, ¬ (empty.cursor fuel (.many markOrEnd) "!".toList).Answers 1 := by
  have stops : (empty.cursor 2 (.many markOrEnd) "!?".toList).Answers 1 := by
    intro why halted
    cases halted
  have idles : empty.Idles markOrEnd "!".toList := by
    have mark : empty.Pulls markOrEnd "!".toList 0 ⟨.text "!", []⟩ := ⟨1, rfl⟩
    have atEnd : empty.Pulls markOrEnd [] 0 ⟨.text "", []⟩ := ⟨1, rfl⟩
    exact @Idles.cons _ _ _ ⟨0, _⟩ mark (@Idles.of_pulls _ _ _ ⟨0, _⟩ atEnd rfl)
  obtain ⟨busy_iff, _⟩ := @many_stops_iff_not_idles empty markOrEnd "!?".toList
    fun rest _ => markOrEnd_ends rest
  obtain ⟨idle_iff, _⟩ := @many_stops_iff_not_idles empty markOrEnd "!".toList
    fun rest _ => markOrEnd_ends rest
  exact ⟨busy_iff.mp ⟨2, stops⟩, idles, fun fuel answers => idle_iff.mp ⟨fuel, answers⟩ idles⟩

end Rules

end LazyGrammar
