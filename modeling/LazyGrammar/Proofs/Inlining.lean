import LazyGrammar.Proofs.Approximation
import LazyGrammar.Proofs.References

/-!
# Definitions in the place of references

Whether a grammar refers to a rule or has the definition of the rule in the place of
the reference makes no difference to any answer, also where the rule refers to itself.
A definition in the place of a reference saves the call of the rule, so that no run
needs more fuel after the change than before it. The other way, what one call does
after the change takes two calls before it at most: that of the rule itself, and that
of a rule whose definition was put into it.
-/

set_option autoImplicit false

namespace LazyGrammar

namespace Cursor

variable {α : Type} {cursor other : Nat → Cursor α} {limit : Nat} {found : List α × Stop}

/-- With enough fuel all of the first pulls answer, and then always in this way. -/
def Settles (cursor : Nat → Cursor α) (limit : Nat) (found : List α × Stop) : Prop :=
  (∀ why, found.2 ≠ .halted why) ∧
    ∃ enough, ∀ fuel, enough ≤ fuel → (cursor fuel).pullUpTo limit = found

/-- However many pulls there are, they answer for the one exactly if they do for the other, with
the same items and the same end. -/
def SettleAlike (cursor other : Nat → Cursor α) : Prop :=
  ∀ limit found, Settles cursor limit found ↔ Settles other limit found

/-- Every run of the one is followed by all later runs of the other. -/
def FollowedBy (cursor other : Nat → Cursor α) : Prop :=
  ∀ fuel, ∃ enough, ∀ more, enough ≤ more →
    ((cursor fuel).resume ()).Approximates Eq ((other more).resume ())

private theorem Settles.of_followedBy (settles : Settles cursor limit found)
    (followed : FollowedBy cursor other) : Settles other limit found := by
  obtain ⟨answered, enough, stays⟩ := settles
  have settled := stays enough (Nat.le_refl enough)
  have answers : (cursor enough).Answers limit := by
    rw [Answers, settled]
    exact answered
  obtain ⟨otherEnough, follows⟩ := followed enough
  refine ⟨answered, otherEnough, fun more le => ?_⟩
  rw [pullUpTo_eq_of_approximates (follows more le) answers, settled]

/-- One answer is enough for pulls to settle, if more fuel only adds to what was found. -/
theorem settles_iff_of_grows
    (grows : ∀ fuel more, fuel ≤ more →
      ((cursor fuel).resume ()).Approximates Eq ((cursor more).resume ())) :
    Settles cursor limit found ↔
      (∀ why, found.2 ≠ .halted why) ∧ ∃ fuel, (cursor fuel).pullUpTo limit = found := by
  refine and_congr_right fun answered => ⟨fun settles => ?_, fun once => ?_⟩
  · obtain ⟨enough, stays⟩ := settles
    exact ⟨enough, stays enough (Nat.le_refl enough)⟩
  · obtain ⟨fuel, rfl⟩ := once
    exact ⟨fuel, fun more le => pullUpTo_eq_of_approximates (grows fuel more le) answered⟩

theorem settleAlike_of_followedBy (followed : FollowedBy cursor other)
    (follows : FollowedBy other cursor) : SettleAlike cursor other := by
  intro limit found
  constructor
  · intro settles
    exact settles.of_followedBy followed
  · intro settles
    exact settles.of_followedBy follows

end Cursor

namespace Rules

variable {rules other : Rules} {fuel : Nat} {expr twin : Expr}

theorem settles_iff {input : List Char} {limit : Nat} {found : List Parse × Stop} :
    Cursor.Settles (rules.cursor · expr input) limit found ↔
      (∀ why, found.2 ≠ .halted why) ∧
        ∃ fuel, (rules.cursor fuel expr input).pullUpTo limit = found :=
  Cursor.settles_iff_of_grows fun _ _ le => rules.parses_approximates_self le expr input

/-- Some references are replaced by what their rules are defined as. -/
def Inlines (rules : Rules) : Expr → Expr → Prop :=
  Expr.SameButFor fun part definition =>
    ∃ name, part = .rule name ∧ rules.get? name = some definition

/-- The same names are bound, and in their definitions some references are replaced. -/
def InlinedAs (rules other : Rules) : Prop :=
  ∀ name, Option.Rel rules.Inlines (rules.get? name) (other.get? name)

theorem parses_rule_of_bound {name : String} {definition : Expr}
    (bound : rules.get? name = some definition) (input : List Char) :
    rules.parses (fuel + 1) (.rule name) input = rules.parses fuel definition input := by
  rw [parses, Expr.parsesWith, call, bound, parses]

private theorem Inlines.approximates
    (calls : ∀ name input,
      (rules.call fuel name input).Approximates Eq (other.call fuel name input))
    (inlined : rules.Inlines expr twin) (input : List Char) :
    (rules.parses fuel expr input).Approximates Eq (other.parses fuel twin input) := by
  refine Expr.SameButFor.approximates (Nat.le_refl fuel) calls
    (fun part definition replaced rest => ?_) inlined input
  obtain ⟨name, rfl, bound⟩ := replaced
  have called := rules.parses_approximates_self (Nat.le_succ fuel) (.rule name) rest
  rw [parses_rule_of_bound bound] at called
  exact called.trans (Expr.parsesWith_approximates (Nat.le_refl fuel) calls definition rest)

private theorem Inlines.approximates_back {more : Nat} (le : fuel ≤ more)
    (calls : ∀ name input,
      (other.call fuel name input).Approximates Eq (rules.call more name input))
    (inlined : rules.Inlines expr twin) (input : List Char) :
    (other.parses fuel twin input).Approximates Eq (rules.parses (more + 1) expr input) := by
  have callsAgain (name : String) (rest : List Char) :
      (other.call fuel name rest).Approximates Eq (rules.call (more + 1) name rest) :=
    (calls name rest).trans (rules.parses_approximates_self (Nat.le_succ more) (.rule name) rest)
  refine Expr.SameButFor.approximates (Nat.le_succ_of_le le) callsAgain
    (fun definition part replaced rest => ?_) inlined.flip input
  obtain ⟨name, rfl, bound⟩ := replaced
  have behind : (other.parses fuel definition rest).Approximates Eq
      (rules.parses more definition rest) :=
    Expr.parsesWith_approximates le calls definition rest
  rw [← parses_rule_of_bound bound] at behind
  exact behind

private theorem InlinedAs.get?_cases (inlined : rules.InlinedAs other) (name : String) :
    (rules.get? name = none ∧ other.get? name = none) ∨
      ∃ definition twin, rules.get? name = some definition ∧ other.get? name = some twin ∧
        rules.Inlines definition twin := by
  have definitions := inlined name
  generalize rules.get? name = bound at definitions
  generalize other.get? name = twinBound at definitions
  cases definitions with
  | none => exact .inl ⟨rfl, rfl⟩
  | some same => exact .inr ⟨_, _, rfl, rfl, same⟩

private theorem InlinedAs.call_approximates (inlined : rules.InlinedAs other) (fuel : Nat)
    (name : String)
    (input : List Char) :
    (rules.call fuel name input).Approximates Eq (other.call fuel name input) := by
  induction fuel generalizing name input with
  | zero => exact .outOfFuel
  | succ fuel ih =>
      rw [call, call]
      rcases inlined.get?_cases name with
        ⟨unbound, twinUnbound⟩ | ⟨definition, twin, bound, twinBound, same⟩
      · rw [unbound, twinUnbound]
        exact .halted
      · rw [bound, twinBound]
        exact same.approximates ih input

/-- Two calls stand for each one: that of the rule, and that of a reference in its definition in the
place of which another definition was put. -/
private theorem InlinedAs.call_approximates_back (inlined : rules.InlinedAs other) (fuel : Nat)
    (name : String) (input : List Char) :
    (other.call fuel name input).Approximates Eq (rules.call (2 * fuel) name input) := by
  induction fuel generalizing name input with
  | zero => exact .outOfFuel
  | succ fuel ih =>
      rw [Nat.mul_succ, call, call]
      rcases inlined.get?_cases name with
        ⟨unbound, twinUnbound⟩ | ⟨definition, twin, bound, twinBound, same⟩
      · rw [unbound, twinUnbound]
        exact .halted
      · rw [bound, twinBound]
        exact same.approximates_back (Nat.le_mul_of_pos_left fuel Nat.two_pos) ih input

theorem InlinedAs.settleAlike (inlined : rules.InlinedAs other) (same : rules.Inlines expr twin)
    (input : List Char) :
    Cursor.SettleAlike (rules.cursor · expr input) (other.cursor · twin input) := by
  refine Cursor.settleAlike_of_followedBy (fun fuel => ⟨fuel, fun more le => ?_⟩)
    fun fuel => ⟨2 * fuel + 1, fun more le => ?_⟩
  · have follows := same.approximates (inlined.call_approximates fuel) input
    exact follows.trans (other.parses_approximates_self le twin input)
  · have follows := same.approximates_back (Nat.le_mul_of_pos_left fuel Nat.two_pos)
      (inlined.call_approximates_back fuel) input
    exact follows.trans (rules.parses_approximates_self le expr input)

/-!
## Grammars
-/

private theorem InlinedAs.contains (inlined : rules.InlinedAs other) (name : String) :
    other.contains name = rules.contains name := by
  rw [Rules.contains, Rules.contains]
  rcases inlined.get?_cases name with ⟨unbound, twinUnbound⟩ | ⟨_, _, bound, twinBound, _⟩
  · rw [unbound, twinUnbound]
  · rw [bound, twinBound, Option.isSome_some, Option.isSome_some]

/-- What is put in is a definition, and so it mentions bound names only. -/
private theorem InlinedAs.resolves {start : Expr} (inlined : rules.InlinedAs other)
    (complete : rules.Complete start) (same : rules.Inlines expr twin)
    (resolves : rules.Resolves expr) : other.Resolves twin := by
  intro name mentioned
  rw [inlined.contains]
  rcases same.mentions mentioned with before | ⟨_, definition, ⟨rule, rfl, bound⟩, inDefinition⟩
  · exact resolves name before
  · exact complete.definition rule definition bound name inDefinition

private theorem InlinedAs.complete {start twinStart : Expr} (inlined : rules.InlinedAs other)
    (complete : rules.Complete start) (same : rules.Inlines start twinStart) :
    other.Complete twinStart where
  start := inlined.resolves complete same complete.start
  definition name twin twinBound := by
    rcases inlined.get?_cases name with
      ⟨_, twinUnbound⟩ | ⟨definition, found, bound, foundBound, same⟩
    · rw [twinUnbound] at twinBound
      cases twinBound
    · obtain rfl := Option.some.inj (foundBound.symm.trans twinBound)
      exact inlined.resolves complete same (complete.definition name definition bound)

end Rules

namespace Grammar

/-- Some references, in the start expression and in definitions, are replaced by what their rules
are defined as. -/
structure InlinedAs (grammar other : Grammar) : Prop where
  start : grammar.rules.Inlines grammar.start other.start
  rules : grammar.rules.InlinedAs other.rules

/-- Whichever references of a grammar are replaced by the definitions of their rules, also those of
a rule to itself, the outcome is a grammar. From the start expression and from every rule, any
number of first pulls answer in the one exactly if they do in the other, with the same items and
the same end. -/
theorem references_transparent {assemble : Rules → Except GrammarError (Rules × Expr)}
    {grammar other : Grammar} (built : build assemble = .ok grammar)
    (inlined : grammar.InlinedAs other) (input : String) :
    freeze other.rules other.start = .ok other ∧
    Cursor.SettleAlike (grammar.parse · input) (other.parse · input) ∧
    ∀ name definition, grammar.rules.get? name = some definition →
      ∃ cursor twin : Nat → Cursor Parse,
        (∀ fuel, grammar.parseRule fuel name input = .ok (cursor fuel)) ∧
        (∀ fuel, other.parseRule fuel name input = .ok (twin fuel)) ∧
        Cursor.SettleAlike cursor twin := by
  have complete := complete_of_build built
  refine ⟨freeze_eq_ok_iff.mpr ⟨rfl, inlined.rules.complete complete inlined.start⟩,
    inlined.rules.settleAlike inlined.start input.toList, fun name definition bound => ?_⟩
  rcases inlined.rules.get?_cases name with
    ⟨unbound, _⟩ | ⟨found, twin, foundBound, twinBound, same⟩
  · rw [unbound] at bound
    cases bound
  · exact ⟨_, _, fun fuel => parseRule_eq_ok foundBound fuel input,
      fun fuel => parseRule_eq_ok twinBound fuel input,
      inlined.rules.settleAlike same input.toList⟩

def marks : Expr := .union [.literal "x", .seq (.literal "x") (.rule "marks")]

def twiceMarks : Grammar where
  rules := Rules.empty.define "marks" marks
  start := .seq (.rule "marks") (.rule "marks")

/-- The second reference of the start expression is replaced, and that of the rule to itself. -/
def twiceUnrolled : Grammar where
  rules := Rules.empty.define "marks" (.union [.literal "x", .seq (.literal "x") marks])
  start := .seq (.rule "marks") marks

private theorem freeze_twiceMarks : freeze twiceMarks.rules twiceMarks.start = .ok twiceMarks := by
  apply freeze_of_single_rule rfl
  · simp [twiceMarks, Expr.mentions_iff_of_ne_rule, Expr.children]
  · simp [marks, Expr.mentions_iff_of_ne_rule, Expr.children]

private theorem inlinedAs_twiceUnrolled : twiceMarks.InlinedAs twiceUnrolled where
  start := .seq .rule (.change ⟨"marks", rfl, rfl⟩)
  rules name := by
    rw [twiceMarks, twiceUnrolled, Rules.get?_define_empty, Rules.get?_define_empty]
    split
    · refine .some (.unionOf (.cons .literal (.cons (.seq .literal (.change ?_)) .nil)))
      exact ⟨"marks", rfl, rfl⟩
    · exact .none

theorem references_transparent_twiceMarks :
    build (fun _ => .ok (twiceMarks.rules, twiceMarks.start)) = .ok twiceMarks ∧
    twiceMarks.InlinedAs twiceUnrolled ∧
    Cursor.Settles (twiceUnrolled.parse · "xxx") 4
      ([⟨.pair (.text "x") (.text "x"), ['x']⟩,
        ⟨.pair (.text "x") (.pair (.text "x") (.text "x")), []⟩,
        ⟨.pair (.pair (.text "x") (.text "x")) (.text "x"), []⟩], .exhausted) := by
  have settles : Cursor.Settles (twiceMarks.parse · "xxx") 4
      ([⟨.pair (.text "x") (.text "x"), ['x']⟩,
        ⟨.pair (.text "x") (.pair (.text "x") (.text "x")), []⟩,
        ⟨.pair (.pair (.text "x") (.text "x")) (.text "x"), []⟩], .exhausted) :=
    Rules.settles_iff.mpr ⟨nofun, 5, by decide⟩
  obtain ⟨_, alike, _⟩ := @references_transparent
    (fun _ => .ok (twiceMarks.rules, twiceMarks.start)) _ _ freeze_twiceMarks
    inlinedAs_twiceUnrolled "xxx"
  exact ⟨freeze_twiceMarks, inlinedAs_twiceUnrolled, (alike _ _).mp settles⟩

end Grammar

end LazyGrammar
