import LazyGrammar.Proofs.Arith.Tokens

/-!
# Results of the rules of arithmetic

What the rules find, as lists that are made from the lists of their parts, and how these
are related to the language. A rule goes on after an operand in as many ways as there
are operands, but only the first of them can be followed by an operator of the rule: the
others are beginnings of it, and an operator of a tighter rule follows them.
-/

set_option autoImplicit false

namespace LazyGrammar.Arith

/-- The operators inside the texts of a category, outside of parentheses. -/
def Category.operators : Category → List Operator
  | .expr => [.plus, .minus, .times, .divide]
  | .term => [.times, .divide]
  | .atom => []

/-- No token and no white space goes on here. -/
def Delimited (rest : List Char) : Prop := ∀ c ∈ rest.head?, c.isDigit = false ∧ ¬ Blank c

def BeginsWith (ops : List Operator) (rest : List Char) : Prop :=
  ∃ op ∈ ops, ∃ after, rest = op.symbol :: after

/-- More and more is left, and after all results but the first an operator follows. -/
structure Ordered (category : Category) (items : List Parse) : Prop where
  ascending : items.Pairwise fun first second => first.rest.length < second.rest.length
  stops : ∀ item ∈ items.tail, BeginsWith category.operators item.rest

/-- The results stand for texts of the category at the beginning of the input, and none is
missing for a text that is delimited. -/
structure Found (category : Category) (input : List Char) (items : List Parse) : Prop
    extends Ordered category items where
  sound : ∀ item ∈ items, ∃ text formula,
    Denotes category text formula ∧ input = text ++ item.rest ∧ item.value = formula.tree
  complete : ∀ text formula rest, Denotes category text formula → Delimited rest →
    input = text ++ rest → ⟨formula.tree, rest⟩ ∈ items

private theorem BeginsWith.mono {ops wider : List Operator} {rest : List Char}
    (begins : BeginsWith ops rest) (subset : ops ⊆ wider) : BeginsWith wider rest := by
  obtain ⟨op, member, follows⟩ := begins
  exact ⟨op, subset member, follows⟩

private theorem BeginsWith.apart {ops others : List Operator} {rest : List Char}
    (begins : BeginsWith ops rest) (disjoint : ops.Disjoint others) : ¬ BeginsWith others rest := by
  intro again
  obtain ⟨op, member, after, rfl⟩ := begins
  obtain ⟨other, otherMember, _, same⟩ := again
  obtain rfl := Operator.symbol_injective (List.cons.inj same).1
  exact disjoint member otherMember

theorem length_filterMap_cons_le {α β : Type} {f : α → Option β} {first : α} {others : List α}
    (failed : ∀ other ∈ others, f other = none) :
    ((first :: others).filterMap f).length ≤ 1 := by
  rw [List.filterMap_cons, List.filterMap_eq_nil_iff.mpr failed]
  split <;> simp

private theorem Ordered.of_length_le_one {category : Category} {items : List Parse}
    (single : items.length ≤ 1) : Ordered category items := by
  match items, single with
  | [], _ => exact ⟨.nil, nofun⟩
  | [item], _ => exact ⟨List.pairwise_singleton _ item, nofun⟩

private theorem Ordered.widen {lower upper : Category} {items : List Parse}
    (ordered : Ordered lower items) (subset : lower.operators ⊆ upper.operators) :
    Ordered upper items where
  ascending := ordered.ascending
  stops item member := (ordered.stops item member).mono subset

private theorem Ordered.append {category : Category} {front back : List Parse}
    (frontOrdered : Ordered category front) (backOrdered : Ordered category back)
    (longer : ∀ first ∈ front, ∀ second ∈ back, first.rest.length < second.rest.length)
    (begins : ∀ item ∈ back, BeginsWith category.operators item.rest) :
    Ordered category (front ++ back) where
  ascending := List.pairwise_append.mpr
    ⟨frontOrdered.ascending, backOrdered.ascending, longer⟩
  stops := by
    cases front with
    | nil => exact backOrdered.stops
    | cons head others =>
        intro item member
        rcases List.mem_append.mp member with inFront | inBack
        · exact frontOrdered.stops item inFront
        · exact begins item inBack

private theorem delimited_symbol (op : Operator) (after : List Char) :
    Delimited (op.symbol :: after) := by
  intro c isHead
  cases isHead
  cases op <;> simp [Operator.symbol, Blank]

private theorem delimited_closing (after : List Char) : Delimited (')' :: after) := by
  intro c isHead
  cases isHead
  simp [Blank]

theorem Found.length_rest_lt {category : Category} {input : List Char} {items : List Parse}
    (found : Found category input items) {item : Parse} (member : item ∈ items) :
    item.rest.length < input.length := by
  obtain ⟨text, formula, denotes, rfl, _⟩ := found.sound item member
  obtain ⟨c, others, rfl, _⟩ := denotes.begins
  rw [List.length_append, List.length_cons]
  omega

theorem skipBlanks_operand {category : Category} {gap text rest : List Char} {formula : Formula}
    (blanks : ∀ c ∈ gap, Blank c) (denotes : Denotes category text formula) :
    skipBlanks (gap ++ (text ++ rest)) = text ++ rest := by
  refine skipBlanks_append blanks fun c isHead => ?_
  have solid := denotes.not_blank_head
  obtain ⟨first, others, rfl, _⟩ := denotes.begins
  exact solid c isHead

/-!
## Operands and operators
-/

/-- The results that go on after an operand. -/
def continued (op : Operator) (operands : List Char → List Parse) (lhs : Parse) : List Parse :=
  match afterSymbol? op.symbol lhs.rest with
  | some rest =>
      (operands rest).map fun rhs =>
        ⟨.list [.text op.text, lhs.value, rhs.value], rhs.rest⟩
  | none => []

def chained (one two : Operator) (operands : List Char → List Parse) (lowers : List Parse) :
    List Parse :=
  lowers.flatMap (continued one operands) ++ (lowers.flatMap (continued two operands) ++ lowers)

/-- The texts of a category are chains of texts of a lower one. -/
structure Chains (lower upper : Category) (one two : Operator) : Prop where
  lift {text : List Char} {formula : Formula} :
    Denotes lower text formula → Denotes upper text formula
  join {op : Operator} {left gap right : List Char} {lhs rhs : Formula} :
    op = one ∨ op = two → Denotes lower left lhs → (∀ c ∈ gap, Blank c) →
      Denotes upper right rhs →
      Denotes upper (left ++ op.symbol :: (gap ++ right)) (.operation op lhs rhs)
  cases {text : List Char} {formula : Formula} :
    Denotes upper text formula → Denotes lower text formula ∨
      ∃ op left gap right lhs rhs, (op = one ∨ op = two) ∧ Denotes lower left lhs ∧
        (∀ c ∈ gap, Blank c) ∧ Denotes upper right rhs ∧
        text = left ++ op.symbol :: (gap ++ right) ∧ formula = .operation op lhs rhs
  operators : upper.operators = one :: two :: lower.operators
  distinct : upper.operators.Nodup

theorem sums : Chains .term .expr .plus .minus where
  lift := .term
  join := .sum
  cases := by
    intro text formula denotes
    cases denotes with
    | sum own left blanks right => exact .inr ⟨_, _, _, _, _, _, own, left, blanks, right, rfl, rfl⟩
    | term lower => exact .inl lower
  operators := rfl
  distinct := by decide

theorem products : Chains .atom .term .times .divide where
  lift := .atom
  join := .product
  cases := by
    intro text formula denotes
    cases denotes with
    | product own left blanks right =>
        exact .inr ⟨_, _, _, _, _, _, own, left, blanks, right, rfl, rfl⟩
    | atom lower => exact .inl lower
  operators := rfl
  distinct := by decide

section Chained

variable {lower upper : Category} {one two op : Operator} {input : List Char}
  {operands : List Char → List Parse} {lowers : List Parse} {lhs item : Parse}

private theorem continued_of_rest {after : List Char} (follows : lhs.rest = op.symbol :: after) :
    continued op operands lhs = (operands (skipBlanks after)).map fun rhs =>
      ⟨.list [.text op.text, lhs.value, rhs.value], rhs.rest⟩ := by
  rw [continued, afterSymbol?_eq_some_iff.mpr ⟨after, follows, rfl⟩]

private theorem continued_eq_nil (apart : ¬ BeginsWith [op] lhs.rest) :
    continued op operands lhs = [] := by
  rw [continued]
  split
  next rest isAfter =>
    obtain ⟨after, follows, _⟩ := afterSymbol?_eq_some_iff.mp isAfter
    exact (apart ⟨op, List.mem_singleton_self op, after, follows⟩).elim
  next => rfl

private theorem mem_continued_iff :
    item ∈ continued op operands lhs ↔ ∃ after, lhs.rest = op.symbol :: after ∧
      ∃ rhs ∈ operands (skipBlanks after),
        item = ⟨.list [.text op.text, lhs.value, rhs.value], rhs.rest⟩ := by
  by_cases follows : ∃ after, lhs.rest = op.symbol :: after
  · obtain ⟨after, follows⟩ := follows
    rw [continued_of_rest follows, List.mem_map]
    simp [follows, eq_comm]
  · have apart : ¬ BeginsWith [op] lhs.rest := by simpa [BeginsWith] using follows
    rw [continued_eq_nil apart]
    simp only [List.not_mem_nil, false_iff]
    intro ⟨after, same, _⟩
    exact follows ⟨after, same⟩

private theorem mem_chained_iff :
    item ∈ chained one two operands lowers ↔
      item ∈ lowers ∨ ∃ op, (op = one ∨ op = two) ∧
        ∃ lhs ∈ lowers, item ∈ continued op operands lhs := by
  simp only [chained, List.mem_append, List.mem_flatMap, or_and_right, exists_or, exists_eq_left]
  rw [← or_assoc, or_comm]

/-- Only the first operand is followed by an operator that its own rule does not have. -/
private theorem Found.flatMap_continued {first : Parse} {others : List Parse}
    (found : Found lower input (first :: others)) (foreign : op ∉ lower.operators) :
    (first :: others).flatMap (continued op operands) = continued op operands first := by
  have ended : others.flatMap (continued op operands) = [] := by
    refine List.flatMap_eq_nil_iff.mpr fun item member => continued_eq_nil ?_
    refine (found.stops item member).apart ?_
    exact List.disjoint_singleton.mpr foreign
  rw [List.flatMap_cons, ended, List.append_nil]

/-- A chain is not continued, or its first operand is, by one of the operators. -/
private theorem Found.chained_cases (chains : Chains lower upper one two)
    (found : Found lower input lowers) (operands : List Char → List Parse) :
    chained one two operands lowers = lowers ∨
      ∃ first others op after, lowers = first :: others ∧ (op = one ∨ op = two) ∧
        first.rest = op.symbol :: after ∧
        chained one two operands lowers = continued op operands first ++ lowers := by
  have distinct := chains.distinct
  rw [chains.operators, List.nodup_cons, List.nodup_cons] at distinct
  obtain ⟨oneForeign, twoForeign, _⟩ := distinct
  have apart : one ≠ two := fun same => oneForeign (same ▸ List.mem_cons_self)
  cases lowers with
  | nil => exact .inl rfl
  | cons first others =>
      rw [chained, found.flatMap_continued twoForeign,
        found.flatMap_continued fun member => oneForeign (List.mem_cons_of_mem _ member)]
      by_cases followsOne : BeginsWith [one] first.rest
      · have notTwo := followsOne.apart (List.disjoint_singleton.mpr (by simpa using apart.symm))
        obtain ⟨op, member, after, follows⟩ := followsOne
        obtain rfl := List.mem_singleton.mp member
        refine .inr ⟨first, others, op, after, rfl, .inl rfl, follows, ?_⟩
        rw [continued_eq_nil notTwo, List.nil_append]
      · rw [continued_eq_nil followsOne, List.nil_append]
        by_cases followsTwo : BeginsWith [two] first.rest
        · obtain ⟨op, member, after, follows⟩ := followsTwo
          obtain rfl := List.mem_singleton.mp member
          exact .inr ⟨first, others, op, after, rfl, .inr rfl, follows, rfl⟩
        · exact .inl (by rw [continued_eq_nil followsTwo, List.nil_append])

variable (chains : Chains lower upper one two) (found : Found lower input lowers)
  (operandsFound : ∀ rest, rest.length < input.length → Found upper rest (operands rest))

include found in
private theorem Found.length_operand_lt {after : List Char} (member : lhs ∈ lowers)
    (follows : lhs.rest = op.symbol :: after) :
    (skipBlanks after).length < lhs.rest.length ∧ (skipBlanks after).length < input.length := by
  have shorter := found.length_rest_lt member
  have remains := length_skipBlanks_le after
  rw [follows, List.length_cons] at shorter ⊢
  omega

include chains found operandsFound

private theorem Found.chained_sound (member : item ∈ chained one two operands lowers) :
    ∃ text formula, Denotes upper text formula ∧ input = text ++ item.rest ∧
      item.value = formula.tree := by
  rcases mem_chained_iff.mp member with inLowers | ⟨op, own, lhs, inLowers, goesOn⟩
  · obtain ⟨text, formula, denotes, split, value⟩ := found.sound item inLowers
    exact ⟨text, formula, chains.lift denotes, split, value⟩
  · obtain ⟨after, follows, rhs, inOperands, rfl⟩ := mem_continued_iff.mp goesOn
    obtain ⟨left, leftFormula, leftDenotes, leftEq, leftValue⟩ := found.sound lhs inLowers
    obtain ⟨gap, blanks, afterEq⟩ := exists_blanks after
    have operandFound := operandsFound _ (found.length_operand_lt inLowers follows).2
    obtain ⟨right, rightFormula, rightDenotes, rightEq, rightValue⟩ :=
      operandFound.sound rhs inOperands
    refine ⟨_, _, chains.join own leftDenotes blanks rightDenotes, ?_, ?_⟩
    · rw [leftEq, follows, afterEq, rightEq]
      simp
    · rw [leftValue, rightValue, Formula.tree]

private theorem Found.chained_complete {text rest : List Char} {formula : Formula}
    (denotes : Denotes upper text formula) (delimited : Delimited rest)
    (split : input = text ++ rest) :
    ⟨formula.tree, rest⟩ ∈ chained one two operands lowers := by
  rw [mem_chained_iff]
  rcases chains.cases denotes with
    lowerDenotes |
      ⟨op, left, gap, right, lhs, rhs, own, leftDenotes, blanks, rightDenotes, rfl, rfl⟩
  · exact .inl (found.complete text formula rest lowerDenotes delimited split)
  · have leftSplit : input = left ++ op.symbol :: (gap ++ (right ++ rest)) := by
      rw [split]
      simp
    have leftFound := found.complete left lhs _ leftDenotes (delimited_symbol op _) leftSplit
    have shorter := (found.length_operand_lt leftFound rfl).2
    refine .inr ⟨op, own, _, leftFound, mem_continued_iff.mpr ⟨_, rfl, ⟨rhs.tree, rest⟩, ?_, ?_⟩⟩
    · rw [skipBlanks_operand blanks rightDenotes] at shorter ⊢
      exact (operandsFound _ shorter).complete right rhs rest rightDenotes delimited rfl
    · rw [Formula.tree]

private theorem Found.chained_ordered : Ordered upper (chained one two operands lowers) := by
  have subset : lower.operators ⊆ upper.operators := by
    rw [chains.operators]
    exact List.subset_cons_of_subset _ (List.subset_cons_self _ _)
  rcases found.chained_cases chains operands with
    same | ⟨first, others, op, after, rfl, own, follows, split⟩
  · rw [same]
    exact found.widen subset
  · obtain ⟨operandShorter, shorter⟩ := found.length_operand_lt List.mem_cons_self follows
    have operandFound := operandsFound _ shorter
    have ownMember : op ∈ upper.operators := by
      rw [chains.operators]
      rcases own with rfl | rfl
      · exact List.mem_cons_self
      · exact List.mem_cons_of_mem _ List.mem_cons_self
    have continuedOrdered : Ordered upper (continued op operands first) := by
      rw [continued_of_rest follows]
      refine ⟨List.pairwise_map.mpr operandFound.ascending, fun item member => ?_⟩
      rw [← List.map_tail, List.mem_map] at member
      obtain ⟨rhs, inTail, rfl⟩ := member
      exact operandFound.stops rhs inTail
    rw [split]
    refine continuedOrdered.append (found.widen subset) ?_ ?_
    -- Going on after the first operand leaves less than that operand, which leaves the least.
    · intro item goesOn other inLowers
      obtain ⟨_, again, rhs, inOperands, rfl⟩ := mem_continued_iff.mp goesOn
      obtain rfl := (List.cons.inj (follows.symm.trans again)).2
      have consumed := operandFound.length_rest_lt inOperands
      have firstLeast : first.rest.length ≤ other.rest.length := by
        rcases List.mem_cons.mp inLowers with rfl | inOthers
        · exact Nat.le_refl _
        · exact Nat.le_of_lt (List.rel_of_pairwise_cons found.ascending inOthers)
      exact (consumed.trans operandShorter).trans_le firstLeast
    · intro item inLowers
      rcases List.mem_cons.mp inLowers with rfl | inOthers
      · exact ⟨op, ownMember, after, follows⟩
      · exact (found.stops item inOthers).mono subset

/-- If the operands after an operator are found, so are the results of the rule with it. -/
theorem Found.chain : Found upper input (chained one two operands lowers) where
  toOrdered := found.chained_ordered chains operandsFound
  sound _ member := found.chained_sound chains operandsFound member
  complete _ _ _ denotes delimited split :=
    found.chained_complete chains operandsFound denotes delimited split

end Chained

/-!
## Numbers and parentheses
-/

def closed? (parse : Parse) : Option Parse :=
  (afterSymbol? ')' parse.rest).map fun rest => ⟨parse.value, rest⟩

def parenthesized (inner : List Char → List Parse) (input : List Char) : List Parse :=
  match afterSymbol? '(' input with
  | some rest => (inner rest).filterMap closed?
  | none => []

def atoms (inner : List Char → List Parse) (input : List Char) : List Parse :=
  (number? input).toList ++ parenthesized inner input

private theorem closed?_eq_some_iff {parse item : Parse} :
    closed? parse = some item ↔
      ∃ last, parse.rest = ')' :: last ∧ item = ⟨parse.value, skipBlanks last⟩ := by
  rw [closed?, Option.map_eq_some_iff]
  constructor
  · intro closed
    obtain ⟨rest, isAfter, rfl⟩ := closed
    obtain ⟨last, follows, rfl⟩ := afterSymbol?_eq_some_iff.mp isAfter
    exact ⟨last, follows, rfl⟩
  · intro follows
    obtain ⟨last, follows, rfl⟩ := follows
    exact ⟨skipBlanks last, afterSymbol?_eq_some_iff.mpr ⟨last, follows, rfl⟩, rfl⟩

section Atoms

variable {inner : List Char → List Parse} {input : List Char} {item : Parse}

private theorem parenthesized_cons (after : List Char) :
    parenthesized inner ('(' :: after) = (inner (skipBlanks after)).filterMap closed? := by
  rw [parenthesized, afterSymbol?_eq_some_iff.mpr ⟨after, rfl, rfl⟩]

private theorem parenthesized_eq_nil (apart : ∀ after, input ≠ '(' :: after) :
    parenthesized inner input = [] := by
  rw [parenthesized]
  split
  next rest isAfter =>
    obtain ⟨after, begins, _⟩ := afterSymbol?_eq_some_iff.mp isAfter
    exact (apart after begins).elim
  next => rfl

private theorem mem_parenthesized_iff :
    item ∈ parenthesized inner input ↔ ∃ after, input = '(' :: after ∧
      ∃ parse ∈ inner (skipBlanks after), ∃ last, parse.rest = ')' :: last ∧
        item = ⟨parse.value, skipBlanks last⟩ := by
  by_cases begins : ∃ after, input = '(' :: after
  · obtain ⟨after, rfl⟩ := begins
    simp [parenthesized_cons, closed?_eq_some_iff]
  · rw [parenthesized_eq_nil (not_exists.mp begins)]
    simp only [List.not_mem_nil, false_iff]
    intro ⟨after, same, _⟩
    exact begins ⟨after, same⟩

private theorem Found.length_filterMap_closed?_le {category : Category} {items : List Parse}
    (found : Found category input items) : (items.filterMap closed?).length ≤ 1 := by
  cases items with
  | nil => exact Nat.zero_le 1
  | cons first others =>
      refine length_filterMap_cons_le fun other member => ?_
      rw [Option.eq_none_iff_forall_ne_some]
      intro item closed
      obtain ⟨last, follows, _⟩ := closed?_eq_some_iff.mp closed
      obtain ⟨op, _, after, begins⟩ := found.stops other member
      rw [follows] at begins
      cases op <;> cases begins

variable (innerFound : ∀ rest, rest.length < input.length → Found .expr rest (inner rest))

include innerFound

private theorem length_atoms_le : (atoms inner input).length ≤ 1 := by
  rw [atoms]
  by_cases begins : ∃ after, input = '(' :: after
  · obtain ⟨after, rfl⟩ := begins
    have remains := length_skipBlanks_le after
    rw [parenthesized_cons]
    exact (innerFound _ (Nat.lt_succ_of_le remains)).length_filterMap_closed?_le
  · rw [parenthesized_eq_nil (not_exists.mp begins), List.append_nil]
    exact Option.length_toList_le

private theorem atoms_sound (member : item ∈ atoms inner input) :
    ∃ text formula, Denotes .atom text formula ∧ input = text ++ item.rest ∧
      item.value = formula.tree := by
  rw [atoms, List.mem_append, Option.mem_toList] at member
  rcases member with isNumber | isParenthesized
  · obtain ⟨numeral, after, rfl, _, rfl⟩ := number?_eq_some_iff.mp isNumber
    obtain ⟨gap, blanks, afterEq⟩ := exists_blanks after
    refine ⟨_, _, .number blanks, ?_, rfl⟩
    rw [List.append_assoc, ← afterEq]
  · obtain ⟨after, rfl, parse, isInner, last, follows, rfl⟩ :=
      mem_parenthesized_iff.mp isParenthesized
    have shorter := Nat.lt_succ_of_le (length_skipBlanks_le after)
    obtain ⟨text, formula, denotes, innerEq, value⟩ := (innerFound _ shorter).sound parse isInner
    obtain ⟨gap, blanks, afterEq⟩ := exists_blanks after
    obtain ⟨lastGap, lastBlanks, lastEq⟩ := exists_blanks last
    refine ⟨_, _, .parentheses blanks denotes lastBlanks, ?_, value⟩
    rw [afterEq, innerEq, follows]
    simp [← lastEq]

private theorem atoms_complete {text rest : List Char} {formula : Formula}
    (denotes : Denotes .atom text formula) (delimited : Delimited rest)
    (split : input = text ++ rest) : ⟨formula.tree, rest⟩ ∈ atoms inner input := by
  rw [atoms, List.mem_append, Option.mem_toList]
  cases denotes with
  | @number numeral gap blanks =>
      refine .inl (number?_eq_some_iff.mpr ⟨numeral, gap ++ rest, ?_, ?_, ?_⟩)
      · rw [split, List.append_assoc]
      · intro c isHead
        cases gap with
        | nil => exact (delimited c isHead).1
        | cons blank others =>
            cases isHead
            rw [Bool.eq_false_iff]
            exact fun digit => not_blank_of_isDigit digit (blanks c List.mem_cons_self)
      · rw [skipBlanks_append blanks fun c isHead => (delimited c isHead).2, Formula.tree]
  | @parentheses gap inside last _ blanks denotes lastBlanks =>
      refine .inr (mem_parenthesized_iff.mpr
        ⟨gap ++ (inside ++ ')' :: (last ++ rest)), ?_, ⟨formula.tree, ')' :: (last ++ rest)⟩, ?_,
          last ++ rest, rfl, ?_⟩)
      · rw [split]
        simp
      · rw [skipBlanks_operand blanks denotes]
        refine (innerFound _ ?_).complete _ _ _ denotes (delimited_closing _) rfl
        rw [split]
        simp only [List.length_append, List.length_cons]
        omega
      · rw [skipBlanks_append lastBlanks fun c isHead => (delimited c isHead).2]

theorem found_atoms : Found .atom input (atoms inner input) where
  toOrdered := .of_length_le_one (length_atoms_le innerFound)
  sound _ := atoms_sound innerFound
  complete _ _ _ := atoms_complete innerFound

end Atoms

end LazyGrammar.Arith
