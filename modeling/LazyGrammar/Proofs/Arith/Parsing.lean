import LazyGrammar.Proofs.Arith.Results
import LazyGrammar.Proofs.Arith.Rules

/-!
# Parsing arithmetic

With fuel in proportion to the input every rule comes to an end and has found what its
category says. From there it is known what is parsed from the start: the tree of an
expression that uses up the input, of which there is at most one.
-/

set_option autoImplicit false

namespace LazyGrammar.Arith

namespace Category

def name : Category → String
  | .expr => "expr"
  | .term => "term"
  | .atom => "atom"

/-- How many rules are called before the next token. -/
def height : Category → Nat
  | .expr => 3
  | .term => 2
  | .atom => 1

end Category

/-- A rule comes to an end and has found what it should. -/
def Finds (fuel : Nat) (category : Category) (input : List Char) : Prop :=
  ∃ items, rules.call fuel category.name input = .ofList items ∧ Found category input items

/-!
## One rule
-/

section Expressions

variable {rounds : Nat} {call : String → List Char → Enumeration Parse} {input : List Char}
  {operands : List Char → List Parse} {lowers : List Parse} {lhs rhs : Expr}

private theorem parsesWith_binary (op : Operator)
    (left : lhs.parsesWith rounds call input = .ofList lowers)
    (short : ∀ parse ∈ lowers, parse.rest.length ≤ rounds)
    (right : ∀ parse ∈ lowers, ∀ rest, afterSymbol? op.symbol parse.rest = some rest →
      rhs.parsesWith rounds call rest = .ofList (operands rest)) :
    (binary lhs op.text rhs).parsesWith rounds call input =
      .ofList (lowers.flatMap (continued op operands)) := by
  rw [binary, Expr.parsesWith, Expr.parsesWith, left, Enumeration.map_flatMap]
  refine Enumeration.flatMap_ofList fun parse member => ?_
  rw [Enumeration.map_map, Expr.parsesWith, parsesWith_word op.text_toList (short parse member),
    continued]
  cases isAfter : afterSymbol? op.symbol parse.rest with
  | none => rfl
  | some rest =>
      rw [Option.map_some, Enumeration.ofOption, Enumeration.flatMap_single,
        right parse member rest isAfter, Enumeration.map_ofList, Enumeration.map_ofList,
        List.map_map]
      rfl

private theorem parsesWith_chain (one two : Operator)
    (left : lhs.parsesWith rounds call input = .ofList lowers)
    (short : ∀ parse ∈ lowers, parse.rest.length ≤ rounds)
    (right : ∀ parse ∈ lowers, ∀ op rest, afterSymbol? (Operator.symbol op) parse.rest = some rest →
      rhs.parsesWith rounds call rest = .ofList (operands rest)) :
    (Expr.union [binary lhs one.text rhs, binary lhs two.text rhs, lhs]).parsesWith rounds call
      input = .ofList (chained one two operands lowers) := by
  have goesOn (op : Operator) := parsesWith_binary op left short fun parse member rest =>
    right parse member op rest
  rw [Expr.parsesWith, Expr.unionParses, Expr.unionParses, Expr.unionParses, Expr.unionParses,
    goesOn one, goesOn two, left, Enumeration.append_done, chained]
  refine Enumeration.append_eq_ofList_iff.mpr ⟨_, _, rfl, ?_, rfl⟩
  exact Enumeration.append_eq_ofList_iff.mpr ⟨_, _, rfl, rfl, rfl⟩

private theorem parsesWith_closing {items : List Parse} (inner : call "expr" input = .ofList items)
    (short : ∀ parse ∈ items, parse.rest.length ≤ rounds) :
    (Expr.left (.rule "expr") (Lexical.word ")")).parsesWith rounds call input =
      .ofList (items.filterMap closed?) := by
  rw [Expr.left, Expr.parsesWith, Expr.parsesWith, Expr.parsesWith, inner,
    Enumeration.map_flatMap, List.filterMap_eq_flatMap_toList]
  refine Enumeration.flatMap_ofList fun parse member => ?_
  have closing : ")".toList = [')'] := rfl
  rw [Enumeration.map_map, parsesWith_word closing (short parse member), Enumeration.map_ofOption,
    Enumeration.ofOption_eq_ofList, Option.map_map]
  rfl

private theorem parsesWith_atom (enough : input.length ≤ rounds)
    (inside : ∀ rest, afterSymbol? '(' input = some rest →
      call "expr" rest = .ofList (operands rest) ∧
        ∀ parse ∈ operands rest, parse.rest.length ≤ rounds) :
    atomDefinition.parsesWith rounds call input = .ofList (atoms operands input) := by
  rw [atomDefinition, Expr.parsesWith, Expr.unionParses, Expr.unionParses, Expr.unionParses,
    parsesWith_number enough, Enumeration.append_done, atoms, Enumeration.ofOption_eq_ofList]
  refine Enumeration.append_eq_ofList_iff.mpr ⟨_, _, rfl, ?_, rfl⟩
  have opening : "(".toList = ['('] := rfl
  rw [Expr.right, Expr.parsesWith, Expr.parsesWith, parsesWith_word opening enough, parenthesized]
  cases isAfter : afterSymbol? '(' input with
  | none => rfl
  | some rest =>
      obtain ⟨inner, short⟩ := inside rest isAfter
      rw [Option.map_some, Enumeration.ofOption, Enumeration.flatMap_single,
        parsesWith_closing inner short, Enumeration.map_map]
      exact Enumeration.map_id _

end Expressions

/-!
## All rules
-/

private theorem exists_operands {fuel bound : Nat} {category : Category}
    (finds : ∀ rest : List Char, rest.length < bound → Finds fuel category rest) :
    ∃ operands : List Char → List Parse, ∀ rest, rest.length < bound →
      rules.call fuel category.name rest = .ofList (operands rest) ∧
        Found category rest (operands rest) := by
  refine ⟨fun rest => (rules.call fuel category.name rest).toList, fun rest shorter => ?_⟩
  obtain ⟨items, ends, found⟩ := finds rest shorter
  simp only [ends, Enumeration.toList_ofList, true_and]
  exact found

private theorem Finds.chain {lower upper : Category} {one two : Operator} {fuel : Nat}
    {input : List Char} (chains : Chains lower upper one two)
    (bound : rules.get? upper.name = some (.union
      [binary (.rule lower.name) one.text (.rule upper.name),
        binary (.rule lower.name) two.text (.rule upper.name), .rule lower.name]))
    (lowerFinds : Finds fuel lower input)
    (upperFinds : ∀ rest : List Char, rest.length < input.length → Finds fuel upper rest)
    (enough : input.length ≤ fuel) : Finds (fuel + 1) upper input := by
  obtain ⟨lowers, lowerEnds, lowerFound⟩ := lowerFinds
  obtain ⟨operands, operandsFound⟩ := exists_operands upperFinds
  have short (parse : Parse) (member : parse ∈ lowers) : parse.rest.length < input.length :=
    lowerFound.length_rest_lt member
  refine ⟨chained one two operands lowers, ?_,
    lowerFound.chain chains fun rest shorter => (operandsFound rest shorter).2⟩
  rw [Rules.call, bound]
  refine parsesWith_chain one two ?_ (fun parse member => ?_) fun parse member op rest isAfter => ?_
  · rw [Expr.parsesWith, lowerEnds]
  · exact Nat.le_trans (Nat.le_of_lt (short parse member)) enough
  · rw [Expr.parsesWith]
    exact (operandsFound rest ((length_lt_of_afterSymbol? isAfter).trans (short parse member))).1

private theorem Finds.atom {fuel : Nat} {input : List Char}
    (exprFinds : ∀ rest : List Char, rest.length < input.length → Finds fuel .expr rest)
    (enough : input.length ≤ fuel) : Finds (fuel + 1) .atom input := by
  obtain ⟨operands, operandsFound⟩ := exists_operands exprFinds
  refine ⟨atoms operands input, ?_,
    found_atoms fun rest shorter => (operandsFound rest shorter).2⟩
  have bound : rules.get? Category.atom.name = some atomDefinition :=
    get?_eq_some_iff.mpr (.inl ⟨rfl, rfl⟩)
  rw [Rules.call, bound]
  refine parsesWith_atom enough fun rest isAfter => ?_
  have shorter := length_lt_of_afterSymbol? isAfter
  obtain ⟨ends, found⟩ := operandsFound rest shorter
  refine ⟨ends, fun parse member => ?_⟩
  exact Nat.le_of_lt ((found.length_rest_lt member).trans (shorter.trans_le enough))

/-- Rules that are called on the same input are lower, and between them and the next call of
`expr` there is a token. -/
theorem finds (fuel : Nat) (category : Category) (input : List Char)
    (enough : 4 * input.length + category.height ≤ fuel) : Finds fuel category input := by
  induction fuel generalizing category input with
  | zero => cases category <;> simp [Category.height] at enough
  | succ fuel ih =>
      have rounds : input.length ≤ fuel := by
        cases category <;> simp only [Category.height] at enough <;> omega
      -- A character less leaves four units more: one for this call, three for the lower rules.
      have onRest (other : Category) (rest : List Char) (shorter : rest.length < input.length) :
          Finds fuel other rest := by
        refine ih other rest ?_
        cases category <;> cases other <;> simp only [Category.height] at enough ⊢ <;> omega
      cases category with
      | atom => exact .atom (onRest .expr) rounds
      | term =>
          have bound : rules.get? Category.term.name = some termDefinition :=
            get?_eq_some_iff.mpr (.inr (.inr ⟨rfl, rfl⟩))
          refine .chain products bound (ih .atom input ?_) (onRest .term) rounds
          simp only [Category.height] at enough ⊢
          omega
      | expr =>
          have bound : rules.get? Category.expr.name = some exprDefinition :=
            get?_eq_some_iff.mpr (.inr (.inl ⟨rfl, rfl⟩))
          refine .chain sums bound (ih .term input ?_) (onRest .expr) rounds
          simp only [Category.height] at enough ⊢
          omega

/-!
## From the start
-/

private theorem parses_start {fuel : Nat} {source : String}
    (enough : source.length < fuel) :
    (grammar.parse fuel source).resume () =
      rules.call fuel "expr" (skipBlanks source.toList) := by
  have blanks := @Lexical.parsesWith_whitespace fuel (rules.call fuel) source.toList enough
  rw [Grammar.parse, Rules.cursor, Rules.parses, grammar, start, Expr.right, Expr.parsesWith,
    Expr.parsesWith, blanks, Enumeration.flatMap_single, Enumeration.map_map, Rules.reference,
    Expr.parsesWith]
  exact Enumeration.map_id _

/-- The parses from the start come to an end, and are those of an expression. -/
theorem exists_parses {fuel : Nat} {source : String} (enough : fuelFor source ≤ fuel) :
    ∃ items, (grammar.parse fuel source).resume () = .ofList items ∧
      Found .expr (skipBlanks source.toList) items := by
  rw [fuelFor] at enough
  have shorter := length_skipBlanks_le source.toList
  rw [parses_start (by omega)]
  refine finds fuel .expr (skipBlanks source.toList) ?_
  rw [String.length_toList] at shorter
  simp only [Category.height]
  omega

theorem completeValue?_eq_some_iff {parse : Parse} {tree : Value} :
    Grammar.completeValue? parse = some tree ↔ parse = ⟨tree, []⟩ := by
  obtain ⟨value, rest⟩ := parse
  cases rest <;> simp [Grammar.completeValue?]

/-- Only the first parse can use up the input, since the later ones leave more. -/
theorem Ordered.length_completeValues_le {category : Category} {items : List Parse}
    (ordered : Ordered category items) :
    (items.filterMap Grammar.completeValue?).length ≤ 1 := by
  cases items with
  | nil => exact Nat.zero_le 1
  | cons first others =>
      refine length_filterMap_cons_le fun other member => ?_
      rw [Option.eq_none_iff_forall_ne_some]
      intro tree complete
      have longer := List.rel_of_pairwise_cons ordered.ascending member
      rw [completeValue?_eq_some_iff.mp complete] at longer
      exact Nat.not_lt_zero _ longer

private theorem Found.mem_completeValues_iff {source : List Char} {items : List Parse}
    (found : Found .expr (skipBlanks source) items) (tree : Value) :
    tree ∈ items.filterMap Grammar.completeValue? ↔ Reads source tree := by
  simp only [List.mem_filterMap, completeValue?_eq_some_iff, exists_eq_right]
  constructor
  · intro member
    obtain ⟨text, formula, denotes, split, value⟩ := found.sound _ member
    obtain ⟨gap, blanks, sourceEq⟩ := exists_blanks source
    rw [List.append_nil] at split
    exact ⟨gap, text, formula, split ▸ sourceEq, blanks, denotes, value⟩
  · intro reads
    obtain ⟨gap, text, formula, rfl, blanks, denotes, rfl⟩ := reads
    have whole := @skipBlanks_operand .expr gap text [] formula blanks denotes
    rw [List.append_nil] at whole
    refine found.complete text formula [] denotes nofun ?_
    rw [whole, List.append_nil]

/-- The first full parse is that of the only tree, and without any the end is reported. -/
private theorem parseFirst_cases {fuel : Nat} {source : String} (enough : fuelFor source ≤ fuel) :
    (∃ tree, grammar.parseFirst fuel source = .item tree ∧
      ∀ other, Reads source.toList other ↔ other = tree) ∨
    (grammar.parseFirst fuel source = .exhausted ∧ ∀ tree, ¬ Reads source.toList tree) := by
  obtain ⟨items, ends, found⟩ := exists_parses enough
  have single := found.length_completeValues_le
  have reads := found.mem_completeValues_iff
  rw [Grammar.parseFirst, Grammar.parseFull, Cursor.pull, ends, Enumeration.filterMap_ofList]
  cases values : items.filterMap Grammar.completeValue? with
  | nil =>
      refine .inr ⟨rfl, fun tree isRead => ?_⟩
      have member := (reads tree).mpr isRead
      rw [values] at member
      cases member
  | cons tree others =>
      rw [values] at single
      obtain rfl := List.length_eq_zero_iff.mp (Nat.le_zero.mp (Nat.le_of_succ_le_succ single))
      refine .inl ⟨tree, rfl, fun other => ?_⟩
      rw [← reads, values, List.mem_singleton]

theorem parse_eq_ok_iff {source : String} {tree : Value} :
    parse source = .ok tree ↔ Reads source.toList tree := by
  rw [parse]
  rcases parseFirst_cases (Nat.le_refl (fuelFor source)) with ⟨only, found, reads⟩ | ⟨ended, unread⟩
  · rw [found, reads]
    simp [eq_comm]
  · rw [ended]
    simp [unread tree]

theorem parse_eq_error_iff {source : String} {error : Error} :
    parse source = .error error ↔
      error = .notExpression source ∧ ∀ tree, ¬ Reads source.toList tree := by
  rw [parse]
  rcases parseFirst_cases (Nat.le_refl (fuelFor source)) with ⟨only, found, reads⟩ | ⟨ended, unread⟩
  · rw [found]
    simp [reads]
  · rw [ended]
    simp [unread, eq_comm]

/-- Parsing comes to an end on every text. It succeeds exactly with the trees of the expressions
that the text stands for, and says otherwise that there are none. -/
theorem parse_recognizes (source : String) :
    (∀ fuel, fuelFor source ≤ fuel →
      (∀ why, grammar.parseFirst fuel source ≠ .halted why) ∧
      grammar.parseFirst fuel source = grammar.parseFirst (fuelFor source) source) ∧
    (∀ tree, parse source = .ok tree ↔ Reads source.toList tree) ∧
    (∀ error, parse source = .error error ↔
      error = .notExpression source ∧ ∀ tree, ¬ Reads source.toList tree) ∧
    (Error.notExpression source).message =
      Quoted.text source ++ " is not an arithmetic expression" := by
  refine ⟨fun fuel enough => ?_, fun _ => parse_eq_ok_iff, fun _ => parse_eq_error_iff, rfl⟩
  rcases parseFirst_cases enough with ⟨tree, found, reads⟩ | ⟨ended, unread⟩
  · rcases parseFirst_cases (Nat.le_refl (fuelFor source)) with
      ⟨other, otherFound, otherReads⟩ | ⟨_, unread⟩
    · have same : other = tree := (reads other).mp ((otherReads other).mpr rfl)
      rw [found, otherFound, same]
      exact ⟨nofun, rfl⟩
    · exact (unread tree ((reads tree).mpr rfl)).elim
  · rcases parseFirst_cases (Nat.le_refl (fuelFor source)) with
      ⟨other, _, otherReads⟩ | ⟨otherEnded, _⟩
    · exact (unread other ((otherReads other).mpr rfl)).elim
    · rw [ended, otherEnded]
      exact ⟨nofun, rfl⟩

end LazyGrammar.Arith
