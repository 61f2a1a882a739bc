import LazyGrammar.Proofs.Arith.Parsing

/-!
# Evaluation

The value of an expression is that of its formula in unbounded integers, unless a node of
the formula fails. Operands are visited before their operator and the left one before the
right one, and the first node that fails gives the error.
-/

set_option autoImplicit false

namespace LazyGrammar.Arith

def Operator.apply : Operator → Int → Int → Int
  | .plus, left, right => left + right
  | .minus, left, right => left - right
  | .times, left, right => left * right
  | .divide, left, right => left.tdiv right

namespace Formula

/-- The value in unbounded integers, with division toward zero, where none is by zero. -/
def exact : Formula → Int
  | .number numeral => Nat.ofDigitChars 10 numeral.digits 0
  | .operation op lhs rhs => op.apply lhs.exact rhs.exact

/-- All formulas inside one, operands before their operator. -/
def postOrder : Formula → List Formula
  | .number numeral => [.number numeral]
  | .operation op lhs rhs => lhs.postOrder ++ (rhs.postOrder ++ [.operation op lhs rhs])

/-- What a node needs in order to have a value, if its operands have theirs. -/
def WithinBounds : Formula → Prop
  | .number numeral => (number numeral).exact ≤ maxInt
  | .operation op lhs rhs =>
      ¬ (op = .divide ∧ rhs.exact = 0) ∧
        minInt ≤ (operation op lhs rhs).exact ∧ (operation op lhs rhs).exact ≤ maxInt

instance : DecidablePred WithinBounds
  | .number numeral => inferInstanceAs (Decidable ((number numeral).exact ≤ maxInt))
  | .operation op lhs rhs =>
      inferInstanceAs (Decidable (¬ (op = .divide ∧ rhs.exact = 0) ∧
        minInt ≤ (operation op lhs rhs).exact ∧ (operation op lhs rhs).exact ≤ maxInt))

def firstFailing? (formula : Formula) : Option Formula :=
  formula.postOrder.find? fun node => ¬ node.WithinBounds

/-- The error of a node that fails, with the exact values of its operands. -/
inductive Fails : Formula → Error → Prop where
  | literal {numeral : Numeral} :
      maxInt < (number numeral).exact →
      Fails (.number numeral) (.literalOutOfRange (String.ofList numeral.digits))
  | division {lhs rhs : Formula} :
      rhs.exact = 0 → Fails (.operation .divide lhs rhs) (.divisionByZero lhs.exact rhs.exact)
  | overflow {op : Operator} {lhs rhs : Formula} :
      ¬ (op = .divide ∧ rhs.exact = 0) →
      (operation op lhs rhs).exact < minInt ∨ maxInt < (operation op lhs rhs).exact →
      Fails (.operation op lhs rhs) (.overflow lhs.exact op.text rhs.exact)

def complaint : Formula → String
  | .number numeral => "integer literal " ++ String.ofList numeral.digits ++ " is out of range"
  | .operation op lhs rhs =>
      (if op = .divide ∧ rhs.exact = 0 then "division by zero in " else "overflow in ") ++
        toString lhs.exact ++ " " ++ op.text ++ " " ++ toString rhs.exact

theorem Fails.message {node : Formula} {error : Error} (fails : Fails node error) :
    error.message = node.complaint := by
  cases fails with
  | literal => rw [complaint.eq_def, Error.message.eq_def]
  | division zero =>
      rw [complaint.eq_def, Error.message.eq_def]
      dsimp only
      rw [if_pos ⟨rfl, zero⟩]
      simp only [String.append_assoc]
      rfl
  | overflow nonzero =>
      rw [complaint.eq_def, Error.message.eq_def]
      dsimp only
      rw [if_neg nonzero]

theorem Fails.not_withinBounds {node : Formula} {error : Error} (fails : Fails node error) :
    ¬ node.WithinBounds := by
  intro within
  cases fails with
  | literal tooLarge => exact Int.not_lt.mpr within tooLarge
  | division zero => exact within.1 ⟨rfl, zero⟩
  | overflow _ outside =>
      rcases outside with tooSmall | tooLarge
      · exact Int.not_lt.mpr within.2.1 tooSmall
      · exact Int.not_lt.mpr within.2.2 tooLarge

theorem Fails.unique {node : Formula} {error other : Error} (fails : Fails node error)
    (otherFails : Fails node other) : error = other := by
  cases fails with
  | literal => cases otherFails; rfl
  | division zero =>
      cases otherFails with
      | division => rfl
      | overflow nonzero => exact (nonzero ⟨rfl, zero⟩).elim
  | overflow nonzero =>
      cases otherFails with
      | division zero => exact (nonzero ⟨rfl, zero⟩).elim
      | overflow => rfl

private theorem firstFailing?_number (numeral : Numeral) :
    (number numeral).firstFailing? =
      if (number numeral).WithinBounds then none else some (number numeral) := by
  simp [firstFailing?, postOrder, List.find?_singleton]

private theorem firstFailing?_operation (op : Operator) (lhs rhs : Formula) :
    (operation op lhs rhs).firstFailing? =
      (lhs.firstFailing?.or (rhs.firstFailing?.or
        (if (operation op lhs rhs).WithinBounds then none else some (operation op lhs rhs)))) := by
  simp [firstFailing?, postOrder, List.find?_singleton, List.find?_append]

private theorem firstFailing?_eq_none_iff {formula : Formula} :
    formula.firstFailing? = none ↔ ∀ node ∈ formula.postOrder, node.WithinBounds := by
  simp [firstFailing?]

end Formula

private theorem inRange_iff {n : Int} : inRange n = true ↔ minInt ≤ n ∧ n ≤ maxInt := by
  simp [inRange]

private theorem literalValue_cases (numeral : Numeral) :
    (literalValue (String.ofList numeral.digits) = .ok (Formula.number numeral).exact ∧
      (Formula.number numeral).WithinBounds) ∨
    ∃ error, literalValue (String.ofList numeral.digits) = .error error ∧
      (Formula.number numeral).Fails error := by
  have value : Int.ofNat (Nat.ofDigitChars 10 (String.ofList numeral.digits).toList 0) =
      (Formula.number numeral).exact := by
    rw [String.toList_ofList]
    rfl
  have nonnegative : minInt ≤ (Formula.number numeral).exact :=
    Int.le_trans (by decide) (Int.natCast_nonneg _)
  rw [literalValue, value]
  by_cases within : (Formula.number numeral).WithinBounds
  · rw [if_pos (inRange_iff.mpr ⟨nonnegative, within⟩)]
    exact .inl ⟨rfl, within⟩
  · rw [if_neg fun bounded => within (inRange_iff.mp bounded).2]
    exact .inr ⟨_, rfl, .literal (Int.not_le.mp within)⟩

private theorem exactResult_text (op : Operator) (left right : Int) :
    exactResult op.text left right =
      if op = .divide ∧ right = 0 then .error (.divisionByZero left right)
      else .ok (op.apply left right) := by
  cases op <;> simp [exactResult, Operator.text, Operator.apply]

/-- One operator, with operands that have their values. -/
private theorem applyOperator_cases (op : Operator) (lhs rhs : Formula) :
    (applyOperator op.text lhs.exact rhs.exact = .ok (Formula.operation op lhs rhs).exact ∧
      (Formula.operation op lhs rhs).WithinBounds) ∨
    ∃ error, applyOperator op.text lhs.exact rhs.exact = .error error ∧
      (Formula.operation op lhs rhs).Fails error := by
  rw [applyOperator, exactResult_text]
  by_cases zero : op = .divide ∧ rhs.exact = 0
  · rw [if_pos zero]
    obtain ⟨rfl, zero⟩ := zero
    exact .inr ⟨_, rfl, .division zero⟩
  · rw [if_neg zero]
    cases bounded : inRange (op.apply lhs.exact rhs.exact) with
    | true =>
        refine .inl ⟨?_, zero, inRange_iff.mp bounded⟩
        simp [bind, Except.bind, bounded, Formula.exact, pure, Except.pure]
    | false =>
        refine .inr ⟨_, ?_, .overflow zero ?_⟩
        · simp [bind, Except.bind, bounded, throw, throwThe, MonadExceptOf.throw]
        · rw [Bool.eq_false_iff, ne_eq, inRange_iff, not_and_or, Int.not_le, Int.not_le] at bounded
          exact bounded

/-- The value of a tree is the exact one, or the error is that of the first node that fails. -/
theorem valueOf_tree (formula : Formula) :
    (formula.firstFailing? = none ∧ valueOf formula.tree = .ok formula.exact) ∨
    ∃ node error, formula.firstFailing? = some node ∧ node.Fails error ∧
      valueOf formula.tree = .error error := by
  induction formula with
  | number numeral =>
      rw [Formula.firstFailing?_number, Formula.tree, valueOf]
      rcases literalValue_cases numeral with ⟨value, within⟩ | ⟨error, failed, fails⟩
      · exact .inl ⟨if_pos within, value⟩
      · exact .inr ⟨_, error, if_neg fails.not_withinBounds, fails, failed⟩
  | operation op lhs rhs lhsIH rhsIH =>
      rw [Formula.firstFailing?_operation, Formula.tree, valueOf]
      rcases lhsIH with ⟨lhsNone, lhsValue⟩ | ⟨node, error, first, fails, failed⟩
      · rw [lhsNone, lhsValue, Option.none_or]
        rcases rhsIH with ⟨rhsNone, rhsValue⟩ | ⟨node, error, first, fails, failed⟩
        · rw [rhsNone, rhsValue, Option.none_or]
          rcases applyOperator_cases op lhs rhs with ⟨value, within⟩ | ⟨error, failed, fails⟩
          · exact .inl ⟨if_pos within, value⟩
          · exact .inr ⟨_, error, if_neg fails.not_withinBounds, fails, failed⟩
        · rw [first, failed]
          exact .inr ⟨node, error, rfl, fails, rfl⟩
      · rw [first, failed]
        exact .inr ⟨node, error, rfl, fails, rfl⟩

private theorem valueOf_tree_eq_ok_iff {formula : Formula} {n : Int} :
    valueOf formula.tree = .ok n ↔
      (∀ node ∈ formula.postOrder, node.WithinBounds) ∧ n = formula.exact := by
  rw [← Formula.firstFailing?_eq_none_iff]
  rcases valueOf_tree formula with ⟨noneFails, value⟩ | ⟨node, error, first, _, failed⟩
  · rw [value, noneFails]
    simp [eq_comm]
  · rw [failed, first]
    simp

private theorem valueOf_tree_eq_error_iff {formula : Formula} {error : Error} :
    valueOf formula.tree = .error error ↔
      ∃ node, formula.firstFailing? = some node ∧ node.Fails error := by
  rcases valueOf_tree formula with ⟨noneFails, value⟩ | ⟨node, other, first, fails, failed⟩
  · rw [value, noneFails]
    simp
  · rw [failed, first]
    constructor
    · intro same
      cases same
      exact ⟨node, rfl, fails⟩
    · intro otherFails
      obtain ⟨_, same, otherFails⟩ := otherFails
      cases same
      rw [fails.unique otherFails]

private theorem evaluate_of_parse_error {source : String} {error : Error}
    (failed : parse source = .error error) : evaluate source = .error error := by
  rw [evaluate, failed]
  rfl

theorem evaluate_of_parse_ok {source : String} {tree : Value} (parsed : parse source = .ok tree) :
    evaluate source = valueOf tree := by
  rw [evaluate, parsed]
  rfl

private theorem exists_formula {source : String} {tree : Value} (parsed : parse source = .ok tree) :
    ∃ formula : Formula, tree = formula.tree := by
  obtain ⟨_, _, formula, _, _, _, same⟩ := parse_eq_ok_iff.mp parsed
  exact ⟨formula, same⟩

/-- Evaluation is exact. What does not parse fails as parsing does. What parses is a formula,
which has its exact value if all its nodes are within bounds, and otherwise the error of the
first of them that is not. It is told what kind of failure this is and which operands met. -/
theorem evaluate_exact (source : String) :
    (∀ error, parse source = .error error → evaluate source = .error error) ∧
    (∀ tree, parse source = .ok tree → ∃ formula : Formula, tree = formula.tree) ∧
    (∀ formula : Formula, parse source = .ok formula.tree →
      (∀ n, evaluate source = .ok n ↔
        (∀ node ∈ formula.postOrder, node.WithinBounds) ∧ n = formula.exact) ∧
      ∀ error, evaluate source = .error error ↔
        ∃ node, formula.firstFailing? = some node ∧ node.Fails error) ∧
    (∀ node error, Formula.Fails node error → error.message = node.complaint) ∧
    ∀ error, evaluate source = .error error →
      (∀ tree, error ≠ .malformedTree tree) ∧ ∀ op, error ≠ .unknownOperator op := by
  refine ⟨fun _ => evaluate_of_parse_error, fun _ => exists_formula, ?_,
    fun _ _ => Formula.Fails.message, ?_⟩
  · intro formula parsed
    rw [evaluate_of_parse_ok parsed]
    exact ⟨fun _ => valueOf_tree_eq_ok_iff, fun _ => valueOf_tree_eq_error_iff⟩
  · intro error failed
    cases parsed : parse source with
    | error parseError =>
        rw [evaluate_of_parse_error parsed] at failed
        cases failed
        obtain ⟨rfl, _⟩ := parse_eq_error_iff.mp parsed
        exact ⟨nofun, nofun⟩
    | ok tree =>
        obtain ⟨formula, rfl⟩ := exists_formula parsed
        rw [evaluate_of_parse_ok parsed, valueOf_tree_eq_error_iff] at failed
        obtain ⟨node, _, fails⟩ := failed
        cases fails <;> exact ⟨nofun, nofun⟩

def Numeral.one : Numeral := ⟨['1'], nofun, List.all_eq_true.mp rfl⟩

def Numeral.zero : Numeral := ⟨['0'], nofun, List.all_eq_true.mp rfl⟩

def Numeral.tooLarge : Numeral := ⟨"9223372036854775808".toList, nofun, List.all_eq_true.mp rfl⟩

/-- A division by zero, and after it a literal that is out of range. -/
def twoFailures : Formula :=
  .operation .plus (.operation .divide (.number .one) (.number .zero)) (.number .tooLarge)

private theorem reads_twoFailures : Reads "1/0+9223372036854775808".toList twoFailures.tree := by
  have number (numeral : Numeral) : Denotes .atom (numeral.digits ++ []) (.number numeral) :=
    .number nofun
  have quotient : Denotes .term ['1', '/', '0']
      (.operation .divide (.number .one) (.number .zero)) :=
    @Denotes.product .divide ['1'] [] ['0'] _ _ (.inr rfl) (number .one) nofun
      (.atom (number .zero))
  have sum := @Denotes.sum .plus ['1', '/', '0'] [] _ _ _ (.inl rfl) quotient nofun
    (.term (.atom (number .tooLarge)))
  exact ⟨[], _, _, rfl, nofun, sum, rfl⟩

theorem evaluate_exact_twoFailures :
    evaluate "1/0+9223372036854775808" = .error (.divisionByZero 1 0) := by
  have parsed : parse "1/0+9223372036854775808" = .ok twoFailures.tree :=
    parse_eq_ok_iff.mpr reads_twoFailures
  obtain ⟨_, _, formulas, _⟩ := evaluate_exact "1/0+9223372036854775808"
  exact ((formulas twoFailures parsed).2 _).mpr ⟨_, rfl, .division rfl⟩

end LazyGrammar.Arith
