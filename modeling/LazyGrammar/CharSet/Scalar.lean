/-!
# Scalar values by rank

The characters are numbered without a gap: the rank of a character is its
position among all Unicode scalar values in code point order. Ranks turn "the
next character" into "one more", also across the surrogates `U+D800` to
`U+DFFF`, which are no characters. The numbering keeps the order and is a
bijection onto the numbers below `scalarCount`.
-/

set_option autoImplicit false

namespace LazyGrammar

/-- The number of Unicode scalar values: all code points but the 2048 surrogates. -/
def scalarCount : Nat := 0x10F800

/-- Position of a character among all characters in code point order. -/
def rank (c : Char) : Nat :=
  if c.toNat < 0xD800 then c.toNat else c.toNat - 0x800

/-- The character at a rank. Numbers that are no rank give `U+0000`. -/
def ofRank (n : Nat) : Char :=
  if n < 0xD800 then Char.ofNat n else Char.ofNat (n + 0x800)

private theorem toNat_valid (c : Char) :
    c.toNat < 0xD800 ∨ 0xDFFF < c.toNat ∧ c.toNat < 0x110000 := c.valid

private theorem toNat_ofNat_of_valid {n : Nat}
    (valid : n < 0xD800 ∨ 0xDFFF < n ∧ n < 0x110000) : (Char.ofNat n).toNat = n := by
  have isValid : n.isValidChar := valid
  have same : Char.ofNat n = Char.ofNatAux n isValid := dif_pos isValid
  rw [same]
  rfl

theorem rank_lt_scalarCount (c : Char) : rank c < scalarCount := by
  have valid := toNat_valid c
  unfold rank scalarCount
  split <;> omega

theorem ofRank_rank (c : Char) : ofRank (rank c) = c := by
  have valid := toNat_valid c
  unfold rank
  split
  · rw [ofRank, if_pos (by assumption), Char.ofNat_toNat]
  · rw [ofRank, if_neg (by omega), Nat.sub_add_cancel (by omega), Char.ofNat_toNat]

theorem rank_ofRank {n : Nat} (bounded : n < scalarCount) : rank (ofRank n) = n := by
  unfold scalarCount at bounded
  unfold ofRank
  split
  · rw [rank, toNat_ofNat_of_valid (by omega), if_pos (by assumption)]
  · rw [rank, toNat_ofNat_of_valid (by omega), if_neg (by omega), Nat.add_sub_cancel]

theorem rank_injective {a b : Char} (same : rank a = rank b) : a = b := by
  rw [← ofRank_rank a, same, ofRank_rank]

theorem rank_eq_rank_iff {a b : Char} : rank a = rank b ↔ a = b :=
  ⟨rank_injective, fun same => same ▸ rfl⟩

theorem rank_le_rank_iff {a b : Char} : rank a ≤ rank b ↔ a ≤ b := by
  have validA := toNat_valid a
  have validB := toNat_valid b
  have order : a ≤ b ↔ a.toNat ≤ b.toNat := by
    rw [Char.le_def, UInt32.le_iff_toNat_le]
    rfl
  rw [order]
  unfold rank
  split <;> split <;> omega

theorem rank_lt_rank_iff {a b : Char} : rank a < rank b ↔ a < b := by
  rw [← Nat.not_le, rank_le_rank_iff, Char.not_le]

end LazyGrammar
