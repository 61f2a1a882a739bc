import LazyGrammar.Proofs.ClassNotation
import Mathlib.Data.List.Sort

/-!
# Canonical sets

A set is what its members are. However it is made, each member is listed once and in
ascending order, and sets with the same members are equal. Ranges are ranges of code
points without the surrogates; so are the runs in which a set may be written down.
-/

set_option autoImplicit false

namespace LazyGrammar

/-!
## Code points
-/

theorem le_iff_toNat_le {a b : Char} : a ≤ b ↔ a.toNat ≤ b.toNat := by
  rw [Char.le_def, UInt32.le_iff_toNat_le]
  rfl

theorem lt_iff_toNat_lt {a b : Char} : a < b ↔ a.toNat < b.toNat := by
  rw [← Char.not_le, le_iff_toNat_le, Nat.not_le]

/-- Every code point is one of a character, but for the surrogates. -/
theorem exists_toNat_eq_iff {code : Nat} :
    (∃ c : Char, c.toNat = code) ↔ code < 0xD800 ∨ 0xDFFF < code ∧ code < 0x110000 := by
  constructor
  · intro isCode
    obtain ⟨c, rfl⟩ := isCode
    exact c.valid
  · intro valid
    exact ⟨Char.ofNatAux code valid, rfl⟩

theorem toNat_eq_of_rank (c : Char) :
    c.toNat = if rank c < 0xD800 then rank c else rank c + 0x800 := by
  have valid := exists_toNat_eq_iff.mp ⟨c, rfl⟩
  unfold rank
  split
  next => rfl
  next => split <;> omega

namespace CharSet

variable {set : CharSet} {first last : Char}

/-- From one end to the other, but for the surrogates between them. -/
theorem map_toNat_toList_range (first last : Char) :
    (range first last).toList.map Char.toNat =
      (List.range' first.toNat (last.toNat + 1 - first.toNat)).filter fun code =>
        code < 0xD800 ∨ 0xDFFF < code := by
  have ascending : ((range first last).toList.map Char.toNat).Pairwise (· < ·) :=
    List.pairwise_map.mpr ((toList_ascending _).imp lt_iff_toNat_lt.mp)
  refine ascending.eq_of_mem_iff (List.Pairwise.filter _ List.pairwise_lt_range') fun code => ?_
  simp only [List.mem_map, mem_toList, mem_range, le_iff_toNat_le, List.mem_filter,
    List.mem_range'_1, decide_eq_true_eq]
  constructor
  · intro listed
    obtain ⟨c, within, rfl⟩ := listed
    have valid := exists_toNat_eq_iff.mp ⟨c, rfl⟩
    omega
  · intro within
    have below := exists_toNat_eq_iff.mp ⟨last, rfl⟩
    obtain ⟨c, rfl⟩ := exists_toNat_eq_iff.mpr (show code < 0xD800 ∨ _ by omega)
    exact ⟨c, by omega, rfl⟩

/-!
## The ways to a set
-/

/-- What a set is made from. -/
inductive Origin where
  | text (content : String)
  | chars (content : List Char)
  | range (first last : Char)
  | classText (source : String)

namespace Origin

def make : Origin → Except ClassError CharSet
  | .text content => .ok (ofText content)
  | .chars content => .ok (ofList content)
  | .range first last => .ok (CharSet.range first last)
  | .classText source => ClassText.read source

/-- The character is among those told, however often and in whichever order these are. -/
def Tells (c : Char) : Origin → Prop
  | .text content => c ∈ content.toList
  | .chars content => c ∈ content
  | .range first last => first.toNat ≤ c.toNat ∧ c.toNat ≤ last.toNat
  | .classText source => ∃ item ∈ ClassText.items (ClassText.cut source.toList), item.Holds c

theorem mem_iff {origin : Origin} (made : origin.make = .ok set) {c : Char} :
    c ∈ set ↔ origin.Tells c := by
  cases origin with
  | text =>
      cases made
      exact mem_ofText
  | chars =>
      cases made
      exact mem_ofList
  | range =>
      cases made
      rw [mem_range, le_iff_toNat_le, le_iff_toNat_le, Tells]
  | classText =>
      obtain ⟨_, _, rfl⟩ := ClassText.read_eq_ok_iff.mp made
      simp only [mem_ofRanges, List.mem_map, exists_exists_and_eq_and, Tells,
        ClassText.Item.holds_iff]

end Origin

theorem eq_iff_contains {other : CharSet} :
    set = other ↔ ∀ c, set.contains c = other.contains c := by
  constructor
  · intro same c
    rw [same]
  · intro same
    refine ext fun c => ?_
    rw [← contains_iff, ← contains_iff, same]

theorem isEmpty_iff_toList : set.isEmpty = true ↔ set.toList = [] := by
  simp only [isEmpty_iff, List.eq_nil_iff_forall_not_mem, mem_toList]

/-- A set that is made, in whichever way, lists each member once and in ascending order. These are
the characters that it was told, `contains` tells whether one is among them, `size` how many there
are and `isEmpty` whether there is any. Two sets are equal exactly if they have the same members,
and so if they were told the same characters. A range has the characters of all code points from
its first to its last one, but for the surrogates. -/
theorem sets_are_their_members {origin : Origin} (made : origin.make = .ok set) :
    (set.toList.Pairwise fun c d => c.toNat < d.toNat) ∧
    (∀ c, (set.contains c = true ↔ c ∈ set.toList) ∧ (c ∈ set.toList ↔ origin.Tells c)) ∧
    set.size = set.toList.length ∧ (set.isEmpty = true ↔ set.toList = []) ∧
    (∀ (another : Origin) (other : CharSet), another.make = .ok other →
      (set = other ↔ ∀ c, set.contains c = other.contains c) ∧
      (set = other ↔ ∀ c, origin.Tells c ↔ another.Tells c)) ∧
    ∀ first last : Char,
      (range first last).toList.map Char.toNat =
        (List.range' first.toNat (last.toNat + 1 - first.toNat)).filter fun code =>
          code < 0xD800 ∨ 0xDFFF < code := by
  refine ⟨(toList_ascending set).imp lt_iff_toNat_lt.mp, fun c => ⟨?_, ?_⟩,
    (length_toList set).symm, isEmpty_iff_toList, fun another other madeAgain => ⟨?_, ?_⟩,
    map_toNat_toList_range⟩
  · rw [contains_iff, mem_toList]
  · rw [mem_toList, origin.mem_iff made]
  · exact eq_iff_contains
  · simp only [← origin.mem_iff made, ← another.mem_iff madeAgain]
    exact ⟨fun same c => by rw [same], ext⟩

/-- Two ranges out of order that overlap, one of them across the surrogates. -/
theorem sets_are_their_members_acrossSurrogates :
    ∃ set, (Origin.classText "\uE000-\uE001\uD7FE-\uE000").make = .ok set ∧
      set = range '\uD7FE' '\uE001' ∧
      set.toList = ['\uD7FE', '\uD7FF', '\uE000', '\uE001'] := by
  have told : ClassText.items (ClassText.cut "\uE000-\uE001\uD7FE-\uE000".toList) =
      [.range (.raw '\uE000' (by decide)) (.raw '\uE001' (by decide)),
        .range (.raw '\uD7FE' (by decide)) (.raw '\uE000' (by decide))] := by cbv
  have made : (Origin.classText "\uE000-\uE001\uD7FE-\uE000").make =
      .ok (ofRanges [('\uE000', '\uE001'), ('\uD7FE', '\uE000')]) := by
    refine ClassText.read_eq_ok_iff.mpr ⟨by cbv, ?_, ?_⟩
    · rw [told]
      decide
    · rw [told]
      rfl
  obtain ⟨_, _, _, _, equalities, _⟩ := sets_are_their_members made
  have same := (equalities (.range '\uD7FE' '\uE001') _ rfl).2.mpr fun c => by
    simp only [Origin.Tells, told, List.exists_mem_cons_iff, List.not_mem_nil, false_and,
      exists_false, or_false, ClassText.Item.Holds, ClassText.Single.value, le_iff_toNat_le,
      show '\uD7FE'.toNat = 0xD7FE from rfl, show '\uE000'.toNat = 0xE000 from rfl,
      show '\uE001'.toNat = 0xE001 from rfl]
    omega
  exact ⟨_, made, same, by rw [same]; decide⟩

end CharSet

end LazyGrammar
