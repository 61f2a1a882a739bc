import LazyGrammar.Proofs.CodePointRuns

/-!
# Writing classes

Every set can be written as a class. A text is written by putting a backslash before what
would not stand for itself, and ranges by a backslash before either end. Items written in
this way one after the other are read as they were written: none begins with a raw hyphen,
so no single in front of an item begins a range with it.
-/

set_option autoImplicit false

namespace LazyGrammar

namespace CharSet

def unionOf (sets : List CharSet) : CharSet := sets.foldr union empty

theorem mem_unionOf {sets : List CharSet} {c : Char} :
    c ∈ unionOf sets ↔ ∃ set ∈ sets, c ∈ set := by
  induction sets with
  | nil => simp [unionOf, not_mem_empty]
  | cons set rest ih =>
      rw [unionOf] at ih
      rw [unionOf, List.foldr_cons, mem_union, ih, List.exists_mem_cons_iff]

private theorem ofRanges_eq_unionOf (ranges : List (Char × Char)) :
    ofRanges ranges = unionOf (ranges.map fun ends => range ends.1 ends.2) := by
  refine ext fun c => ?_
  simp only [mem_ofRanges, mem_unionOf, List.mem_map, exists_exists_and_eq_and, mem_range]

end CharSet

namespace ClassText

/-- A text with a backslash before each hyphen and each backslash. -/
def escaped (text : String) : String :=
  String.ofList (text.toList.flatMap fun c => if c = '-' ∨ c = '\\' then ['\\', c] else [c])

/-- Ranges one after the other, each with a backslash before both of its ends. -/
def writeRanges (ranges : List (Char × Char)) : String :=
  String.ofList (ranges.flatMap fun ends => ['\\', ends.1, '-', '\\', ends.2])

/-!
## Items one after the other
-/

@[simp] private theorem cut_flatMap_source (singles : List Single) :
    cut (singles.flatMap Single.source) = singles := by
  induction singles with
  | nil => rfl
  | cons single rest ih => rw [List.flatMap_cons, cut_source_append, ih]

@[simp] private theorem uncut_flatMap_source (singles : List Single) :
    uncut (singles.flatMap Single.source) = [] := by
  induction singles with
  | nil => rfl
  | cons single rest ih => rw [List.flatMap_cons, uncut_source_append, ih]

namespace Item

def singles : Item → List Single
  | .single only => [only]
  | .range first last => [first, .hyphen, last]

def front : Item → Single
  | .single only => only
  | .range first _ => first

private theorem source_eq_flatMap (item : Item) :
    item.source = item.singles.flatMap Single.source := by
  cases item <;> simp [source, singles, Single.hyphen, Single.source]

private theorem singles_eq_front_cons (item : Item) :
    ∃ behind, item.singles = item.front :: behind := by
  cases item with
  | single only => exact ⟨[], rfl⟩
  | range first last => exact ⟨[.hyphen, last], rfl⟩

end Item

variable {parts : List Item}

private theorem flatMap_source_eq (parts : List Item) :
    parts.flatMap Item.source = (parts.flatMap Item.singles).flatMap Single.source := by
  rw [List.flatMap_assoc]
  exact congrArg (parts.flatMap ·) (funext Item.source_eq_flatMap)

/-- Items that do not begin with a raw hyphen do not fuse with what is in front of them. -/
private theorem items_flatMap_singles (fronts : ∀ item ∈ parts, item.front ≠ .hyphen) :
    items (parts.flatMap Item.singles) = parts := by
  induction parts with
  | nil => rfl
  | cons item others ih =>
      obtain ⟨_, behind⟩ := List.forall_mem_cons.mp fronts
      cases item with
      | range first last =>
          change items (first :: .hyphen :: last :: others.flatMap Item.singles) = _
          rw [items, if_pos rfl, ih behind]
      | single only =>
          have noRange (last : Single) (rest : List Single) :
              others.flatMap Item.singles ≠ .hyphen :: last :: rest := by
            cases others with
            | nil =>
                intro fused
                cases fused
            | cons next others =>
                intro fused
                obtain ⟨_, begins⟩ := next.singles_eq_front_cons
                rw [List.flatMap_cons, begins] at fused
                exact behind next List.mem_cons_self (List.cons.inj fused).1
          change items (only :: others.flatMap Item.singles) = _
          rw [items_cons_of_no_range noRange, ih behind]

theorem read_flatMap_source (ordered : ∀ item ∈ parts, ¬ item.Reversed)
    (fronts : ∀ item ∈ parts, item.front ≠ .hyphen) :
    read (String.ofList (parts.flatMap Item.source)) =
      .ok (CharSet.ofRanges (parts.map Item.ends)) := by
  have asWritten : items (cut (parts.flatMap Item.source)) = parts := by
    rw [flatMap_source_eq, cut_flatMap_source, items_flatMap_singles fronts]
  rw [read_eq_ok_iff, String.toList_ofList, asWritten]
  exact ⟨by rw [flatMap_source_eq, uncut_flatMap_source], ordered, rfl⟩

/-!
## Texts
-/

/-- The character with a backslash before it where it needs one. -/
def Single.writing (c : Char) : Single :=
  if needed : c = '-' ∨ c = '\\' then .escaped c else .raw c fun same => needed (.inr same)

private theorem Single.value_writing (c : Char) : (Single.writing c).value = c := by
  unfold Single.writing
  split <;> rfl

private theorem Single.source_writing (c : Char) :
    (Single.writing c).source = if c = '-' ∨ c = '\\' then ['\\', c] else [c] := by
  unfold Single.writing
  split <;> rfl

private theorem Single.writing_ne_hyphen (c : Char) : Single.writing c ≠ .hyphen := by
  unfold Single.writing
  intro same
  split at same
  next => cases same
  next spare => exact spare (.inl (Single.raw.inj same))

private theorem Item.ends_single_writing (c : Char) :
    (Item.single (Single.writing c)).ends = (c, c) := by
  rw [Item.ends, Single.value_writing]

theorem read_escaped (text : String) : read (escaped text) = .ok (CharSet.ofText text) := by
  let written (c : Char) : Item := .single (Single.writing c)
  have source : escaped text = String.ofList ((text.toList.map written).flatMap Item.source) := by
    simp only [escaped, List.flatMap_map, written, Item.source, Single.source_writing]
  have ends : (text.toList.map written).map Item.ends = text.toList.map fun c => (c, c) := by
    rw [List.map_map]
    exact List.map_congr_left fun c _ => Item.ends_single_writing c
  rw [source, read_flatMap_source, ends]
  · apply congrArg Except.ok
    refine CharSet.ext fun c => ?_
    rw [CharSet.mem_ofRanges, CharSet.mem_ofText]
    constructor
    · intro inRange
      obtain ⟨_, member, above, below⟩ := inRange
      obtain ⟨d, listed, rfl⟩ := List.mem_map.mp member
      exact Char.le_antisymm above below ▸ listed
    · intro listed
      exact ⟨(c, c), List.mem_map_of_mem listed, Char.le_refl c, Char.le_refl c⟩
  · intro item member
    obtain ⟨c, _, rfl⟩ := List.mem_map.mp member
    exact id
  · intro item member
    obtain ⟨c, _, rfl⟩ := List.mem_map.mp member
    exact Single.writing_ne_hyphen c

/-- The hyphen would be read as the middle of a range, and the backslash as left over. -/
example : escaped "a-z\\" = "a\\-z\\\\" := by decide

/-!
## Ranges
-/

theorem read_writeRanges {ranges : List (Char × Char)}
    (ordered : ∀ ends ∈ ranges, ends.1 ≤ ends.2) :
    read (writeRanges ranges) = .ok (CharSet.ofRanges ranges) := by
  let written (ends : Char × Char) : Item := .range (.escaped ends.1) (.escaped ends.2)
  have source : writeRanges ranges = String.ofList ((ranges.map written).flatMap Item.source) := by
    rw [List.flatMap_map]
    rfl
  have ends : (ranges.map written).map Item.ends = ranges := by
    rw [List.map_map]
    exact List.map_id ranges
  rw [source, read_flatMap_source, ends]
  · intro item member
    obtain ⟨ends, listed, rfl⟩ := List.mem_map.mp member
    exact Char.not_lt.mpr (ordered ends listed)
  · intro item member
    obtain ⟨ends, listed, rfl⟩ := List.mem_map.mp member
    intro fused
    cases fused

/-- A text with backslashes before its hyphens and backslashes writes the set of its characters.
Ranges in any order, whether they overlap or not, write their union. So every set is written by
its maximal runs of consecutive code points. -/
theorem written_sets_are_read_back :
    (∀ text, read (escaped text) = .ok (CharSet.ofText text)) ∧
    (∀ ranges : List (Char × Char), (∀ ends ∈ ranges, ends.1 ≤ ends.2) →
      read (writeRanges ranges) =
        .ok (CharSet.unionOf (ranges.map fun ends => CharSet.range ends.1 ends.2))) ∧
    ∀ set : CharSet,
      (∀ first last, (first, last) ∈ set.runs ↔ set.MaximalRun first last) ∧
      read (writeRanges set.runs) = .ok set := by
  refine ⟨read_escaped, fun ranges ordered => ?_, fun set => ⟨fun first last => ?_, ?_⟩⟩
  · rw [read_writeRanges ordered, CharSet.ofRanges_eq_unionOf]
  · exact CharSet.mem_runs_iff
  · have ordered (ends : Char × Char) (listed : ends ∈ set.runs) : ends.1 ≤ ends.2 :=
      (CharSet.mem_runs_iff.mp listed).ordered
    rw [read_writeRanges ordered, CharSet.ofRanges_runs]

/-- The first two ranges overlap and end in the characters that have a meaning of their own, the
last two meet across the surrogates. -/
theorem written_sets_are_read_back_outOfOrder :
    let ranges := [('[', 'a'), ('-', '\\'), ('\uE000', Char.ofNat 0x10FFFF), ('b', '\uD7FF')]
    (∀ ends ∈ ranges, ends.1 ≤ ends.2) ∧
      read (writeRanges ranges) = .ok (CharSet.range '-' (Char.ofNat 0x10FFFF)) := by
  intro ranges
  have ordered : ∀ ends ∈ ranges, ends.1 ≤ ends.2 := by decide
  obtain ⟨_, readBack, _⟩ := written_sets_are_read_back
  have union : CharSet.unionOf (ranges.map fun ends => CharSet.range ends.1 ends.2) =
      CharSet.range '-' (Char.ofNat 0x10FFFF) := by
    rw [← CharSet.ofRanges_eq_unionOf]
    decide
  exact ⟨ordered, by rw [readBack ranges ordered, union]⟩

end ClassText

end LazyGrammar
