import LazyGrammar.CharSet.ClassText
import Mathlib.Algebra.Ring.Parity

/-!
# Class notation

Cut into singles and read off from the left, a class text is a list of items without
any choice between alternatives. Reading tries ranges first and falls back to singles,
and comes to the same items: it fails for a range whose ends are out of order or for
a backslash that is left over, and for nothing else.
-/

set_option autoImplicit false

namespace LazyGrammar.ClassText

inductive Single where
  | raw (c : Char) (noBackslash : c ≠ '\\')
  | escaped (c : Char)
  deriving DecidableEq

namespace Single

def value : Single → Char
  | .raw c _ | .escaped c => c

def source : Single → List Char
  | .raw c _ => [c]
  | .escaped c => ['\\', c]

def hyphen : Single := .raw '-' (by decide)

end Single

/-- The singles of a text, from the left. A backslash without a character after it is none. -/
def cut : List Char → List Single
  | [] => []
  | c :: rest =>
      if noBackslash : c ≠ '\\' then .raw c noBackslash :: cut rest
      else
        match rest with
        | [] => []
        | literal :: rest => .escaped literal :: cut rest

/-- What is left over behind the singles: nothing, or a backslash. -/
def uncut : List Char → List Char
  | [] => []
  | c :: rest =>
      if c ≠ '\\' then uncut rest
      else
        match rest with
        | [] => ['\\']
        | _ :: rest => uncut rest

def trailingBackslashes (text : List Char) : Nat :=
  (text.reverse.takeWhile (· = '\\')).length

inductive Item where
  | single (only : Single)
  | range (first last : Single)
  deriving DecidableEq

namespace Item

def source : Item → List Char
  | .single only => only.source
  | .range first last => first.source ++ '-' :: last.source

def Reversed : Item → Prop
  | .single _ => False
  | .range first last => last.value < first.value

instance : DecidablePred Reversed
  | .single _ => inferInstanceAs (Decidable False)
  | .range first last => inferInstanceAs (Decidable (last.value < first.value))

def Holds (c : Char) : Item → Prop
  | .single only => c = only.value
  | .range first last => first.value ≤ c ∧ c ≤ last.value

def ends : Item → Char × Char
  | .single only => (only.value, only.value)
  | .range first last => (first.value, last.value)

theorem holds_iff {item : Item} {c : Char} :
    item.Holds c ↔ item.ends.1 ≤ c ∧ c ≤ item.ends.2 := by
  cases item with
  | range first last => exact Iff.rfl
  | single only =>
      constructor
      · intro same
        exact same ▸ ⟨Char.le_refl _, Char.le_refl _⟩
      · intro within
        exact Char.le_antisymm within.2 within.1

end Item

/-- The items that the singles form, from the left: a single that has a raw hyphen and another
single behind it begins a range, and stands for itself otherwise. -/
def items : List Single → List Item
  | first :: between :: last :: rest =>
      if between = .hyphen then .range first last :: items rest
      else .single first :: items (between :: last :: rest)
  | only :: rest => .single only :: items rest
  | [] => []

/-!
## Singles
-/

/-- Texts grow by singles in front of nothing or of a backslash that is left over. -/
@[elab_as_elim]
theorem single_induction {motive : List Char → Prop} (nil : motive [])
    (leftOver : motive ['\\'])
    (single : ∀ (single : Single) rest, motive rest → motive (single.source ++ rest))
    (text : List Char) : motive text := by
  fun_induction cut text with
  | case1 => exact nil
  | case2 c rest noBackslash ih => exact single (.raw c noBackslash) rest ih
  | case3 c isBackslash =>
      obtain rfl := Classical.not_not.mp isBackslash
      exact leftOver
  | case4 c isBackslash literal rest ih =>
      obtain rfl := Classical.not_not.mp isBackslash
      exact single (.escaped literal) rest ih

private theorem single_cases (text : List Char) :
    text = [] ∨ text = ['\\'] ∨ ∃ (single : Single) (rest : List Char),
      text = single.source ++ rest := by
  induction text using single_induction with
  | nil => exact .inl rfl
  | leftOver => exact .inr (.inl rfl)
  | single single rest => exact .inr (.inr ⟨single, rest, rfl⟩)

variable (single : Single) (rest : List Char)

@[simp] theorem cut_source_append : cut (single.source ++ rest) = single :: cut rest := by
  cases single with
  | raw c noBackslash =>
      change cut (c :: rest) = _
      rw [cut.eq_def]
      exact dif_pos noBackslash
  | escaped c => rfl

@[simp] theorem uncut_source_append : uncut (single.source ++ rest) = uncut rest := by
  cases single with
  | raw c noBackslash =>
      change uncut (c :: rest) = _
      rw [uncut.eq_def]
      exact if_pos noBackslash
  | escaped c => rfl

@[simp] theorem uncut_leftOver : uncut ['\\'] = ['\\'] := rfl

@[simp] private theorem readSingle_source_append :
    readSingle (single.source ++ rest) = .read single.value rest := by
  cases single with
  | raw c noBackslash =>
      simp [Single.source, Single.value, readSingle, readEscaped, readRaw, Outcome.orElse,
        noBackslash]
  | escaped c => rfl

private theorem readHyphen_source_append :
    readHyphen (single.source ++ rest) =
      if single = .hyphen then .read () rest else .refused := by
  cases single with
  | raw c noBackslash =>
      by_cases isHyphen : c = '-'
      · subst isHyphen
        rfl
      · simp [Single.source, Single.hyphen, readHyphen, isHyphen]
  | escaped c => rfl

private theorem length_source_pos : 0 < single.source.length := by
  cases single <;> exact Nat.zero_lt_succ _

/-- Nothing of a text is lost when it is cut. -/
theorem source_cut_append_uncut (text : List Char) :
    (cut text).flatMap Single.source ++ uncut text = text := by
  induction text using single_induction with
  | nil | leftOver => rfl
  | single single rest ih => simp [ih]

theorem source_items (singles : List Single) :
    (items singles).flatMap Item.source = singles.flatMap Single.source := by
  fun_induction items singles with
  | case1 first last rest ih => simp [Item.source, ih, Single.source, Single.hyphen]
  | case2 first between last rest noHyphen ih => simp [Item.source, ih]
  | case3 only rest short ih => simp [Item.source, ih]
  | case4 => rfl

/-- Backslashes at the end make each other literal two by two. -/
theorem trailingBackslashes_append (front back : List Char) :
    trailingBackslashes (front ++ back) =
      if trailingBackslashes back = back.length then
        back.length + trailingBackslashes front
      else trailingBackslashes back := by
  unfold trailingBackslashes
  rw [List.reverse_append, List.takeWhile_append, List.length_reverse]
  split
  · rw [List.length_append, List.length_reverse]
  · rfl

private theorem odd_trailingBackslashes_source_append :
    Odd (trailingBackslashes (single.source ++ rest)) ↔ Odd (trailingBackslashes rest) := by
  have even : Even (trailingBackslashes single.source) := by
    cases single with
    | raw c noBackslash => simp [trailingBackslashes, Single.source, noBackslash]
    | escaped c =>
        by_cases isBackslash : c = '\\'
        · simp [trailingBackslashes, Single.source, isBackslash]
        · simp [trailingBackslashes, Single.source, isBackslash]
  rw [trailingBackslashes_append]
  split
  next all => rw [← all, Nat.odd_add, iff_true_right even]
  next => exact Iff.rfl

theorem uncut_eq_nil_iff (text : List Char) :
    uncut text = [] ↔ ¬ Odd (trailingBackslashes text) := by
  induction text using single_induction with
  | nil => simp [uncut, trailingBackslashes]
  | leftOver => simp [trailingBackslashes]
  | single single rest ih => rw [uncut_source_append, ih, odd_trailingBackslashes_source_append]

/-!
## Items
-/

/-- What reading the items comes to, if a left-over stands behind them. -/
def resultOf : List Item → List Char →
    Except (Defect × List Char) (List (Char × Char) × List Char)
  | [], [] => .ok ([], [])
  | [], _ :: _ => .error (.danglingEscape, [])
  | item :: others, leftOver =>
      if item.Reversed then
        .error (.reversedRange, (item :: others).flatMap Item.source ++ leftOver)
      else (resultOf others leftOver).map fun (ranges, left) => (item.ends :: ranges, left)

theorem resultOf_eq_ok_iff {parts : List Item} {leftOver left : List Char}
    {ranges : List (Char × Char)} :
    resultOf parts leftOver = .ok (ranges, left) ↔
      leftOver = [] ∧ (∀ item ∈ parts, ¬ item.Reversed) ∧ ranges = parts.map Item.ends ∧
        left = [] := by
  induction parts generalizing ranges with
  | nil => cases leftOver <;> simp [resultOf, eq_comm]
  | cons item others ih =>
      unfold resultOf
      by_cases reversed : item.Reversed
      · simp [reversed]
      · rw [if_neg reversed]
        constructor
        · intro found
          cases outcome : resultOf others leftOver with
          | error failure =>
              rw [outcome] at found
              cases found
          | ok result =>
              obtain ⟨others, after⟩ := result
              rw [outcome] at found
              cases found
              obtain ⟨rfl, ordered, rfl, rfl⟩ := ih.mp outcome
              exact ⟨rfl, List.forall_mem_cons.mpr ⟨reversed, ordered⟩, rfl, rfl⟩
        · intro fine
          obtain ⟨rfl, ordered, rfl, rfl⟩ := fine
          rw [ih.mpr ⟨rfl, (List.forall_mem_cons.mp ordered).2, rfl, rfl⟩]
          rfl

private theorem resultOf_single {only : Single} {others : List Item} {leftOver : List Char} :
    resultOf (.single only :: others) leftOver =
      (resultOf others leftOver).map fun (ranges, left) =>
        ((only.value, only.value) :: ranges, left) := by
  have fine : ¬ (Item.single only).Reversed := id
  rw [resultOf, if_neg fine]
  rfl

/-- Nothing but a raw hyphen and a single behind it makes a single begin a range. -/
theorem items_cons_of_no_range {first : Single} {singles : List Single}
    (noRange : ∀ last others, singles ≠ .hyphen :: last :: others) :
    items (first :: singles) = .single first :: items singles := by
  match singles with
  | [] | [_] => rfl
  | between :: last :: others =>
      have noHyphen : between ≠ .hyphen := fun same => noRange last others (by rw [same])
      rw [items, if_neg noHyphen]

private theorem readRange_source_append :
    readRange (single.source ++ rest) =
      (readHyphen rest).andThen fun _ after => (readSingle after).andThen fun last behind =>
        if last < single.value then .failed .reversedRange (single.source ++ rest)
        else .read (single.value, last) behind := by
  rw [readRange, readSingle_source_append]
  rfl

private theorem readRange_hyphen_append :
    readRange (single.source ++ (Single.hyphen.source ++ rest)) =
      (readSingle rest).andThen fun last behind =>
        if last < single.value then
          .failed .reversedRange (single.source ++ (Single.hyphen.source ++ rest))
        else .read (single.value, last) behind := by
  rw [readRange_source_append, readHyphen_source_append, if_pos rfl]
  rfl

/-- Where no range is read, an item is the single in front. -/
private theorem readItem_of_refused (noRange : readRange (single.source ++ rest) = .refused) :
    readItem (single.source ++ rest) = .read (single.value, single.value) rest := by
  rw [readItem, noRange, readSingle_source_append]
  rfl

private theorem readItem_of_range {ends : Char × Char} {text after : List Char}
    (range : readRange text = .read ends after) : readItem text = .read ends after := by
  rw [readItem, range]
  rfl

private theorem readItem_of_failed {defect : Defect} {text place : List Char}
    (failed : readRange text = .failed defect place) :
    readItem text = .failed defect place := by
  rw [readItem, failed]
  rfl

/-- Reading comes to the items of the singles. It is an induction on the length of the text, since
an item may take up several characters. -/
theorem readItems_eq (text : List Char) :
    readItems text = resultOf (items (cut text)) (uncut text) := by
  induction length : text.length using Nat.strongRecOn generalizing text with
  | ind n ih =>
  subst length
  rcases single_cases text with rfl | rfl | ⟨first, rest, rfl⟩
  · rw [readItems_of_refused rfl]
    rfl
  · rw [readItems_of_failed rfl]
    rfl
  have alone (refused : readRange (first.source ++ rest) = .refused)
      (noRange : ∀ last others, cut rest ≠ .hyphen :: last :: others) :
      readItems (first.source ++ rest) =
        resultOf (items (cut (first.source ++ rest))) (uncut (first.source ++ rest)) := by
    have shorter : rest.length < (first.source ++ rest).length := by
      rw [List.length_append]
      exact Nat.lt_add_of_pos_left (length_source_pos first)
    rw [readItems_of_read (readItem_of_refused first rest refused), ih _ shorter rest rfl,
      cut_source_append, uncut_source_append, items_cons_of_no_range noRange, resultOf_single]
  rcases single_cases rest with rfl | rfl | ⟨second, behind, rfl⟩
  · exact alone (readRange_source_append first []) nofun
  · exact alone (readRange_source_append first ['\\']) nofun
  by_cases isHyphen : second = .hyphen
  · subst isHyphen
    have range := readRange_hyphen_append first behind
    rcases single_cases behind with rfl | rfl | ⟨last, after, rfl⟩
    · exact alone range nofun
    · -- The backslash is met while a range is tried, with two singles in front of it.
      rw [readItems_of_failed (readItem_of_failed range), cut_source_append, uncut_source_append]
      rfl
    · rw [readSingle_source_append, Outcome.andThen] at range
      simp only [cut_source_append, uncut_source_append, items, if_true]
      by_cases reversed : (Item.range first last).Reversed
      · rw [readItems_of_failed (readItem_of_failed (range.trans (if_pos reversed))), resultOf,
          if_pos reversed, List.flatMap_cons, source_items, List.append_assoc,
          source_cut_append_uncut]
        simp [Item.source, Single.hyphen, Single.source]
      · have shorter : after.length <
            (first.source ++ (Single.hyphen.source ++ (last.source ++ after))).length := by
          have := length_source_pos last
          simp only [List.length_append]
          omega
        rw [readItems_of_read (readItem_of_range (range.trans (if_neg reversed))),
          ih _ shorter after rfl, resultOf, if_neg reversed]
        rfl
  · refine alone ?_ ?_
    · rw [readRange_source_append, readHyphen_source_append, if_neg isHyphen]
      rfl
    · intro last others same
      rw [cut_source_append] at same
      exact isHyphen (List.cons.inj same).1

theorem read_eq_ok_iff {text : String} {set : CharSet} :
    read text = .ok set ↔
      uncut text.toList = [] ∧ (∀ item ∈ items (cut text.toList), ¬ item.Reversed) ∧
        set = CharSet.ofRanges ((items (cut text.toList)).map Item.ends) := by
  unfold read
  constructor
  · intro accepted
    cases outcome : readItems text.toList with
    | error failure =>
        rw [outcome] at accepted
        cases accepted
    | ok result =>
        obtain ⟨ranges, left⟩ := result
        have found := outcome
        rw [readItems_eq, resultOf_eq_ok_iff] at found
        obtain ⟨nothingLeft, ordered, rfl, rfl⟩ := found
        rw [outcome] at accepted
        cases accepted
        exact ⟨nothingLeft, ordered, rfl⟩
  · intro fine
    obtain ⟨nothingLeft, ordered, rfl⟩ := fine
    have found := resultOf_eq_ok_iff.mpr ⟨nothingLeft, ordered, rfl, rfl⟩
    rw [readItems_eq, found]

/-- A text is refused for an odd number of backslashes at its end or for a range that is out of
order, and for nothing else. The set that it writes otherwise holds what its items hold, and these
make up the whole text. -/
theorem read_exact (text : String) :
    ((∃ error, read text = .error error) ↔
      Odd (trailingBackslashes text.toList) ∨
        ∃ item ∈ items (cut text.toList), item.Reversed) ∧
    ∀ set, read text = .ok set →
      (∀ c, c ∈ set ↔ ∃ item ∈ items (cut text.toList), item.Holds c) ∧
      (items (cut text.toList)).flatMap Item.source = text.toList := by
  constructor
  · have accepts : (∃ set, read text = .ok set) ↔
        ¬ Odd (trailingBackslashes text.toList) ∧
          ∀ item ∈ items (cut text.toList), ¬ item.Reversed := by
      simp only [read_eq_ok_iff, uncut_eq_nil_iff, exists_and_left, exists_eq, and_true]
    have refuses : (∃ error, read text = .error error) ↔ ¬ ∃ set, read text = .ok set := by
      cases read text <;> simp
    rw [refuses, accepts, not_and_or, Classical.not_not]
    simp only [not_forall, Classical.not_not, exists_prop]
  · intro set accepted
    obtain ⟨nothingLeft, _, rfl⟩ := read_eq_ok_iff.mp accepted
    constructor
    · intro c
      simp only [CharSet.mem_ofRanges, List.mem_map, exists_exists_and_eq_and, Item.holds_iff]
    · have whole := source_cut_append_uncut text.toList
      rw [nothingLeft, List.append_nil] at whole
      rw [source_items, whole]

/-- Hyphens at the edges, after a range and behind a backslash are singles. -/
example : (items (cut "-a-c-\\--".toList)).map Item.ends =
    [('-', '-'), ('a', 'c'), ('-', '-'), ('-', '-'), ('-', '-')] := by cbv

end LazyGrammar.ClassText
