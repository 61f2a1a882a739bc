import LazyGrammar.Text.Outline
import LazyGrammar.Text.Quoted

/-!
# Semantic values

The values that parses produce. Their shape follows the expression that matched:
matchers give texts and characters, sequences give pairs, repetitions give lists,
and a transform may give anything.
-/

set_option autoImplicit false

namespace LazyGrammar

/-- A semantic value. Integers come from transforms only. -/
inductive Value where
  | text (content : String)
  | char (c : Char)
  | int (n : Int64)
  | pair (left right : Value)
  | list (items : List Value)
  deriving Inhabited

namespace Value

mutual

def decEq : (v w : Value) → Decidable (v = w)
  | .text s, .text t =>
      if same : s = t then isTrue (same ▸ rfl) else isFalse fun eq => same (Value.text.inj eq)
  | .char c, .char d =>
      if same : c = d then isTrue (same ▸ rfl) else isFalse fun eq => same (Value.char.inj eq)
  | .int m, .int n =>
      if same : m = n then isTrue (same ▸ rfl) else isFalse fun eq => same (Value.int.inj eq)
  | .pair a b, .pair c d =>
      match decEq a c, decEq b d with
      | isTrue left, isTrue right => isTrue (left ▸ right ▸ rfl)
      | isFalse left, _ => isFalse fun eq => left (Value.pair.inj eq).1
      | _, isFalse right => isFalse fun eq => right (Value.pair.inj eq).2
  | .list vs, .list ws =>
      match decEqList vs ws with
      | isTrue same => isTrue (same ▸ rfl)
      | isFalse differ => isFalse fun eq => differ (Value.list.inj eq)
  | .text _, .char _ | .text _, .int _ | .text _, .pair _ _ | .text _, .list _
  | .char _, .text _ | .char _, .int _ | .char _, .pair _ _ | .char _, .list _
  | .int _, .text _ | .int _, .char _ | .int _, .pair _ _ | .int _, .list _
  | .pair _ _, .text _ | .pair _ _, .char _ | .pair _ _, .int _ | .pair _ _, .list _
  | .list _, .text _ | .list _, .char _ | .list _, .int _ | .list _, .pair _ _ =>
      isFalse nofun

def decEqList : (vs ws : List Value) → Decidable (vs = ws)
  | [], [] => isTrue rfl
  | v :: vs, w :: ws =>
      match decEq v w, decEqList vs ws with
      | isTrue head, isTrue tail => isTrue (head ▸ tail ▸ rfl)
      | isFalse head, _ => isFalse fun eq => head (List.cons.inj eq).1
      | _, isFalse tail => isFalse fun eq => tail (List.cons.inj eq).2
  | [], _ :: _ | _ :: _, [] => isFalse nofun

end

instance : DecidableEq Value := decEq

def asText? : Value → Option String
  | .text content => some content
  | _ => none

def asChar? : Value → Option Char
  | .char c => some c
  | _ => none

def asInt? : Value → Option Int64
  | .int n => some n
  | _ => none

def asList? : Value → Option (List Value)
  | .list items => some items
  | _ => none

def asPair? : Value → Option (Value × Value)
  | .pair left right => some (left, right)
  | _ => none

/-- The left half of a pair. Any other value is kept. -/
def fst : Value → Value
  | .pair left _ => left
  | value => value

/-- The right half of a pair. Any other value is kept. -/
def snd : Value → Value
  | .pair _ right => right
  | value => value

/-- Puts the left half of a pair in front of the list that is its right half. A right half that is
no list counts as its only item, and a value that is no pair becomes a list of itself. -/
def consList : Value → Value
  | .pair head (.list items) => .list (head :: items)
  | .pair head tail => .list [head, tail]
  | value => .list [value]

mutual

/-- The written form: dotted pairs in parentheses, lists in brackets. -/
def display : Value → String
  | .text content => Quoted.text content
  | .char c => Quoted.char c
  | .int n => toString n.toInt
  | .pair left right => "(" ++ left.display ++ " . " ++ right.display ++ ")"
  | .list items => "[" ++ displayItems items ++ "]"

def displayItems : List Value → String
  | [] => ""
  | [item] => item.display
  | item :: next :: rest => item.display ++ " " ++ displayItems (next :: rest)

end

mutual

/-- The value with the name of every constructor. -/
def outline : Value → Outline
  | .text content => .tuple "Str" [.atom (Quoted.text content)]
  | .char c => .tuple "Char" [.atom (Quoted.char c)]
  | .int n => .tuple "Int" [.atom (toString n.toInt)]
  | .pair left right => .tuple "Pair" [left.outline, right.outline]
  | .list items => .tuple "List" [.list (outlines items)]

def outlines : List Value → List Outline
  | [] => []
  | item :: rest => item.outline :: outlines rest

end

theorem outlines_eq_map (items : List Value) : outlines items = items.map outline := by
  induction items with
  | nil => rfl
  | cons item rest ih => rw [outlines, List.map_cons, ih]

end Value

end LazyGrammar
