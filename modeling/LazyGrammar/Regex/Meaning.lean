import LazyGrammar.CharSet.Basic

/-!
# Meanings of regular expressions

What a pattern matches, with all flags resolved: sets of characters, conditions,
repetitions, rows and choices. The functions that build meanings simplify them.
Two simplifications matter to the order in which matches are preferred, and so to
which one is found: a repetition of something without width runs at most once,
and a beginning that all branches of a choice share is taken out of it. What
counts as the same beginning is therefore part of the meaning: a set written
under the Unicode flag differs from one written without it, and a choice of
single characters is a set only if all its branches are characters, or all sets.
-/

set_option autoImplicit false

namespace LazyGrammar.Regex

inductive Look where
  | textStart
  | textEnd
  | lineStart (crlf : Bool)
  | lineEnd (crlf : Bool)
  | wordBoundary (unicode : Bool)
  | notWordBoundary (unicode : Bool)
  | wordStart (unicode : Bool)
  | wordEnd (unicode : Bool)
  | wordStartHalf (unicode : Bool)
  | wordEndHalf (unicode : Bool)
  deriving DecidableEq

inductive Meaning where
  | empty
  | literal (chars : List Char)
  | set (unicode : Bool) (chars : CharSet)
  | look (condition : Look)
  | repetition (min : Nat) (max : Option Nat) (greedy : Bool) (body : Meaning)
  | capture (index : Nat) (body : Meaning)
  | concat (parts : List Meaning)
  | alternation (branches : List Meaning)

namespace Meaning

mutual

def same : Meaning → Meaning → Bool
  | .empty, .empty => true
  | .literal a, .literal b => a == b
  | .set unicode a, .set unicode' b => a == b && (unicode == unicode' || a.isEmpty)
  | .look a, .look b => a == b
  | .repetition min max greedy body, .repetition min' max' greedy' body' =>
      min == min' && max == max' && greedy == greedy' && same body body'
  | .capture index body, .capture index' body' => index == index' && same body body'
  | .concat parts, .concat parts' => sameList parts parts'
  | .alternation branches, .alternation branches' => sameList branches branches'
  | _, _ => false

def sameList : List Meaning → List Meaning → Bool
  | [], [] => true
  | a :: as, b :: bs => same a b && sameList as bs
  | _, _ => false

end

/-- A set of characters, written under the Unicode flag or without it. The set of one character is
that character. -/
def ofSet (unicode : Bool) (chars : CharSet) : Meaning :=
  match chars.spans with
  | [s] => if s.lo = s.hi then .literal [ofRank s.lo] else .set unicode chars
  | _ => .set unicode chars

mutual

def isWidthless : Meaning → Bool
  | .empty | .look _ => true
  | .literal _ | .set _ _ => false
  | .repetition _ max _ body => max.isSome && body.isWidthless
  | .capture _ body => body.isWidthless
  | .concat parts => areWidthless parts
  | .alternation branches => areWidthless branches

def areWidthless : List Meaning → Bool
  | [] => true
  | part :: rest => part.isWidthless && areWidthless rest

end

mutual

/-- The least width of a match. There is none for a meaning that contains an empty set. -/
def minWidth? : Meaning → Option Nat
  | .empty | .look _ => some 0
  | .literal chars => some chars.length
  | .set _ chars => if chars.isEmpty then none else some 1
  | .repetition min _ _ body => body.minWidth?.map (min * ·)
  | .capture _ body => body.minWidth?
  | .concat parts => minRowWidth? parts
  | .alternation branches => minChoiceWidth? branches

def minRowWidth? : List Meaning → Option Nat
  | [] => some 0
  | part :: rest =>
      match part.minWidth?, minRowWidth? rest with
      | some width, some others => some (width + others)
      | _, _ => none

def minChoiceWidth? : List Meaning → Option Nat
  | [] => none
  | [branch] => branch.minWidth?
  | branch :: next :: rest =>
      match branch.minWidth?, minChoiceWidth? (next :: rest) with
      | some width, some others => some (Nat.min width others)
      | _, _ => none

end

def hasWidth (meaning : Meaning) : Bool := meaning.minWidth?.any (0 < ·)

/-- A repetition. Something without width runs at most once. -/
def repeated (min : Nat) (max : Option Nat) (greedy : Bool) (body : Meaning) : Meaning :=
  let (min, max) :=
    if body.isWidthless then (Nat.min min 1, some (Nat.min (max.getD 1) 1)) else (min, max)
  if max = some 0 then .empty
  else if min = 1 ∧ max = some 1 then body
  else .repetition min max greedy body

/-- The parts of a row, those of a row in the row among them. -/
def rowParts : List Meaning → List Meaning
  | [] => []
  | .empty :: rest => rowParts rest
  | .concat parts :: rest => parts ++ rowParts rest
  | part :: rest => part :: rowParts rest

def joinLiterals : List Meaning → List Meaning
  | [] => []
  | .literal chars :: rest =>
      match joinLiterals rest with
      | .literal more :: others => .literal (chars ++ more) :: others
      | others => .literal chars :: others
  | part :: rest => part :: joinLiterals rest

def row (parts : List Meaning) : Meaning :=
  match joinLiterals (rowParts parts) with
  | [] => .empty
  | [part] => part
  | parts => .concat parts

def choiceBranches (branches : List Meaning) : List Meaning :=
  branches.flatMap fun
    | .alternation inner => inner
    | branch => [branch]

def singleChar? : Meaning → Option Char
  | .literal [c] => some c
  | _ => none

def setChars? : Meaning → Option CharSet
  | .set _ chars => some chars
  | _ => none

/-- A choice between branches. It is a set if they are all single characters, or all sets. -/
def choiceOf : List Meaning → Meaning
  | [] => .set true .empty
  | [branch] => branch
  | branches =>
      match branches.mapM singleChar?, branches.mapM setChars? with
      | some chars, _ => ofSet true (.ofList chars)
      | none, some sets => ofSet true (sets.foldl .union .empty)
      | none, none => .alternation branches

def concatParts? : Meaning → Option (List Meaning)
  | .concat parts => some parts
  | _ => none

/-- How many parts two rows share at their beginning. -/
def sharedLength : List Meaning → List Meaning → Nat
  | a :: as, b :: bs => if same a b then sharedLength as bs + 1 else 0
  | _, _ => 0

def commonLength (first : List Meaning) (others : List (List Meaning)) : Nat :=
  others.foldl (fun length parts => Nat.min length (sharedLength first parts)) first.length

/-- A choice. If all branches are rows with a common beginning, the choice is between what
follows it. -/
def choice (branches : List Meaning) : Meaning :=
  let branches := choiceBranches branches
  match choiceOf branches with
  | .alternation _ =>
      match branches.mapM concatParts? with
      | some (first :: others) =>
          let length := commonLength first others
          if length = 0 then .alternation branches
          else
            let endings := (first :: others).map fun parts => row (parts.drop length)
            row (first.take length ++ [choiceOf (choiceBranches endings)])
      | _ => .alternation branches
  | simple => simple

end Meaning

end LazyGrammar.Regex
