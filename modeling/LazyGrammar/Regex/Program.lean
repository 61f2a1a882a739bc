import LazyGrammar.Regex.Meaning

/-!
# Programs of regular expressions

A meaning as a list of instructions. The code of a part occupies consecutive
addresses and leaves at the address after its last one; a whole program accepts
where it ends. A fork prefers its first target, so the order in which the paths
of a program are preferred is that of the meaning.
-/

set_option autoImplicit false

namespace LazyGrammar.Regex

inductive Instruction where
  /-- Goes past one character of a set, to the next instruction. -/
  | take (chars : CharSet)
  /-- Goes to the next instruction where a condition holds. -/
  | check (condition : Look)
  /-- Goes to either target and prefers the first. -/
  | fork (preferred other : Nat)
  | jump (target : Nat)

namespace Instruction

/-- A fork between going on and leaving: a greedy one prefers to go on. -/
def choose (greedy : Bool) (onward exit : Nat) : Instruction :=
  if greedy then .fork onward exit else .fork exit onward

end Instruction

namespace Meaning

def repetitionSize (bodySize min : Nat) : Option Nat → Nat
  | none => if min = 0 then bodySize + 2 else min * bodySize + 1
  | some max => min * bodySize + (max - min) * (bodySize + 1)

mutual

def codeSize : Meaning → Nat
  | .empty => 0
  | .literal chars => chars.length
  | .set _ _ | .look _ => 1
  | .repetition min max _ body => repetitionSize body.codeSize min max
  | .capture _ body => body.codeSize
  | .concat parts => rowSize parts
  | .alternation branches => choiceSize branches

def rowSize : List Meaning → Nat
  | [] => 0
  | part :: rest => part.codeSize + rowSize rest

def choiceSize : List Meaning → Nat
  | [] => 0
  | [branch] => branch.codeSize
  | branch :: next :: rest => branch.codeSize + 2 + choiceSize (next :: rest)

end

/-- Copies of a body one after the other, each for its own address. -/
def copies (body : Nat → List Instruction) (bodySize : Nat) : Nat → Nat → List Instruction
  | _, 0 => []
  | start, count + 1 => body start ++ copies body bodySize (start + bodySize) count

/-- Rounds of a body that may each be the last: before every one stands a fork to the end. -/
def optionalRounds (greedy : Bool) (body : Nat → List Instruction) (bodySize exit : Nat) :
    Nat → Nat → List Instruction
  | _, 0 => []
  | start, count + 1 =>
      .choose greedy (start + 1) exit :: body (start + 1) ++
        optionalRounds greedy body bodySize exit (start + 1 + bodySize) count

/-- The rounds of a repetition. One that need not run and has no last round comes back to the fork
through which it is entered if every round has width. Otherwise it has a fork of its own for
coming back, so that a round without width does not hide the way out. -/
def repetitionCode (greedy hasWidth : Bool) (body : Nat → List Instruction)
    (bodySize start min : Nat) : Option Nat → List Instruction
  | none =>
      if min = 0 then
        let exit := start + bodySize + 2
        .choose greedy (start + 1) exit :: body (start + 1) ++
          [if hasWidth then .jump start else .choose greedy (start + 1) exit]
      else
        let last := start + (min - 1) * bodySize
        copies body bodySize start min ++ [.choose greedy last (last + bodySize + 1)]
  | some max =>
      let optional := start + min * bodySize
      let exit := optional + (max - min) * (bodySize + 1)
      copies body bodySize start min ++
        optionalRounds greedy body bodySize exit optional (max - min)

mutual

def code (start : Nat) : Meaning → List Instruction
  | .empty => []
  | .literal chars => chars.map fun c => .take (.singleton c)
  | .set _ chars => [.take chars]
  | .look condition => [.check condition]
  | .repetition min max greedy body =>
      repetitionCode greedy body.hasWidth (fun address => body.code address) body.codeSize start
        min max
  | .capture _ body => body.code start
  | .concat parts => rowCode start parts
  | .alternation branches => choiceCode start (start + choiceSize branches) branches

def rowCode (start : Nat) : List Meaning → List Instruction
  | [] => []
  | part :: rest => part.code start ++ rowCode (start + part.codeSize) rest

/-- The instructions of a choice from an address on; every branch leaves for the exit. -/
def choiceCode (start exit : Nat) : List Meaning → List Instruction
  | [] => []
  | [branch] => branch.code start
  | branch :: next :: rest =>
      let second := start + branch.codeSize + 2
      .fork (start + 1) second :: branch.code (start + 1) ++
        .jump exit :: choiceCode second exit (next :: rest)

end

end Meaning

/-- The instructions of a pattern. It begins at address zero and accepts after its last
instruction. -/
abbrev Program := Array Instruction

def Meaning.program (meaning : Meaning) : Program := (meaning.code 0).toArray

end LazyGrammar.Regex
