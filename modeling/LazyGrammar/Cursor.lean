import LazyGrammar.Enumeration

/-!
# Cursors

A cursor is a place in an enumeration. Nothing is computed when it is made; each
pull computes one answer and moves on. A cursor that has reached the end stays
there.
-/

set_option autoImplicit false

namespace LazyGrammar

/-- A place in an enumeration that has not been computed beyond it. -/
structure Cursor (α : Type) where
  resume : Unit → Enumeration α

inductive Answer (α : Type) where
  | item (a : α)
  | exhausted
  | halted (why : Halt)

inductive Stop where
  | limit
  | exhausted
  | halted (why : Halt)
  deriving DecidableEq

namespace Cursor

variable {α : Type}

def finished : Cursor α := ⟨fun _ => .done⟩

def pull (cursor : Cursor α) : Answer α × Cursor α :=
  match cursor.resume () with
  | .done => (.exhausted, finished)
  | .item a tail => (.item a, ⟨tail⟩)
  | .halted why => (.halted why, cursor)

/-- Pulls items up to a limit, and not once more than the limit allows. -/
def pullUpTo : Nat → Cursor α → List α × Stop
  | 0, _ => ([], .limit)
  | limit + 1, cursor =>
      match cursor.pull with
      | (.item a, next) =>
          let (items, stop) := pullUpTo limit next
          (a :: items, stop)
      | (.exhausted, _) => ([], .exhausted)
      | (.halted why, _) => ([], .halted why)

end Cursor

end LazyGrammar
