import LazyGrammar.Grammar

/-!
# Sessions

Several iterators over parses of one grammar, open at the same time under names.
Each keeps its own place; opening one computes nothing, and opening one under a
name in use replaces the older.
-/

set_option autoImplicit false

namespace LazyGrammar

/-- A place among the parses of an input, or among the values of its complete parses. -/
inductive Iterator where
  | parses (cursor : Cursor Parse)
  | values (cursor : Cursor Value)

inductive Finding where
  | parse (answer : Answer Parse)
  | value (answer : Answer Value)

namespace Iterator

def pull : Iterator → Finding × Iterator
  | .parses cursor => (.parse cursor.pull.1, .parses cursor.pull.2)
  | .values cursor => (.value cursor.pull.1, .values cursor.pull.2)

end Iterator

inductive Entrance where
  | start
  | rule (name : String)
  | full

namespace Grammar

def iterator (grammar : Grammar) (fuel : Nat) (entrance : Entrance) (input : String) :
    Except GrammarError Iterator :=
  match entrance with
  | .start => .ok (.parses (grammar.parse fuel input))
  | .rule name => (grammar.parseRule fuel name input).map .parses
  | .full => .ok (.values (grammar.parseFull fuel input))

end Grammar

structure Session where
  iterators : List (String × Iterator) := []

namespace Session

def get? (session : Session) (id : String) : Option Iterator := session.iterators.lookup id

/-- Keeps an iterator under a name, in place of an older one. -/
def keep (session : Session) (id : String) (iterator : Iterator) : Session :=
  ⟨(id, iterator) :: session.iterators.filter fun entry => entry.1 ≠ id⟩

def pull? (session : Session) (id : String) : Option (Finding × Session) :=
  (session.get? id).map fun iterator => (iterator.pull.1, session.keep id iterator.pull.2)

/-- Keeping an iterator changes what is under its name, and nothing else. -/
theorem get?_keep {session : Session} {id other : String} {iterator : Iterator} :
    (session.keep id iterator).get? other =
      if other = id then some iterator else session.get? other := by
  rw [get?, keep, lookup_cons_eq_ite]
  by_cases same : other = id
  · rw [if_pos same, if_pos same]
  · rw [if_neg same, if_neg same, get?]
    exact lookup_filter (fun name => name ≠ id) (decide_eq_true same)

end Session

end LazyGrammar
