/-!
# Outlines

The shape in which values and expressions are shown: named tuples and records,
lists, sets and maps over atomic texts. An outline is written on one line, or
with one element a line and four blanks of indentation a level.
-/

set_option autoImplicit false

namespace LazyGrammar

inductive Outline where
  | atom (content : String)
  | tuple (name : String) (items : List Outline)
  | record (name : String) (fields : List (String × Outline))
  | list (items : List Outline)
  | set (items : List Outline)
  | map (entries : List (String × Outline))

namespace Outline

mutual

def compact : Outline → String
  | .atom content => content
  | .tuple name items => name ++ "(" ++ compactItems items ++ ")"
  | .record name fields => name ++ " \x7b " ++ compactFields fields ++ " \x7d"
  | .list items => "[" ++ compactItems items ++ "]"
  | .set items => "\x7b" ++ compactItems items ++ "\x7d"
  | .map entries => "\x7b" ++ compactFields entries ++ "\x7d"

def compactItems : List Outline → String
  | [] => ""
  | [item] => item.compact
  | item :: next :: rest => item.compact ++ ", " ++ compactItems (next :: rest)

def compactFields : List (String × Outline) → String
  | [] => ""
  | [(label, item)] => label ++ ": " ++ item.compact
  | (label, item) :: next :: rest =>
      label ++ ": " ++ item.compact ++ ", " ++ compactFields (next :: rest)

end

/-- A text one level further in: four blanks before it and after every line end in it. -/
def indent (content : String) : String :=
  String.ofList ([' ', ' ', ' ', ' '] ++ content.toList.flatMap fun c =>
    if c = '\n' then ['\n', ' ', ' ', ' ', ' '] else [c])

mutual

/-- An outline with one element a line; an outline without elements stays on its line. -/
def pretty : Outline → String
  | .atom content => content
  | .tuple name items => name ++ "(\n" ++ prettyItems items ++ ")"
  | .record name fields => name ++ " \x7b\n" ++ prettyFields fields ++ "\x7d"
  | .list [] => "[]"
  | .list (item :: rest) => "[\n" ++ prettyItems (item :: rest) ++ "]"
  | .set [] => "\x7b\x7d"
  | .set (item :: rest) => "\x7b\n" ++ prettyItems (item :: rest) ++ "\x7d"
  | .map [] => "\x7b\x7d"
  | .map (entry :: rest) => "\x7b\n" ++ prettyFields (entry :: rest) ++ "\x7d"

def prettyItems : List Outline → String
  | [] => ""
  | item :: rest => indent item.pretty ++ ",\n" ++ prettyItems rest

def prettyFields : List (String × Outline) → String
  | [] => ""
  | (label, item) :: rest => indent (label ++ ": " ++ item.pretty) ++ ",\n" ++ prettyFields rest

end

end Outline

end LazyGrammar
