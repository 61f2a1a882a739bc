import LazyGrammar.Unicode.GraphemeBreak
import LazyGrammar.Unicode.SentenceBreak
import LazyGrammar.Unicode.Version

/-!
# Sets of characters by property name

Names of Unicode properties and of their values, matched loosely: case, blanks,
hyphens and underscores do not count, nor does `is` in front. A name alone is
that of a binary property, a general category or a script, looked for in this
order; a name with a value selects the kind of property first.
-/

set_option autoImplicit false

namespace LazyGrammar.Unicode

/-- A name in the form that loose matching compares: ASCII letters in lower case, characters
beyond ASCII left out. An `is` in front is dropped, except from `isc`, which is a name itself. -/
def looseName (name : List Char) : String :=
  let significant := fun chars : List Char =>
    (chars.filter fun c => c.toNat < 0x80 && c != ' ' && c != '_' && c != '-').map Char.toLower
  match name with
  | i :: s :: rest =>
      if i.toLower = 'i' ∧ s.toLower = 's' then
        let kept := significant rest
        if kept = ['c'] then "isc" else String.ofList kept
      else String.ofList (significant name)
  | _ => String.ofList (significant name)

def valueNamed? {α : Type} (entries : List (List String × α)) (name : String) : Option α :=
  (entries.find? fun entry => entry.1.contains name).map Prod.snd

namespace GeneralCategory

def named : List (List String × List GeneralCategory) := [
  (["lu", "uppercaseletter"], [.uppercaseLetter]),
  (["ll", "lowercaseletter"], [.lowercaseLetter]),
  (["lt", "titlecaseletter"], [.titlecaseLetter]),
  (["lc", "casedletter"], [.uppercaseLetter, .lowercaseLetter, .titlecaseLetter]),
  (["lm", "modifierletter"], [.modifierLetter]),
  (["lo", "otherletter"], [.otherLetter]),
  (["l", "letter"],
    [.uppercaseLetter, .lowercaseLetter, .titlecaseLetter, .modifierLetter, .otherLetter]),
  (["mn", "nonspacingmark"], [.nonspacingMark]),
  (["mc", "spacingmark"], [.spacingMark]),
  (["me", "enclosingmark"], [.enclosingMark]),
  (["m", "mark", "combiningmark"], [.nonspacingMark, .spacingMark, .enclosingMark]),
  (["nd", "decimalnumber", "digit"], [.decimalNumber]),
  (["nl", "letternumber"], [.letterNumber]),
  (["no", "othernumber"], [.otherNumber]),
  (["n", "number"], [.decimalNumber, .letterNumber, .otherNumber]),
  (["pc", "connectorpunctuation"], [.connectorPunctuation]),
  (["pd", "dashpunctuation"], [.dashPunctuation]),
  (["ps", "openpunctuation"], [.openPunctuation]),
  (["pe", "closepunctuation"], [.closePunctuation]),
  (["pi", "initialpunctuation"], [.initialPunctuation]),
  (["pf", "finalpunctuation"], [.finalPunctuation]),
  (["po", "otherpunctuation"], [.otherPunctuation]),
  (["p", "punctuation", "punct"],
    [.connectorPunctuation, .dashPunctuation, .openPunctuation, .closePunctuation,
      .initialPunctuation, .finalPunctuation, .otherPunctuation]),
  (["sm", "mathsymbol"], [.mathSymbol]),
  (["sc", "currencysymbol"], [.currencySymbol]),
  (["sk", "modifiersymbol"], [.modifierSymbol]),
  (["so", "othersymbol"], [.otherSymbol]),
  (["s", "symbol"], [.mathSymbol, .currencySymbol, .modifierSymbol, .otherSymbol]),
  (["zs", "spaceseparator"], [.spaceSeparator]),
  (["zl", "lineseparator"], [.lineSeparator]),
  (["zp", "paragraphseparator"], [.paragraphSeparator]),
  (["z", "separator"], [.spaceSeparator, .lineSeparator, .paragraphSeparator]),
  (["cc", "control", "cntrl"], [.control]),
  (["cf", "format"], [.format]),
  (["co", "privateuse"], [.privateUse]),
  (["cn", "unassigned"], [.unassigned]),
  (["c", "other"], [.control, .format, .privateUse, .unassigned])]

/-- The characters of the category or group of categories with a loose name. Three sets that are
no categories are named beside them. -/
def charsNamed? (name : String) : Option CharSet :=
  if name = "any" then some .full
  else if name = "assigned" then some assignedChars
  else if name = "ascii" then some (.range '\x00' '\x7F')
  else (valueNamed? named name).map charsOfAny

end GeneralCategory

inductive PropertyQuery where
  | named (name : List Char)
  | withValue (name value : List Char)

namespace PropertyQuery

/-- The characters with the binary property of a loose name. Three short names are left to the
general categories, although they abbreviate properties too. -/
def binary? (name : String) : Option CharSet :=
  if name = "cf" ∨ name = "sc" ∨ name = "lc" then none
  else valueNamed? Property.named name

def chars? : PropertyQuery → Option CharSet
  | .named name =>
      let loose := looseName name
      binary? loose
        <|> GeneralCategory.charsNamed? loose
        <|> (Script.named? loose).map Script.chars
  | .withValue name value =>
      let loose := looseName value
      match looseName name with
      | "gc" | "generalcategory" => GeneralCategory.charsNamed? loose
      | "sc" | "script" => (Script.named? loose).map Script.chars
      | "scx" | "scriptextensions" => (Script.named? loose).map Script.extendedChars
      | "age" => Version.charsUpTo? loose
      | "gcb" | "graphemeclusterbreak" =>
          (valueNamed? GraphemeBreak.named loose).map GraphemeBreak.chars
      | "wb" | "wordbreak" => (valueNamed? WordBreak.named loose).map WordBreak.chars
      | "sb" | "sentencebreak" => (valueNamed? SentenceBreak.named loose).map SentenceBreak.chars
      | _ => none

end PropertyQuery

end LazyGrammar.Unicode
