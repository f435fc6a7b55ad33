import QueryGate.Pattern.CharSet
import QueryGate.Unicode.Age
import QueryGate.Unicode.Break

/-!
The names by which a pattern refers to sets of Unicode characters.

Case, blanks, hyphens and underscores do not count in a name, and neither does a
leading `is`. A name alone is a property, a general category or a script, in this
order; with a value it says which kind of set is meant.
-/

namespace QueryGate.Pattern

open QueryGate.Unicode

/-- The general categories and their groups, by name. -/
def categoryNames : List (List String × List Category) :=
  [(["l", "letter"], Category.letters),
    (["lc", "casedletter"], Category.casedLetters),
    (["lu", "uppercaseletter"], [.uppercaseLetter]),
    (["ll", "lowercaseletter"], [.lowercaseLetter]),
    (["lt", "titlecaseletter"], [.titlecaseLetter]),
    (["lm", "modifierletter"], [.modifierLetter]),
    (["lo", "otherletter"], [.otherLetter]),
    (["m", "mark", "combiningmark"], Category.marks),
    (["mn", "nonspacingmark"], [.nonspacingMark]),
    (["mc", "spacingmark"], [.spacingMark]),
    (["me", "enclosingmark"], [.enclosingMark]),
    (["n", "number"], Category.numbers),
    (["nd", "decimalnumber", "digit"], [.decimalNumber]),
    (["nl", "letternumber"], [.letterNumber]),
    (["no", "othernumber"], [.otherNumber]),
    (["p", "punctuation", "punct"], Category.punctuation),
    (["pc", "connectorpunctuation"], [.connectorPunctuation]),
    (["pd", "dashpunctuation"], [.dashPunctuation]),
    (["ps", "openpunctuation"], [.openPunctuation]),
    (["pe", "closepunctuation"], [.closePunctuation]),
    (["pi", "initialpunctuation"], [.initialPunctuation]),
    (["pf", "finalpunctuation"], [.finalPunctuation]),
    (["po", "otherpunctuation"], [.otherPunctuation]),
    (["s", "symbol"], Category.symbols), (["sm", "mathsymbol"], [.mathSymbol]),
    (["sc", "currencysymbol"], [.currencySymbol]),
    (["sk", "modifiersymbol"], [.modifierSymbol]),
    (["so", "othersymbol"], [.otherSymbol]),
    (["z", "separator"], Category.separators),
    (["zs", "spaceseparator"], [.spaceSeparator]),
    (["zl", "lineseparator"], [.lineSeparator]),
    (["zp", "paragraphseparator"], [.paragraphSeparator]),
    (["cc", "control", "cntrl"], [.control]), (["cf", "format"], [.format]),
    (["co", "privateuse"], [.privateUse]), (["assigned"], Category.assigned)]

/-- The characters of a general category or of a group of them. -/
def categorySelection? (name : String) : Option Selection :=
  match categoryNames.find? fun entry => entry.1.contains name with
  | some entry => some (.categories entry.2)
  | none =>
      if name = "any" then some .every
      else if name = "ascii" then some (.ranges AsciiClass.ascii.ranges)
      else if name = "cn" || name = "unassigned" then some .unassigned
      else if name = "c" || name = "other" then
        some (.categories [.control, .format, .privateUse] ∪ .unassigned)
      else none

def scriptSelection? (name : String) : Option Selection :=
  (Script.ofName? name).map Script.selection

/-- The part of a name that counts. The name `isc` is kept, because the rest of it
would be the name of something else. -/
def plainName (name : List Char) : String :=
  let plain := fun s : List Char =>
    (s.filter fun c => isAscii c && c != ' ' && c != '_' && c != '-').map
      Char.toLower
  match name with
  | first :: second :: rest =>
      if first.toLower = 'i' && second.toLower = 's' then
        if plain rest = ['c'] then "isc" else String.ofList (plain rest)
      else String.ofList (plain name)
  | _ => String.ofList (plain name)

/-- The characters that a name alone stands for. -/
def namedSelection? (name : List Char) : Option Selection :=
  let plain := plainName name
  NamedSelection.find? Property.all plain <|> categorySelection? plain <|>
    scriptSelection? plain

/-- The kinds of sets that are told apart by a value, each with the sets of its
values. -/
def valueKinds : List (List String × (String → Option Selection)) :=
  [(["generalcategory", "gc"], categorySelection?),
    (["script", "sc"], scriptSelection?),
    (["scriptextensions", "scx"], fun name =>
      (Script.ofName? name).map Script.extension), (["age"], fun name =>
        (Version.ofName? name).map Version.selection),
    (["graphemeclusterbreak", "gcb"], NamedSelection.find? ClusterBreak.all),
    (["wordbreak", "wb"], NamedSelection.find? WordBreak.all),
    (["sentencebreak", "sb"], NamedSelection.find? SentenceBreak.all)]

/-- The characters that a kind of set and a value stand for. -/
def valuedSelection? (kind value : List Char) : Option Selection :=
  (valueKinds.find? fun entry => entry.1.contains (plainName kind)).bind
    fun entry =>
    entry.2 (plainName value)

end QueryGate.Pattern
