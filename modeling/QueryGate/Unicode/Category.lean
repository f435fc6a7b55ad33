import QueryGate.Unicode.Letter
import QueryGate.Unicode.Mark
import QueryGate.Unicode.Number
import QueryGate.Unicode.Punctuation
import QueryGate.Unicode.Symbol

/-!
The general categories of characters.

A character has one category at most. Characters without one are not assigned.
-/

namespace QueryGate.Unicode

inductive Category where
  | uppercaseLetter | lowercaseLetter | titlecaseLetter
      | modifierLetter | otherLetter
  | nonspacingMark | spacingMark | enclosingMark
  | decimalNumber | letterNumber | otherNumber
  | connectorPunctuation | dashPunctuation | openPunctuation | closePunctuation
  | initialPunctuation | finalPunctuation | otherPunctuation
  | mathSymbol | currencySymbol | modifierSymbol | otherSymbol
  | spaceSeparator | lineSeparator | paragraphSeparator
  | control | format | privateUse
deriving DecidableEq, Repr

namespace Category

/-- Control characters. -/
def controls : List Range :=
  [⟨0x0, 0x1F, 1⟩, ⟨0x7F, 0x9F, 1⟩]

/-- Characters that only affect the layout or the reading of others. -/
def formats : List Range :=
  [⟨0xAD, 0xAD, 1⟩, ⟨0x600, 0x605, 1⟩, ⟨0x61C, 0x61C, 1⟩, ⟨0x6DD, 0x6DD, 1⟩,
   ⟨0x70F, 0x70F, 1⟩, ⟨0x890, 0x891, 1⟩, ⟨0x8E2, 0x8E2, 1⟩, ⟨0x180E, 0x180E, 1⟩,
   ⟨0x200B, 0x200F, 1⟩, ⟨0x202A, 0x202E, 1⟩, ⟨0x2060, 0x2064, 1⟩,
   ⟨0x2066, 0x206F, 1⟩, ⟨0xFEFF, 0xFEFF, 1⟩, ⟨0xFFF9, 0xFFFB, 1⟩,
   ⟨0x110BD, 0x110BD, 1⟩, ⟨0x110CD, 0x110CD, 1⟩, ⟨0x13430, 0x1343F, 1⟩,
   ⟨0x1BCA0, 0x1BCA3, 1⟩, ⟨0x1D173, 0x1D17A, 1⟩, ⟨0xE0001, 0xE0001, 1⟩,
   ⟨0xE0020, 0xE007F, 1⟩]

def privateUses : List Range :=
  [⟨0xE000, 0xF8FF, 1⟩, ⟨0xF0000, 0xFFFFD, 1⟩, ⟨0x100000, 0x10FFFD, 1⟩]

def spaces : List Range :=
  [⟨0x20, 0x20, 1⟩, ⟨0xA0, 0xA0, 1⟩, ⟨0x1680, 0x1680, 1⟩, ⟨0x2000, 0x200A, 1⟩,
   ⟨0x202F, 0x202F, 1⟩, ⟨0x205F, 0x205F, 1⟩, ⟨0x3000, 0x3000, 1⟩]

/-- The characters of a category. -/
def ranges : Category → List Range
  | uppercaseLetter => Letter.uppercaseLetters
  | lowercaseLetter => Letter.lowercaseLetters
  | titlecaseLetter => Letter.titlecaseLetters
  | modifierLetter => Letter.modifierLetters
  | otherLetter => Letter.otherLetters
  | nonspacingMark => Mark.nonspacingMarks
  | spacingMark => Mark.spacingMarks
  | enclosingMark => Mark.enclosingMarks
  | decimalNumber => Number.decimalDigits
  | letterNumber => Number.letterNumbers
  | otherNumber => Number.otherNumbers
  | connectorPunctuation => Punctuation.connectors
  | dashPunctuation => Punctuation.dashes
  | openPunctuation => Punctuation.openers
  | closePunctuation => Punctuation.closers
  | initialPunctuation => Punctuation.initialQuotes
  | finalPunctuation => Punctuation.finalQuotes
  | otherPunctuation => Punctuation.otherPunctuation
  | mathSymbol => Symbol.mathSymbols
  | currencySymbol => Symbol.currencySymbols
  | modifierSymbol => Symbol.modifierSymbols
  | otherSymbol => Symbol.otherSymbols
  | spaceSeparator => spaces
  | lineSeparator => [⟨0x2028, 0x2028, 1⟩]
  | paragraphSeparator => [⟨0x2029, 0x2029, 1⟩]
  | control => controls
  | format => formats
  | privateUse => privateUses

def contains (category : Category) (c : Char) : Bool :=
  inRanges category.ranges c

def casedLetters : List Category :=
  [uppercaseLetter, lowercaseLetter, titlecaseLetter]

def letters : List Category :=
  casedLetters ++ [modifierLetter, otherLetter]

def marks : List Category :=
  [nonspacingMark, spacingMark, enclosingMark]

def numbers : List Category :=
  [decimalNumber, letterNumber, otherNumber]

def punctuation : List Category :=
  [connectorPunctuation, dashPunctuation, openPunctuation, closePunctuation,
    initialPunctuation, finalPunctuation, otherPunctuation]

def symbols : List Category :=
  [mathSymbol, currencySymbol, modifierSymbol, otherSymbol]

def separators : List Category :=
  [spaceSeparator, lineSeparator, paragraphSeparator]

/-- The categories of every character that has a meaning. -/
def assigned : List Category :=
  letters ++ marks ++ numbers ++ punctuation ++ symbols ++ separators ++
    [control, format, privateUse]

end Category

/-- Whether a character belongs to one of the categories. -/
def inCategories (categories : List Category) (c : Char) : Bool :=
  categories.any (·.contains c)

end QueryGate.Unicode
