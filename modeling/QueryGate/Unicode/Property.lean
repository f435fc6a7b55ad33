import QueryGate.Unicode.Alphabetic
import QueryGate.Unicode.CaseFold
import QueryGate.Unicode.Casing
import QueryGate.Unicode.Combining
import QueryGate.Unicode.Emoji
import QueryGate.Unicode.Ending
import QueryGate.Unicode.Identifier
import QueryGate.Unicode.Invisible
import QueryGate.Unicode.Mathematics
import QueryGate.Unicode.Selection

/-!
Properties that a character has or has not.

Most of them are put together from categories and from each other, so that the
tables hold only what does not follow.
-/

namespace QueryGate.Unicode

namespace Property

def asciiHexDigit : Selection :=
  .ranges [⟨0x30, 0x39, 1⟩, ⟨0x41, 0x46, 1⟩, ⟨0x61, 0x66, 1⟩]

def whiteSpace : Selection :=
  .ranges [⟨0x9, 0xD, 1⟩, ⟨0x20, 0x20, 1⟩, ⟨0x85, 0x85, 1⟩, ⟨0xA0, 0xA0, 1⟩,
    ⟨0x1680, 0x1680, 1⟩, ⟨0x2000, 0x200A, 1⟩, ⟨0x2028, 0x2029, 1⟩,
    ⟨0x202F, 0x202F, 1⟩, ⟨0x205F, 0x205F, 1⟩, ⟨0x3000, 0x3000, 1⟩]

/-- Letters, and the numbers that are letters. -/
def letterLike : Selection :=
  .categories (.letterNumber :: Category.letters)

/-- Characters that behave like letters. -/
def alphabetic : Selection :=
  letterLike ∪ .ranges Alphabetic.otherAlphabetics

def lowercase : Selection :=
  .categories [.lowercaseLetter] ∪ .ranges Casing.otherLowercase

def uppercase : Selection :=
  .categories [.uppercaseLetter] ∪ .ranges Casing.otherUppercase

/-- Characters in lower, upper or title case. -/
def cased : Selection :=
  lowercase ∪ uppercase ∪ .categories [.titlecaseLetter]

/-- Characters that do not count when the case of those around them is looked at. -/
def caseIgnorable : Selection :=
  .categories [.nonspacingMark, .enclosingMark, .format, .modifierLetter,
    .modifierSymbol] ∪
    .ranges [⟨0x27, 0x27, 1⟩, ⟨0x2E, 0x2E, 1⟩, ⟨0x3A, 0x3A, 1⟩, ⟨0xB7, 0xB7, 1⟩,
      ⟨0x387, 0x387, 1⟩, ⟨0x55F, 0x55F, 1⟩, ⟨0x5F4, 0x5F4, 1⟩, ⟨0x2018, 0x2019, 1⟩,
      ⟨0x2024, 0x2024, 1⟩, ⟨0x2027, 0x2027, 1⟩, ⟨0xFE13, 0xFE13, 1⟩,
      ⟨0xFE52, 0xFE52, 1⟩, ⟨0xFE55, 0xFE55, 1⟩, ⟨0xFF07, 0xFF07, 1⟩,
      ⟨0xFF0E, 0xFF0E, 1⟩, ⟨0xFF1A, 0xFF1A, 1⟩]

/-- Characters that stand for themselves in no comparison without case. -/
def foldable : Selection :=
  .ranges (foldRanges.map FoldRange.domain)

/-- Characters that others stand for in comparisons without case. -/
def foldTargets : Selection :=
  .ranges (foldRanges.map FoldRange.codomain)

def changesWhenLowercased : Selection :=
  (foldable \ .ranges Casing.lowercaseFolded) ∪ .ranges Casing.lowercasedOnly

def changesWhenUppercased : Selection :=
  (foldTargets \ .ranges Casing.uppercaseFolds) ∪ .ranges Casing.uppercasedOnly

def changesWhenTitlecased : Selection :=
  (changesWhenUppercased \ .ranges Casing.titlecaseKept) ∪ .ranges
    Casing.titlecasedOnly

def changesWhenCasefolded : Selection :=
  (foldable \ .ranges Casing.composedFolds) ∪ .ranges Casing.foldedToSeveral

def changesWhenCasemapped : Selection :=
  changesWhenLowercased ∪ changesWhenUppercased ∪ changesWhenTitlecased

def math : Selection :=
  .categories [.mathSymbol] ∪ .ranges Mathematics.otherMath

def dash : Selection :=
  .categories [.dashPunctuation] ∪ .ranges Ending.otherDashes

def terminalPunctuation : Selection :=
  .ranges Ending.sentenceTerminals ∪ .ranges Ending.otherTerminals

def patternSyntax : Selection :=
  .ranges Identifier.patternSyntax

def patternWhiteSpace : Selection :=
  .ranges Identifier.patternBlanks

/-- Characters that may begin an identifier. -/
def idStart : Selection :=
  (letterLike ∪ .ranges Identifier.otherStarts) \ patternSyntax

/-- Characters that may continue an identifier. -/
def idContinue : Selection :=
  (idStart ∪ .ranges Identifier.otherContinues ∪
    .categories [.nonspacingMark, .spacingMark, .decimalNumber,
      .connectorPunctuation]) \ patternSyntax

def xidStart : Selection :=
  idStart \ .ranges Identifier.unstableStarts

def xidContinue : Selection :=
  idContinue \ .ranges Identifier.unstableContinues

def mathStarts : Selection :=
  .ranges Identifier.mathStarts

def mathContinues : Selection :=
  mathStarts ∪ .ranges Identifier.mathContinues

def unifiedIdeograph : Selection :=
  .ranges Alphabetic.unifiedIdeographs

def ideographic : Selection :=
  unifiedIdeograph ∪ .ranges Alphabetic.otherIdeographs

def prependedMarks : Selection :=
  .ranges Combining.prependedMarks

def variationSelectors : Selection :=
  .ranges Invisible.variationSelectors

/-- Code points that show nothing where they are not known. -/
def defaultIgnorable : Selection :=
  ((.categories [.format] ∪ variationSelectors) \
    (.ranges Invisible.visibleFormats ∪ prependedMarks)) ∪ .ranges
      Invisible.otherIgnorables

def graphemeExtend : Selection :=
  .categories [.nonspacingMark, .enclosingMark] ∪ .ranges Combining.otherExtends

def graphemeBase : Selection :=
  .categories (Category.letters ++ Category.marks ++ Category.numbers ++
    Category.punctuation ++
    Category.symbols ++ [.spaceSeparator]) \ graphemeExtend

/-- Digits of decimal numbers. -/
def digit : Selection :=
  .categories [.decimalNumber]

/-- Characters of words. The two that join or part the letters around them are among
them. -/
def word : Selection :=
  alphabetic ∪ .categories (Category.marks ++
    [.decimalNumber, .connectorPunctuation]) ∪
    .ranges Invisible.joinControls

/-- The properties that have names. -/
def all : List NamedSelection :=
  [⟨["asciihexdigit", "ahex"], asciiHexDigit⟩,
   ⟨["alphabetic", "alpha"], alphabetic⟩,
   ⟨["bidicontrol", "bidic"], .ranges Invisible.directionMarks⟩,
   ⟨["bidimirrored", "bidim"], .ranges Mathematics.mirrored⟩,
   ⟨["caseignorable", "ci"], caseIgnorable⟩,
   ⟨["cased"], cased⟩,
   ⟨["changeswhencasefolded", "cwcf"], changesWhenCasefolded⟩,
   ⟨["changeswhencasemapped", "cwcm"], changesWhenCasemapped⟩,
   ⟨["changeswhenlowercased", "cwl"], changesWhenLowercased⟩,
   ⟨["changeswhentitlecased", "cwt"], changesWhenTitlecased⟩,
   ⟨["changeswhenuppercased", "cwu"], changesWhenUppercased⟩,
   ⟨["dash"], dash⟩,
   ⟨["defaultignorablecodepoint", "di"], defaultIgnorable⟩,
   ⟨["deprecated", "dep"], .ranges Invisible.deprecated⟩,
   ⟨["diacritic", "dia"], .ranges Alphabetic.diacritics⟩,
   ⟨["emoji"], .ranges Emoji.emoji⟩,
   ⟨["emojicomponent", "ecomp"], .ranges Emoji.components⟩,
   ⟨["emojimodifier", "emod"], .ranges Emoji.modifiers⟩,
   ⟨["emojimodifierbase", "ebase"], .ranges Emoji.modifierBases⟩,
   ⟨["emojipresentation", "epres"], .ranges Emoji.presentedEmoji⟩,
   ⟨["extendedpictographic", "extpict"], .ranges Emoji.pictographs⟩,
   ⟨["extender", "ext"], .ranges Alphabetic.extenders⟩,
   ⟨["graphemebase", "grbase"], graphemeBase⟩,
   ⟨["graphemeextend", "grext"], graphemeExtend⟩,
   ⟨["graphemelink", "grlink"], .ranges Combining.links⟩,
   ⟨["hexdigit", "hex"], .ranges Mathematics.hexDigits⟩,
   ⟨["hyphen"], .ranges Ending.hyphens⟩,
   ⟨["idsbinaryoperator", "idsb"], .ranges Combining.binaryOperators⟩,
   ⟨["idstrinaryoperator", "idst"], .ranges Combining.trinaryOperators⟩,
   ⟨["idsunaryoperator", "idsu"], .ranges Combining.unaryOperators⟩,
   ⟨["idcompatmathcontinue"], mathContinues⟩,
   ⟨["idcompatmathstart"], mathStarts⟩,
   ⟨["idcontinue", "idc"], idContinue⟩,
   ⟨["idstart", "ids"], idStart⟩,
   ⟨["ideographic", "ideo"], ideographic⟩,
   ⟨["joincontrol", "joinc"], .ranges Invisible.joinControls⟩,
   ⟨["logicalorderexception", "loe"], .ranges Combining.visualOrder⟩,
   ⟨["lowercase", "lower"], lowercase⟩,
   ⟨["math"], math⟩,
   ⟨["modifiercombiningmark", "mcm"], .ranges Combining.modifierMarks⟩,
   ⟨["noncharactercodepoint", "nchar"], .ranges Invisible.noncharacters⟩,
   ⟨["otheralphabetic", "oalpha"], .ranges Alphabetic.otherAlphabetics⟩,
   ⟨["otherdefaultignorablecodepoint", "odi"], .ranges Invisible.otherIgnorables⟩,
   ⟨["othergraphemeextend", "ogrext"], .ranges Combining.otherExtends⟩,
   ⟨["otheridcontinue", "oidc"], .ranges Identifier.otherContinues⟩,
   ⟨["otheridstart", "oids"], .ranges Identifier.otherStarts⟩,
   ⟨["otherlowercase", "olower"], .ranges Casing.otherLowercase⟩,
   ⟨["othermath", "omath"], .ranges Mathematics.otherMath⟩,
   ⟨["otheruppercase", "oupper"], .ranges Casing.otherUppercase⟩,
   ⟨["patternsyntax", "patsyn"], patternSyntax⟩,
   ⟨["patternwhitespace", "patws"], patternWhiteSpace⟩,
   ⟨["prependedconcatenationmark", "pcm"], prependedMarks⟩,
   ⟨["quotationmark", "qmark"], .ranges Ending.quotationMarks⟩,
   ⟨["radical"], .ranges Alphabetic.radicals⟩,
   ⟨["regionalindicator", "ri"], .ranges Emoji.regionalIndicators⟩,
   ⟨["sentenceterminal", "sterm"], .ranges Ending.sentenceTerminals⟩,
   ⟨["softdotted", "sd"], .ranges Casing.softDotted⟩,
   ⟨["terminalpunctuation", "term"], terminalPunctuation⟩,
   ⟨["unifiedideograph", "uideo"], unifiedIdeograph⟩,
   ⟨["uppercase", "upper"], uppercase⟩,
   ⟨["variationselector", "vs"], variationSelectors⟩,
   ⟨["whitespace", "wspace", "space"], whiteSpace⟩,
   ⟨["xidcontinue", "xidc"], xidContinue⟩,
   ⟨["xidstart", "xids"], xidStart⟩]

end Property

def isAscii (c : Char) : Bool :=
  c.toNat < 0x80

def isAlphabetic (c : Char) : Bool :=
  if isAscii c then c.isAlpha else Property.alphabetic.contains c

def isNumeric (c : Char) : Bool :=
  if isAscii c then c.isDigit else inCategories Category.numbers c

def isWord (c : Char) : Bool :=
  if isAscii c then c.isAlphanum || c == '_' else Property.word.contains c

end QueryGate.Unicode
