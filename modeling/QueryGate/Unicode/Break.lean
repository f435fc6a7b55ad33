import QueryGate.Unicode.Property
import QueryGate.Unicode.ScriptExtension

/-!
The roles of characters where a text is cut into clusters, words and sentences.

A character has one role at most in each of the three. Those without one have no
name there.
-/

namespace QueryGate.Unicode

namespace ClusterBreak

def carriageReturn : Selection :=
  .one 0xD

def lineFeed : Selection :=
  .one 0xA

def joiner : Selection :=
  .one 0x200D

def regionalIndicator : Selection :=
  .ranges Emoji.regionalIndicators

/-- Characters that belong to the cluster before them. -/
def extend : Selection :=
  Property.graphemeExtend ∪ .ranges Emoji.modifiers

def spacingMark : Selection :=
  ((.categories [.spacingMark] \ extend) \ .ranges
    [⟨0x102B, 0x102C, 1⟩, ⟨0x1038, 0x1038, 1⟩, ⟨0x1062, 0x1064, 1⟩,
      ⟨0x1067, 0x106D, 1⟩,
     ⟨0x1083, 0x1083, 1⟩, ⟨0x1087, 0x108C, 1⟩, ⟨0x108F, 0x108F, 1⟩,
     ⟨0x109A, 0x109C, 1⟩, ⟨0x1A61, 0x1A61, 1⟩, ⟨0x1A63, 0x1A64, 1⟩,
     ⟨0xAA7B, 0xAA7B, 1⟩, ⟨0xAA7D, 0xAA7D, 1⟩, ⟨0x11720, 0x11721, 1⟩]) ∪ .ranges
       [⟨0xE33, 0xE33, 1⟩, ⟨0xEB3, 0xEB3, 1⟩]

def control : Selection :=
  (.categories [.lineSeparator, .paragraphSeparator, .control, .format] ∪
    (Selection.unassigned ∩ Property.defaultIgnorable)) \
      (.ranges [⟨0xA, 0xA, 1⟩, ⟨0xD, 0xD, 1⟩, ⟨0x200C, 0x200D, 1⟩] ∪
        Property.prependedMarks ∪ extend)

def prepend : Selection :=
  Property.prependedMarks ∪ .ranges
    [⟨0xD4E, 0xD4E, 1⟩, ⟨0x111C2, 0x111C3, 1⟩, ⟨0x113D1, 0x113D1, 1⟩,
      ⟨0x1193F, 0x1193F, 1⟩,
     ⟨0x11941, 0x11941, 1⟩, ⟨0x11A3A, 0x11A3A, 1⟩, ⟨0x11A84, 0x11A89, 1⟩,
     ⟨0x11D46, 0x11D46, 1⟩, ⟨0x11F02, 0x11F02, 1⟩]

/-- The first parts of written syllables. -/
def leading : Selection :=
  .ranges [⟨0x1100, 0x115F, 1⟩, ⟨0xA960, 0xA97C, 1⟩]

/-- The middle parts of written syllables. -/
def vowel : Selection :=
  .ranges [⟨0x1160, 0x11A7, 1⟩, ⟨0xD7B0, 0xD7C6, 1⟩, ⟨0x16D63, 0x16D63, 1⟩,
    ⟨0x16D67, 0x16D6A, 1⟩]

/-- The last parts of written syllables. -/
def trailing : Selection :=
  .ranges [⟨0x11A8, 0x11FF, 1⟩, ⟨0xD7CB, 0xD7FB, 1⟩]

/-- Written syllables of two parts. They have no last part, and every 28th syllable
is one. -/
def openSyllable : Selection :=
  .ranges [⟨0xAC00, 0xD788, 28⟩]

/-- Written syllables of three parts. -/
def closedSyllable : Selection :=
  .ranges [⟨0xAC00, 0xD7A3, 1⟩] \ openSyllable

def all : List NamedSelection :=
  [⟨["control", "cn"], control⟩, ⟨["cr"], carriageReturn⟩,
    ⟨["extend", "ex"], extend⟩,
   ⟨["l"], leading⟩, ⟨["lf"], lineFeed⟩, ⟨["lv"], openSyllable⟩,
   ⟨["lvt"], closedSyllable⟩, ⟨["prepend", "pp"], prepend⟩,
   ⟨["regionalindicator", "ri"], regionalIndicator⟩,
   ⟨["spacingmark", "sm"], spacingMark⟩, ⟨["t"], trailing⟩, ⟨["v"], vowel⟩,
   ⟨["zwj"], joiner⟩]

end ClusterBreak

namespace WordBreak

def extend : Selection :=
  Property.graphemeExtend ∪ .categories [.spacingMark] ∪ .ranges Emoji.modifiers

def format : Selection :=
  .categories [.format] \ (.ranges [⟨0x200B, 0x200D, 1⟩] ∪ Property.prependedMarks
    ∪ extend)

def katakana : Selection :=
  Script.named "katakana" ∪ .ranges
    [⟨0x3031, 0x3035, 1⟩, ⟨0x309B, 0x309C, 1⟩, ⟨0x30A0, 0x30A0, 1⟩,
      ⟨0x30FC, 0x30FC, 1⟩,
     ⟨0xFF70, 0xFF70, 1⟩]

def hebrewLetter : Selection :=
  Script.named "hebrew" ∩ .categories [.otherLetter]

/-- The scripts that put no blanks between words. -/
def unspaced : Selection :=
  Script.named "thai" ∪ Script.named "lao" ∪ Script.named "myanmar" ∪ Script.named
    "khmer" ∪ Script.named "taile" ∪ Script.named "newtailue" ∪ Script.named
    "taitham" ∪
      Script.named "taiviet" ∪ Script.named "ahom"

def letter : Selection :=
  (Property.alphabetic \ (Property.ideographic ∪ katakana ∪ Script.named "hiragana"
    ∪ extend ∪ hebrewLetter ∪ unspaced)) ∪ .ranges
    [⟨0xB8, 0xB8, 1⟩, ⟨0x2C2, 0x2C5, 1⟩, ⟨0x2D2, 0x2D7, 1⟩, ⟨0x2DE, 0x2DF, 1⟩,
      ⟨0x2E5, 0x2EB, 1⟩,
     ⟨0x2ED, 0x2ED, 1⟩, ⟨0x2EF, 0x2FF, 1⟩, ⟨0x55A, 0x55C, 1⟩, ⟨0x55E, 0x55E, 1⟩,
     ⟨0x58A, 0x58A, 1⟩, ⟨0x5F3, 0x5F3, 1⟩, ⟨0x70F, 0x70F, 1⟩, ⟨0xA708, 0xA716, 1⟩,
     ⟨0xA720, 0xA721, 1⟩, ⟨0xA789, 0xA78A, 1⟩, ⟨0xAB5B, 0xAB5B, 1⟩]

def numeric : Selection :=
  Property.digit ∪ .ranges
    [⟨0x600, 0x605, 1⟩, ⟨0x66B, 0x66B, 1⟩, ⟨0x6DD, 0x6DD, 1⟩, ⟨0x890, 0x891, 1⟩,
      ⟨0x8E2, 0x8E2, 1⟩,
     ⟨0x19DA, 0x19DA, 1⟩, ⟨0x110BD, 0x110BD, 1⟩, ⟨0x110CD, 0x110CD, 1⟩]

/-- Characters that join letters, numbers and each other. -/
def connector : Selection :=
  .categories [.connectorPunctuation] ∪ .one 0x202F

/-- Characters that join letters. -/
def midLetter : Selection :=
  .ranges [⟨0x3A, 0x3A, 1⟩, ⟨0xB7, 0xB7, 1⟩, ⟨0x387, 0x387, 1⟩, ⟨0x55F, 0x55F, 1⟩,
    ⟨0x5F4, 0x5F4, 1⟩, ⟨0x2027, 0x2027, 1⟩, ⟨0xFE13, 0xFE13, 1⟩,
    ⟨0xFE55, 0xFE55, 1⟩, ⟨0xFF1A, 0xFF1A, 1⟩]

/-- Characters that join numbers. -/
def midNumber : Selection :=
  .ranges [⟨0x2C, 0x2C, 1⟩, ⟨0x3B, 0x3B, 1⟩, ⟨0x37E, 0x37E, 1⟩, ⟨0x589, 0x589, 1⟩,
    ⟨0x60C, 0x60D, 1⟩, ⟨0x66C, 0x66C, 1⟩, ⟨0x7F8, 0x7F8, 1⟩, ⟨0x2044, 0x2044, 1⟩,
    ⟨0xFE50, 0xFE50, 1⟩, ⟨0xFE54, 0xFE54, 1⟩, ⟨0xFF0C, 0xFF0C, 1⟩,
    ⟨0xFF1B, 0xFF1B, 1⟩]

/-- Characters that join letters and numbers. -/
def midBoth : Selection :=
  .ranges [⟨0x2E, 0x2E, 1⟩, ⟨0x2018, 0x2019, 1⟩, ⟨0x2024, 0x2024, 1⟩,
    ⟨0xFE52, 0xFE52, 1⟩, ⟨0xFF07, 0xFF07, 1⟩, ⟨0xFF0E, 0xFF0E, 1⟩]

def newline : Selection :=
  .ranges [⟨0xB, 0xC, 1⟩, ⟨0x85, 0x85, 1⟩, ⟨0x2028, 0x2029, 1⟩]

/-- Blanks at which a line may end. -/
def blank : Selection :=
  .categories [.spaceSeparator] \
    .ranges [⟨0xA0, 0xA0, 1⟩, ⟨0x2007, 0x2007, 1⟩, ⟨0x202F, 0x202F, 1⟩]

def all : List NamedSelection :=
  [⟨["aletter", "le"], letter⟩, ⟨["cr"], ClusterBreak.carriageReturn⟩,
   ⟨["doublequote", "dq"], .one 0x22⟩, ⟨["extend"], extend⟩,
   ⟨["extendnumlet", "ex"], connector⟩, ⟨["format", "fo"], format⟩,
   ⟨["hebrewletter", "hl"], hebrewLetter⟩, ⟨["katakana", "ka"], katakana⟩,
   ⟨["lf"], ClusterBreak.lineFeed⟩, ⟨["midletter", "ml"], midLetter⟩,
   ⟨["midnum", "mn"], midNumber⟩, ⟨["midnumlet", "mb"], midBoth⟩,
   ⟨["newline", "nl"], newline⟩, ⟨["numeric", "nu"], numeric⟩,
   ⟨["regionalindicator", "ri"], ClusterBreak.regionalIndicator⟩,
   ⟨["singlequote", "sq"], .one 0x27⟩, ⟨["wsegspace"], blank⟩,
   ⟨["zwj"], ClusterBreak.joiner⟩]

end WordBreak

namespace SentenceBreak

def extend : Selection :=
  Property.graphemeExtend ∪ .categories [.spacingMark] ∪ ClusterBreak.joiner

def format : Selection :=
  (.categories [.format] \ (.ranges [⟨0x200C, 0x200D, 1⟩] ∪ Property.prependedMarks
    ∪ extend)) ∪ .one 0x70F

/-- Characters that part paragraphs. -/
def separator : Selection :=
  .ranges [⟨0x85, 0x85, 1⟩, ⟨0x2028, 0x2029, 1⟩]

def blank : Selection :=
  Property.whiteSpace \ (separator ∪ ClusterBreak.carriageReturn ∪
    ClusterBreak.lineFeed)

def lower : Selection :=
  Property.lowercase \ (Property.graphemeExtend ∪
    .ranges [⟨0x10D0, 0x10FA, 1⟩, ⟨0x10FD, 0x10FF, 1⟩])

def upper : Selection :=
  (Property.uppercase ∪ .categories [.titlecaseLetter]) \
    .ranges [⟨0x1C90, 0x1CBA, 1⟩, ⟨0x1CBD, 0x1CBF, 1⟩]

def otherLetter : Selection :=
  (Property.alphabetic ∪ .one 0x5F3) \ (lower ∪ upper ∪ extend)

def numeric : Selection :=
  WordBreak.numeric ∪ .one 0x66C

/-- Full stops, which need not end a sentence. -/
def fullStop : Selection :=
  .ranges [⟨0x2E, 0x2E, 1⟩, ⟨0x2024, 0x2024, 1⟩, ⟨0xFE52, 0xFE52, 1⟩,
    ⟨0xFF0E, 0xFF0E, 1⟩]

/-- Punctuation that ends a sentence. -/
def terminal : Selection :=
  .ranges Ending.sentenceTerminals \ fullStop

/-- Punctuation after which a sentence goes on. -/
def continuation : Selection :=
  .ranges [⟨0x2C, 0x2D, 1⟩, ⟨0x3A, 0x3B, 1⟩, ⟨0x37E, 0x37E, 1⟩, ⟨0x55D, 0x55D, 1⟩,
    ⟨0x60C, 0x60D, 1⟩, ⟨0x7F8, 0x7F8, 1⟩, ⟨0x1802, 0x1802, 1⟩, ⟨0x1808, 0x1808, 1⟩,
    ⟨0x2013, 0x2014, 1⟩, ⟨0x3001, 0x3001, 1⟩, ⟨0xFE10, 0xFE11, 1⟩,
    ⟨0xFE13, 0xFE14, 1⟩, ⟨0xFE31, 0xFE32, 1⟩, ⟨0xFE50, 0xFE51, 1⟩,
    ⟨0xFE54, 0xFE55, 1⟩, ⟨0xFE58, 0xFE58, 1⟩, ⟨0xFE63, 0xFE63, 1⟩,
    ⟨0xFF0C, 0xFF0D, 1⟩, ⟨0xFF1A, 0xFF1B, 1⟩, ⟨0xFF64, 0xFF64, 1⟩]

/-- Brackets and quotation marks. -/
def closing : Selection :=
  ((.categories [.openPunctuation, .closePunctuation, .initialPunctuation,
    .finalPunctuation] ∪
    .ranges Ending.quotationMarks) \ .ranges [⟨0xFF02, 0xFF02, 1⟩,
    ⟨0xFF07, 0xFF07, 1⟩]) ∪ .ranges
    [⟨0x275B, 0x2760, 1⟩, ⟨0x2E00, 0x2E01, 1⟩, ⟨0x2E06, 0x2E08, 1⟩,
      ⟨0x2E0B, 0x2E0B, 1⟩,
     ⟨0x1F676, 0x1F678, 1⟩]

def all : List NamedSelection :=
  [⟨["aterm", "at"], fullStop⟩, ⟨["close", "cl"], closing⟩,
   ⟨["cr"], ClusterBreak.carriageReturn⟩, ⟨["extend", "ex"], extend⟩,
   ⟨["format", "fo"], format⟩, ⟨["lf"], ClusterBreak.lineFeed⟩,
   ⟨["lower", "lo"], lower⟩, ⟨["numeric", "nu"], numeric⟩,
   ⟨["oletter", "le"], otherLetter⟩, ⟨["scontinue", "sc"], continuation⟩,
   ⟨["sep", "se"], separator⟩, ⟨["sp"], blank⟩, ⟨["sterm", "st"], terminal⟩,
   ⟨["upper", "up"], upper⟩]

end SentenceBreak

end QueryGate.Unicode
