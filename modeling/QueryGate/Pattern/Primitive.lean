import QueryGate.Pattern.ClassName
import QueryGate.Pattern.Expression
import QueryGate.Text.Blank
import QueryGate.Text.Split

/-!
The smallest parts of a pattern: characters, escapes and named classes.

A reader takes the text that is left and gives what it read together with the rest,
or nothing when the text is no pattern. `Flags` are the switches that hold at a
place of the pattern.
-/

namespace QueryGate.Pattern

open QueryGate.Text QueryGate.Unicode

/-- The switches that say how a pattern is read. In a spaced one blanks do not
count, and a number sign begins a comment. -/
structure Flags where
  anyCase : Bool
  multiLine : Bool
  dotMatchesAll : Bool
  unicode : Bool
  crlf : Bool
  spaced : Bool
deriving DecidableEq, Repr

namespace Flags

def start : Flags :=
  ⟨false, false, false, true, false, false⟩

def alphabet (flags : Flags) : Alphabet :=
  if flags.unicode then .unicode else .ascii

/-- The switch of a letter, set to a value. The letter for lazy matching changes
nothing, because it has no influence on whether a pattern occurs. -/
def set? (flags : Flags) (letter : Char) (value : Bool) : Option Flags :=
  match letter with
  | 'i' => some { flags with anyCase := value }
  | 'm' => some { flags with multiLine := value }
  | 's' => some { flags with dotMatchesAll := value }
  | 'U' => some flags
  | 'u' => some { flags with unicode := value }
  | 'R' => some { flags with crlf := value }
  | 'x' => some { flags with spaced := value }
  | _ => none

/-- Sets the switches of the letters; those after a hyphen are turned off. -/
def setAll? (flags : Flags) (value : Bool) : List Char → Option Flags
  | [] => some flags
  | '-' :: rest => setAll? flags false rest
  | letter :: rest =>
      (flags.set? letter value).bind fun next => setAll? next value rest

end Flags

/-- Passes over blanks, and over comments to the end of their line. -/
def skipSpace (inComment : Bool) : List Char → List Char
  | [] => []
  | c :: rest =>
      if inComment then skipSpace (c != '\n') rest
      else if isBlank c then skipSpace false rest
      else if c = '#' then skipSpace true rest
      else c :: rest

/-- Passes over what does not count. -/
def Flags.skip (flags : Flags) (s : List Char) : List Char :=
  if flags.spaced then skipSpace false s else s

/-- The characters with a property that a text begins with, apart from what does not
count. -/
def Flags.run (flags : Flags) (p : Char → Bool) (inComment : Bool) :
    List Char → List Char × List Char
  | [] => ([], [])
  | c :: rest =>
      if inComment then flags.run p (c != '\n') rest
      else if flags.spaced && isBlank c then flags.run p false rest
      else if flags.spaced && c = '#' then flags.run p true rest
      else if p c then
        let further := flags.run p false rest
        (c :: further.1, further.2)
      else ([], c :: rest)

/-- What one character or escape of a pattern stands for. A character may have been
written as the number of a byte. -/
inductive Primitive where
  | char (c : Char) (asByte : Bool)
  | set (set : CharSet)
  | look (look : Look)
deriving Repr

/-- The value of a hexadecimal digit. -/
def hexValue (c : Char) : Nat :=
  if c.isDigit then c.toNat - '0'.toNat else c.toLower.toNat - 'a'.toNat + 10

/-- The character of a code point in hexadecimal digits. -/
def charOfHex? (digits : List Char) : Option Char :=
  let code := digits.foldl (fun n c => 16 * n + hexValue c) 0
  if digits.isEmpty || !decide code.isValidChar then none
  else some (Char.ofNat code)

/-- Reads exactly `count` hexadecimal digits. -/
def hexDigits? (flags : Flags) : Nat → List Char → Option (List Char × List Char)
  | 0, s => some ([], s)
  | _ + 1, [] => none
  | count + 1, c :: rest =>
      if AsciiClass.isHexDigit c then
        (hexDigits? flags count (flags.skip rest)).map fun read =>
          (c :: read.1, read.2)
      else none

/-- Reads a code point after the letter that announces it: digits in braces, or
`count` digits. -/
def readHex? (flags : Flags) (count : Nat) (s : List Char) :
    Option (Primitive × List Char) :=
  match flags.skip s with
  | '{' :: rest =>
      match flags.run AsciiClass.isHexDigit false rest with
      | (digits, '}' :: after) =>
          (charOfHex? digits).map fun c => (.char c false, after)
      | _ => none
  | start => do
      let (digits, after) ← hexDigits? flags count start
      let c ← charOfHex? digits
      return (.char c (count = 2), after)

/-- Reads the name of a set of characters after the letter that announces it. -/
def readClassName? (flags : Flags) (s : List Char) :
    Option ((Bool × CharSet) × List Char) :=
  match flags.skip s with
  | [] => none
  | '{' :: rest =>
      match flags.run (· != '}') false rest with
      | (name, '}' :: after) =>
          let found := match splitOnce "!=".toList name with
            | some (kind, value) =>
                (valuedSelection? kind value).map fun set => (true, set)
            | none =>
                match splitOnce [':'] name <|> splitOnce ['='] name with
                | some (kind, value) =>
                    (valuedSelection? kind value).map fun set => (false, set)
                | none => (namedSelection? name).map fun set => (false, set)
          found.map fun (opposite, selection) =>
            ((opposite, .named selection), after)
      | _ => none
  | c :: rest =>
      if c = '\\' then none
      else (namedSelection? [c]).map fun selection =>
        ((false, .named selection), rest)

/-- The set itself, or with `negated` every other character. Without Unicode the
others would include parts of characters, so that is refused. -/
def Flags.complementIf? (flags : Flags) (negated : Bool) (set : CharSet) :
    Option CharSet :=
  if negated then (if flags.unicode then some set.complement else none)
  else some set

/-- The set with every other case of its characters, where case does not count. -/
def Flags.withCases (flags : Flags) (set : CharSet) : CharSet :=
  if flags.anyCase then set.anyCase flags.alphabet else set

/-- The class of a letter after a backslash. -/
def Flags.letterClass? (flags : Flags) (letter : Char) : Option Primitive :=
  let negated := letter.isUpper
  let found : Option Selection := match letter.toLower with
    | 'd' => some flags.alphabet.digits
    | 's' => some flags.alphabet.blanks
    | 'w' => some flags.alphabet.words
    | _ => none
  (found.bind fun selection =>
    flags.complementIf? negated (.named selection)).map .set

/-- The characters that mean something else when no backslash stands before them. -/
def isMeta (c : Char) : Bool :=
  "\\.+*?()|[]\x7b\x7d^$#&-~".toList.contains c

/-- A backslash before a character that is neither letter nor digit keeps it as it
is. -/
def mayBeEscaped (c : Char) : Bool :=
  isMeta c || (Unicode.isAscii c && !c.isAlphanum && c != '<' && c != '>')

/-- The kind of word boundary that a name in braces stands for. -/
def namedBoundary? (alphabet : Alphabet) (name : List Char) : Option Look :=
  if name = "start".toList then some (.wordStart alphabet)
  else if name = "end".toList then some (.wordEnd alphabet)
  else if name = "start-half".toList then some (.noWordBefore alphabet)
  else if name = "end-half".toList then some (.noWordAfter alphabet)
  else none

/-- Reads what follows a word boundary. Braces with a name in them say which kind it
is; braces with anything else are left to be read as a repetition. -/
def readBoundary? (flags : Flags) (s : List Char) :
    Option (Primitive × List Char) :=
  let isNameChar := fun c : Char => c.isAlpha || c == '-'
  match s with
  | '{' :: rest =>
      match flags.skip rest with
      | [] => none
      | c :: _ =>
          if isNameChar c then
            match flags.run isNameChar false rest with
            | (name, '}' :: after) =>
                (namedBoundary? flags.alphabet name).map fun look =>
                  (.look look, after)
            | _ => none
          else some (.look (.wordBoundary flags.alphabet), s)
  | _ => some (.look (.wordBoundary flags.alphabet), s)

/-- The character of a letter after a backslash. -/
def controlLetter? : Char → Option Char
  | 'a' => some '\x07'
  | 'f' => some '\x0c'
  | 't' => some '\t'
  | 'n' => some '\n'
  | 'r' => some '\r'
  | 'v' => some '\x0b'
  | _ => none

/-- Reads what follows a backslash. -/
def readEscape? (flags : Flags) : List Char → Option (Primitive × List Char)
  | [] => none
  | c :: rest =>
      match c with
      | 'x' => readHex? flags 2 rest
      | 'u' => readHex? flags 4 rest
      | 'U' => readHex? flags 8 rest
      | 'b' => readBoundary? flags rest
      | 'B' => some (.look (.noWordBoundary flags.alphabet), rest)
      | 'A' => some (.look .textStart, rest)
      | 'z' => some (.look .textEnd, rest)
      | '<' => some (.look (.wordStart flags.alphabet), rest)
      | '>' => some (.look (.wordEnd flags.alphabet), rest)
      | c =>
          if c = 'p' || c = 'P' then do
            let ((opposite, set), after) ← readClassName? flags rest
            if flags.unicode then
              let read ← flags.complementIf? (opposite != (c == 'P'))
                (flags.withCases set)
              return (.set read, after)
            else none
          else if mayBeEscaped c then some (.char c false, rest)
          else
            match controlLetter? c with
            | some control => some (.char control false, rest)
            | none => (flags.letterClass? c).map fun read => (read, rest)

end QueryGate.Pattern
