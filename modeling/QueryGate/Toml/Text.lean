import QueryGate.Toml.Value

/-!
Strings of a TOML document.

There are two kinds of string, each on one line or on several. Between double quotes
a backslash begins an escape; between single quotes every character stands for
itself. The reading functions take what follows the opening quotes and give the
content and what follows the closing ones.
-/

namespace QueryGate.Toml

/-- The characters of comments and of strings on one line: no control character but
the tab. -/
def isPrintable (c : Char) : Bool :=
  c == '\t' || (0x20 ≤ c.toNat && c.toNat != 0x7F)

/-- Blanks within a line. -/
def isInlineBlank (c : Char) : Bool :=
  c == ' ' || c == '\t'

/-- The value of a hexadecimal digit. -/
def hexDigit? (c : Char) : Option Nat :=
  if c.isDigit then some (c.toNat - '0'.toNat)
  else if 'a' ≤ c && c ≤ 'f' then some (c.toNat - 'a'.toNat + 10)
  else if 'A' ≤ c && c ≤ 'F' then some (c.toNat - 'A'.toNat + 10)
  else none

/-- The character of a code point in hexadecimal digits. -/
def charOfHex? (digits : List Char) : Option Char := do
  let code ← digits.foldlM (fun n c => (hexDigit? c).map fun d => 16 * n + d) 0
  if decide code.isValidChar then return Char.ofNat code else none

/-- The character that a letter after a backslash stands for. -/
def escapedChar? : Char → Option Char
  | 'b' => some '\x08'
  | 't' => some '\t'
  | 'n' => some '\n'
  | 'f' => some '\x0c'
  | 'r' => some '\r'
  | '"' => some '"'
  | '\\' => some '\\'
  | _ => none

/-- Puts a character before the content that was read. -/
def prepend (c : Char) (read : Option (List Char × List Char)) :
    Option (List Char × List Char) :=
  read.map fun (content, rest) => (c :: content, rest)

/-- Reads a string in double quotes. -/
def quotedRest? : List Char → Option (List Char × List Char)
  | [] => none
  | '"' :: rest => some ([], rest)
  | '\\' :: 'u' :: a :: b :: c :: d :: rest =>
      (charOfHex? [a, b, c, d]).bind fun char => prepend char (quotedRest? rest)
  | '\\' :: 'U' :: a :: b :: c :: d :: e :: f :: g :: h :: rest =>
      (charOfHex? [a, b, c, d, e, f, g, h]).bind fun char =>
        prepend char (quotedRest? rest)
  | '\\' :: c :: rest =>
      (escapedChar? c).bind fun char => prepend char (quotedRest? rest)
  | c :: rest =>
      if isPrintable c && c != '\\' then prepend c (quotedRest? rest) else none

/-- Reads a string in single quotes. -/
def literalRest? : List Char → Option (List Char × List Char)
  | [] => none
  | '\'' :: rest => some ([], rest)
  | c :: rest => if isPrintable c then prepend c (literalRest? rest) else none

/-- What three closing quotes leave: one or two more of them belong to the
content. -/
def closingQuotes (quote : Char) : List Char → List Char × List Char
  | a :: b :: rest =>
      if a = quote then (if b = quote then ([a, b], rest) else ([a], b :: rest))
      else ([], a :: b :: rest)
  | [a] => if a = quote then ([a], []) else ([], [a])
  | [] => ([], [])

/-- Whether nothing but blanks stands before the end of the line. -/
def isLineEnd (s : List Char) : Bool :=
  match s.dropWhile isInlineBlank with
  | '\n' :: _ => true
  | '\r' :: '\n' :: _ => true
  | _ => false

/-- Reads a string in three double quotes. A backslash at the end of a line joins
the line with what follows: while `joining`, blanks and line ends are passed
over. -/
def quotedBlockRest? (joining : Bool) : List Char → Option (List Char × List Char)
  | [] => none
  | '"' :: '"' :: '"' :: rest => some (closingQuotes '"' rest)
  | '\r' :: '\n' :: rest =>
      if joining then quotedBlockRest? true rest
      else prepend '\n' (quotedBlockRest? false rest)
  | '\n' :: rest =>
      if joining then quotedBlockRest? true rest
      else prepend '\n' (quotedBlockRest? false rest)
  | '\\' :: 'u' :: a :: b :: c :: d :: rest =>
      (charOfHex? [a, b, c, d]).bind fun char =>
        prepend char (quotedBlockRest? false rest)
  | '\\' :: 'U' :: a :: b :: c :: d :: e :: f :: g :: h :: rest =>
      (charOfHex? [a, b, c, d, e, f, g, h]).bind fun char =>
        prepend char (quotedBlockRest? false rest)
  | '\\' :: c :: rest =>
      if isLineEnd (c :: rest) then quotedBlockRest? true (c :: rest)
      else (escapedChar? c).bind fun char =>
        prepend char (quotedBlockRest? false rest)
  | c :: rest =>
      if joining && isInlineBlank c then quotedBlockRest? true rest
      else if isPrintable c && c != '\\' then
        prepend c (quotedBlockRest? false rest)
      else none

/-- Reads a string in three single quotes. -/
def literalBlockRest? : List Char → Option (List Char × List Char)
  | [] => none
  | '\'' :: '\'' :: '\'' :: rest => some (closingQuotes '\'' rest)
  | '\r' :: '\n' :: rest => prepend '\n' (literalBlockRest? rest)
  | '\n' :: rest => prepend '\n' (literalBlockRest? rest)
  | c :: rest => if isPrintable c then prepend c (literalBlockRest? rest) else none

/-- Passes over a line end at the start of a string of several lines. -/
def skipFirstLineEnd : List Char → List Char
  | '\r' :: '\n' :: rest => rest
  | '\n' :: rest => rest
  | s => s

/-- Reads a string from its opening quotes on. -/
def readText? : List Char → Option (String × List Char)
  | '"' :: '"' :: '"' :: rest =>
      asString (quotedBlockRest? false (skipFirstLineEnd rest))
  | '\'' :: '\'' :: '\'' :: rest =>
      asString (literalBlockRest? (skipFirstLineEnd rest))
  | '"' :: rest => asString (quotedRest? rest)
  | '\'' :: rest => asString (literalRest? rest)
  | _ => none
where
  asString (read : Option (List Char × List Char)) : Option (String × List Char) :=
    read.map fun (content, rest) => (String.ofList content, rest)

end QueryGate.Toml
