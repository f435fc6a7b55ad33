import QueryGate.Text.Decimal
import QueryGate.Toml.Text

/-!
Numbers and points in time of a TOML document.

Such a value is one run of letters, digits, signs, dots, colons and underscores; a
date and a time may be parted by a blank. `scalar?` gives the value that a run
spells.
-/

namespace QueryGate.Toml

open QueryGate.Text

/-- The characters of numbers and points in time. -/
def isScalarChar (c : Char) : Bool :=
  c.isAlphanum || c == '_' || c == '+' || c == '-' || c == '.' || c == ':'

/-- Digits, with single underscores between two of them. -/
def separatedDigits? (isDigit : Char → Bool) : List Char → Option (List Char)
  | [] => none
  | [c] => if isDigit c then some [c] else none
  | c :: '_' :: rest =>
      if isDigit c then (separatedDigits? isDigit rest).map (c :: ·) else none
  | c :: rest =>
      if isDigit c then (separatedDigits? isDigit rest).map (c :: ·) else none

/-- The number that digits of a base spell. -/
def numberOf (base : Nat) (digits : List Char) : Nat :=
  digits.foldl (fun n c => base * n + (hexDigit? c).getD 0) 0

/-- An integer of 64 bits. -/
def integer64? (value : Int) : Option Value :=
  if -(Nat.pow 2 63 : Int) ≤ value && value < Nat.pow 2 63 then
    some (.integer value)
  else none

/-- The digits of a whole number, which begins with no zero unless it is one. -/
def wholeDigits? (s : List Char) : Option (List Char) :=
  match s with
  | ['0'] => some ['0']
  | '0' :: _ => none
  | _ => separatedDigits? Char.isDigit s

/-- A sign and what follows it. -/
def signAndRest : List Char → Bool × List Char
  | '-' :: rest => (true, rest)
  | '+' :: rest => (false, rest)
  | s => (false, s)

/-- Digits of a base, after the letter that announces the base. -/
def basedInteger? (base : Nat) (isDigit : Char → Bool) (s : List Char) :
    Option Value :=
  (separatedDigits? isDigit s).bind fun digits => integer64? (numberOf base digits)

def integer? (s : List Char) : Option Value :=
  match s with
  | '0' :: 'x' :: rest => basedInteger? 16 (fun c => (hexDigit? c).isSome) rest
  | '0' :: 'o' :: rest => basedInteger? 8 (fun c => '0' ≤ c && c ≤ '7') rest
  | '0' :: 'b' :: rest => basedInteger? 2 (fun c => c == '0' || c == '1') rest
  | _ =>
      let (negative, digits) := signAndRest s
      (wholeDigits? digits).bind fun digits =>
        let size : Int := numberOf 10 digits
        integer64? (if negative then -size else size)

/-- An exponent, after the letter that announces it. -/
def exponent? (s : List Char) : Option Int :=
  let (negative, digits) := signAndRest s
  (separatedDigits? Char.isDigit digits).map fun digits =>
    let size : Int := numberOf 10 digits
    if negative then -size else size

/-- The number that a run without a sign spells with a fraction or an exponent. -/
def decimal? (s : List Char) : Option Decimal := do
  let isMark := fun c => c == 'e' || c == 'E'
  let (significand, exponent) := s.span (!isMark ·)
  let (whole, fraction) := significand.span (· != '.')
  let wholeDigits ← wholeDigits? whole
  let fractionDigits ← match fraction with
    | [] => some []
    | _ :: digits => separatedDigits? Char.isDigit digits
  let power ← match exponent with
    | [] => some 0
    | _ :: text => exponent? text
  if fraction.isEmpty && exponent.isEmpty then none
  else some ⟨wholeDigits, fractionDigits, power⟩

/-- Whether a run spells a number with a fraction or an exponent, an infinity, or no
number. A number that is too large for the binary64 format is refused unless it is
negative. -/
def isFloat (s : List Char) : Bool :=
  let (negative, size) := signAndRest s
  size = "inf".toList || size = "nan".toList ||
    (decimal? size).any fun number => negative || !number.exceedsBinary64

/-- A number of two digits. -/
def twoDigits? : List Char → Option (Nat × List Char)
  | a :: b :: rest =>
      if a.isDigit && b.isDigit then some (numberOf 10 [a, b], rest) else none
  | _ => none

def isLeapYear (year : Nat) : Bool :=
  year % 4 == 0 && (year % 100 != 0 || year % 400 == 0)

def daysInMonth (year month : Nat) : Nat :=
  if month == 2 then (if isLeapYear year then 29 else 28)
  else if [4, 6, 9, 11].contains month then 30
  else 31

/-- Reads a date: year, month and day. -/
def date? (s : List Char) : Option (List Char) := do
  let (century, s) ← twoDigits? s
  let (yearOfCentury, s) ← twoDigits? s
  let '-' :: s := s | none
  let (month, s) ← twoDigits? s
  let '-' :: s := s | none
  let (day, s) ← twoDigits? s
  if 1 ≤ month && month ≤ 12 && 1 ≤ day &&
      day ≤ daysInMonth (100 * century + yearOfCentury) month then return s
  else none

/-- Reads a time of day: hours, minutes, seconds, and perhaps a fraction of a
second. -/
def time? (s : List Char) : Option (List Char) := do
  let (hour, s) ← twoDigits? s
  let ':' :: s := s | none
  let (minute, s) ← twoDigits? s
  let ':' :: s := s | none
  let (second, s) ← twoDigits? s
  if 23 < hour || 59 < minute || 60 < second then none
  else
    match s with
    | '.' :: rest =>
        if (rest.takeWhile Char.isDigit).isEmpty then none
        else return rest.dropWhile Char.isDigit
    | _ => return s

/-- Whether a run is an offset from universal time. -/
def isOffset : List Char → Bool
  | ['Z'] => true
  | ['z'] => true
  | c :: s =>
      (c == '+' || c == '-') &&
        match twoDigits? s with
        | some (hour, ':' :: rest) =>
            match twoDigits? rest with
            | some (minute, []) => hour ≤ 23 && minute ≤ 59
            | _ => false
        | _ => false
  | [] => false

/-- Whether a run spells a date, a time, or both with or without an offset. -/
def isDateTime (s : List Char) : Bool :=
  match date? s with
  | some [] => true
  | some (c :: rest) =>
      (c == 'T' || c == 't' || c == ' ') &&
        match time? rest with
        | some [] => true
        | some offset => isOffset offset
        | none => false
  | none => time? s == some []

/-- The value that a run spells. -/
def scalar? (s : List Char) : Option Value :=
  if isDateTime s then some (.dateTime (String.ofList s))
  else if isFloat s then some (.float (String.ofList s))
  else if s = "true".toList then some (.boolean true)
  else if s = "false".toList then some (.boolean false)
  else integer? s

/-- Reads a number, a truth value or a point in time. -/
def readScalar? (s : List Char) : Option (Value × List Char) :=
  let run := s.takeWhile isScalarChar
  let rest := s.dropWhile isScalarChar
  match rest with
  | ' ' :: c :: after =>
      if date? run = some [] && c.isDigit then
        let whole := run ++ ' ' :: (c :: after).takeWhile isScalarChar
        (scalar? whole).map fun value =>
          (value, (c :: after).dropWhile isScalarChar)
      else (scalar? run).map fun value => (value, rest)
  | _ => (scalar? run).map fun value => (value, rest)

end QueryGate.Toml
