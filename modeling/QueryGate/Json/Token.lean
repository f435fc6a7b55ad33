import QueryGate.Json.Value

/-!
The tokens of a JSON text.

Blanks between tokens are dropped. Reading fails where no token begins, at a control
character or a bad escape in a string, at an unpaired surrogate, and at a number
that is malformed or too large.
-/

namespace QueryGate.Json

/-- An atom is a value that holds no other values. -/
inductive Token where
  | openList
  | closeList
  | openObject
  | closeObject
  | comma
  | colon
  | atom (value : Json)
deriving Repr, Inhabited

/-- The value of a hexadecimal digit. -/
def hexDigit? (c : Char) : Option Nat :=
  if c.isDigit then some (c.toNat - '0'.toNat)
  else if 'a' ≤ c && c ≤ 'f' then some (c.toNat - 'a'.toNat + 10)
  else if 'A' ≤ c && c ≤ 'F' then some (c.toNat - 'A'.toNat + 10)
  else none

/-- The value of four hexadecimal digits. -/
def fourHexDigits? (a b c d : Char) : Option Nat := do
  let a ← hexDigit? a
  let b ← hexDigit? b
  let c ← hexDigit? c
  let d ← hexDigit? d
  some (((a * 16 + b) * 16 + c) * 16 + d)

/-- The character that a backslash and a letter stand for. -/
def simpleEscape? : Char → Option Char
  | '"' => some '"'
  | '\\' => some '\\'
  | '/' => some '/'
  | 'b' => some '\x08'
  | 'f' => some '\x0c'
  | 'n' => some '\n'
  | 'r' => some '\r'
  | 't' => some '\t'
  | _ => none

/-- The character of a pair of surrogates. -/
def pairedSurrogates? (high low : Nat) : Option Char :=
  if 0xDC00 ≤ low && low ≤ 0xDFFF then
    some (Char.ofNat (0x10000 + (high - 0xD800) * 0x400 + (low - 0xDC00)))
  else none

/-- Reads the escape of a low surrogate, which has to follow the one of a high
surrogate. -/
def lowSurrogate? (high : Nat) : List Char → Option (Char × List Char)
  | '\\' :: 'u' :: a :: b :: c :: d :: rest =>
      ((fourHexDigits? a b c d).bind (pairedSurrogates? high)).map
        fun char => (char, rest)
  | _ => none

/-- Reads the hexadecimal digits of an escape, and those of a second one where the
first is half of a pair. -/
def unicodeEscape? : List Char → Option (Char × List Char)
  | a :: b :: c :: d :: rest =>
      (fourHexDigits? a b c d).bind fun unit =>
        if 0xD800 ≤ unit && unit ≤ 0xDBFF then lowSurrogate? unit rest
        else if 0xDC00 ≤ unit && unit ≤ 0xDFFF then none
        else some (Char.ofNat unit, rest)
  | _ => none

/-- Reads an escape after its backslash. -/
def escape? : List Char → Option (Char × List Char)
  | [] => none
  | c :: rest =>
      if c = 'u' then unicodeEscape? rest
      else (simpleEscape? c).map fun char => (char, rest)

theorem length_lowSurrogate?_le {high : Nat} {s rest : List Char} {char : Char}
    (h : lowSurrogate? high s = some (char, rest)) : rest.length ≤ s.length := by
  unfold lowSurrogate? at h
  split at h
  · simp only [Option.map_eq_some_iff, Prod.mk.injEq] at h
    obtain ⟨_, _, _, rfl⟩ := h
    simp only [List.length_cons]
    omega
  · cases h

theorem length_unicodeEscape?_le {s rest : List Char} {char : Char}
    (h : unicodeEscape? s = some (char, rest)) : rest.length ≤ s.length := by
  unfold unicodeEscape? at h
  split at h
  · simp only [Option.bind_eq_some_iff] at h
    obtain ⟨unit, _, h⟩ := h
    simp only [List.length_cons]
    split at h
    · have := length_lowSurrogate?_le h
      omega
    · split at h
      · cases h
      · simp only [Option.some.injEq, Prod.mk.injEq] at h
        obtain ⟨_, rfl⟩ := h
        omega
  · cases h

theorem length_escape?_le {s rest : List Char} {char : Char}
    (h : escape? s = some (char, rest)) : rest.length ≤ s.length := by
  unfold escape? at h
  split at h
  · cases h
  · split at h
    · exact Nat.le_succ_of_le (length_unicodeEscape?_le h)
    · simp only [Option.map_eq_some_iff, Prod.mk.injEq] at h
      obtain ⟨_, _, _, rfl⟩ := h
      simp

/-- Reads a string after its opening quote. `read` holds its characters so far,
latest first. -/
def stringRest? (read : List Char) : List Char → Option (String × List Char)
  | [] => none
  | c :: rest =>
      if c = '"' then some (String.ofList read.reverse, rest)
      else if c = '\\' then
        match _h : escape? rest with
        | none => none
        | some (char, rest') => stringRest? (char :: read) rest'
      else if c.toNat < 0x20 then none
      else stringRest? (c :: read) rest
termination_by s => s.length
decreasing_by
  · exact Nat.lt_succ_of_le (length_escape?_le _h)
  · exact Nat.lt_succ_self _

theorem length_stringRest?_le {read s : List Char} {value : String}
    {rest : List Char} (h : stringRest? read s = some (value, rest)) :
    rest.length ≤ s.length := by
  fun_induction stringRest? read s with
  | case1 => cases h
  | case2 => simp_all
  | case3 => simp_all
  | case4 read t char rest' he _ ih =>
      exact Nat.le_trans (ih h) (Nat.le_succ_of_le (length_escape?_le he))
  | case5 => simp_all
  | case6 read c t _ _ _ ih => exact Nat.le_succ_of_le (ih h)

/-- The largest significand that is kept exactly while a number is read. -/
def maxSignificand : Nat := Nat.pow 2 64 - 1

/-- Reads the digits before the point: the significand they fit into, and how many
digits at the end did not fit. -/
def integerDigits (significand : Nat) : List Nat → Nat × Nat
  | [] => (significand, 0)
  | d :: rest =>
      if significand * 10 + d ≤ maxSignificand then
        integerDigits (significand * 10 + d) rest
      else (significand, rest.length + 1)

/-- Reads the digits after the point. Digits that no longer fit are dropped. -/
def fractionDigits (significand : Nat) (exponent : Int) : List Nat → Nat × Int
  | [] => (significand, exponent)
  | d :: rest =>
      if significand * 10 + d ≤ maxSignificand then
        fractionDigits (significand * 10 + d) (exponent - 1) rest
      else (significand, exponent)

/-- The largest exponent that can be written. -/
def maxExponent : Nat := Nat.pow 2 31 - 1

/-- Brings an exponent into the signed 32-bit range. -/
def clampExponent (exponent : Int) : Int :=
  max (-(maxExponent : Int) - 1) (min maxExponent exponent)

/-- The number with a sign, a significand and a decimal exponent. -/
def floatOf? (negative : Bool) (significand : Nat) (exponent : Int) : Option Json :=
  (Binary64.ofDecimal? significand exponent).map fun m =>
    .float (.signed negative m)

/-- The number with an exponent part. -/
def withExponent? (negative : Bool) (significand : Nat) (exponent : Int)
    (negativeExponent : Bool) (written : Nat) : Option Json :=
  if maxExponent < written then
    if significand ≠ 0 && !negativeExponent then none
    else some (.float (.signed negative 0))
  else
    let written : Int := if negativeExponent then -(written : Int) else written
    floatOf? negative significand (clampExponent (exponent + written))

/-- The number without point and exponent. An integer outside the 64-bit ranges, and
negative zero, is held as a float. -/
def wholeNumber? (negative : Bool) (significand extra : Nat) : Option Json :=
  if extra ≠ 0 then floatOf? negative significand extra
  else if !negative then some (.int significand)
  else if significand = 0 || Nat.pow 2 63 < significand then
    floatOf? true significand 0
  else some (.int (-(significand : Int)))

/-- The longest run of decimal digits a text begins with. -/
def digitRun (s : List Char) : List Nat × List Char :=
  ((s.takeWhile Char.isDigit).map fun c => c.toNat - '0'.toNat,
    s.dropWhile Char.isDigit)

def numberOfDigits (digits : List Nat) : Nat :=
  digits.foldl (fun n d => n * 10 + d) 0

/-- A number as it is written: its digits before and after the point, and the sign
and the digits of its exponent when it has one. -/
structure Numeral where
  negative : Bool
  whole : List Nat
  places : List Nat
  exponent : Option (Bool × Nat)
deriving DecidableEq, Repr

/-- Reads the digits after the point. A number without a point has none. -/
def placesOf? : List Char → Option (List Nat × List Char)
  | '.' :: rest => if (digitRun rest).1.isEmpty then none else some (digitRun rest)
  | s => some ([], s)

/-- Reads an exponent after its letter and sign. -/
def exponentDigits? (negative : Bool) (s : List Char) :
    Option (Option (Bool × Nat) × List Char) :=
  if (digitRun s).1.isEmpty then none
  else some (some (negative, numberOfDigits (digitRun s).1), (digitRun s).2)

/-- Reads an exponent after its letter. -/
def signedExponent? : List Char → Option (Option (Bool × Nat) × List Char)
  | '+' :: rest => exponentDigits? false rest
  | '-' :: rest => exponentDigits? true rest
  | s => exponentDigits? false s

/-- Reads the exponent of a number, if it has one. -/
def exponentOf? : List Char → Option (Option (Bool × Nat) × List Char)
  | 'e' :: rest => signedExponent? rest
  | 'E' :: rest => signedExponent? rest
  | s => some (none, s)

/-- Reads a number after its sign. No number begins with a zero that another digit
follows. -/
def Numeral.read? (negative : Bool) (s : List Char) :
    Option (Numeral × List Char) :=
  let (whole, rest) := digitRun s
  if whole.isEmpty || (whole.head? = some 0 && whole.length > 1) then none
  else
    (placesOf? rest).bind fun (places, rest) =>
      (exponentOf? rest).map fun (exponent, rest) =>
        (⟨negative, whole, places, exponent⟩, rest)

/-- The number that a numeral stands for. -/
def Numeral.value? (n : Numeral) : Option Json :=
  let (significand, extra) := integerDigits 0 n.whole
  match n.exponent with
  | none =>
      if n.places.isEmpty then wholeNumber? n.negative significand extra
      else
        let (significand, exponent) := fractionDigits significand extra n.places
        floatOf? n.negative significand exponent
  | some (negativeExponent, written) =>
      let (significand, exponent) := fractionDigits significand extra n.places
      withExponent? n.negative significand exponent negativeExponent written

/-- Reads a number after its sign. -/
def numberRest? (negative : Bool) (s : List Char) : Option (Json × List Char) :=
  (Numeral.read? negative s).bind fun (numeral, rest) =>
    numeral.value?.map fun value => (value, rest)

/-- The blanks between tokens. -/
def isSpace (c : Char) : Bool :=
  c == ' ' || c == '\n' || c == '\t' || c == '\r'

/-- The tokens of a single character. -/
def punctuation? : Char → Option Token
  | '[' => some .openList
  | ']' => some .closeList
  | '\x7b' => some .openObject
  | '\x7d' => some .closeObject
  | ',' => some .comma
  | ':' => some .colon
  | _ => none

/-- Reads the value that a word names. -/
def named? (word : List Char) (value : Json) (s : List Char) :
    Option (Json × List Char) :=
  if word.isPrefixOf s then some (value, s.drop word.length) else none

/-- Reads a value that holds no other values. -/
def atom? (c : Char) (rest : List Char) : Option (Json × List Char) :=
  if c = '"' then (stringRest? [] rest).map fun (value, rest) => (.text value, rest)
  else if c = '-' then numberRest? true rest
  else if c.isDigit then numberRest? false (c :: rest)
  else if c = 'n' then named? "ull".toList .null rest
  else if c = 't' then named? "rue".toList (.bool true) rest
  else if c = 'f' then named? "alse".toList (.bool false) rest
  else none

/-- The token a non-empty text begins with, and what follows it. Blanks hold no
token. -/
def firstToken? (c : Char) (rest : List Char) : Option (Option Token × List Char) :=
  if isSpace c then some (none, rest)
  else
    match punctuation? c with
    | some token => some (some token, rest)
    | none => (atom? c rest).map fun (value, rest) => (some (.atom value), rest)

theorem length_digitRun_le (s : List Char) : (digitRun s).2.length ≤ s.length :=
  (List.dropWhile_suffix _).length_le

theorem length_digitRun_lt {s : List Char} (h : (digitRun s).1 ≠ []) :
    (digitRun s).2.length < s.length := by
  have hsum := congrArg List.length
    (List.takeWhile_append_dropWhile (p := Char.isDigit) (l := s))
  have hpos := List.length_pos_iff.2 h
  simp only [digitRun, List.length_map, List.length_append] at hsum hpos ⊢
  omega

theorem length_placesOf?_le {s rest : List Char} {places : List Nat}
    (h : placesOf? s = some (places, rest)) : rest.length ≤ s.length := by
  fun_cases placesOf? s with
  | case1 => simp_all [placesOf?]
  | case2 t _ =>
      have := length_digitRun_le t
      simp_all [placesOf?]
      omega
  | case3 t _ => simp_all [placesOf?]

theorem length_signedExponent?_le {s rest : List Char}
    {exponent : Option (Bool × Nat)}
    (h : signedExponent? s = some (exponent, rest)) : rest.length ≤ s.length := by
  have key : ∀ {negative : Bool} {t : List Char},
      exponentDigits? negative t = some (exponent, rest) →
      rest.length ≤ t.length := by
    intro negative t ht
    have := length_digitRun_le t
    grind [exponentDigits?]
  fun_cases signedExponent? s with
  | case1 t => exact Nat.le_succ_of_le (key h)
  | case2 t => exact Nat.le_succ_of_le (key h)
  | case3 t h1 h2 =>
      rw [signedExponent?.eq_3 s h1 h2] at h
      exact key h

theorem length_exponentOf?_le {s rest : List Char} {exponent : Option (Bool × Nat)}
    (h : exponentOf? s = some (exponent, rest)) : rest.length ≤ s.length := by
  fun_cases exponentOf? s with
  | case1 t => exact Nat.le_succ_of_le (length_signedExponent?_le h)
  | case2 t => exact Nat.le_succ_of_le (length_signedExponent?_le h)
  | case3 t h1 h2 =>
      rw [exponentOf?.eq_3 s h1 h2] at h
      simp_all

/-- A number has at least one digit. -/
theorem length_numberRest?_lt {negative : Bool} {s rest : List Char} {value : Json}
    (h : numberRest? negative s = some (value, rest)) : rest.length < s.length := by
  simp only [numberRest?, Numeral.read?, Option.bind_eq_some_iff,
    Option.map_eq_some_iff] at h
  obtain ⟨⟨numeral, rest'⟩, hread, _, _, heq⟩ := h
  split at hread
  · cases hread
  · next hwhole =>
    simp only [Option.bind_eq_some_iff, Option.map_eq_some_iff] at hread
    obtain ⟨⟨places, r1⟩, hplaces, ⟨⟨exponent, r2⟩, hexponent, hr⟩⟩ := hread
    have h1 := length_digitRun_lt (s := s) (by simp_all)
    have h2 : r1.length ≤ _ := length_placesOf?_le hplaces
    have h3 : r2.length ≤ r1.length := length_exponentOf?_le hexponent
    simp only [Prod.mk.injEq] at hr heq
    rw [← heq.2, ← hr.2]
    omega

theorem length_named?_le {word s rest : List Char} {value read : Json}
    (h : named? word value s = some (read, rest)) : rest.length ≤ s.length := by
  simp only [named?] at h
  split at h
  · simp only [Option.some.injEq, Prod.mk.injEq] at h
    rw [← h.2, List.length_drop]
    exact Nat.sub_le _ _
  · cases h

theorem length_atom?_le {c : Char} {s rest : List Char} {value : Json}
    (h : atom? c s = some (value, rest)) : rest.length ≤ s.length := by
  unfold atom? at h
  split at h
  · simp only [Option.map_eq_some_iff, Prod.mk.injEq] at h
    obtain ⟨⟨v, r⟩, hr, _, rfl⟩ := h
    exact length_stringRest?_le hr
  split at h
  · exact Nat.le_of_lt (length_numberRest?_lt h)
  split at h
  · exact Nat.le_of_lt_succ (length_numberRest?_lt h)
  repeat' split at h
  all_goals first
    | exact length_named?_le h
    | cases h

/-- Reading a token takes at least its first character. -/
theorem length_firstToken?_le {c : Char} {s rest : List Char} {token : Option Token}
    (h : firstToken? c s = some (token, rest)) : rest.length ≤ s.length := by
  unfold firstToken? at h
  split at h
  · simp_all
  split at h
  · simp_all
  · simp only [Option.map_eq_some_iff, Prod.mk.injEq] at h
    obtain ⟨⟨v, r⟩, hr, _, rfl⟩ := h
    exact length_atom?_le hr

/-- The tokens of a text. -/
def tokens? (s : List Char) : Option (List Token) :=
  match s with
  | [] => some []
  | c :: rest =>
      match _h : firstToken? c rest with
      | none => none
      | some (token, rest') => (tokens? rest').map (token.toList ++ ·)
termination_by s.length
decreasing_by exact Nat.lt_succ_of_le (length_firstToken?_le _h)

end QueryGate.Json
