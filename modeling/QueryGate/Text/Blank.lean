/-!
Blank characters and trimming.

Text is handled as a list of characters. Trimming removes blank characters from the
ends and nothing else: `trim` leaves a text whose first and last characters are not
blank, and what it removes on either side is blank.
-/

namespace QueryGate.Text

/-- The characters with the Unicode property White_Space. -/
def isBlank (c : Char) : Bool :=
  let n := c.toNat
  (9 ≤ n && n ≤ 13) || n == 0x20 || n == 0x85 || n == 0xA0 || n == 0x1680 ||
    (0x2000 ≤ n && n ≤ 0x200A) || n == 0x2028 || n == 0x2029 || n ==
    0x202F || n == 0x205F ||
    n == 0x3000

/-- Drops the longest suffix whose characters all satisfy `p`. -/
def dropEndWhile (p : Char → Bool) (s : List Char) : List Char :=
  (s.reverse.dropWhile p).reverse

/-- Drops the characters satisfying `p` from both ends. -/
def dropAround (p : Char → Bool) (s : List Char) : List Char :=
  dropEndWhile p (s.dropWhile p)

def trimStart (s : List Char) : List Char :=
  s.dropWhile isBlank

def trim (s : List Char) : List Char :=
  dropAround isBlank s

/-- Nothing but blank characters, or nothing at all. -/
def isBlankText (s : String) : Bool :=
  s.toList.all isBlank

/-- The text of a string without the blank characters at its ends. -/
def trimmed (s : String) : String :=
  String.ofList (trim s.toList)

theorem dropEndWhile_append_takeWhile (p : Char → Bool) (s : List Char) :
    dropEndWhile p s ++ (s.reverse.takeWhile p).reverse = s := by
  rw [dropEndWhile, ← List.reverse_append, List.takeWhile_append_dropWhile,
    List.reverse_reverse]

theorem trim_eq_nil_of_all_blank {s : List Char} (h : s.all isBlank = true) :
    trim s = [] := by
  have hdrop : s.dropWhile isBlank = [] := by
    induction s with
    | nil => rfl
    | cons c rest ih =>
        simp only [List.all_cons, Bool.and_eq_true] at h
        simp [List.dropWhile, h.1, ih h.2]
  simp [trim, dropAround, hdrop, dropEndWhile]

end QueryGate.Text
