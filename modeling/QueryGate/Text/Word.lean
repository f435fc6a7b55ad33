/-!
ASCII words and the normal form under which two query texts are compared.

A word is a run of ASCII letters, digits and underscores. The normal form of a text
keeps its ASCII letters and digits and drops every other character. It can be taken
from the characters of a text or from its bytes.
-/

namespace QueryGate.Text

/-- The characters of an identifier. -/
def isWordChar (c : Char) : Bool :=
  c.isAlphanum || c == '_'

/-- The word a text begins with, empty when it begins with none. -/
def leadingWord (s : List Char) : List Char :=
  s.takeWhile isWordChar

/-- What follows the word a text begins with. -/
def afterLeadingWord (s : List Char) : List Char :=
  s.dropWhile isWordChar

/-- The ASCII letters and digits of a text, in order. -/
def alphanumerics (s : List Char) : List Char :=
  s.filter Char.isAlphanum

/-- The bytes of a text in UTF-8. -/
def utf8 (s : String) : List UInt8 :=
  s.toUTF8.data.toList

/-- The bytes of the ASCII digits and letters. -/
def isAlphanumericByte (byte : UInt8) : Bool :=
  48 ≤ byte && byte ≤ 57 || 65 ≤ byte && byte ≤ 90 || 97 ≤ byte && byte ≤ 122

/-- The ASCII letters and digits among the bytes of a text, in order. -/
def alphanumericBytes (s : String) : List UInt8 :=
  (utf8 s).filter isAlphanumericByte

theorem isAlphanum_iff {c : Char} :
    c.isAlphanum = true ↔ 48 ≤ c.toNat ∧ c.toNat ≤ 57 ∨ 65 ≤ c.toNat ∧
    c.toNat ≤ 90 ∨
      97 ≤ c.toNat ∧ c.toNat ≤ 122 := by
  -- Upper case, lower case, digits.
  change (decide (c.val ≥ 65 ∧ c.val ≤ 90) || c.val ≥ 97 && c.val ≤ 122 ||
    c.val ≥ 48 && c.val ≤ 57) = true ↔ _
  simp only [Bool.or_eq_true, Bool.and_eq_true, decide_eq_true_eq,
    UInt32.le_iff_toNat_le, ge_iff_le, UInt32.reduceToNat]
  rw [Char.toNat]
  omega

theorem isAlphanumericByte_iff {byte : UInt8} :
    isAlphanumericByte byte = true ↔ 48 ≤ byte.toNat ∧ byte.toNat ≤ 57 ∨
      65 ≤ byte.toNat ∧ byte.toNat ≤ 90 ∨ 97 ≤ byte.toNat ∧ byte.toNat ≤ 122 := by
  simp only [isAlphanumericByte, Bool.or_eq_true, Bool.and_eq_true,
    decide_eq_true_eq, UInt8.le_iff_toNat_le, UInt8.reduceToNat, or_assoc]

theorem toNat_of_isWordChar {c : Char} (h : isWordChar c = true) :
    48 ≤ c.toNat ∧ c.toNat ≤ 122 := by
  rw [isWordChar, Bool.or_eq_true, beq_iff_eq, isAlphanum_iff] at h
  rcases h with halphanum | rfl
  · omega
  · decide

theorem leadingWord_append_afterLeadingWord (s : List Char) :
    leadingWord s ++ afterLeadingWord s = s :=
  List.takeWhile_append_dropWhile

/-- ASCII letters in lower case, every other character unchanged. -/
def lowerAscii (s : String) : String :=
  String.ofList (s.toList.map Char.toLower)

end QueryGate.Text
