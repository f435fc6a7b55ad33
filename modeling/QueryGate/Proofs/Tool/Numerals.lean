import Mathlib.Data.List.Basic
import Mathlib.Data.List.TakeWhile
import Mathlib.Data.Nat.Digits.Defs
import QueryGate.Proofs.Document.Splitting
import QueryGate.Tool.Number

/-!
Numbers in texts.

A `Numeral` is a spelling of a number: decimal digits, perhaps a plus sign before
them, and blanks around. A text is read as a number just when it is the spelling of
one of 64 bits.
-/

namespace QueryGate

namespace Text

/-- What trimming takes from either end is blank. -/
theorem exists_append_trim (s : List Char) : ∃ before after : List Char,
    (∀ c ∈ before, isBlank c = true) ∧ (∀ c ∈ after, isBlank c = true) ∧
      s = before ++ (trim s ++ after) := by
  refine ⟨s.takeWhile isBlank,
    ((s.dropWhile isBlank).reverse.takeWhile isBlank).reverse, fun c hc =>
      List.mem_takeWhile_imp hc,
    fun c hc => List.mem_takeWhile_imp (List.mem_reverse.mp hc), ?_⟩
  rw [trim, dropAround, dropEndWhile_append_takeWhile,
    List.takeWhile_append_dropWhile]

/-- Blanks around a text without any are what trimming takes. -/
theorem trim_append_append {before s after : List Char} (hs : s ≠ [])
    (hbefore : ∀ c ∈ before, isBlank c = true) (hinner : ∀ c ∈ s, isBlank c = false)
    (hafter : ∀ c ∈ after, isBlank c = true) :
    trim (before ++ (s ++ after)) = s := by
  have hfirst : ∀ c ∈ (s ++ after).head?, isBlank c = false := by
    intro c hc
    rw [List.head?_append_of_ne_nil s hs] at hc
    exact hinner c (List.mem_of_mem_head? hc)
  have hlast : ∀ c ∈ s.reverse.head?, isBlank c = false := fun c hc =>
    hinner c (List.mem_reverse.mp (List.mem_of_mem_head? hc))
  have hblank : ∀ c ∈ after.reverse, isBlank c = true := fun c hc =>
    hafter c (List.mem_reverse.mp hc)
  rw [trim, dropAround, dropWhile_append_of_stops hbefore hfirst, dropEndWhile,
    List.reverse_append, dropWhile_append_of_stops hblank hlast,
    List.reverse_reverse]

theorem isBlank_of_isDigit {c : Char} (h : c.isDigit = true) :
    isBlank c = false := by
  have hbounds : 48 ≤ c.toNat ∧ c.toNat ≤ 57 := by
    simpa [Char.isDigit, UInt32.le_iff_toNat_le] using h
  simp only [isBlank, Bool.or_eq_false_iff, Bool.and_eq_false_iff,
    decide_eq_false_iff_not, beq_eq_false_iff_ne]
  omega

end Text

namespace Tool

open Text

/-- The number that a decimal digit stands for. -/
def digitNumber (c : Char) : Nat :=
  c.toNat - '0'.toNat

/-- A spelling of a number. -/
structure Numeral where
  before : List Char
  plus : Bool
  digits : List Char
  after : List Char
  before_isBlank : ∀ c ∈ before, isBlank c = true
  digits_ne_nil : digits ≠ []
  digits_isDigit : ∀ c ∈ digits, c.isDigit = true
  after_isBlank : ∀ c ∈ after, isBlank c = true

namespace Numeral

/-- The digits with their sign. -/
def signed (numeral : Numeral) : List Char :=
  if numeral.plus then '+' :: numeral.digits else numeral.digits

def chars (numeral : Numeral) : List Char :=
  numeral.before ++ (numeral.signed ++ numeral.after)

/-- The last digit counts for least. -/
def value (numeral : Numeral) : Nat :=
  Nat.ofDigits 10 (numeral.digits.reverse.map digitNumber)

theorem signed_ne_nil (numeral : Numeral) : numeral.signed ≠ [] := by
  unfold signed
  split
  · exact List.cons_ne_nil _ _
  · exact numeral.digits_ne_nil

theorem isBlank_of_mem_signed {numeral : Numeral} {c : Char}
    (h : c ∈ numeral.signed) : isBlank c = false := by
  have hdigit : c ∈ numeral.digits → isBlank c = false := fun hc =>
    isBlank_of_isDigit (numeral.digits_isDigit c hc)
  unfold signed at h
  split at h
  · rcases List.mem_cons.mp h with rfl | hc
    · decide
    · exact hdigit hc
  · exact hdigit h

theorem trim_chars (numeral : Numeral) : trim numeral.chars = numeral.signed :=
  trim_append_append numeral.signed_ne_nil numeral.before_isBlank
    (fun _ hc => isBlank_of_mem_signed hc) numeral.after_isBlank

end Numeral

/-- A text spells a number. -/
def Spells (text : String) (n : Nat) : Prop :=
  ∃ numeral : Numeral, text.toList = numeral.chars ∧ numeral.value = n

theorem digitsValue?_eq_some_iff {digits : List Char} {n : Nat} :
    digitsValue? digits = some n ↔ digits ≠ [] ∧ (∀ c ∈ digits, c.isDigit = true) ∧
      Nat.ofDigits 10 (digits.reverse.map digitNumber) = n := by
  have hvalue : digits.foldl (fun n c => 10 * n + (c.toNat - '0'.toNat)) 0 =
      Nat.ofDigits 10 (digits.reverse.map digitNumber) := by
    rw [Nat.ofDigits_eq_foldr, List.foldr_map, List.foldr_reverse]
    simp only [Nat.cast_id, digitNumber, Nat.add_comm]
  have hguard : (digits.isEmpty || !digits.all Char.isDigit) = false ↔
      digits ≠ [] ∧ ∀ c ∈ digits, c.isDigit = true := by
    rw [Bool.or_eq_false_iff, Bool.not_eq_false', List.all_eq_true,
      ← Bool.not_eq_true, List.isEmpty_iff]
  unfold digitsValue?
  rw [hvalue, ← and_assoc, ← hguard]
  cases (digits.isEmpty || !digits.all Char.isDigit) <;> simp

/-- A sign is no digit, so it is read where it stands. -/
theorem Numeral.unsignedValue?_signed (numeral : Numeral) :
    unsignedValue? numeral.signed = some numeral.value := by
  have hvalue : digitsValue? numeral.digits = some numeral.value :=
    digitsValue?_eq_some_iff.mpr ⟨numeral.digits_ne_nil,
      numeral.digits_isDigit, rfl⟩
  unfold Numeral.signed
  split
  · exact hvalue
  · have hplus : ∀ rest, numeral.digits ≠ '+' :: rest := by
      intro rest hrest
      have := numeral.digits_isDigit '+' (by simp [hrest])
      exact absurd this (by decide)
    rw [unsignedValue?.eq_2 _ hplus]
    exact hvalue

theorem exists_digits_of_unsignedValue? {s : List Char} {n : Nat}
    (h : unsignedValue? s = some n) :
    ∃ (plus : Bool) (digits : List Char),
      s = (if plus then '+' :: digits else digits) ∧
      digitsValue? digits = some n := by
  unfold unsignedValue? at h
  split at h
  · exact ⟨true, _, rfl, h⟩
  · exact ⟨false, s, rfl, h⟩

/-- A text is read as a number just when it spells that number, and 64 bits are
enough for it. -/
theorem readWord?_eq_some_iff {text : String} {n : Nat} :
    readWord? text = some n ↔ Spells text n ∧ n ≤ largestWord := by
  rw [readWord?, Option.filter_eq_some_iff, decide_eq_true_eq]
  refine and_congr_left fun _ => ⟨fun h => ?_, ?_⟩
  · obtain ⟨plus, digits, hsigned, hdigits⟩ := exists_digits_of_unsignedValue? h
    obtain ⟨hne, hisDigit, hvalue⟩ := digitsValue?_eq_some_iff.mp hdigits
    obtain ⟨before, after, hbefore, hafter, htext⟩ := exists_append_trim text.toList
    refine ⟨⟨before, plus, digits, after, hbefore, hne, hisDigit, hafter⟩,
      ?_, hvalue⟩
    rw [hsigned] at htext
    exact htext
  · rintro ⟨numeral, htext, rfl⟩
    rw [htext, numeral.trim_chars, numeral.unsignedValue?_signed]

end Tool

end QueryGate
