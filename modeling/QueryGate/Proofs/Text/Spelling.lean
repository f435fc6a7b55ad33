import Mathlib.Logic.Function.Defs

/-!
No two numbers are spelled alike, and no two flags.
-/

namespace QueryGate.Text

theorem toString_bool_injective :
    Function.Injective (toString : Bool → String) := by
  intro a b h
  cases a <;> cases b <;> first | rfl | (exact absurd h (by decide))

/-- The digits of a number tell what number it is. -/
theorem toString_nat_injective : Function.Injective (toString : Nat → String) := by
  intro m n h
  rw [Nat.toString_eq_ofList_toDigits, Nat.toString_eq_ofList_toDigits,
    String.ofList_inj] at h
  rw [← Nat.ofDigitChars_ten_toDigits (n := m), h, Nat.ofDigitChars_ten_toDigits]

/-- A sign is no digit. -/
theorem toString_nat_ne_minus_append (n : Nat) (text : String) :
    toString n ≠ "-" ++ text := by
  intro h
  have hsign : '-' ∈ (toString n).toList := by
    rw [h, String.toList_append]
    exact List.mem_append_left _ (by decide)
  rw [Nat.toString_eq_repr, Nat.toList_repr] at hsign
  exact absurd (Nat.isDigit_of_mem_toDigits (by decide) (by decide) hsign)
    (by decide)

theorem toString_int_injective : Function.Injective (toString : Int → String) := by
  intro a b h
  simp only [Int.toString_eq_repr, Int.repr_eq_if, ← Nat.toString_eq_repr] at h
  split at h <;> split at h
  · have := toString_nat_injective h
    omega
  · exact absurd h (toString_nat_ne_minus_append _ _)
  · exact absurd h.symm (toString_nat_ne_minus_append _ _)
  · have := toString_nat_injective (String.append_right_inj _ |>.mp h)
    omega

end QueryGate.Text
