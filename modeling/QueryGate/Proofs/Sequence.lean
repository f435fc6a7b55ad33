import Mathlib.Data.List.Forall2

/-!
What steps come to that can fail.

One step after the other comes to what the last of them comes to, unless one fails
before. A step for each element of a list comes to a list, or fails as the first of
them that fails.
-/

namespace QueryGate

section Sequence

variable {ε α β : Type} {first : Except ε α} {next : α → Except ε β}

theorem bind_eq_ok_iff {b : β} : first >>= next = .ok b ↔
    ∃ a, first = .ok a ∧ next a = .ok b := by
  cases first <;> simp [bind, Except.bind]

theorem bind_eq_error_iff {e : ε} :
    first >>= next = .error e ↔ first = .error e ∨ ∃ a, first = .ok a ∧
      next a = .error e := by
  cases first <;> simp [bind, Except.bind]

end Sequence

theorem exists_mem_of_forall₂ {α β : Type} {R : α → β → Prop} {as : List α}
    {bs : List β} (h : List.Forall₂ R as bs) {a : α} (ha : a ∈ as) :
    ∃ b ∈ bs, R a b := by
  induction h with
  | nil => cases ha
  | cons hab _ ih =>
      rcases List.mem_cons.mp ha with rfl | ha
      · exact ⟨_, List.mem_cons_self, hab⟩
      · obtain ⟨b, hb, hab⟩ := ih ha
        exact ⟨b, List.mem_cons_of_mem _ hb, hab⟩

section Each

variable {ε α β : Type} {step : α → Except ε β} {as : List α}

theorem mapM_eq_ok_iff {bs : List β} :
    as.mapM step = .ok bs ↔ List.Forall₂ (fun a b => step a = .ok b) as bs := by
  induction as generalizing bs with
  | nil => simp [pure, Except.pure, eq_comm]
  | cons a as ih =>
      simp only [List.mapM_cons, List.forall₂_cons_left_iff, bind_eq_ok_iff, ih,
        pure, Except.pure, Except.ok.injEq]
      constructor
      · rintro ⟨b, hb, rest, hrest, rfl⟩
        exact ⟨b, rest, hb, hrest, rfl⟩
      · rintro ⟨b, rest, hb, hrest, rfl⟩
        exact ⟨b, hb, rest, hrest, rfl⟩

theorem exists_ok_of_mapM {bs : List β} (h : as.mapM step = .ok bs) {a : α}
    (ha : a ∈ as) : ∃ b, step a = .ok b := by
  obtain ⟨b, -, hstep⟩ := exists_mem_of_forall₂ (mapM_eq_ok_iff.mp h) ha
  exact ⟨b, hstep⟩

/-- What comes of a list comes of its elements. -/
theorem mem_of_mapM {bs : List β} (h : as.mapM step = .ok bs) {b : β} :
    b ∈ bs ↔ ∃ a ∈ as, step a = .ok b := by
  rw [mapM_eq_ok_iff] at h
  constructor
  · exact fun hb => exists_mem_of_forall₂ h.flip hb
  · rintro ⟨a, ha, hstep⟩
    obtain ⟨b', hb', hstep'⟩ := exists_mem_of_forall₂ h ha
    cases hstep.symm.trans hstep'
    exact hb'

theorem mapM_eq_error_iff {e : ε} :
    as.mapM step = .error e ↔
      ∃ before a after, as = before ++ a :: after ∧
        (∀ a' ∈ before, ∃ b, step a' = .ok b) ∧
        step a = .error e := by
  induction as with
  | nil => simp [pure, Except.pure]
  | cons a as ih =>
      simp only [List.mapM_cons, bind_eq_error_iff, ih, pure, Except.pure,
        reduceCtorEq, and_false, exists_false, or_false]
      constructor
      · rintro (hfails | ⟨b, hb, before, a', after, rfl, hbefore, hfails⟩)
        · exact ⟨[], a, as, rfl, by simp, hfails⟩
        · exact ⟨a :: before, a', after, rfl,
            List.forall_mem_cons.mpr ⟨⟨b, hb⟩, hbefore⟩, hfails⟩
      · rintro ⟨before, a', after, hsplit, hbefore, hfails⟩
        cases before with
        | nil =>
            cases hsplit
            exact Or.inl hfails
        | cons _ before =>
            cases hsplit
            obtain ⟨⟨b, hb⟩, hbefore⟩ := List.forall_mem_cons.mp hbefore
            exact Or.inr ⟨b, hb, before, a', after, rfl, hbefore, hfails⟩

end Each

end QueryGate
