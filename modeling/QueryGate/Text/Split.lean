/-!
Cutting a text at a separator.

`splitOnce` cuts at the first occurrence, `fields` at every occurrence of a
character. Both lose nothing: joining the pieces with the separator gives the text
back.
-/

namespace QueryGate.Text

/-- What stands before and after the first occurrence of a separator, if there is
one. -/
def splitOnce (sep : List Char) : List Char → Option (List Char × List Char)
  | [] => if sep.isEmpty then some ([], []) else none
  | c :: rest =>
      if sep.isPrefixOf (c :: rest) then some ([], (c :: rest).drop sep.length)
      else (splitOnce sep rest).map fun cut => (c :: cut.1, cut.2)

/-- The pieces between the occurrences of a character. There is always at least one
piece. -/
def fields (sep : Char) : List Char → List (List Char)
  | [] => [[]]
  | c :: rest =>
      match fields sep rest with
      | [] => if c = sep then [[], []] else [[c]]
      | piece :: pieces =>
          if c = sep then [] :: piece :: pieces else (c :: piece) :: pieces

/-- Puts a separator between the pieces. -/
def join (sep : List Char) : List (List Char) → List Char
  | [] => []
  | [piece] => piece
  | piece :: pieces => piece ++ sep ++ join sep pieces

theorem eq_append_of_splitOnce {sep s before after : List Char}
    (h : splitOnce sep s = some (before, after)) : s = before ++ sep ++ after := by
  induction s generalizing before with
  | nil =>
      simp only [splitOnce] at h
      split at h
      · next he =>
          simp only [Option.some.injEq, Prod.mk.injEq] at h
          obtain ⟨rfl, rfl⟩ := h
          simpa using he
      · cases h
  | cons c rest ih =>
      simp only [splitOnce] at h
      split at h
      · next hp =>
          simp only [Option.some.injEq, Prod.mk.injEq] at h
          obtain ⟨rfl, rfl⟩ := h
          obtain ⟨t, ht⟩ := List.isPrefixOf_iff_prefix.1 hp
          rw [← ht]
          simp
      · simp only [Option.map_eq_some_iff] at h
        obtain ⟨⟨b, a⟩, hcut, heq⟩ := h
        simp only [Prod.mk.injEq] at heq
        obtain ⟨rfl, rfl⟩ := heq
        simp [ih hcut]

/-- A text is cut at a character where it stands first. -/
theorem splitOnce_char_eq_some_iff {c : Char} {s before after : List Char} :
    splitOnce [c] s = some (before, after) ↔
    s = before ++ c :: after ∧ c ∉ before := by
  induction s generalizing before with
  | nil => simp [splitOnce]
  | cons d s ih =>
      by_cases hd : d = c
      · subst hd
        have hcut : splitOnce [d] (d :: s) = some ([], s) := by simp [splitOnce]
        rw [hcut, Option.some.injEq, Prod.mk.injEq]
        constructor
        · rintro ⟨rfl, rfl⟩
          exact ⟨rfl, List.not_mem_nil⟩
        · rintro ⟨heq, hnot⟩
          cases before with
          | nil => exact ⟨rfl, (List.cons.inj heq).2⟩
          | cons e before =>
              exact absurd ((List.cons.inj heq).1 ▸ List.mem_cons_self) hnot
      · have hcut : splitOnce [c] (d :: s) = (splitOnce [c] s).map fun cut =>
            (d :: cut.1, cut.2) := by
          simp [splitOnce, Ne.symm hd]
        rw [hcut, Option.map_eq_some_iff]
        constructor
        · rintro ⟨⟨first, rest⟩, hfirst, heq⟩
          obtain ⟨rfl, rfl⟩ := Prod.mk.inj heq
          obtain ⟨rfl, hnot⟩ := ih.mp hfirst
          exact ⟨rfl, by simpa [Ne.symm hd] using hnot⟩
        · rintro ⟨heq, hnot⟩
          cases before with
          | nil => exact absurd (List.cons.inj heq).1 hd
          | cons e before =>
              obtain ⟨rfl, rfl⟩ := List.cons.inj heq
              exact ⟨(before, after),
                ih.mpr ⟨rfl, fun hc => hnot (List.mem_cons_of_mem _ hc)⟩, rfl⟩

theorem fields_ne_nil (sep : Char) (s : List Char) : fields sep s ≠ [] := by
  cases s with
  | nil => simp [fields]
  | cons c rest =>
      simp only [fields]
      split <;> split <;> simp

theorem join_fields (sep : Char) (s : List Char) :
    join [sep] (fields sep s) = s := by
  induction s with
  | nil => rfl
  | cons c rest ih =>
      simp only [fields]
      split
      · next h => exact absurd h (fields_ne_nil sep rest)
      · next piece pieces h =>
          rw [h] at ih
          split
          · next hc => simp [join, ih, hc]
          · cases pieces <;> simpa [join] using ih

end QueryGate.Text
