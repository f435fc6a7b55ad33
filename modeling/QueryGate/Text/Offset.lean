/-!
Cutting a text at offsets that count bytes.

An offset inside a character cuts nothing.
-/

namespace QueryGate.Text

/-- What stands before and after an offset, if no character has bytes on both sides
of it. -/
def cutAt? : Nat → List Char → Option (List Char × List Char)
  | 0, s => some ([], s)
  | _ + 1, [] => none
  | offset + 1, c :: rest =>
      if offset + 1 < c.utf8Size then none
      else (cutAt? (offset + 1 - c.utf8Size) rest).map fun cut =>
        (c :: cut.1, cut.2)

/-- What stands from one offset on. -/
def from? (offset : Nat) (s : List Char) : Option (List Char) :=
  (cutAt? offset s).map Prod.snd

/-- What stands between two offsets. -/
def between? (first last : Nat) (s : List Char) : Option (List Char) :=
  (cutAt? last s).bind fun cut => from? first cut.1

theorem eq_append_of_cutAt? {offset : Nat} {s before after : List Char}
    (h : cutAt? offset s = some (before, after)) : s = before ++ after := by
  induction s generalizing offset before with
  | nil =>
      cases offset with
      | zero =>
          simp only [cutAt?, Option.some.injEq, Prod.mk.injEq] at h
          obtain ⟨rfl, rfl⟩ := h
          rfl
      | succ _ => cases h
  | cons c rest ih =>
      cases offset with
      | zero =>
          simp only [cutAt?, Option.some.injEq, Prod.mk.injEq] at h
          obtain ⟨rfl, rfl⟩ := h
          rfl
      | succ n =>
          simp only [cutAt?] at h
          split at h
          · cases h
          · simp only [Option.map_eq_some_iff] at h
            obtain ⟨⟨b, a⟩, hcut, heq⟩ := h
            simp only [Prod.mk.injEq] at heq
            obtain ⟨rfl, rfl⟩ := heq
            simp [ih hcut]

end QueryGate.Text
