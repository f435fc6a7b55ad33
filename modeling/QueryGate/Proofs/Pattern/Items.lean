import QueryGate.Proofs.Pattern.Locality

/-!
What the items of sets in brackets see of the text after them.

Within brackets a parenthesis is a character like others, so what is read there may
run up to the parenthesis after the text. But more of the set follows in any case:
what a reader leaves of a text is left with more after it too, unless there is
nothing left.
-/

namespace QueryGate.Pattern

open QueryGate.Text QueryGate.Unicode

/-- A reader of which more follows in any case. What it leaves of a text is left
with more after it too, and when it comes to the end of the text, it leaves no more
than what comes after it. -/
structure Steady {α : Type} (f : List Char → Option (α × List Char)) : Prop where
  suffix : ∀ {s a r}, f s = some (a, r) → r <:+ s
  kept : ∀ {s a r}, f s = some (a, r) → r ≠ [] →
    ∀ y, f (s ++ ')' :: y) = some (a, r ++ ')' :: y)
  late : ∀ {s y b past}, (∀ a r, f s = some (a, r) → r = []) →
    f (s ++ ')' :: y) = some (b, past) →
    past <:+ ')' :: y

theorem Local.steady {α : Type} {f : List Char → Option (α × List Char)}
    (h : Local f) : Steady f where
  suffix := h.suffix
  kept hs hne y := by
    rcases h.kept hs with hsame | ⟨hnil, -⟩
    · exact hsame y
    · exact absurd hnil hne
  late {s y b past} hend hs := by
    cases hread : f s with
    | none => exact (h.crossed hread hs).trans (List.suffix_cons _ _)
    | some read =>
        obtain ⟨a, r⟩ := read
        obtain rfl := hend a r hread
        rcases h.kept hread with hsame | ⟨-, hpast⟩
        · cases (hsame y).symm.trans hs
          exact List.suffix_refl _
        · obtain ⟨past', hle, hpast⟩ := hpast y
          cases hpast.symm.trans hs
          exact hle.trans (List.suffix_cons _ _)

namespace Steady

variable {α β : Type} {f : List Char → Option (α × List Char)}

theorem congr {f' : List Char → Option (α × List Char)} (h : Steady f)
    (hf : ∀ s, f' s = f s) : Steady f' :=
  funext hf ▸ h

/-- What is read with more after the text is what is read of the text, unless the
reader comes to the end of it. -/
theorem same_or_late (h : Steady f) {s y past : List Char} {b : α}
    (hs : f (s ++ ')' :: y) = some (b, past)) :
    (∃ r, f s = some (b, r) ∧ r ≠ [] ∧ past = r ++ ')' :: y) ∨
    past <:+ ')' :: y := by
  by_cases hearly : ∃ a r, f s = some (a, r) ∧ r ≠ []
  · obtain ⟨a, r, hread, hr⟩ := hearly
    cases (h.kept hread hr y).symm.trans hs
    exact Or.inl ⟨r, hread, hr, rfl⟩
  · refine Or.inr (h.late (fun a r hread => ?_) hs)
    by_contra hr
    exact hearly ⟨a, r, hread, hr⟩

/-- One reader after the other, of which the second needs something to read. -/
theorem bind {k : α → List Char → Option (β × List Char)} (h : Steady f)
    (hk : ∀ a, Steady (k a)) (hnil : ∀ a, k a [] = none) : Steady fun s =>
      (f s).bind fun read => k read.1 read.2 where
  suffix hs := by
    obtain ⟨⟨a, r⟩, hread, hs⟩ := Option.bind_eq_some_iff.mp hs
    exact ((hk a).suffix hs).trans (h.suffix hread)
  kept hs hne y := by
    obtain ⟨⟨a, r⟩, hread, hs⟩ := Option.bind_eq_some_iff.mp hs
    have hr : r ≠ [] := by
      rintro rfl
      simp [hnil] at hs
    rw [h.kept hread hr y]
    exact (hk a).kept hs hne y
  late {s y b past} hend hs := by
    obtain ⟨⟨a, r⟩, hread, hs⟩ := Option.bind_eq_some_iff.mp hs
    rcases h.same_or_late hread with ⟨r', hread', -, rfl⟩ | hlate
    · exact (hk a).late (fun b r hb => hend b r (by simpa [hread'] using hb)) hs
    · exact ((hk a).suffix hs).trans hlate

theorem used (h : Steady f) (φ : α → β) :
    Steady fun s => (f s).map fun read => (φ read.1, read.2) where
  suffix hs := by
    obtain ⟨⟨a, r⟩, hread, hs⟩ := Option.map_eq_some_iff.mp hs
    cases hs
    exact h.suffix hread
  kept hs hne y := by
    obtain ⟨⟨a, r⟩, hread, hs⟩ := Option.map_eq_some_iff.mp hs
    cases hs
    rw [h.kept hread hne y]
    rfl
  late {s y b past} hend hs := by
    obtain ⟨⟨a, r⟩, hread, hs⟩ := Option.map_eq_some_iff.mp hs
    cases hs
    exact h.late (fun a r hread => hend (φ a) r (by rw [hread]; rfl)) hread

/-- What a scanner leaves is read, when there is anything. -/
theorem scanned {g : List Char → α × List Char}
    {k : α → List Char → Option (β × List Char)} (hg : Scans g)
    (hk : ∀ a, Steady (k a)) (hnil : ∀ a, k a [] = none) :
    Steady fun s => k (g s).1 (g s).2 where
  suffix hs := ((hk _).suffix hs).trans (hg.suffix _)
  kept {s b r} hs hne y := by
    cases hscan : g s with
    | mk a rest =>
        rw [hscan] at hs
        cases rest with
        | nil => simp [hnil] at hs
        | cons c rest =>
            simp only [hg.append_of_ne_nil hscan]
            exact (hk a).kept hs hne y
  late {s y b past} hend hs := by
    rcases hg.append s with happend | ⟨-, hpast⟩
    · simp only [happend y] at hs
      exact (hk _).late hend hs
    · exact ((hk _).suffix hs).trans ((hpast y).trans (List.suffix_cons _ _))

theorem skipped (flags : Flags) (h : Steady f) (hnil : f [] = none) :
    Steady fun s => f (flags.skip s) :=
  scanned (k := fun _ => f) (scans_skip flags) (fun _ => h) fun _ => hnil

/-- Nothing is read, but there has to be more. -/
theorem more (a : α) : Steady fun s : List Char =>
    if s = [] then none else some (a, s) where
  suffix hs := by
    split_ifs at hs
    cases hs
    exact List.suffix_refl _
  kept {s b r} hs _ y := by
    split_ifs at hs
    cases hs
    simp
  late {s y b past} hend hs := by
    by_cases hnil : s = []
    · subst hnil
      simp only [List.nil_append, List.cons_ne_nil, if_false] at hs
      cases hs
      exact List.suffix_refl _
    · exact absurd (hend a s (if_neg hnil)) hnil

end Steady

/-- Reads a character or an escape that is no word boundary. -/
def plainPrimitive? (flags : Flags) : List Char → Option (Primitive × List Char)
  | [] => none
  | '\\' :: rest => plainEscape? flags rest
  | c :: rest => some (.char c false, rest)

theorem local_plainPrimitive_cons (flags : Flags) (c : Char) :
    Local fun rest => plainPrimitive? flags (c :: rest) := by
  by_cases hc : c = '\\'
  · exact hc ▸ local_plainEscape flags
  · refine (Local.done (Primitive.char c false)).congr fun rest => ?_
    rw [plainPrimitive?]
    simpa using hc

theorem local_plainPrimitive (flags : Flags) : Local (plainPrimitive? flags) := by
  refine (Local.followed scans_nothing fun _ c =>
    local_plainPrimitive_cons flags c).congr
    fun s => ?_
  cases s <;> rfl

/-- A word boundary is no item of a bracket, so it makes no difference to leave it
out. -/
theorem readBracketPrimitive?_eq (flags : Flags) (s : List Char) :
    readBracketPrimitive? flags s = plainPrimitive? flags s ∨
      plainPrimitive? flags s = none ∧
        ∀ a r, readBracketPrimitive? flags s = some (a, r) →
          ∃ look, a = .look look := by
  rcases s with _ | ⟨c, rest⟩
  · exact Or.inl rfl
  by_cases hc : c = '\\'
  · subst hc
    rcases rest with _ | ⟨d, rest⟩
    · exact Or.inl rfl
    by_cases hd : d = 'b'
    · subst hd
      refine Or.inr ⟨rfl, fun a r hread => ?_⟩
      exact readBoundary?_look (show readBoundary? flags rest =
        some (a, r) from hread)
    · refine Or.inl ?_
      show readEscape? flags (d :: rest) = plainEscape? flags (d :: rest)
      rw [plainEscape?]
      simpa using hd
  · refine Or.inl ?_
    rw [plainPrimitive?, readBracketPrimitive?]
    · simpa using hc
    · simpa using hc

theorem firstInComment_append (inComment : Bool) (s y : List Char) :
    firstInComment inComment (s ++ ')' :: y) =
      (firstInComment inComment s <|> some ')') := by
  have hblank : isBlank ')' = false := by decide
  induction s generalizing inComment with
  | nil => simp [firstInComment, hblank]
  | cons c rest ih =>
      simp only [List.cons_append, firstInComment]
      split_ifs
      · exact ih _
      · exact ih _
      · rfl

theorem head_of_firstInComment_eq_none {inComment : Bool} {s : List Char}
    (h : firstInComment inComment s = none) :
    ∀ c ∈ s.head?, isBlank c = true ∨ c = '#' := by
  rcases s with _ | ⟨c, rest⟩
  · simp
  · rw [firstInComment] at h
    split_ifs at h with hblank hsign
    · simpa using Or.inl hblank
    · simp only [Bool.and_eq_true, decide_eq_true_eq] at hsign
      simpa using Or.inr hsign.1

/-- Whether a hyphen makes a range does not depend on the parenthesis after the
text. -/
theorem afterHyphen?_append_iff (flags : Flags) (s y : List Char) {c : Char}
    (hblank : isBlank c = false) (hsign : c ≠ '#') (hparen : c ≠ ')') :
    flags.afterHyphen? (s ++ ')' :: y) = some c ↔
    flags.afterHyphen? s = some c := by
  have hhead : (s ++ ')' :: y).head? = some c ↔ s.head? = some c := by
    rcases s with _ | ⟨d, s⟩
    · simpa using hparen.symm
    · rfl
  simp only [Flags.afterHyphen?, firstInComment_append]
  split_ifs
  · cases hfirst : firstInComment false s with
    | some d => rfl
    | none =>
        have hnot : s.head? ≠ some c := fun h => by
          rcases head_of_firstInComment_eq_none hfirst c h with hc | hc
          · rw [hc] at hblank
            cases hblank
          · exact hsign hc
        simpa [hnot] using hparen.symm
  · exact hhead

/-- What comes after the first character of an item: a range up to a character that
`last` reads, or nothing that is of the item. -/
def itemRest? (flags : Flags) (last : List Char → Option (Primitive × List Char))
    (first : Primitive) : List Char → Option (CharSet × List Char)
  | [] => none
  | c :: rest =>
      if c = '-' ∧
        ¬(flags.afterHyphen? rest = some ']' ∨
          flags.afterHyphen? rest = some '-') then
        (last (flags.skip rest)).bind fun read =>
          ((flags.bracketChar? first).bind fun low =>
            (flags.bracketChar? read.1).bind fun high =>
            if low ≤ high then some (CharSet.range low high)
            else none).map (·, read.2)
      else (flags.bracketItem? first).map (·, c :: rest)

theorem readBracketItem?_eq_bind (flags : Flags) (s : List Char) :
    readBracketItem? flags s = (readBracketPrimitive? flags s).bind fun read =>
      itemRest? flags (readBracketPrimitive? flags) read.1 (flags.skip read.2) := by
  rw [readBracketItem?]
  refine Option.bind_congr fun read _ => ?_
  obtain ⟨first, after⟩ := read
  dsimp only
  rcases flags.skip after with _ | ⟨c, rest⟩
  · rfl
  by_cases hc : c = '-'
  · subst hc
    simp only [itemRest?, Bool.or_eq_true, decide_eq_true_eq, true_and]
    by_cases hends : flags.afterHyphen? rest = some ']' ∨
      flags.afterHyphen? rest = some '-'
    · rw [if_pos hends, if_neg (not_not.mpr hends)]
      cases flags.bracketItem? first <;> rfl
    rw [if_neg hends, if_pos hends]
    refine Option.bind_congr fun read _ => ?_
    cases flags.bracketChar? first with
    | none => rfl
    | some low =>
        cases flags.bracketChar? read.1 with
        | none => simp
        | some high =>
            simp only [Option.bind_eq_bind, Option.bind_some]
            split_ifs <;> rfl
  · simp only [itemRest?, hc, false_and, if_false]
    split
    · next heq => cases heq
    · next heq =>
      cases heq
      exact absurd rfl hc
    · cases flags.bracketItem? first <;> rfl

theorem readBracketItem?_eq (flags : Flags) (s : List Char) :
    readBracketItem? flags s = (plainPrimitive? flags s).bind fun read =>
      itemRest? flags (plainPrimitive? flags) read.1 (flags.skip read.2) := by
  have hlook : ∀ last look s, itemRest? flags last (.look look) s = none :=
    fun last look s => by
    rcases s with _ | ⟨c, rest⟩
    · rfl
    · rw [itemRest?]
      split_ifs
      · cases last (flags.skip rest) <;> rfl
      · rfl
  have hlast : ∀ first s, itemRest? flags (readBracketPrimitive? flags) first s =
      itemRest? flags (plainPrimitive? flags) first s := fun first s => by
    rcases s with _ | ⟨c, rest⟩
    · rfl
    simp only [itemRest?]
    rcases readBracketPrimitive?_eq flags (flags.skip rest) with hsame
      | ⟨hnone, hread⟩
    · rw [hsame]
    · rw [hnone]
      cases hfirst : readBracketPrimitive? flags (flags.skip rest) with
      | none => rfl
      | some read =>
          obtain ⟨a, r⟩ := read
          obtain ⟨look, rfl⟩ := hread a r hfirst
          cases flags.bracketChar? first <;> rfl
  rw [readBracketItem?_eq_bind]
  simp only [hlast]
  rcases readBracketPrimitive?_eq flags s with hsame | ⟨hnone, hread⟩
  · rw [hsame]
  · rw [hnone]
    cases hfirst : readBracketPrimitive? flags s with
    | none => rfl
    | some read =>
        obtain ⟨a, r⟩ := read
        obtain ⟨look, rfl⟩ := hread a r hfirst
        exact hlook _ _ _

theorem steady_itemRest (flags : Flags) (first : Primitive) :
    Steady (itemRest? flags (plainPrimitive? flags) first) := by
  have hrange :=
    (((local_plainPrimitive flags).skipped flags nofun).used fun last =>
    (flags.bracketChar? first).bind fun low =>
      (flags.bracketChar? last).bind fun high =>
      if low ≤ high then some (CharSet.range low high) else none).steady
  have hhyphen : ∀ rest y,
      (flags.afterHyphen? (rest ++ ')' :: y) = some ']' ∨
        flags.afterHyphen? (rest ++ ')' :: y) = some '-') ↔
      (flags.afterHyphen? rest = some ']' ∨ flags.afterHyphen? rest = some '-') :=
        fun rest y =>
    or_congr (afterHyphen?_append_iff flags rest y (by decide) (by decide)
      (by decide)) (afterHyphen?_append_iff flags rest y (by decide) (by decide)
      (by decide))
  have hsuffix : ∀ {s a r},
    itemRest? flags (plainPrimitive? flags) first s = some (a, r) →
      r <:+ s := by
    intro s a r hs
    rcases s with _ | ⟨c, rest⟩
    · cases hs
    rw [itemRest?] at hs
    split_ifs at hs
    · exact (hrange.suffix hs).trans (List.suffix_cons c rest)
    · obtain ⟨item, -, hs⟩ := Option.map_eq_some_iff.mp hs
      cases hs
      exact List.suffix_refl _
  refine ⟨hsuffix, ?_, ?_⟩
  · intro s a r hs hne y
    rcases s with _ | ⟨c, rest⟩
    · cases hs
    rw [itemRest?] at hs
    simp only [List.cons_append, itemRest?, hhyphen]
    split_ifs at hs ⊢
    · exact hrange.kept hs hne y
    · obtain ⟨item, hitem, hs⟩ := Option.map_eq_some_iff.mp hs
      cases hs
      rw [hitem]
      rfl
  · intro s y b past hend hs
    rcases s with _ | ⟨c, rest⟩
    · exact hsuffix hs
    simp only [itemRest?] at hend
    simp only [List.cons_append, itemRest?, hhyphen] at hs
    split_ifs at hend hs
    · exact hrange.late hend hs
    · obtain ⟨item, hitem, -⟩ := Option.map_eq_some_iff.mp hs
      have hnil := hend item (c :: rest) (by rw [hitem]; rfl)
      cases hnil

/-- Reading an item, the first character of which is given. -/
theorem steady_item_cons (flags : Flags) (c : Char) :
    Steady fun rest => readBracketItem? flags (c :: rest) := by
  refine ((local_plainPrimitive_cons flags c).steady.bind
    (fun first => (steady_itemRest flags first).skipped flags rfl)
      fun first => ?_).congr
    fun rest => readBracketItem?_eq flags (c :: rest)
  rw [Flags.skip]
  split_ifs <;> rfl

/-- Reads a caret after an opening bracket. -/
def readSign (flags : Flags) (s : List Char) : Bool × List Char :=
  match flags.skip s with
  | '^' :: rest => (true, flags.skip rest)
  | start => (false, start)

theorem readSign_of_ne {flags : Flags} {s : List Char}
    (h : ∀ rest, flags.skip s ≠ '^' :: rest) :
    readSign flags s = (false, flags.skip s) := by
  rw [readSign]
  split
  · next rest hskip => exact absurd hskip (h rest)
  · rfl

theorem scans_sign (flags : Flags) : Scans (readSign flags) := by
  have hskip := scans_skip flags
  have hsuffix : ∀ s, (readSign flags s).2 <:+ flags.skip s := fun s => by
    rw [readSign]
    split
    · next rest hsign =>
        exact (hskip.suffix rest).trans (hsign ▸ List.suffix_cons _ _)
    · exact List.suffix_refl _
  refine ⟨fun s => (hsuffix s).trans (hskip.suffix s), fun s => ?_⟩
  rcases hskip.append s with happend | ⟨hnil, hpast⟩
  · have happend : ∀ y, flags.skip (s ++ ')' :: y) = flags.skip s ++ ')' :: y :=
      fun y => congrArg Prod.snd (happend y)
    by_cases hsign : ∃ rest, flags.skip s = '^' :: rest
    · obtain ⟨rest, hsign⟩ := hsign
      simp only [readSign, happend, hsign, List.cons_append]
      rcases hskip.append rest with hrest | hrest
      · exact Or.inl fun y => congrArg (true, ·) (congrArg Prod.snd (hrest y))
      · exact Or.inr hrest
    · rw [readSign_of_ne (not_exists.mp hsign)]
      refine Or.inl fun y => ?_
      rw [readSign_of_ne, happend]
      intro rest hrest
      rw [happend] at hrest
      rcases hs : flags.skip s with _ | ⟨c, s'⟩
      · rw [hs] at hrest
        cases hrest
      · rw [hs] at hrest
        cases hrest
        exact hsign ⟨s', hs⟩
  · refine Or.inr ⟨?_, fun y => (hsuffix _).trans (hpast y)⟩
    have hempty := hsuffix s
    rw [show flags.skip s = [] from hnil] at hempty
    exact List.suffix_nil.mp hempty

/-- Opens a bracket after its sign and its hyphens. -/
def openAfter? (flags : Flags) (negated : Bool) (hyphens : List CharSet) :
    List Char → Option (OpenBracket × List Char)
  | [] => none
  | c :: rest =>
      if hyphens = [] ∧ c = ']' then
        if flags.skip rest = [] then none
        else some (⟨negated, none, [.char ']']⟩, flags.skip rest)
      else some (⟨negated, none, hyphens.reverse⟩, c :: rest)

theorem openBracket?_eq_match (flags : Flags) (s : List Char) :
    openBracket? flags s =
      match readHyphens flags false (readSign flags s).2 with
      | ([], ']' :: rest) =>
          match flags.skip rest with
          | [] => none
          | after => some (⟨(readSign flags s).1, none, [.char ']']⟩, after)
      | (_, []) => none
      | (hyphens, after) =>
          some (⟨(readSign flags s).1, none, hyphens.reverse⟩, after) :=
  rfl

theorem openBracket?_eq (flags : Flags) (s : List Char) :
    openBracket? flags s = openAfter? flags (readSign flags s).1
      (readHyphens flags false (readSign flags s).2).1
      (readHyphens flags false (readSign flags s).2).2 := by
  rw [openBracket?_eq_match]
  rcases readHyphens flags false (readSign flags s).2 with ⟨hyphens, _ | ⟨c, rest⟩⟩
  · cases hyphens <;> rfl
  · rw [openAfter?]
    by_cases hclose : hyphens = [] ∧ c = ']'
    · obtain ⟨rfl, rfl⟩ := hclose
      rw [if_pos ⟨rfl, rfl⟩]
      cases hskip : flags.skip rest <;> simp [hskip]
    · rw [if_neg hclose]
      split
      · next heq =>
        cases heq
        exact absurd ⟨rfl, rfl⟩ hclose
      · next heq => cases heq
      · next heq =>
        cases heq
        rfl

theorem steady_openAfter (flags : Flags) (negated : Bool) (hyphens : List CharSet) :
    Steady (openAfter? flags negated hyphens) := by
  have hmore :=
    (Steady.more (⟨negated, none, [.char ']']⟩ : OpenBracket)).skipped flags
      (by simp)
  have hsuffix : ∀ {s a r}, openAfter? flags negated hyphens s =
      some (a, r) → r <:+ s := by
    intro s a r hs
    rcases s with _ | ⟨c, rest⟩
    · cases hs
    rw [openAfter?] at hs
    by_cases hclose : hyphens = [] ∧ c = ']'
    · rw [if_pos hclose] at hs
      exact (hmore.suffix hs).trans (List.suffix_cons c rest)
    · rw [if_neg hclose] at hs
      cases hs
      exact List.suffix_refl _
  refine ⟨hsuffix, ?_, ?_⟩
  · intro s a r hs hne y
    rcases s with _ | ⟨c, rest⟩
    · cases hs
    rw [openAfter?] at hs
    rw [List.cons_append, openAfter?]
    by_cases hclose : hyphens = [] ∧ c = ']'
    · rw [if_pos hclose] at hs ⊢
      exact hmore.kept hs hne y
    · rw [if_neg hclose] at hs ⊢
      cases hs
      rfl
  · intro s y b past hend hs
    rcases s with _ | ⟨c, rest⟩
    · exact hsuffix hs
    simp only [openAfter?] at hend
    rw [List.cons_append, openAfter?] at hs
    by_cases hclose : hyphens = [] ∧ c = ']'
    · simp only [if_pos hclose] at hend hs
      exact hmore.late hend hs
    · simp only [if_neg hclose] at hend
      exact absurd (hend _ _ rfl) (by simp)

theorem steady_openBracket (flags : Flags) : Steady (openBracket? flags) := by
  have hopening : Scans fun s =>
      (((readSign flags s).1, (readHyphens flags false (readSign flags s).2).1),
        (readHyphens flags false (readSign flags s).2).2) :=
    (scans_sign flags).comp (f := fun negated s =>
      ((negated, (readHyphens flags false s).1), (readHyphens flags false s).2))
        fun negated =>
        (scans_hyphens flags).map (negated, ·)
  exact (Steady.scanned hopening (fun a => steady_openAfter flags a.1 a.2)
    fun _ => rfl).congr
    (openBracket?_eq flags)

end QueryGate.Pattern
