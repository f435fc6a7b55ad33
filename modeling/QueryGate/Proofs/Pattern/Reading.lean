import QueryGate.Proofs.Pattern.Parts

/-!
Reading a pattern with a parenthesis after it.

A text is read as it would be alone when a closing parenthesis and more text come
after it and more groups are open around it. Main statements: a pattern is read the
same, unless it ends in a comment, which then runs on past the parenthesis; and a
text that is no pattern makes one only with a parenthesis of its own that closes a
group around it, or when it runs past the parenthesis.
-/

namespace QueryGate.Pattern

open QueryGate.Text

/-- The state with more groups open around it. -/
def ReaderState.under (state : ReaderState) (outer : List OpenGroup) :
    ReaderState :=
  { state with open_ := state.open_ ++ outer }

section Under

variable (state : ReaderState) (outer : List OpenGroup)

@[simp]
theorem under_nil : state.under [] = state := by
  simp [ReaderState.under]

@[simp]
theorem flags_under : (state.under outer).flags = state.flags :=
  rfl

theorem repeatLast?_under (least : Nat) (most : Option Nat) :
    (state.under outer).repeatLast? least most =
      (state.repeatLast? least most).map fun next => next.under outer := by
  obtain ⟨flags, branches, items, open_, names⟩ := state
  rcases items with _ | ⟨item, items⟩
  · rfl
  · cases item <;> rfl

theorem named?_under (name : List Char) :
    named? (state.under outer) name = (named? state name).map fun next =>
      next.under outer := by
  show (if state.names.contains name then none
    else some ((({ state with names := name :: state.names } : ReaderState).enter
      true state.flags).under outer)) = _
  rw [named?]
  split_ifs <;> rfl

theorem switched?_under (letters : List Char) (c : Char) :
    switched? (state.under outer) letters c =
      (switched? state letters c).map fun next => next.under outer := by
  simp only [switched?, flags_under]
  by_cases hswitches : areSwitches letters = true
  · simp only [if_pos hswitches]
    cases state.flags.setAll? true letters with
    | none => rfl
    | some flags =>
        simp only [Option.bind_some]
        split_ifs <;> rfl
  · simp only [if_neg hswitches]
    rfl

theorem readNamed?_under (s : List Char) :
    readNamed? (state.under outer) s =
      (readNamed? state s).map fun read => (read.1.under outer, read.2) := by
  simp only [readNamed?, named?_under]
  cases readGroupName? s with
  | none => rfl
  | some read =>
      simp only [Option.bind_some, Option.map_map]
      rfl

theorem readSwitches?_under (s : List Char) :
    readSwitches? (state.under outer) s =
      (readSwitches? state s).map fun read => (read.1.under outer, read.2) := by
  simp only [readSwitches?_eq, followed, switched?_under]
  rcases s.span fun c => c != ':' && c != ')' with ⟨letters, _ | ⟨c, rest⟩⟩
  · rfl
  · simp only [Option.map_map]
    rfl

theorem readMarked?_under (s : List Char) :
    readMarked? (state.under outer) s =
      (readMarked? state s).map fun read => (read.1.under outer, read.2) := by
  simp only [readMarked?, readNamed?_under, readSwitches?_under]
  split_ifs <;> rfl

theorem readGroup?_under (s : List Char) :
    readGroup? (state.under outer) s =
      (readGroup? state s).map fun read => (read.1.under outer, read.2) := by
  simp only [readGroup?_eq, flags_under, readMarked?_under]
  split_ifs <;> rfl

theorem leave?_under (h : state.open_ ≠ []) :
    (state.under outer).leave? = state.leave?.map fun next => next.under outer := by
  obtain ⟨flags, branches, items, open_, names⟩ := state
  rcases open_ with _ | ⟨group, open_⟩
  · exact absurd rfl h
  · rfl

/-- A part is read alike with more groups open, unless it closes one of them. -/
theorem readPart?_under {c : Char} (h : c = ')' → state.open_ ≠ [])
    (s : List Char) :
    readPart? (state.under outer) c s =
      (readPart? state c s).map fun read => (read.1.under outer, read.2) := by
  by_cases hclose : c = ')'
  · subst hclose
    show (state.under outer).leave?.map (fun left => (left, s)) =
      (state.leave?.map fun left => (left, s)).map _
    rw [leave?_under state outer (h rfl), Option.map_map, Option.map_map]
    rfl
  by_cases hgroup : c = '('
  · exact hgroup ▸ readGroup?_under state outer s
  by_cases hescape : c = '\\'
  · subst hescape
    rw [readPart?_backslash, readPart?_backslash, readEscaped?, readEscaped?,
      flags_under]
    cases readEscape? state.flags s with
    | none => rfl
    | some read =>
        simp only [Option.bind_some]
        cases state.flags.expression? read.1 <;> rfl
  by_cases hbrace : c = '{'
  · subst hbrace
    rw [readPart?_brace, readPart?_brace, readRepetition?, readRepetition?,
      flags_under]
    cases readBounds? state.flags s with
    | none => rfl
    | some read =>
        simp only [Option.bind_some, repeatLast?_under, Option.map_map]
        rfl
  rw [readPart?.eq_def, readPart?.eq_def]
  simp only [flags_under, repeatLast?_under, Option.map_map]
  split
  · exact absurd rfl hgroup
  · exact absurd rfl hclose
  · rfl
  · rw [Option.map_map]
    rfl
  · rw [Option.map_map]
    rfl
  · rw [Option.map_map]
    rfl
  · rw [Option.map_map]
    rfl
  · exact absurd rfl hbrace
  · exact absurd rfl hescape
  · rw [Option.map_map]
    rfl
  · rfl
  · rfl
  · rw [Option.map_map]
    rfl

end Under

/-- What is left after what does not count begins with a character that counts, and
so it is left after the same before any other text. -/
theorem skipSpace_split {inComment : Bool} {s rest : List Char} {c : Char}
    (h : skipSpace inComment s = c :: rest) :
    (isBlank c = false ∧ c ≠ '#') ∧
      ∃ before, s = before ++ c :: rest ∧
        ∀ t, skipSpace inComment (before ++ t) = skipSpace false t := by
  induction s generalizing inComment with
  | nil => cases h
  | cons d s ih =>
      rw [skipSpace] at h
      split_ifs at h with hcomment hblank hsign
      · obtain ⟨hcounts, before, rfl, hbefore⟩ := ih h
        exact ⟨hcounts, d :: before, rfl, fun t => by
          simp [skipSpace, hcomment, hbefore]⟩
      · obtain ⟨hcounts, before, rfl, hbefore⟩ := ih h
        exact ⟨hcounts, d :: before, rfl, fun t => by
          simp [skipSpace, hcomment, hblank, hbefore]⟩
      · obtain ⟨hcounts, before, rfl, hbefore⟩ := ih h
        subst hsign
        exact ⟨hcounts, '#' :: before, rfl, fun t => by
          simp [skipSpace, hcomment, hblank, hbefore]⟩
      · cases h
        have hstart : inComment = false := by simpa using hcomment
        exact ⟨⟨by simpa using hblank, hsign⟩, [], rfl, fun t => by
          rw [List.nil_append, hstart]⟩

theorem skip_split {flags : Flags} {s rest : List Char} {c : Char}
    (h : flags.skip s = c :: rest) :
    (∀ t, flags.skip (c :: t) = c :: t) ∧
      ∃ before, s = before ++ c :: rest ∧ ∀ t, flags.skip (before ++ t) =
        flags.skip t := by
  simp only [Flags.skip] at h ⊢
  split_ifs at h ⊢
  · obtain ⟨⟨hblank, hsign⟩, hsplit⟩ := skipSpace_split h
    exact ⟨fun t => by simp [skipSpace, hblank, hsign], hsplit⟩
  · exact ⟨fun t => rfl, [], h, fun t => rfl⟩

@[simp]
theorem skip_skip (flags : Flags) (s : List Char) :
    flags.skip (flags.skip s) = flags.skip s := by
  cases hskip : flags.skip s with
  | nil =>
      rw [Flags.skip]
      split_ifs <;> rfl
  | cons c rest => exact (skip_split hskip).1 rest

theorem skip_counting (flags : Flags) {c : Char} (hblank : isBlank c = false)
    (hsign : c ≠ '#') (s : List Char) : flags.skip (c :: s) = c :: s := by
  rw [Flags.skip]
  split_ifs
  · simp [skipSpace, hblank, hsign]
  · rfl

/-- Reads the rest of a pattern. -/
def readFrom? (state : ReaderState) (s : List Char) : Option Expression :=
  readParts? (s.length + 1) state s

theorem length_lt_of_readPart? {state next : ReaderState} {c : Char}
    {s rest after : List Char} (hskip : state.flags.skip s = c :: rest)
    (hpart : readPart? state c rest = some (next, after)) :
    after.length < s.length := by
  have hafter := ((part_readPart state c).suffix hpart).length_le
  have hrest : (state.flags.skip s).length ≤ s.length :=
    ((scans_skip state.flags).suffix s).length_le
  rw [hskip, List.length_cons] at hrest
  omega

/-- There are not more parts than characters, so a greater bound changes nothing. -/
theorem readParts?_eq_readFrom? {fuel : Nat} {state : ReaderState} {s : List Char}
    (h : s.length < fuel) : readParts? fuel state s = readFrom? state s := by
  suffices hboth : ∀ fuel fuel' state s, s.length < fuel → s.length < fuel' →
      readParts? fuel state s = readParts? fuel' state s from
    hboth _ _ _ _ h (Nat.lt_succ_self _)
  clear h
  intro fuel
  induction fuel with
  | zero => exact fun _ _ _ h => absurd h (Nat.not_lt_zero _)
  | succ fuel ih =>
      intro fuel' state s h h'
      obtain ⟨fuel', rfl⟩ : ∃ n, fuel' = n + 1 := ⟨fuel' - 1, by omega⟩
      rw [readParts?, readParts?]
      cases hskip : state.flags.skip s with
      | nil => rfl
      | cons c rest =>
          dsimp only
          cases hpart : readPart? state c rest with
          | none => rfl
          | some read =>
              have hlt := length_lt_of_readPart? hskip hpart
              exact ih _ _ _ (by omega) (by omega)

theorem readFrom?_eq_finish {state : ReaderState} {s : List Char}
    (h : state.flags.skip s = []) : readFrom? state s = state.finish? := by
  rw [readFrom?, readParts?, h]

theorem readFrom?_eq_bind {state : ReaderState} {s rest : List Char} {c : Char}
    (h : state.flags.skip s = c :: rest) :
    readFrom? state s = (readPart? state c rest).bind fun read =>
      readFrom? read.1 read.2 := by
  rw [readFrom?, readParts?, h]
  dsimp only
  cases hpart : readPart? state c rest with
  | none => rfl
  | some read => exact readParts?_eq_readFrom? (length_lt_of_readPart? h hpart)

/-- What does not count may be left out. -/
theorem readFrom?_congr {state : ReaderState} {s t : List Char}
    (h : state.flags.skip s = state.flags.skip t) :
    readFrom? state s = readFrom? state t := by
  cases hskip : state.flags.skip t with
  | nil => rw [readFrom?_eq_finish hskip, readFrom?_eq_finish (h.trans hskip)]
  | cons c rest => rw [readFrom?_eq_bind hskip, readFrom?_eq_bind (h.trans hskip)]

theorem finish?_eq_some_iff {state : ReaderState} {e : Expression} :
    state.finish? = some e ↔ state.open_ = [] ∧ state.content = e := by
  simp [ReaderState.finish?]

theorem read?_eq (text : List Char) :
    Expression.read? text = (readFrom? .start text).filter Expression.isShallow :=
  rfl

/-- A text is read from one state to another, where a parenthesis after it closes a
group that was open before. -/
structure Closes (state : ReaderState) (q : List Char)
    (next : ReaderState) : Prop where
  closed : next.open_ = []
  whole : readFrom? state q = some next.content
  left : ∀ outer y,
    readFrom? (state.under outer) (q ++ ')' :: y) =
      readFrom? (next.under outer) (')' :: y)

/-- The comment at the end of a pattern runs on. -/
structure RunsOn (state : ReaderState) (s : List Char)
    (next : ReaderState) : Prop where
  closed : next.open_ = []
  whole : readFrom? state s = some next.content
  past : ∀ y, ∃ past, past <:+ y ∧ ∀ outer,
    readFrom? (state.under outer) (s ++ ')' :: y) =
      readFrom? (next.under outer) past

theorem skip_append_paren (flags : Flags) (s : List Char) :
    (∀ y, flags.skip (s ++ ')' :: y) = flags.skip s ++ ')' :: y) ∨
      flags.skip s = [] ∧ ∀ y, flags.skip (s ++ ')' :: y) <:+ y :=
  ((scans_skip flags).append s).imp_left fun h y => congrArg Prod.snd (h y)

/-- A pattern ends before the parenthesis that comes after it, or its comment runs
on. -/
theorem closes_or_runsOn {state : ReaderState} {s : List Char} {e : Expression}
    (h : readFrom? state s = some e) :
    ∃ next, next.content = e ∧ (Closes state s next ∨ RunsOn state s next) := by
  induction hn : s.length using Nat.strong_induction_on generalizing state s with
  | _ n ih =>
      have hwhole := h
      cases hskip : state.flags.skip s with
      | nil =>
          rw [readFrom?_eq_finish hskip, finish?_eq_some_iff] at h
          obtain ⟨hclosed, rfl⟩ := h
          refine ⟨state, rfl, ?_⟩
          rcases skip_append_paren state.flags s with happend | ⟨-, hpast⟩
          · refine Or.inl ⟨hclosed, hwhole, fun outer y => readFrom?_congr ?_⟩
            rw [flags_under, happend, hskip, List.nil_append,
              skip_counting _ (by decide) (by decide)]
          · refine Or.inr ⟨hclosed, hwhole, fun y => ⟨_, hpast y, fun outer => ?_⟩⟩
            exact readFrom?_congr (by rw [flags_under, skip_skip])
      | cons c rest =>
          rw [readFrom?_eq_bind hskip] at h
          obtain ⟨⟨mid, after⟩, hpart, h⟩ := Option.bind_eq_some_iff.mp h
          have hopen : c = ')' → state.open_ ≠ [] := by
            rintro rfl hnil
            have hleave : state.leave? = none := by rw [ReaderState.leave?, hnil]
            rw [show readPart? state ')' rest = state.leave?.map fun left =>
              (left, rest) from rfl,
              hleave] at hpart
            cases hpart
          have hstep : ∀ outer y, readFrom? (state.under outer) (s ++ ')' :: y) =
              (readPart? state c (rest ++ ')' :: y)).bind fun read =>
                readFrom? (read.1.under outer) read.2 := fun outer y => by
            have happend : (state.under outer).flags.skip (s ++ ')' :: y) =
                c :: (rest ++ ')' :: y) :=
              congrArg Prod.snd ((scans_skip state.flags).append_of_ne_nil
                (Prod.ext rfl hskip) y)
            rw [readFrom?_eq_bind happend, readPart?_under state outer hopen,
              Option.bind_map]
            rfl
          rcases (part_readPart state c).kept hpart with hsame | ⟨rfl, hpast⟩
          · obtain ⟨next, hcontent, hnext⟩ :=
              ih _ (hn ▸ length_lt_of_readPart? hskip hpart) h rfl
            refine ⟨next, hcontent, hnext.imp (fun hcloses => ?_) fun hruns => ?_⟩
            · refine ⟨hcloses.closed, hcontent ▸ hwhole, fun outer y => ?_⟩
              rw [hstep, hsame y, Option.bind_some, hcloses.left]
            · refine ⟨hruns.closed, hcontent ▸ hwhole, fun y => ?_⟩
              obtain ⟨past, hle, hpast⟩ := hruns.past y
              exact ⟨past, hle, fun outer => by
                rw [hstep, hsame y, Option.bind_some, hpast]⟩
          · -- The part runs to the end of the text, so nothing is open there.
            have hnil : mid.flags.skip [] = [] :=
              List.suffix_nil.mp ((scans_skip mid.flags).suffix [])
            rw [readFrom?_eq_finish hnil, finish?_eq_some_iff] at h
            obtain ⟨hclosed, rfl⟩ := h
            refine ⟨mid, rfl, Or.inr ⟨hclosed, hwhole, fun y => ?_⟩⟩
            obtain ⟨past, hle, hread⟩ :=
              (hpast.resolve_right fun h => h.1 hclosed) y
            exact ⟨past, hle, fun outer => by rw [hstep, hread, Option.bind_some]⟩

/-- A brace with nothing that counts after it is no repetition. -/
theorem readPart?_brace_nil {state : ReaderState} {s : List Char}
    (h : state.flags.skip s = []) : readPart? state '{' s = none := by
  have hcount : (readCount? state.flags []).2 = [] :=
    List.suffix_nil.mp ((scans_count state.flags).suffix [])
  have hbounds : readBounds? state.flags s = none := by
    rw [readBounds?_eq, followed, h, show readCount? state.flags [] =
      ((readCount? state.flags []).1, []) from Prod.ext rfl hcount]
  rw [readPart?_brace, readRepetition?, hbounds]
  rfl

theorem not_cons_suffix_self {q r : List Char} {c : Char} : ¬q ++ c :: r <:+ r :=
  fun h => by
  have hle := h.length_le
  simp at hle
  omega

/-- A part that ends before a text that closes a group is read alike without what
comes after that text. -/
theorem readPart?_of_closes {state mid next : ReaderState} {c : Char}
    {u q r : List Char}
    (hpart : readPart? state c (u ++ q ++ ')' :: r) = some (mid, q ++ ')' :: r))
    (hcloses : Closes mid q next) :
    readPart? state c (u ++ q) = some (mid, q) ∧
      ∀ y, readPart? state c (u ++ q ++ ')' :: y) = some (mid, q ++ ')' :: y) := by
  have hlocal := part_readPart state c
  cases hread : readPart? state c (u ++ q) with
  | none =>
      rcases hlocal.crossed hread hpart with hpast | ⟨rest, hrest, hskip⟩
      · exact absurd hpast not_cons_suffix_self
      · -- The text would begin with a brace that is left, and be no pattern.
        obtain rfl : q = '{' :: rest := List.append_cancel_right hrest
        have hwhole := hcloses.whole
        rw [readFrom?_eq_bind (skip_counting mid.flags (by decide)
          (by decide) rest), readPart?_brace_nil hskip] at hwhole
        cases hwhole
  | some read =>
      obtain ⟨mid', q'⟩ := read
      rcases hlocal.kept hread with hsame | ⟨-, hpast | ⟨-, hpast⟩⟩
      · have heq := (hsame r).symm.trans hpart
        simp only [Option.some.injEq, Prod.mk.injEq,
          List.append_cancel_right_eq] at heq
        obtain ⟨rfl, rfl⟩ := heq
        exact ⟨rfl, hsame⟩
      · obtain ⟨past, hle, hpast⟩ := hpast r
        cases hpast.symm.trans hpart
        exact absurd hle not_cons_suffix_self
      · exact absurd (hpast r _ _ hpart) not_cons_suffix_self

/-- A part before a text that closes a group. -/
theorem Closes.cons {state mid next : ReaderState} {before s q : List Char}
    {c : Char} (h : Closes mid q next)
    (hskip : ∀ t, state.flags.skip (before ++ c :: t) = c :: t)
    (hopen : c = ')' → state.open_ ≠ [])
    (hpart : readPart? state c s = some (mid, q))
    (hmore : ∀ y, readPart? state c (s ++ ')' :: y) = some (mid, q ++ ')' :: y)) :
    Closes state (before ++ c :: s) next where
  closed := h.closed
  whole := by rw [readFrom?_eq_bind (hskip s), hpart, Option.bind_some, h.whole]
  left outer y := by
    have hunder : (state.under outer).flags.skip (before ++ c :: (s ++ ')' :: y)) =
        c :: (s ++ ')' :: y) := hskip _
    rw [List.append_assoc, List.cons_append, readFrom?_eq_bind hunder,
      readPart?_under state outer hopen, hmore y, Option.map_some,
      Option.bind_some, h.left]

/-- What can come of a text that is no pattern, when a parenthesis comes after it:
it has a parenthesis of its own that closes a group around it, or it runs past the
other. -/
inductive Overruns (state : ReaderState) (outer : List OpenGroup) (s y : List Char)
    (e : Expression) : Prop
  | closes {q r : List Char} {next : ReaderState} (hs : s = q ++ ')' :: r)
      (hcloses : Closes state q next)
  | passes {next : ReaderState} {past : List Char} (hpast : past <:+ y)
      (hread : readFrom? (next.under outer) past = some e)

section Overruns

variable {state : ReaderState} {outer : List OpenGroup} {s y : List Char}
  {e : Expression}

/-- Of a text that is read to its end, the parenthesis after it is read, or it is in
a comment. -/
theorem overruns_of_skip_eq_nil (hskip : state.flags.skip s = [])
    (h : readFrom? state s = none)
    (hread : readFrom? (state.under outer) (s ++ ')' :: y) = some e) :
    Overruns state outer s y e := by
  rcases skip_append_paren state.flags s with happend | ⟨-, hpast⟩
  · have happend : (state.under outer).flags.skip (s ++ ')' :: y) = ')' :: y := by
      rw [flags_under, happend, hskip, List.nil_append]
    have hopen : state.open_ ≠ [] := fun hnil => by
      rw [readFrom?_eq_finish hskip, finish?_eq_some_iff.mpr ⟨hnil, rfl⟩] at h
      cases h
    rw [readFrom?_eq_bind happend, readPart?_under state outer fun _ => hopen,
      Option.bind_map] at hread
    obtain ⟨⟨next, past⟩, hleave, hread⟩ := Option.bind_eq_some_iff.mp hread
    exact .passes ((part_readPart state ')').suffix hleave) hread
  · refine .passes (hpast y) (Eq.trans (readFrom?_congr ?_) hread)
    rw [flags_under, skip_skip]

/-- A parenthesis that closes no group of the text comes after a pattern. -/
theorem closes_of_skip {rest : List Char} (hclosed : state.open_ = [])
    (hskip : state.flags.skip s = ')' :: rest) :
    ∃ before, s = before ++ ')' :: rest ∧ Closes state before state := by
  obtain ⟨-, before, hs, hbefore⟩ := skip_split hskip
  have hnil : state.flags.skip before = [] := by
    have hempty := hbefore []
    rw [List.append_nil] at hempty
    rw [hempty]
    exact List.suffix_nil.mp ((scans_skip state.flags).suffix [])
  refine ⟨before, hs, hclosed, ?_, fun outer y => readFrom?_congr (hbefore _)⟩
  rw [readFrom?_eq_finish hnil, finish?_eq_some_iff]
  exact ⟨hclosed, rfl⟩

/-- A part that is none within the text is read past the parenthesis, or leaves a
brace that is. -/
theorem overruns_of_readPart?_eq_none {c : Char} {rest after : List Char}
    {mid : ReaderState} (hpart : readPart? state c rest = none)
    (hafter : readPart? state c (rest ++ ')' :: y) = some (mid, after))
    (hread : readFrom? (mid.under outer) after = some e) :
    Overruns state outer s y e := by
  rcases (part_readPart state c).crossed hpart hafter with hpast | ⟨b, rfl, hb⟩
  · exact .passes hpast hread
  · -- A brace that is left is no repetition within the text.
    have hread : readFrom? (mid.under outer) ('{' :: (b ++ ')' :: y)) = some e :=
      hread
    rw [readFrom?_eq_bind (skip_counting _ (by decide) (by decide) _),
      readPart?_under mid outer (fun h => absurd h (by decide)),
      Option.bind_map] at hread
    obtain ⟨⟨next, past⟩, hbrace, hread⟩ := Option.bind_eq_some_iff.mp hread
    rw [readPart?_brace] at hbrace
    exact .passes ((local_repetition mid).crossed
      ((readPart?_brace mid b).symm.trans (readPart?_brace_nil hb)) hbrace) hread

/-- A text that is no pattern overruns, when it makes one with a parenthesis after
it. -/
theorem overruns_of_eq_none (h : readFrom? state s = none)
    (hread : readFrom? (state.under outer) (s ++ ')' :: y) = some e) :
    Overruns state outer s y e := by
  induction hn : s.length using Nat.strong_induction_on generalizing state s with
  | _ n ih =>
      cases hskip : state.flags.skip s with
      | nil => exact overruns_of_skip_eq_nil hskip h hread
      | cons c rest =>
          by_cases hcloses : c = ')' ∧ state.open_ = []
          · obtain ⟨rfl, hclosed⟩ := hcloses
            obtain ⟨before, hs, hbefore⟩ := closes_of_skip hclosed hskip
            exact .closes hs hbefore
          have hopen : c = ')' → state.open_ ≠ [] :=
            fun hc hnil => hcloses ⟨hc, hnil⟩
          have happend : (state.under outer).flags.skip (s ++ ')' :: y) =
              c :: (rest ++ ')' :: y) :=
            congrArg Prod.snd ((scans_skip state.flags).append_of_ne_nil
              (Prod.ext rfl hskip) y)
          rw [readFrom?_eq_bind happend, readPart?_under state outer hopen,
            Option.bind_map] at hread
          obtain ⟨⟨mid, after⟩, hafter, hread⟩ := Option.bind_eq_some_iff.mp hread
          rw [readFrom?_eq_bind hskip] at h
          cases hpart : readPart? state c rest with
          | none => exact overruns_of_readPart?_eq_none hpart hafter hread
          | some read =>
              obtain ⟨mid', r⟩ := read
              rw [hpart] at h
              rcases (part_readPart state c).kept hpart with hsame | ⟨rfl, hpast⟩
              · cases (hsame y).symm.trans hafter
                cases ih _ (hn ▸ length_lt_of_readPart? hskip hpart)
                  h hread rfl with
                | passes hpast hread => exact .passes hpast hread
                | @closes q r' next hr hcloses =>
                    obtain ⟨u, hu⟩ := (part_readPart state c).suffix hpart
                    obtain rfl : r = q ++ ')' :: r' := hr
                    obtain rfl : u ++ q ++ ')' :: r' = rest := by
                      rw [List.append_assoc, hu]
                    obtain ⟨hcounts, before, hs, hbefore⟩ := skip_split hskip
                    obtain ⟨hq, hmore⟩ := readPart?_of_closes hpart hcloses
                    have hsplit : s = before ++ c :: (u ++ q) ++
                      ')' :: r' := by simp [hs]
                    exact .closes hsplit
                      (hcloses.cons (fun t => (hbefore _).trans (hcounts t))
                        hopen hq hmore)
              · rcases hpast with hpast | ⟨-, hpast⟩
                · obtain ⟨past, hle, hpast⟩ := hpast y
                  cases hpast.symm.trans hafter
                  exact .passes hle hread
                · exact .passes (hpast y _ _ hafter) hread

end Overruns

end QueryGate.Pattern
