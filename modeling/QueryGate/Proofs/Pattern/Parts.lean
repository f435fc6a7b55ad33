import QueryGate.Pattern.Reader
import QueryGate.Proofs.Pattern.Brackets

/-!
What the parts of a pattern see of the text after them.

Each part of a pattern is read alike whether a parenthesis and more text come after
it or not, with two exceptions. An opening parenthesis before a comment may turn out
to begin another kind of group, and a word boundary before a brace may leave the
brace. In both cases the pattern alone is none.
-/

namespace QueryGate.Pattern

open QueryGate.Text

theorem Local.branch {α : Type} {f f' : List Char → Option (α × List Char)}
    {c : Char} (hc : c ≠ ')') (h : Local f) (h' : Local f') :
    Local fun s => if s.head? = some c then f s.tail else f' s where
  suffix {s a r} hs := by
    split_ifs at hs
    · exact (h.suffix hs).trans (List.tail_suffix s)
    · exact h'.suffix hs
  kept {s a r} hs := by
    rcases s with _ | ⟨d, s⟩
    · simp only [List.nil_append, List.head?_cons, Option.some.injEq, hc.symm,
        if_false]
      exact h'.kept hs
    · simp only [List.cons_append, List.head?_cons, List.tail_cons,
        Option.some.injEq] at hs ⊢
      by_cases hd : d = c
      · simp only [if_pos hd] at hs ⊢
        exact h.kept hs
      · simp only [if_neg hd] at hs ⊢
        exact h'.kept hs
  crossed {s y a past} hnone hs := by
    rcases s with _ | ⟨d, s⟩
    · simp only [List.nil_append, List.head?_cons, Option.some.injEq, hc.symm,
        if_false] at hs
      exact h'.crossed hnone hs
    · simp only [List.cons_append, List.head?_cons, List.tail_cons,
        Option.some.injEq] at hnone hs
      by_cases hd : d = c
      · rw [if_pos hd] at hnone hs
        exact h.crossed hnone hs
      · rw [if_neg hd] at hnone hs
        exact h'.crossed hnone hs

theorem scans_count (flags : Flags) : Scans (readCount? flags) := by
  obtain ⟨number, hread⟩ :
      ∃ number : List Char → Option Nat, ∀ s, readCount? flags s =
      (number (flags.run Char.isDigit false (s.dropWhile isBlank)).1,
        flags.skip ((flags.run Char.isDigit false (s.dropWhile isBlank)).2.dropWhile
          isBlank)) :=
    ⟨fun digits =>
      let count := digits.foldl (fun n c => 10 * n + (c.toNat - '0'.toNat)) 0
      if digits.isEmpty || Nat.pow 2 32 ≤ count then none else some count,
      fun s => by simp only [readCount?]⟩
  refine Scans.congr ?_ hread
  refine (scans_dropBlank.comp fun _ => scans_run flags Char.isDigit false).comp
    (f := fun digits s => (number digits, flags.skip (s.dropWhile isBlank)))
      fun digits => ?_
  exact (scans_dropBlank.comp fun _ => scans_skip flags).map fun _ => number digits

/-- Reads the upper bound of a repetition, with a lower bound. -/
def readMost? (flags : Flags) (first : Option Nat) :
    List Char → Option ((Nat × Option Nat) × List Char) :=
  followed (readCount? flags) fun second d after =>
    if d = '}' then
      (second.bind fun most => first.bind fun least =>
        if least ≤ most then some (least, some most) else none).map (·, after)
    else none

/-- Reads the bounds of a repetition after the first of them. -/
def readSecond? (flags : Flags) (first : Option Nat) (c : Char)
    (after : List Char) : Option ((Nat × Option Nat) × List Char) :=
  if c = ',' then
    if (flags.skip after).head? = some '}' then
      (first.map fun least => (least, none)).map (·, (flags.skip after).tail)
    else readMost? flags first (flags.skip after)
  else if c = '}' then (first.map fun count => (count, some count)).map (·, after)
  else none

theorem readMost?_eq (flags : Flags) (first : Option Nat) (s : List Char) :
    readMost? flags first s = match readCount? flags s with
      | (some most, '}' :: after) =>
          first.bind fun least => if least ≤ most
            then some ((least, some most), after) else none
      | _ => none := by
  rw [readMost?, followed]
  rcases readCount? flags s with ⟨_ | most, _ | ⟨d, after⟩⟩
  · rfl
  · simp
  · rfl
  · by_cases hd : d = '}'
    · subst hd
      cases first with
      | none => rfl
      | some least =>
          simp only [if_true, Option.bind_some]
          split_ifs <;> rfl
    · simp [hd]

theorem readSecond?_comma (flags : Flags) (first : Option Nat) (s : List Char) :
    readSecond? flags first ',' s = match flags.skip s with
      | '}' :: after => first.map fun least => ((least, none), after)
      | second => match readCount? flags second with
        | (some most, '}' :: after) =>
            first.bind fun least => if least ≤ most
              then some ((least, some most), after) else none
        | _ => none := by
  rw [readSecond?, if_pos rfl, readMost?_eq]
  split_ifs with hclose
  · obtain ⟨rest, hrest⟩ := List.head?_eq_some_iff.mp hclose
    rw [hrest, Option.map_map]
    rfl
  · rcases hskip : flags.skip s with _ | ⟨d, rest⟩
    · rfl
    · have hd : d ≠ '}' := fun hd => hclose (by rw [hskip, hd]; rfl)
      simp [hd]

theorem readBounds?_eq (flags : Flags) (s : List Char) :
    readBounds? flags s =
      followed (fun s => readCount? flags (flags.skip s))
        (readSecond? flags) s := by
  rw [readBounds?, followed]
  rcases readCount? flags (flags.skip s) with ⟨first, _ | ⟨c, after⟩⟩
  · rfl
  show _ = readSecond? flags first c after
  by_cases hcomma : c = ','
  · subst hcomma
    rw [readSecond?_comma]
    rfl
  · rw [readSecond?, if_neg hcomma]
    by_cases hbrace : c = '}'
    · subst hbrace
      cases first <;> rfl
    · rw [if_neg hbrace]
      simp [hcomma, hbrace]

theorem local_bounds (flags : Flags) : Local (readBounds? flags) := by
  have hmost : ∀ first, Local (readMost? flags first) := fun first =>
    Local.followed (scans_count flags) fun second d =>
      Local.ite (d = '}') (Local.maybe _) Local.never
  have hnil : ∀ first, readMost? flags first [] = none := fun first => by
    rw [readMost?, followed]
    have hsuffix := (scans_count flags).suffix []
    rw [List.suffix_nil] at hsuffix
    rw [show readCount? flags [] = ((readCount? flags []).1, [])
      from Prod.ext rfl hsuffix]
  refine (Local.followed ((scans_skip flags).comp fun _ => scans_count flags)
    fun first c =>
    Local.ite (c = ',')
      (((Local.maybe (first.map fun least => (least, none))).branch
      (by decide : '}' ≠ ')') (hmost first)).skipped flags ?_)
      (Local.ite (c = '}') (Local.maybe _) Local.never)).congr
        (readBounds?_eq flags)
  intro a r hread
  rw [List.head?_nil, if_neg (by simp), hnil] at hread
  cases hread

/-- Reading the rest of a lazy repetition. -/
theorem local_lazy : Local fun s => some ((), skipLazy s) := by
  refine (Local.branch (by decide : '?' ≠ ')') (Local.done ())
    (Local.done ())).congr fun s => ?_
  rcases s with _ | ⟨c, rest⟩
  · rfl
  · by_cases hc : c = '?'
    · subst hc
      rfl
    · rw [List.head?_cons, if_neg (by simpa using hc), skipLazy]
      simpa using hc

theorem local_groupName : Local readGroupName? := by
  refine (Local.followed (scans_span (· != '>')) fun name c =>
    Local.ite (c = '>') (Local.maybe (if isGroupName name then some name else none))
      Local.never).congr fun s => ?_
  rw [readGroupName?, followed]
  rcases s.span (· != '>') with ⟨name, _ | ⟨c, rest⟩⟩
  · rfl
  · by_cases hc : c = '>'
    · subst hc
      simp only [if_true]
      split_ifs <;> rfl
    · simp [hc]

/-- The state within a group of a name. Names are given once. -/
def named? (state : ReaderState) (name : List Char) : Option ReaderState :=
  if state.names.contains name then none
  else some ({ state with names := name :: state.names }.enter true state.flags)

/-- Reads the name of a group. -/
def readNamed? (state : ReaderState) (s : List Char) :
    Option (ReaderState × List Char) :=
  (readGroupName? s).bind fun read => (named? state read.1).map fun next =>
    (next, read.2)

theorem local_named (state : ReaderState) : Local (readNamed? state) :=
  local_groupName.used (named? state)

theorem readNamed?_eq (state : ReaderState) (s : List Char) :
    readNamed? state s = do
      let (name, after) ← readGroupName? s
      if state.names.contains name then none
      else return ({ state with names := name :: state.names }.enter true
        state.flags, after) := by
  rw [readNamed?]
  cases readGroupName? s with
  | none => rfl
  | some read =>
      simp only [Option.bind_eq_bind, Option.bind_some, named?]
      split_ifs <;> rfl

/-- The state after switches, which end with a colon or a parenthesis. -/
def switched? (state : ReaderState) (letters : List Char) (c : Char) :
    Option ReaderState :=
  if areSwitches letters then
    (state.flags.setAll? true letters).bind fun flags =>
      if c = ':' then some (state.enter false flags)
      else if letters.isEmpty then none
      else some ({ state with flags := flags }.add .setting)
  else none

theorem readSwitches?_eq (state : ReaderState) (s : List Char) :
    readSwitches? state s = followed (List.span fun c => c != ':' && c != ')')
      (fun letters c rest => (switched? state letters c).map (·, rest)) s := by
  rw [readSwitches?, followed]
  rcases s.span fun c => c != ':' && c != ')' with ⟨letters, _ | ⟨c, rest⟩⟩
  · rfl
  · by_cases hswitches : areSwitches letters = true
    · simp only [switched?, if_pos hswitches]
      cases state.flags.setAll? true letters with
      | none => rfl
      | some flags =>
          simp only [Option.bind_eq_bind, Option.bind_some]
          split_ifs <;> rfl
    · simp only [switched?, if_neg hswitches]
      rfl

theorem local_switches (state : ReaderState) : Local (readSwitches? state) :=
  (Local.followed (scans_span fun c => c != ':' && c != ')') fun letters c =>
    Local.maybe (switched? state letters c)).congr (readSwitches?_eq state)

/-- There is no switch with a capital P. -/
theorem readSwitches?_capital (state : ReaderState) (s : List Char) :
    readSwitches? state ('P' :: s) = none := by
  have hletters : ∀ letters c, switched? state ('P' :: letters) c = none :=
    fun letters c => by
    rw [switched?]
    split_ifs <;> rfl
  rw [readSwitches?_eq, followed, List.span_eq_takeWhile_dropWhile,
    List.takeWhile_cons_of_pos (by decide), List.dropWhile_cons_of_pos (by decide)]
  split
  · next heq =>
    rw [← (Prod.mk.inj heq).1, hletters]
    rfl
  · rfl

/-- What follows a question mark after an opening parenthesis. -/
def readMarked? (state : ReaderState) (s : List Char) :
    Option (ReaderState × List Char) :=
  if s.head? = some '=' then none
  else if s.head? = some '!' then none
  else if s.head? = some '<' then
    if s.tail.head? = some '=' then none
    else if s.tail.head? = some '!' then none
    else readNamed? state s.tail
  else if s.head? = some 'P' then
    if s.tail.head? = some '<' then readNamed? state s.tail.tail else none
  else readSwitches? state s

theorem local_marked (state : ReaderState) : Local (readMarked? state) := by
  have hangle := Local.branch (by decide : '=' ≠ ')') Local.never
    (Local.branch (by decide : '!' ≠ ')') Local.never (local_named state))
  have hcapital :=
    Local.branch (by decide : '<' ≠ ')') (local_named state) Local.never
  exact Local.branch (by decide : '=' ≠ ')') Local.never
    (Local.branch (by decide : '!' ≠ ')') Local.never
      (Local.branch (by decide : '<' ≠ ')') hangle
        (Local.branch (by decide : 'P' ≠ ')') hcapital (local_switches state))))

theorem readGroup?_eq (state : ReaderState) (s : List Char) :
    readGroup? state s =
      if (state.flags.skip s).head? = some '?' then
        readMarked? state (state.flags.skip s).tail
      else some (state.enter true state.flags, state.flags.skip s) := by
  have hhead : ∀ {l : List Char} {c : Char}, (∀ tail, l = c :: tail → False) →
      l.head? ≠ some c :=
    fun h hhead => by
      obtain ⟨tail, htail⟩ := List.head?_eq_some_iff.mp hhead
      exact h tail htail
  rw [readGroup?]
  simp only [← readNamed?_eq]
  split
  · next hskip => simp [hskip, readMarked?]
  · next hskip => simp [hskip, readMarked?]
  · next hskip => simp [hskip, readMarked?]
  · next hskip => simp [hskip, readMarked?]
  · next hskip => simp [hskip, readMarked?]
  · next rest hequals hmark hskip =>
    simp [hskip, readMarked?, hhead hequals, hhead hmark]
  · next rest hequals hmark _ _ hcapital hangle hskip =>
    rw [hskip, List.head?_cons, if_pos rfl, List.tail_cons, readMarked?,
      if_neg (hhead hequals), if_neg (hhead hmark), if_neg (hhead hangle)]
    split_ifs with hP hPangle
    · obtain ⟨tail, rfl⟩ := List.head?_eq_some_iff.mp hP
      obtain ⟨tail', rfl⟩ := List.head?_eq_some_iff.mp hPangle
      exact absurd rfl (hcapital tail')
    · obtain ⟨tail, rfl⟩ := List.head?_eq_some_iff.mp hP
      exact readSwitches?_capital state tail
    · rfl
  · next hmark =>
    rw [if_neg (hhead hmark)]

/-- A reader of a part of a pattern is local, but for a group that is still open at
the end of the text, and for a brace that is left. -/
structure PartLocal (f : List Char → Option (ReaderState × List Char)) : Prop where
  suffix : ∀ {s state r}, f s = some (state, r) → r <:+ s
  kept : ∀ {s state r}, f s = some (state, r) →
    (∀ y, f (s ++ ')' :: y) = some (state, r ++ ')' :: y)) ∨
      r = [] ∧ ((∀ y, ∃ past, past <:+ y ∧ f (s ++ ')' :: y) = some (state, past)) ∨
        state.open_ ≠ [] ∧ ∀ y state' past, f (s ++ ')' :: y) =
          some (state', past) → past <:+ y)
  crossed : ∀ {s y state past}, f s = none →
    f (s ++ ')' :: y) = some (state, past) →
    past <:+ y ∨ ∃ rest, past = '{' :: rest ++ ')' :: y ∧ state.flags.skip rest = []

theorem Local.part {f : List Char → Option (ReaderState × List Char)}
    (h : Local f) : PartLocal f where
  suffix := h.suffix
  kept hs := (h.kept hs).imp_right fun ⟨hnil, hpast⟩ => ⟨hnil, Or.inl hpast⟩
  crossed hnone hs := Or.inl (h.crossed hnone hs)

theorem part_group (state : ReaderState) : PartLocal (readGroup? state) := by
  have hstart := Local.branch (by decide : '?' ≠ ')') (local_marked state)
    (Local.done (state.enter true state.flags))
  have hskip := scans_skip state.flags
  refine ⟨?_, ?_, ?_⟩
  · intro s state' r hs
    rw [readGroup?_eq] at hs
    exact (hstart.suffix hs).trans (hskip.suffix s)
  · intro s state' r hs
    simp only [readGroup?_eq] at hs ⊢
    rcases hskip.append s with happend | ⟨hnil, hpast⟩
    · have happend : ∀ y, state.flags.skip (s ++ ')' :: y) =
          state.flags.skip s ++ ')' :: y :=
        fun y => congrArg Prod.snd (happend y)
      simp only [happend]
      exact (hstart.kept hs).imp_right fun ⟨hnil, hpast⟩ => ⟨hnil, Or.inl hpast⟩
    · -- In a comment the kind of the group is not known yet.
      rw [show state.flags.skip s = [] from hnil, List.head?_nil,
        if_neg (by simp)] at hs
      cases hs
      refine Or.inr ⟨rfl,
        Or.inr ⟨by simp [ReaderState.enter], fun y state' past hs => ?_⟩⟩
      exact (hstart.suffix hs).trans (hpast y)
  · intro s y state' past hnone hs
    rw [readGroup?_eq] at hnone hs
    rcases hskip.append s with happend | ⟨hnil, -⟩
    · rw [show state.flags.skip (s ++ ')' :: y) =
          state.flags.skip s ++ ')' :: y from congrArg Prod.snd (happend y)] at hs
      exact Or.inl (hstart.crossed hnone hs)
    · rw [show state.flags.skip s = [] from hnil, List.head?_nil,
        if_neg (by simp)] at hnone
      cases hnone

/-- A part that begins with a backslash. -/
def readEscaped? (state : ReaderState) (s : List Char) :
    Option (ReaderState × List Char) :=
  (readEscape? state.flags s).bind fun read =>
    (state.flags.expression? read.1).map fun e => (state.add e, read.2)

theorem readEscaped?_of_ne (state : ReaderState) {s : List Char}
    (h : s.head? ≠ some 'b') :
    readEscaped? state s = (plainEscape? state.flags s).bind fun read =>
      ((state.flags.expression? read.1).map state.add).map fun next =>
        (next, read.2) := by
  have hplain : plainEscape? state.flags s = readEscape? state.flags s := by
    rw [plainEscape?]
    rintro tail rfl
    exact h rfl
  rw [readEscaped?, hplain]
  simp only [Option.map_map]
  rfl

theorem readEscaped?_boundary_iff {state next : ReaderState} {s r : List Char} :
    readEscaped? state ('b' :: s) = some (next, r) ↔
      ∃ look, readBoundary? state.flags s = some (.look look, r) ∧
        next = state.add (.look look) := by
  rw [readEscaped?, show readEscape? state.flags ('b' :: s) =
    readBoundary? state.flags s from rfl]
  constructor
  · intro h
    obtain ⟨⟨a, r'⟩, hread, h⟩ := Option.bind_eq_some_iff.mp h
    obtain ⟨look, rfl⟩ := readBoundary?_look hread
    cases h
    exact ⟨look, hread, rfl⟩
  · rintro ⟨look, hread, rfl⟩
    rw [hread]
    rfl

theorem part_escaped (state : ReaderState) : PartLocal (readEscaped? state) := by
  have hplain := (local_plainEscape state.flags).used fun read =>
    (state.flags.expression? read).map state.add
  have hhead : ∀ {s : List Char}, s.head? ≠ some 'b' →
      ∀ y, (s ++ ')' :: y).head? ≠ some 'b' := by
    intro s hs y
    cases s with
    | nil => simp
    | cons c rest => exact hs
  refine ⟨?_, ?_, ?_⟩
  · intro s next r hs
    by_cases hb : s.head? = some 'b'
    · obtain ⟨rest, rfl⟩ := List.head?_eq_some_iff.mp hb
      obtain ⟨look, hread, -⟩ := readEscaped?_boundary_iff.mp hs
      exact (readBoundary?_suffix hread).trans (List.suffix_cons 'b' rest)
    · rw [readEscaped?_of_ne state hb] at hs
      exact hplain.suffix hs
  · intro s next r hs
    by_cases hb : s.head? = some 'b'
    · obtain ⟨rest, rfl⟩ := List.head?_eq_some_iff.mp hb
      obtain ⟨look, hread, hnext⟩ := readEscaped?_boundary_iff.mp hs
      rcases readBoundary?_kept hread with hsame | ⟨hnil, hpast⟩
      · exact Or.inl fun y => readEscaped?_boundary_iff.mpr ⟨look, hsame y, hnext⟩
      · refine Or.inr ⟨hnil, Or.inl fun y => ?_⟩
        obtain ⟨past, hle, hread⟩ := hpast y
        exact ⟨past, hle, readEscaped?_boundary_iff.mpr ⟨look, hread, hnext⟩⟩
    · rw [readEscaped?_of_ne state hb] at hs
      simp only [fun y => readEscaped?_of_ne state (hhead hb y)]
      exact hplain.part.kept hs
  · intro s y next past hnone hs
    by_cases hb : s.head? = some 'b'
    · obtain ⟨rest, rfl⟩ := List.head?_eq_some_iff.mp hb
      obtain ⟨look, hread, rfl⟩ := readEscaped?_boundary_iff.mp hs
      refine readBoundary?_crossed ?_ hread
      cases hfirst : readBoundary? state.flags rest with
      | none => exact hfirst
      | some read =>
          obtain ⟨a, r⟩ := read
          obtain ⟨look', rfl⟩ := readBoundary?_look hfirst
          rw [readEscaped?_boundary_iff.mpr ⟨look', hfirst, rfl⟩] at hnone
          cases hnone
    · rw [readEscaped?_of_ne state hb] at hnone
      rw [readEscaped?_of_ne state (hhead hb y)] at hs
      exact Or.inl (hplain.crossed hnone hs)

/-- A part that repeats the one before it, with bounds in braces. -/
def readRepetition? (state : ReaderState) (s : List Char) :
    Option (ReaderState × List Char) :=
  (readBounds? state.flags s).bind fun read =>
    (state.repeatLast? read.1.1 read.1.2).map fun next =>
      (next, skipLazy (state.flags.skip read.2))

theorem local_repetition (state : ReaderState) : Local (readRepetition? state) := by
  have hlazy : ∀ bounds : Nat × Option Nat, Local fun s =>
      (state.repeatLast? bounds.1 bounds.2).map fun next =>
        (next, skipLazy (state.flags.skip s)) := fun bounds => by
    refine (((Local.skip state.flags).bind (k := fun _ s => some ((), skipLazy s))
      (fun _ => local_lazy) ?_).used fun _ =>
        state.repeatLast? bounds.1 bounds.2).congr fun s => by
        cases state.repeatLast? bounds.1 bounds.2 <;> rfl
    intro _ b r _ s
    exact ⟨skipLazy s, local_lazy.suffix rfl, rfl⟩
  refine (local_bounds state.flags).bind hlazy ?_
  intro bounds next r hread s
  obtain ⟨next', hnext, hread⟩ := Option.map_eq_some_iff.mp hread
  cases hread
  refine ⟨skipLazy (state.flags.skip s), ?_, by rw [hnext]; rfl⟩
  exact (local_lazy.suffix rfl).trans ((scans_skip state.flags).suffix s)

theorem readPart?_brace (state : ReaderState) (s : List Char) :
    readPart? state '{' s = readRepetition? state s := by
  rw [readRepetition?]
  show (readBounds? state.flags s).bind _ = _
  cases readBounds? state.flags s with
  | none => rfl
  | some read =>
      simp only [Option.bind_eq_bind, Option.bind_some]
      cases state.repeatLast? read.1.1 read.1.2 <;> rfl

theorem readPart?_backslash (state : ReaderState) (s : List Char) :
    readPart? state '\\' s = readEscaped? state s := by
  rw [readEscaped?]
  show (readEscape? state.flags s).bind _ = _
  cases readEscape? state.flags s with
  | none => rfl
  | some read =>
      simp only [Option.bind_eq_bind, Option.bind_some]
      cases state.flags.expression? read.1 <;> rfl

/-- Every part is local in this sense. -/
theorem part_readPart (state : ReaderState) (c : Char) :
    PartLocal (readPart? state c) := by
  have hrepeat : ∀ least most, Local fun s =>
      (state.repeatLast? least most).map fun next => (next, skipLazy s) :=
        fun least most =>
    (local_lazy.used fun _ => state.repeatLast? least most).congr fun s => by
      cases state.repeatLast? least most <;> rfl
  by_cases hgroup : c = '('
  · exact hgroup ▸ part_group state
  by_cases hescape : c = '\\'
  · subst hescape
    exact (funext (readPart?_backslash state)) ▸ part_escaped state
  refine Local.part ?_
  by_cases hbrace : c = '{'
  · subst hbrace
    exact (local_repetition state).congr (readPart?_brace state)
  by_cases hclose : c = ')'
  · exact hclose ▸ Local.maybe state.leave?
  by_cases hbar : c = '|'
  · exact hbar ▸ Local.done state.nextBranch
  by_cases hset : c = '['
  · subst hset
    exact ((local_set state.flags).used fun set =>
      some (state.add (.one set))).congr fun s => by
      show (readSet? state.flags s).map _ = _
      cases readSet? state.flags s <;> rfl
  by_cases hquestion : c = '?'
  · exact hquestion ▸ hrepeat 0 (some 1)
  by_cases hstar : c = '*'
  · exact hstar ▸ hrepeat 0 none
  by_cases hplus : c = '+'
  · exact hplus ▸ hrepeat 1 none
  by_cases hdot : c = '.'
  · subst hdot
    exact (Local.maybe (state.flags.dot?.map state.add)).congr fun s => by
      show state.flags.dot?.map _ = _
      cases state.flags.dot? <;> rfl
  by_cases hcaret : c = '^'
  · exact hcaret ▸ Local.done (state.add (.look state.flags.caret))
  by_cases hdollar : c = '$'
  · exact hdollar ▸ Local.done (state.add (.look state.flags.dollar))
  refine (Local.maybe ((state.flags.expression? (.char c false)).map
    state.add)).congr fun s => ?_
  simp only [readPart?]
  cases state.flags.expression? (.char c false) <;> rfl

end QueryGate.Pattern
