import Mathlib.Data.List.TakeDrop
import Mathlib.Tactic.SplitIfs
import QueryGate.Pattern.Bracket

/-!
What a reader sees of the text after its part.

A pattern is read from left to right, and nearly every reader stops at a closing
parenthesis that is not its own. So a text is read as it would be alone when a
parenthesis and more text come after it, or else the reader runs past that
parenthesis, because it was within a comment, a name or a pair of brackets. `Local`
says so of a reader, and the readers of the smallest parts are shown to be local.
-/

namespace QueryGate.Pattern

open QueryGate.Text QueryGate.Unicode

/-- A scanner takes something off the start of a text. It stops before a parenthesis
that comes after the text, or runs past it. -/
structure Scans {α : Type} (g : List Char → α × List Char) : Prop where
  suffix : ∀ s, (g s).2 <:+ s
  append : ∀ s, (∀ y, g (s ++ ')' :: y) = ((g s).1, (g s).2 ++ ')' :: y)) ∨
    (g s).2 = [] ∧ ∀ y, (g (s ++ ')' :: y)).2 <:+ y

namespace Scans

variable {α β : Type} {g : List Char → α × List Char}

theorem congr {f : List Char → α × List Char} (h : Scans g)
    (hf : ∀ s, f s = g s) : Scans f :=
  funext hf ▸ h

/-- What was not taken off is seen again with more text after it. -/
theorem append_of_ne_nil (h : Scans g) {s : List Char} {a : α} {c : Char}
    {rest : List Char} (hs : g s = (a, c :: rest)) (y : List Char) :
    g (s ++ ')' :: y) = (a, c :: rest ++ ')' :: y) := by
  rcases h.append s with happend | ⟨hnil, -⟩
  · rw [happend y, hs]
  · rw [hs] at hnil
    cases hnil

theorem map (h : Scans g) (φ : α → β) : Scans fun s => (φ (g s).1, (g s).2) where
  suffix := h.suffix
  append s := by
    rcases h.append s with happend | hnil
    · exact Or.inl fun y => by rw [happend y]
    · exact Or.inr hnil

theorem comp {f : α → List Char → β × List Char} (h : Scans g)
    (hf : ∀ a, Scans (f a)) : Scans fun s => f (g s).1 (g s).2 where
  suffix s := ((hf _).suffix _).trans (h.suffix s)
  append s := by
    rcases h.append s with happend | ⟨hnil, hpast⟩
    · simp only [happend]
      exact (hf _).append _
    · refine Or.inr ⟨?_, fun y => ((hf _).suffix _).trans (hpast y)⟩
      have hsuffix := (hf (g s).1).suffix (g s).2
      rw [hnil] at hsuffix ⊢
      exact List.suffix_nil.mp hsuffix

end Scans

theorem run_suffix (flags : Flags) (p : Char → Bool) (inComment : Bool)
    (s : List Char) : (flags.run p inComment s).2 <:+ s := by
  induction s generalizing inComment with
  | nil => exact List.suffix_refl _
  | cons c rest ih =>
      rw [Flags.run]
      split_ifs
      · exact (ih _).trans (List.suffix_cons c rest)
      · exact (ih _).trans (List.suffix_cons c rest)
      · exact (ih _).trans (List.suffix_cons c rest)
      · exact (ih _).trans (List.suffix_cons c rest)
      · exact List.suffix_refl _

theorem scans_run (flags : Flags) (p : Char → Bool) (inComment : Bool) :
    Scans (flags.run p inComment) where
  suffix := run_suffix flags p inComment
  append s := by
    have hblank : isBlank ')' = false := by decide
    induction s generalizing inComment with
    | nil =>
        cases inComment with
        | true =>
            refine Or.inr ⟨rfl, fun y => ?_⟩
            simpa [Flags.run] using run_suffix flags p true y
        | false =>
            cases hp : p ')' with
            | true =>
                refine Or.inr ⟨rfl, fun y => ?_⟩
                simpa [Flags.run, hblank, hp] using run_suffix flags p false y
            | false =>
                refine Or.inl fun y => ?_
                simp [Flags.run, hblank, hp]
    | cons c rest ih =>
        rw [Flags.run]
        simp only [List.cons_append, Flags.run]
        split_ifs
        · exact ih _
        · exact ih _
        · exact ih _
        · rcases ih false with happend | hnil
          · exact Or.inl fun y => by rw [happend y]
          · exact Or.inr hnil
        · exact Or.inl fun y => rfl

/-- What does not count is passed over like a run of no characters. -/
theorem skip_eq_run (flags : Flags) (s : List Char) :
    flags.skip s = (flags.run (fun _ => false) false s).2 := by
  rw [Flags.skip]
  split_ifs with hspaced
  · suffices h : ∀ inComment, skipSpace inComment s =
        (flags.run (fun _ => false) inComment s).2 from h false
    intro inComment
    induction s generalizing inComment with
    | nil => rfl
    | cons c rest ih =>
        simp only [skipSpace, Flags.run, hspaced, Bool.true_and, decide_eq_true_eq,
          Bool.false_eq_true, if_false]
        split_ifs
        · exact ih _
        · exact ih _
        · exact ih _
        · rfl
  · cases s <;> simp [Flags.run, hspaced]

theorem scans_skip (flags : Flags) : Scans fun s => ((), flags.skip s) :=
  ((scans_run flags (fun _ => false) false).map fun _ => ()).congr fun s => by
    rw [skip_eq_run]

theorem readHyphens_eq_run (flags : Flags) (inComment : Bool) (s : List Char) :
    readHyphens flags inComment s =
      ((flags.run (fun c => c == '-') inComment s).1.map .char,
        (flags.run (fun c => c == '-') inComment s).2) := by
  induction s generalizing inComment with
  | nil => rfl
  | cons c rest ih =>
      simp only [readHyphens, Flags.run, beq_iff_eq]
      split_ifs with _ _ _ hc
      · exact ih _
      · exact ih _
      · exact ih _
      · rw [ih]
        simp [hc]
      · rfl

theorem scans_hyphens (flags : Flags) : Scans (readHyphens flags false) :=
  ((scans_run flags (fun c => c == '-') false).map (List.map .char)).congr
    (readHyphens_eq_run flags false)

/-- Scanning a span is a run when nothing is passed over. -/
theorem scans_span (p : Char → Bool) : Scans (List.span p) := by
  refine (scans_run .start p false).congr fun s => ?_
  rw [List.span_eq_takeWhile_dropWhile]
  induction s with
  | nil => rfl
  | cons c rest ih =>
      have hspaced : Flags.start.spaced = false := rfl
      simp only [Flags.run, hspaced, Bool.false_and, Bool.false_eq_true,
        if_false, ← ih, List.takeWhile_cons, List.dropWhile_cons]
      split_ifs <;> rfl

theorem scans_dropBlank : Scans fun s => ((), s.dropWhile isBlank) := by
  refine ((scans_span isBlank).map fun _ => ()).congr fun s => ?_
  rw [List.span_eq_takeWhile_dropWhile]

/-- A reader reads a part from the start of a text. When a parenthesis and more text
come after the text, it reads the same and leaves them, or it runs past the
parenthesis. -/
structure Local {α : Type} (f : List Char → Option (α × List Char)) : Prop where
  suffix : ∀ {s a r}, f s = some (a, r) → r <:+ s
  kept : ∀ {s a r}, f s = some (a, r) →
    (∀ y, f (s ++ ')' :: y) = some (a, r ++ ')' :: y)) ∨
      r = [] ∧ ∀ y, ∃ past, past <:+ y ∧ f (s ++ ')' :: y) = some (a, past)
  crossed : ∀ {s y a past}, f s = none →
    f (s ++ ')' :: y) = some (a, past) → past <:+ y

/-- A scanner, after which there has to be a character that tells how to go on. -/
def followed {α β : Type} (g : List Char → α × List Char)
    (k : α → Char → List Char → Option (β × List Char)) (s : List Char) :
    Option (β × List Char) :=
  match g s with
  | (a, c :: rest) => k a c rest
  | (_, []) => none

namespace Local

variable {α β : Type} {f : List Char → Option (α × List Char)}

theorem congr {f' : List Char → Option (α × List Char)} (h : Local f)
    (hf : ∀ s, f' s = f s) : Local f' :=
  funext hf ▸ h

theorem never : Local fun _ : List Char => (none : Option (α × List Char)) where
  suffix h := nomatch h
  kept h := nomatch h
  crossed _ h := nomatch h

theorem done (a : α) : Local fun s => some (a, s) where
  suffix h := by
    cases h
    exact List.suffix_refl _
  kept h := by
    cases h
    exact Or.inl fun y => rfl
  crossed h := nomatch h

theorem maybe (b : Option β) : Local fun s => b.map fun b => (b, s) := by
  cases b with
  | none => exact never
  | some b => exact done b

/-- One reader after the other. The second reads the same from any text as from
nothing, when it reads anything from nothing. -/
theorem bind {k : α → List Char → Option (β × List Char)} (h : Local f)
    (hk : ∀ a, Local (k a))
    (hnil : ∀ {a b r}, k a [] = some (b, r) → ∀ s, ∃ past,
      past <:+ s ∧ k a s = some (b, past)) :
    Local fun s => (f s).bind fun read => k read.1 read.2 where
  suffix hs := by
    obtain ⟨⟨a, r⟩, hread, hs⟩ := Option.bind_eq_some_iff.mp hs
    exact ((hk a).suffix hs).trans (h.suffix hread)
  kept {s b r} hs := by
    obtain ⟨⟨a, r'⟩, hread, hs⟩ := Option.bind_eq_some_iff.mp hs
    rcases h.kept hread with hsame | ⟨rfl, hpast⟩
    · simp only [hsame, Option.bind_some]
      exact (hk a).kept hs
    · refine Or.inr ⟨List.suffix_nil.mp ((hk a).suffix hs), fun y => ?_⟩
      obtain ⟨past, hle, hread⟩ := hpast y
      obtain ⟨past', hle', hs⟩ := hnil hs past
      exact ⟨past', hle'.trans hle, by rw [hread, Option.bind_some, hs]⟩
  crossed {s y b past} hnone hs := by
    obtain ⟨⟨a, r⟩, hread, hs⟩ := Option.bind_eq_some_iff.mp hs
    cases hfirst : f s with
    | none => exact ((hk a).suffix hs).trans (h.crossed hfirst hread)
    | some read =>
        obtain ⟨a', r'⟩ := read
        rw [hfirst, Option.bind_some] at hnone
        rcases h.kept hfirst with hsame | ⟨-, hpast⟩
        · cases (hsame y).symm.trans hread
          exact (hk a).crossed hnone hs
        · obtain ⟨past', hle, hpast⟩ := hpast y
          cases hpast.symm.trans hread
          exact ((hk a).suffix hs).trans hle

/-- What was read is made use of, or refused. -/
theorem used (h : Local f) (φ : α → Option β) :
    Local fun s => (f s).bind fun read => (φ read.1).map fun b => (b, read.2) := by
  refine h.bind (k := fun a s => (φ a).map fun b => (b, s))
    (fun a => maybe (φ a)) ?_
  intro a b r hread s
  obtain ⟨b', hb, hread⟩ := Option.map_eq_some_iff.mp hread
  cases hread
  exact ⟨s, List.suffix_refl s, by simp only [hb, Option.map_some]⟩

theorem followed {g : List Char → α × List Char}
    {k : α → Char → List Char → Option (β × List Char)} (hg : Scans g)
    (hk : ∀ a c, Local (k a c)) : Local (followed g k) where
  suffix {s b r} hs := by
    have hsuffix := hg.suffix s
    rw [Pattern.followed] at hs
    split at hs
    · next a c rest hscan =>
      rw [hscan] at hsuffix
      exact ((hk a c).suffix hs).trans ((List.suffix_cons c rest).trans hsuffix)
    · cases hs
  kept {s b r} hs := by
    rw [Pattern.followed] at hs
    split at hs
    · next a c rest hscan =>
      simp only [Pattern.followed, hg.append_of_ne_nil hscan, List.cons_append]
      exact (hk a c).kept hs
    · cases hs
  crossed {s y b past} hnone hs := by
    rw [Pattern.followed] at hnone hs
    split at hnone
    · next a c rest hscan =>
      rw [hg.append_of_ne_nil hscan] at hs
      exact (hk a c).crossed hnone hs
    · next a hscan =>
      split at hs
      · next a' c' rest' hscan' =>
        have hread := (hk a' c').suffix hs
        rcases hg.append s with happend | ⟨-, hpast⟩
        · rw [happend y, hscan] at hscan'
          cases hscan'
          exact hread
        · have hpast := hpast y
          rw [hscan'] at hpast
          exact hread.trans ((List.suffix_cons c' rest').trans hpast)
      · cases hs

theorem ite {f' : List Char → Option (α × List Char)} (c : Prop) [Decidable c]
    (h : Local f) (h' : Local f') : Local fun s => if c then f s else f' s := by
  split_ifs
  · exact h
  · exact h'

theorem skip (flags : Flags) : Local fun s => some ((), flags.skip s) where
  suffix {s a r} hs := by
    cases hs
    exact (scans_skip flags).suffix s
  kept {s a r} hs := by
    cases hs
    rcases (scans_skip flags).append s with happend | ⟨hnil, hpast⟩
    · exact Or.inl fun y => congrArg some (happend y)
    · exact Or.inr ⟨hnil, fun y => ⟨_, hpast y, rfl⟩⟩
  crossed h := nomatch h

/-- What does not count may be passed over first, when a reader reads the same from
any text as from nothing, or nothing from nothing. -/
theorem skipped (flags : Flags) (h : Local f)
    (hnil : ∀ {a r}, f [] = some (a, r) → ∀ s, ∃ past,
      past <:+ s ∧ f s = some (a, past)) :
    Local fun s => f (flags.skip s) :=
  (skip flags).bind (k := fun _ => f) (fun _ => h) hnil

end Local

/-- A scanner that takes nothing off. -/
theorem scans_nothing : Scans fun s : List Char => ((), s) where
  suffix s := List.suffix_refl s
  append _ := Or.inl fun _ => rfl

theorem local_hexDigits_cons {flags : Flags} {count : Nat}
    (h : Local (hexDigits? flags count)) (c : Char) : Local fun rest =>
      hexDigits? flags (count + 1) (c :: rest) := by
  have hnil : ∀ {a r}, hexDigits? flags count [] = some (a, r) →
      ∀ s, ∃ past, past <:+ s ∧ hexDigits? flags count s = some (a, past) := by
    intro a r hread s
    cases count with
    | zero =>
        cases hread
        exact ⟨s, List.suffix_refl s, rfl⟩
    | succ count => cases hread
  refine (Local.ite (AsciiClass.isHexDigit c = true)
    ((h.skipped flags hnil).used fun digits => some (c :: digits))
      Local.never).congr fun rest => ?_
  rw [hexDigits?]
  split_ifs
  · cases hexDigits? flags count (flags.skip rest) <;> rfl
  · rfl

theorem local_hexDigits (flags : Flags) (count : Nat) :
    Local (hexDigits? flags count) := by
  induction count with
  | zero => exact Local.done []
  | succ count ih =>
      refine (Local.followed scans_nothing fun _ c =>
        local_hexDigits_cons ih c).congr fun s => ?_
      cases s <;> rfl

theorem local_hex (flags : Flags) (count : Nat) :
    Local (readHex? flags (count + 1)) := by
  have hbraces : Local (followed (flags.run AsciiClass.isHexDigit false)
    fun digits d after =>
      if d = '}' then ((charOfHex? digits).map fun c => Primitive.char c false).map
        (·, after)
      else none) :=
    Local.followed (scans_run flags _ false) fun digits d =>
      Local.ite (d = '}') (Local.maybe _) Local.never
  have hdigits :=
    fun c => (local_hexDigits_cons (local_hexDigits flags count) c).used
    fun digits => (charOfHex? digits).map fun c => Primitive.char c (count + 1 = 2)
  refine (Local.followed (scans_skip flags) fun _ c =>
    Local.ite (c = '{') hbraces (hdigits c)).congr fun s => ?_
  rw [readHex?, followed]
  rcases flags.skip s with _ | ⟨c, rest⟩
  · rfl
  by_cases hc : c = '{'
  · subst hc
    simp only [if_true, followed]
    rcases flags.run AsciiClass.isHexDigit false rest with ⟨digits, _ | ⟨d, after⟩⟩
    · rfl
    · by_cases hd : d = '}'
      · subst hd
        simp only [if_true, Option.map_map]
        rfl
      · simp [hd]
  · simp only [if_neg hc]
    split
    · next heq =>
      cases heq
      exact absurd rfl hc
    · rcases hexDigits? flags (count + 1) (c :: rest) with _ | ⟨digits, after⟩
      · rfl
      · simp only [Option.bind_eq_bind, Option.bind_some]
        cases charOfHex? digits <;> rfl

/-- The class with a name in braces, and whether it is excluded. -/
def namedClass? (name : List Char) : Option (Bool × CharSet) :=
  (match splitOnce "!=".toList name with
    | some (kind, value) => (valuedSelection? kind value).map fun set => (true, set)
    | none =>
        match splitOnce [':'] name <|> splitOnce ['='] name with
        | some (kind, value) =>
            (valuedSelection? kind value).map fun set => (false, set)
        | none => (namedSelection? name).map fun set => (false, set)).map
    fun read : Bool × Selection => (read.1, CharSet.named read.2)

theorem local_className (flags : Flags) : Local (readClassName? flags) := by
  have hbraces : Local (followed (flags.run (· != '}') false) fun name d after =>
      if d = '}' then (namedClass? name).map (·, after) else none) :=
    Local.followed (scans_run flags _ false) fun name d =>
      Local.ite (d = '}') (Local.maybe _) Local.never
  refine (Local.followed (scans_skip flags) fun _ c =>
    Local.ite (c = '{') hbraces (Local.ite (c = '\\') Local.never
      (Local.maybe ((namedSelection? [c]).map fun selection =>
        (false, .named selection))))).congr
    fun s => ?_
  rw [readClassName?, followed]
  rcases flags.skip s with _ | ⟨c, rest⟩
  · rfl
  by_cases hc : c = '{'
  · subst hc
    simp only [if_true, followed]
    rcases flags.run (· != '}') false rest with ⟨name, _ | ⟨d, after⟩⟩
    · rfl
    · by_cases hd : d = '}'
      · subst hd
        simp only [if_true, namedClass?, Option.map_map]
        rfl
      · simp [hd]
  · simp only [if_neg hc]
    split_ifs
    · rfl
    · rw [Option.map_map]
      rfl

/-- Reads an escape that is no word boundary. -/
def plainEscape? (flags : Flags) : List Char → Option (Primitive × List Char)
  | 'b' :: _ => none
  | s => readEscape? flags s

theorem local_escape_cons (flags : Flags) {c : Char} (hc : c ≠ 'b') :
    Local fun rest => readEscape? flags (c :: rest) := by
  have hclass := (local_className flags).used fun read =>
    if flags.unicode then
      (flags.complementIf? (read.1 != (c == 'P')) (flags.withCases read.2)).map
        Primitive.set
    else none
  have hletter :=
    Local.ite (mayBeEscaped c = true) (Local.done (Primitive.char c false))
    (Local.maybe (((controlLetter? c).map fun control =>
      Primitive.char control false) <|>
      flags.letterClass? c))
  by_cases hx : c = 'x'
  · exact hx ▸ local_hex flags 1
  by_cases hu : c = 'u'
  · exact hu ▸ local_hex flags 3
  by_cases hlong : c = 'U'
  · exact hlong ▸ local_hex flags 7
  by_cases hlook : c = 'B' ∨ c = 'A' ∨ c = 'z' ∨ c = '<' ∨ c = '>'
  · rcases hlook with rfl | rfl | rfl | rfl | rfl
    all_goals exact Local.done _
  simp only [not_or] at hlook
  refine (Local.ite (c = 'p' ∨ c = 'P') hclass hletter).congr fun rest => ?_
  obtain ⟨hB, hA, hz, hless, hmore⟩ := hlook
  simp only [readEscape?, Bool.or_eq_true, decide_eq_true_eq]
  split_ifs with hp hunicode
  · rcases readClassName? flags rest with _ | ⟨⟨opposite, set⟩, after⟩
    · rfl
    · simp only [Option.bind_eq_bind, Option.bind_some]
      cases flags.complementIf? (opposite != (c == 'P')) (flags.withCases set) <;>
        rfl
  · cases readClassName? flags rest <;> rfl
  · rfl
  · cases controlLetter? c with
    | some control => rfl
    | none => cases flags.letterClass? c <;> rfl

theorem local_plainEscape (flags : Flags) : Local (plainEscape? flags) := by
  have hcons : ∀ c : Char, Local fun rest => plainEscape? flags (c :: rest) :=
    fun c => by
    by_cases hc : c = 'b'
    · subst hc
      exact Local.never
    · refine (local_escape_cons flags hc).congr fun rest => ?_
      rw [plainEscape?]
      simpa using hc
  refine (Local.followed scans_nothing fun _ c => hcons c).congr fun s => ?_
  cases s <;> rfl

theorem run_of_skip_eq_nil {flags : Flags} {s : List Char} (h : flags.skip s = [])
    (p : Char → Bool) : (flags.run p false s).2 = [] := by
  rw [skip_eq_run] at h
  suffices hrun : ∀ inComment, (flags.run (fun _ => false) inComment s).2 = [] →
      (flags.run p inComment s).2 = [] from hrun false h
  clear h
  intro inComment hnone
  induction s generalizing inComment with
  | nil => rfl
  | cons c rest ih =>
      simp only [Flags.run, Bool.false_eq_true, if_false] at hnone ⊢
      split_ifs at hnone ⊢
      · exact ih _ hnone
      · exact ih _ hnone
      · exact ih _ hnone

/-- The characters of the names of boundaries. -/
def isBoundaryChar (c : Char) : Bool :=
  c.isAlpha || c == '-'

/-- Reads the rest of a boundary that is named in braces. -/
def namedBoundaryRest? (flags : Flags) :
    List Char → Option (Primitive × List Char) :=
  followed (flags.run isBoundaryChar false) fun name d after =>
    if d = '}' then
      ((namedBoundary? flags.alphabet name).map Primitive.look).map (·, after)
    else none

theorem local_namedBoundaryRest (flags : Flags) :
    Local (namedBoundaryRest? flags) :=
  Local.followed (scans_run flags isBoundaryChar false) fun _ d =>
    Local.ite (d = '}') (Local.maybe _) Local.never

theorem namedBoundaryRest?_eq (flags : Flags) (rest : List Char) :
    namedBoundaryRest? flags rest =
      match flags.run isBoundaryChar false rest with
      | (name, '}' :: after) =>
          (namedBoundary? flags.alphabet name).map fun look => (.look look, after)
      | _ => none := by
  rw [namedBoundaryRest?, followed]
  rcases flags.run isBoundaryChar false rest with ⟨name, _ | ⟨d, after⟩⟩
  · rfl
  · by_cases hd : d = '}'
    · subst hd
      simp only [if_true, Option.map_map]
      rfl
    · simp [hd]

theorem readBoundary?_brace (flags : Flags) (rest : List Char) :
    readBoundary? flags ('{' :: rest) =
      match flags.skip rest with
      | [] => none
      | c :: _ =>
          if isBoundaryChar c then namedBoundaryRest? flags rest
          else some (.look (.wordBoundary flags.alphabet), '{' :: rest) := by
  rw [readBoundary?]
  rcases flags.skip rest with _ | ⟨c, further⟩
  · rfl
  · show (if isBoundaryChar c then _ else _) = if isBoundaryChar c then _ else _
    split_ifs
    · rw [namedBoundaryRest?_eq]
      rfl
    · rfl

theorem readBoundary?_of_ne {flags : Flags} {s : List Char}
    (h : ∀ rest, s ≠ '{' :: rest) :
    readBoundary? flags s = some (.look (.wordBoundary flags.alphabet), s) := by
  rw [readBoundary?]
  exact h

theorem readBoundary?_look {flags : Flags} {s r : List Char} {a : Primitive}
    (h : readBoundary? flags s = some (a, r)) : ∃ look, a = .look look := by
  by_cases hbrace : ∃ rest, s = '{' :: rest
  · obtain ⟨rest, rfl⟩ := hbrace
    rw [readBoundary?_brace] at h
    split at h
    · cases h
    · split_ifs at h
      · rw [namedBoundaryRest?, followed] at h
        split at h
        · split_ifs at h
          simp only [Option.map_map, Option.map_eq_some_iff, Function.comp_apply,
            Prod.mk.injEq] at h
          obtain ⟨look, -, rfl, -⟩ := h
          exact ⟨look, rfl⟩
        · cases h
      · cases h
        exact ⟨_, rfl⟩
  · rw [readBoundary?_of_ne (not_exists.mp hbrace)] at h
    cases h
    exact ⟨_, rfl⟩

theorem readBoundary?_suffix {flags : Flags} {s r : List Char} {a : Primitive}
    (h : readBoundary? flags s = some (a, r)) : r <:+ s := by
  by_cases hbrace : ∃ rest, s = '{' :: rest
  · obtain ⟨rest, rfl⟩ := hbrace
    rw [readBoundary?_brace] at h
    split at h
    · cases h
    · split_ifs at h
      · exact ((local_namedBoundaryRest flags).suffix h).trans
          (List.suffix_cons _ _)
      · cases h
        exact List.suffix_refl _
  · rw [readBoundary?_of_ne (not_exists.mp hbrace)] at h
    cases h
    exact List.suffix_refl _

theorem readBoundary?_kept {flags : Flags} {s r : List Char} {a : Primitive}
    (h : readBoundary? flags s = some (a, r)) :
    (∀ y, readBoundary? flags (s ++ ')' :: y) = some (a, r ++ ')' :: y)) ∨
      r = [] ∧ ∀ y, ∃ past, past <:+ y ∧ readBoundary? flags (s ++ ')' :: y) =
        some (a, past) := by
  by_cases hbrace : ∃ rest, s = '{' :: rest
  · obtain ⟨rest, rfl⟩ := hbrace
    simp only [List.cons_append, readBoundary?_brace]
    rw [readBoundary?_brace] at h
    split at h
    · cases h
    · next c further hskip =>
      have happend : ∀ y, flags.skip (rest ++ ')' :: y) = c :: further ++
        ')' :: y := fun y =>
        congrArg Prod.snd ((scans_skip flags).append_of_ne_nil
          (Prod.ext rfl hskip) y)
      simp only [happend, List.cons_append]
      split_ifs at h ⊢
      · exact (local_namedBoundaryRest flags).kept h
      · cases h
        exact Or.inl fun y => rfl
  · rw [readBoundary?_of_ne (not_exists.mp hbrace)] at h
    cases h
    refine Or.inl fun y => readBoundary?_of_ne fun rest hrest => ?_
    rcases s with _ | ⟨c, s⟩
    · cases hrest
    · cases hrest
      exact hbrace ⟨s, rfl⟩

/-- A boundary that cannot be read alone, because its brace has nothing after it,
leaves the brace when more comes after it. -/
theorem readBoundary?_crossed {flags : Flags} {s y past : List Char} {a : Primitive}
    (h : readBoundary? flags s = none)
    (hpast : readBoundary? flags (s ++ ')' :: y) = some (a, past)) :
    past <:+ y ∨ ∃ rest, past = '{' :: rest ++ ')' :: y ∧ flags.skip rest = [] := by
  by_cases hbrace : ∃ rest, s = '{' :: rest
  · obtain ⟨rest, rfl⟩ := hbrace
    rw [readBoundary?_brace] at h
    rw [List.cons_append, readBoundary?_brace] at hpast
    split at h
    · next hskip =>
      split at hpast
      · cases hpast
      · split_ifs at hpast
        · -- Nothing of a name comes before the parenthesis.
          refine Or.inl ((local_namedBoundaryRest flags).crossed ?_ hpast)
          rw [namedBoundaryRest?, followed,
            show flags.run isBoundaryChar false rest =
            ((flags.run isBoundaryChar false rest).1, []) from
            Prod.ext rfl (run_of_skip_eq_nil hskip isBoundaryChar)]
        · cases hpast
          exact Or.inr ⟨rest, rfl, hskip⟩
    · next c further hskip =>
      have happend : flags.skip (rest ++ ')' :: y) = c :: further ++ ')' :: y :=
        congrArg Prod.snd ((scans_skip flags).append_of_ne_nil
          (Prod.ext rfl hskip) y)
      rw [happend] at hpast
      simp only [List.cons_append] at hpast
      split_ifs at h hpast
      exact Or.inl ((local_namedBoundaryRest flags).crossed h hpast)
  · rw [readBoundary?_of_ne (not_exists.mp hbrace)] at h
    cases h

end QueryGate.Pattern
