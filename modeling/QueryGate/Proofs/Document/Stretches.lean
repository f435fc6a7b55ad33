import QueryGate.Proofs.Document.Lookahead
import Mathlib.Data.List.Induction
import Mathlib.Data.List.Infix

/-!
Where the sections of a document stand.

A section is read from a stretch of lexemes. The stretch begins with a keyword at a
boundary, or with the first brace where no keyword comes before it, and it goes on
while no other keyword stands at a boundary; the section is what was read of it up
to the last brace that closes at the top level. The sections of a document are those
of stretches that lie one behind the other (`exists_found`), and none that closes is
passed over (`mem_kinds_iff`).
-/

namespace QueryGate.Document

open QueryGate.Text

/-- The kind of section that a lexeme is the keyword of. -/
def Lexeme.keyword? : Lexeme → Option SectionKind
  | .word text => SectionKind.ofKeyword? text
  | _ => none

/-- What a lexeme makes of the number of open brackets of a kind. A bracket that
closes none counts for nothing. -/
def countBracket (opening closing : Lexeme) (n : Nat) (l : Lexeme) : Nat :=
  if l = opening then n + 1 else if l = closing then n - 1 else n

/-- The number of brackets of a kind that are open after lexemes. -/
def openBrackets (opening closing : Lexeme) (ls : List Lexeme) : Nat :=
  ls.foldl (countBracket opening closing) 0

def openBraces (ls : List Lexeme) : Nat :=
  openBrackets .openBrace .closeBrace ls

def openParens (ls : List Lexeme) : Nat :=
  openBrackets .openParen .closeParen ls

/-- Where a keyword begins a section: no brace and no parenthesis is open, and no
sigil stands before it. -/
structure Boundary (before : List Lexeme) : Prop where
  braces : openBraces before = 0
  parens : openParens before = 0
  sigil : ∀ l ∈ before.getLast?, l.isSigil = false

/-- No keyword among lexemes that come after others stands at a boundary. -/
def Silent (before inner : List Lexeme) : Prop :=
  ∀ front l, front ++ [l] <+: inner → l.keyword? ≠ none →
    ¬ Boundary (before ++ front)

/-- No section begins among lexemes that a document begins with. -/
structure Bare (ls : List Lexeme) : Prop where
  braceless : .openBrace ∉ ls
  silent : Silent [] ls

/-- A lexeme that comes after others begins a section of a kind. -/
inductive Begins (before : List Lexeme) : SectionKind → Lexeme → Prop
  | keyword {kind : SectionKind} {l : Lexeme} (hkeyword : l.keyword? = some kind)
      (hboundary : Boundary before) : Begins before kind l
  | brace (hbare : Bare before) : Begins before .operation .openBrace

/-- A stretch of the lexemes of a document that a section is read from: the lexemes
before it, the one that begins the section, and those behind it. -/
structure Stretch where
  kind : SectionKind
  before : List Lexeme
  opening : Lexeme
  inner : List Lexeme
deriving DecidableEq, Repr

namespace Stretch

/-- The lexemes of a document up to the end of a stretch. -/
def upTo (p : Stretch) : List Lexeme :=
  p.before ++ p.opening :: p.inner

/-- The lexemes that belong to the text of the section. -/
def content (p : Stretch) : List Lexeme :=
  if p.kind = .vars then p.inner else p.opening :: p.inner

def toSection (p : Stretch) : Section :=
  ⟨p.kind, trim (Lexeme.text p.content)⟩

/-- The stretch that is a lexeme longer. -/
def push (p : Stretch) (l : Lexeme) : Stretch :=
  { p with inner := p.inner ++ [l] }

/-- The stretches that begin where a stretch does and end no later. -/
def cuts (p : Stretch) : List Stretch :=
  p.inner.inits.map fun inner => { p with inner }

/-- A section begins at the beginning of a stretch, and no other one in it. -/
structure Begun (p : Stretch) : Prop where
  begins : Begins p.before p.kind p.opening
  silent : Silent (p.before ++ [p.opening]) p.inner

/-- A stretch ends with a brace that leaves none open. -/
def Closes (p : Stretch) : Prop :=
  p.inner.getLast? = some .closeBrace ∧ openBraces p.upTo = 0

instance (p : Stretch) : Decidable p.Closes :=
  inferInstanceAs (Decidable (_ ∧ _))

/-- A stretch up to the last brace in it that leaves none open. -/
def closing? (p : Stretch) : Option Stretch :=
  (p.cuts.filter (·.Closes)).getLast?

/-- A section begins with a stretch and closes at its end. -/
structure Closed (p : Stretch) : Prop extends p.Begun where
  closes : p.Closes

end Stretch

theorem openBrackets_append (opening closing : Lexeme) (ls others : List Lexeme) :
    openBrackets opening closing (ls ++ others) =
      others.foldl (countBracket opening closing)
        (openBrackets opening closing ls) :=
  List.foldl_append

theorem openBrackets_of_notMem {opening closing : Lexeme} {ls : List Lexeme}
    (h : opening ∉ ls) : openBrackets opening closing ls = 0 := by
  induction ls using List.reverseRecOn with
  | nil => rfl
  | append_singleton ls l ih =>
      rw [List.mem_append, List.mem_singleton, not_or] at h
      rw [openBrackets_append, ih h.1]
      simp [countBracket, Ne.symm h.2]

theorem openBraces_of_braceless {ls : List Lexeme} (h : .openBrace ∉ ls) :
    openBraces ls = 0 :=
  openBrackets_of_notMem h

theorem silent_concat {before inner : List Lexeme} {l : Lexeme} :
    Silent before (inner ++ [l]) ↔
      Silent before inner ∧ (l.keyword? ≠ none → ¬ Boundary (before ++ inner)) := by
  constructor
  · intro h
    exact ⟨fun front k hk => h front k (hk.trans (List.prefix_append _ _)),
      h inner l (List.prefix_refl _)⟩
  · rintro ⟨hinner, hl⟩ front k hk
    rcases List.prefix_concat_iff.mp hk with heq | hk
    · obtain ⟨rfl, hkl⟩ := List.append_inj' heq rfl
      obtain rfl := List.singleton_inj.mp hkl
      exact hl
    · exact hinner front k hk

theorem Silent.of_prefix {before inner front : List Lexeme}
    (h : Silent before inner) (hfront : front <+: inner) : Silent before front :=
  fun ls l hl => h ls l (hl.trans hfront)

theorem silent_nil (before : List Lexeme) : Silent before [] := by
  intro front l hl
  simp at hl

theorem bare_concat {ls : List Lexeme} {l : Lexeme} :
    Bare (ls ++ [l]) ↔
      Bare ls ∧ l ≠ .openBrace ∧ (l.keyword? ≠ none → ¬ Boundary ls) := by
  constructor
  · rintro ⟨hbrace, hsilent⟩
    obtain ⟨hsilent, hl⟩ := silent_concat.mp hsilent
    rw [List.mem_append, List.mem_singleton, not_or] at hbrace
    exact ⟨⟨hbrace.1, hsilent⟩, Ne.symm hbrace.2, hl⟩
  · rintro ⟨⟨hbrace, hsilent⟩, hne, hl⟩
    refine ⟨?_, silent_concat.mpr ⟨hsilent, hl⟩⟩
    rw [List.mem_append, List.mem_singleton, not_or]
    exact ⟨hbrace, Ne.symm hne⟩

/-- What a lexeme that begins no section makes of the one that is read, with so many
braces open behind it. -/
def OpenSection.take (o : OpenSection) (l : Lexeme) (depth : Nat) : OpenSection :=
  if l = .closeBrace ∧ depth = 0 then (o.push l).close else o.push l

theorem OpenSection.mem_kind_take {o : OpenSection} {l : Lexeme} {depth : Nat}
    {kind : SectionKind} (h : kind ∈ o.finish.toList.map Section.kind) :
    kind ∈ (o.take l depth).finish.toList.map Section.kind := by
  rw [take]
  split
  · obtain ⟨s, hs, rfl⟩ := List.mem_map.mp h
    obtain ⟨closed, _, rfl⟩ := Option.map_eq_some_iff.mp (Option.mem_toList.mp hs)
    exact List.mem_cons_self
  · exact h

namespace Stretch

variable {p q : Stretch} {l : Lexeme}

theorem upTo_push (p : Stretch) (l : Lexeme) : (p.push l).upTo = p.upTo ++ [l] := by
  simp [upTo, push]

theorem content_push (p : Stretch) (l : Lexeme) :
    (p.push l).content = p.content ++ [l] := by
  rw [content, content, push]
  split <;> rfl

theorem begun_push : (p.push l).Begun ↔
    p.Begun ∧ (l.keyword? ≠ none → ¬ Boundary p.upTo) := by
  have hupTo : p.before ++ [p.opening] ++ p.inner = p.upTo := by simp [upTo]
  constructor
  · rintro ⟨hbegins, hsilent⟩
    obtain ⟨hsilent, hl⟩ := silent_concat.mp hsilent
    exact ⟨⟨hbegins, hsilent⟩, hupTo ▸ hl⟩
  · rintro ⟨⟨hbegins, hsilent⟩, hl⟩
    exact ⟨hbegins, silent_concat.mpr ⟨hsilent, hupTo ▸ hl⟩⟩

theorem closes_push : (p.push l).Closes ↔
    l = .closeBrace ∧ openBraces (p.upTo ++ [l]) = 0 := by
  rw [Closes, upTo_push, push, List.getLast?_concat, Option.some.injEq]

theorem mem_cuts : q ∈ p.cuts ↔
    ∃ inner, inner <+: p.inner ∧ { p with inner } = q := by
  simp [cuts]

theorem cuts_push (p : Stretch) (l : Lexeme) :
    (p.push l).cuts = p.cuts ++ [p.push l] := by
  simp [cuts, push, List.inits_append]

theorem closing?_push (p : Stretch) (l : Lexeme) :
    (p.push l).closing? = if (p.push l).Closes then some (p.push l)
      else p.closing? := by
  rw [closing?, cuts_push, List.filter_append]
  split
  · next h =>
      rw [List.filter_cons_of_pos (by simpa using h), List.filter_nil,
        List.getLast?_concat]
  · next h =>
      rw [List.filter_cons_of_neg (by simpa using h), List.filter_nil,
        List.append_nil]
      rfl

/-- What is read of the section that begins with a stretch. -/
def reading (p : Stretch) : OpenSection :=
  ⟨p.kind, p.content.reverse, p.closing?.map (·.content.reverse)⟩

theorem reading_push (p : Stretch) (l : Lexeme) :
    (p.push l).reading = p.reading.take l (openBraces (p.upTo ++ [l])) := by
  rw [reading, closing?_push, OpenSection.take, content_push, List.reverse_concat]
  by_cases hcloses : (p.push l).Closes
  · rw [if_pos hcloses, if_pos (closes_push.mp hcloses), Option.map_some,
      content_push, List.reverse_concat]
    rfl
  · rw [if_neg hcloses, if_neg fun h => hcloses (closes_push.mpr h)]
    rfl

theorem reading_nil (kind : SectionKind) (before : List Lexeme) (opening : Lexeme) :
    reading ⟨kind, before, opening, []⟩ =
      .start kind (if kind = .vars then [] else [opening]) := by
  have hnone : (⟨kind, before, opening, []⟩ : Stretch).closing? = none := by
    simp [closing?, cuts, Closes]
  rw [reading, hnone, content]
  split <;> rfl

/-- A stretch that closes at its end is not cut. -/
theorem closing?_of_closes (h : p.Closes) : p.closing? = some p := by
  obtain ⟨inner, hinner⟩ := List.getLast?_eq_some_iff.mp h.1
  have hp : p = ({ p with inner } : Stretch).push .closeBrace := by
    rw [push, ← hinner]
  rw [hp] at h ⊢
  rw [closing?_push, if_pos h]

/-- A stretch is cut in front of its end to one that closes there. -/
theorem closed_of_closing? (h : p.Begun) (hq : p.closing? = some q) :
    q.Closed ∧ q.kind = p.kind ∧ q.before = p.before ∧ q.upTo <+: p.upTo := by
  obtain ⟨hcut, hcloses⟩ := List.mem_filter.mp (List.mem_of_getLast? hq)
  obtain ⟨inner, hinner, rfl⟩ := mem_cuts.mp hcut
  refine ⟨⟨⟨h.begins, h.silent.of_prefix hinner⟩, of_decide_eq_true hcloses⟩, rfl,
    rfl, ?_⟩
  exact (List.prefix_append_right_inj _).mpr ((List.prefix_cons_inj _).mpr hinner)

end Stretch

/-- Among the lexemes that a document begins with no section begins, or the last one
that does goes on to their end. -/
theorem bare_or_begun (ls : List Lexeme) :
    Bare ls ∨ ∃ p : Stretch, p.Begun ∧ p.upTo = ls := by
  induction ls using List.reverseRecOn with
  | nil => exact Or.inl ⟨List.not_mem_nil, silent_nil []⟩
  | append_singleton ls l ih =>
      have hopens : ∀ kind, Begins ls kind l →
          ∃ p : Stretch, p.Begun ∧ p.upTo = ls ++ [l] :=
        fun kind h => ⟨⟨kind, ls, l, []⟩, ⟨h, silent_nil _⟩, rfl⟩
      by_cases hkeyword : l.keyword? ≠ none ∧ Boundary ls
      · obtain ⟨kind, hkind⟩ := Option.ne_none_iff_exists'.mp hkeyword.1
        exact Or.inr (hopens kind (.keyword hkind hkeyword.2))
      · rw [not_and] at hkeyword
        rcases ih with hbare | ⟨p, hbegun, rfl⟩
        · by_cases hbrace : l = .openBrace
          · exact Or.inr (hopens .operation (hbrace ▸ .brace hbare))
          · exact Or.inl (bare_concat.mpr ⟨hbare, hbrace, hkeyword⟩)
        · exact Or.inr ⟨p.push l, Stretch.begun_push.mpr ⟨hbegun, hkeyword⟩,
            p.upTo_push l⟩

namespace Reading

variable {r : Reading} {kind : SectionKind} {l : Lexeme}

theorem run_concat (r : Reading) (ls : List Lexeme) (l : Lexeme) :
    r.run (ls ++ [l]) = (r.run ls).step l :=
  List.foldl_append

theorem run_append (r : Reading) (ls others : List Lexeme) :
    r.run (ls ++ others) = (r.run ls).run others :=
  List.foldl_append

/-- Collecting a comment changes nothing else. -/
theorem exists_comment_eq (r : Reading) (body : List Char) :
    ∃ comments, r.comment body = { r with comments } := by
  rw [comment]
  split
  · exact ⟨_, rfl⟩
  · exact ⟨r.comments, rfl⟩

theorem step_counts (r : Reading) (l : Lexeme) :
    (r.step l).depth = countBracket .openBrace .closeBrace r.depth l ∧
      (r.step l).parens = countBracket .openParen .closeParen r.parens l ∧
      (r.step l).afterSigil = l.isSigil := by
  cases l with
  | lineComment body =>
      obtain ⟨comments, hcomment⟩ := r.exists_comment_eq body
      simp only [step, hcomment]
      exact ⟨rfl, rfl, rfl⟩
  | blockComment body closed =>
      obtain ⟨comments, hcomment⟩ := r.exists_comment_eq body
      simp only [step, hcomment]
      exact ⟨rfl, rfl, rfl⟩
  | openBrace =>
      simp only [step]
      split <;> exact ⟨rfl, rfl, rfl⟩
  | closeBrace =>
      simp only [step]
      split <;> exact ⟨rfl, rfl, rfl⟩
  | openParen => exact ⟨rfl, rfl, rfl⟩
  | closeParen => exact ⟨rfl, rfl, rfl⟩
  | word text =>
      simp only [step]
      split
      · split <;> exact ⟨rfl, rfl, rfl⟩
      · exact ⟨rfl, rfl, rfl⟩
  | mark c => exact ⟨rfl, rfl, rfl⟩
  | literal text => exact ⟨rfl, rfl, rfl⟩

/-- A run counts the brackets that are open, and remembers whether it read a sigil
last. -/
theorem run_counts (ls : List Lexeme) :
    (run {} ls).depth = openBraces ls ∧ (run {} ls).parens = openParens ls ∧
      ((run {} ls).afterSigil = false ↔ ∀ l ∈ ls.getLast?, l.isSigil = false) := by
  induction ls using List.reverseRecOn with
  | nil => exact ⟨rfl, rfl, by simp [run]⟩
  | append_singleton ls l ih =>
      obtain ⟨hdepth, hparens, _⟩ := ih
      obtain ⟨hdepth', hparens', hsigil⟩ := step_counts (run {} ls) l
      rw [run_concat, hdepth', hparens', hsigil, hdepth, hparens, openBraces,
        openParens, openBraces, openParens, openBrackets_append,
        openBrackets_append, List.getLast?_concat]
      exact ⟨rfl, rfl, by simp⟩

/-- A keyword begins a section in a run where it stands at a boundary. -/
theorem atTopLevel_run (ls : List Lexeme) :
    (run {} ls).atTopLevel = true ↔ Boundary ls := by
  obtain ⟨hdepth, hparens, hsigil⟩ := run_counts ls
  rw [atTopLevel, hdepth, hparens, Bool.and_eq_true, Bool.and_eq_true, beq_iff_eq,
    beq_iff_eq, Bool.not_eq_true', hsigil]
  exact ⟨fun ⟨⟨hbraces, hparens⟩, hlast⟩ => ⟨hbraces, hparens, hlast⟩,
    fun h => ⟨⟨h.braces, h.parens⟩, h.sigil⟩⟩

theorem step_keyword (hkeyword : l.keyword? = some kind) :
    r.step l = if r.atTopLevel then r.beginSection kind l else r.push l := by
  cases l with
  | word text =>
      have hkind : SectionKind.ofKeyword? text = some kind := hkeyword
      simp only [step, hkind]
  | _ => cases hkeyword

theorem step_brace (hdepth : r.depth = 0) (hcurrent : r.current = none) :
    (r.step .openBrace).finished = r.finished ∧
      (r.step .openBrace).current = some (.start .operation [.openBrace]) := by
  simp [step, hdepth, hcurrent]

/-- A lexeme that begins no section is added to the one that is read. -/
theorem step_silent (hkeyword : l.keyword? ≠ none → r.atTopLevel = false)
    (hbrace : l = .openBrace → r.depth ≠ 0 ∨ r.current ≠ none) :
    (r.step l).finished = r.finished ∧
      (r.step l).current = r.current.map (·.take l (r.step l).depth) := by
  have hpush : ∀ {l : Lexeme} {depth : Nat}, l ≠ .closeBrace →
      r.current.map (·.push l) = r.current.map (·.take l depth) := by
    intro l depth hne
    refine congrArg (r.current.map ·) (funext fun o => ?_)
    rw [OpenSection.take, if_neg fun h => hne h.1]
  cases l with
  | lineComment body =>
      obtain ⟨comments, hcomment⟩ := r.exists_comment_eq body
      simp only [step, hcomment]
      exact ⟨rfl, hpush (by simp)⟩
  | blockComment body closed =>
      obtain ⟨comments, hcomment⟩ := r.exists_comment_eq body
      simp only [step, hcomment]
      exact ⟨rfl, hpush (by simp)⟩
  | openBrace =>
      have hbegun : (decide (r.depth = 0) && r.current.isNone) = false := by
        simpa [Classical.or_iff_not_imp_left, Option.isSome_iff_ne_none]
          using hbrace rfl
      rw [← hpush (by simp)]
      simp only [step, hbegun]
      exact ⟨rfl, rfl⟩
  | closeBrace =>
      simp only [step]
      split
      · next hzero =>
          refine ⟨rfl, (Option.map_map _ _ _).trans ?_⟩
          refine congrArg (r.current.map ·) (funext fun o => ?_)
          rw [OpenSection.take, if_pos ⟨rfl, hzero⟩]
          rfl
      · next hopen =>
          refine ⟨rfl, congrArg (r.current.map ·) (funext fun o => ?_)⟩
          rw [OpenSection.take, if_neg fun h => hopen h.2]
  | openParen => exact ⟨rfl, hpush (by simp)⟩
  | closeParen => exact ⟨rfl, hpush (by simp)⟩
  | word text =>
      have hstep : r.step (.word text) = r.push (.word text) := by
        cases hkind : (Lexeme.word text).keyword? with
        | none =>
            have hnone : SectionKind.ofKeyword? text = none := hkind
            simp only [step, hnone]
        | some kind =>
            rw [step_keyword hkind, hkeyword (by simp [hkind]), if_neg (by simp)]
      rw [hstep]
      exact ⟨rfl, hpush (by simp)⟩
  | mark c => exact ⟨rfl, hpush (by simp)⟩
  | literal text => exact ⟨rfl, hpush (by simp)⟩

theorem run_silent {ls : List Lexeme} (hkeyword : l.keyword? ≠ none → ¬ Boundary ls)
    (hbrace : l = .openBrace → (run {} ls).current ≠ none) :
    (run {} (ls ++ [l])).finished = (run {} ls).finished ∧
      (run {} (ls ++ [l])).current =
        (run {} ls).current.map (·.take l (openBraces (ls ++ [l]))) := by
  have htop : l.keyword? ≠ none → (run {} ls).atTopLevel = false := fun hl =>
    Bool.eq_false_iff.mpr fun htop => hkeyword hl ((atTopLevel_run ls).mp htop)
  have hstep := step_silent htop fun hl => Or.inr (hbrace hl)
  rwa [← run_concat, (run_counts (ls ++ [l])).1] at hstep

/-- As long as no section begins, nothing is read of one. -/
theorem run_bare {ls : List Lexeme} (h : Bare ls) :
    (run {} ls).current = none ∧ (run {} ls).finished = [] := by
  induction ls using List.reverseRecOn with
  | nil => exact ⟨rfl, rfl⟩
  | append_singleton ls l ih =>
      obtain ⟨hbare, hbrace, hkeyword⟩ := bare_concat.mp h
      obtain ⟨hcurrent, hfinished⟩ := ih hbare
      obtain ⟨hfinished', hcurrent'⟩ :=
        run_silent hkeyword fun hl => absurd hl hbrace
      rw [hfinished', hcurrent', hcurrent, hfinished]
      exact ⟨rfl, rfl⟩

theorem run_begins {before : List Lexeme} {kind : SectionKind} {opening : Lexeme}
    (h : Begins before kind opening) :
    (run {} (before ++ [opening])).finished = (run {} before).endSection.finished ∧
      (run {} (before ++ [opening])).current =
        some (.start kind (if kind = .vars then [] else [opening])) := by
  rw [run_concat]
  cases h with
  | keyword hkeyword hboundary =>
      rw [step_keyword hkeyword, if_pos ((atTopLevel_run before).mpr hboundary)]
      exact ⟨rfl, rfl⟩
  | brace hbare =>
      obtain ⟨hcurrent, hfinished⟩ := run_bare hbare
      have hdepth :=
        (run_counts before).1.trans (openBraces_of_braceless hbare.braceless)
      obtain ⟨hfinished', hcurrent'⟩ := step_brace hdepth hcurrent
      rw [hfinished', hcurrent', endSection, hcurrent]
      exact ⟨rfl, rfl⟩

theorem run_push {p : Stretch} (hkeyword : l.keyword? ≠ none → ¬ Boundary p.upTo)
    (hcurrent : (run {} p.upTo).current = some p.reading) :
    (run {} (p.push l).upTo).finished = (run {} p.upTo).finished ∧
      (run {} (p.push l).upTo).current = some (p.push l).reading := by
  have hnext := run_silent hkeyword fun _ => by simp [hcurrent]
  rwa [hcurrent, Option.map_some, ← Stretch.reading_push,
    ← Stretch.upTo_push] at hnext

/-- A section that begins with a stretch is read from the lexemes of the stretch. -/
theorem run_begun {p : Stretch} (h : p.Begun) :
    (run {} p.upTo).finished = (run {} p.before).endSection.finished ∧
      (run {} p.upTo).current = some p.reading := by
  obtain ⟨kind, before, opening, inner⟩ := p
  induction inner using List.reverseRecOn with
  | nil =>
      rw [Stretch.reading_nil]
      exact run_begins h.begins
  | append_singleton inner l ih =>
      let p : Stretch := ⟨kind, before, opening, inner⟩
      obtain ⟨hbegun, hkeyword⟩ := (Stretch.begun_push (p := p)).mp h
      obtain ⟨hfinished, hcurrent⟩ := ih hbegun
      obtain ⟨hfinished', hcurrent'⟩ := run_push (p := p) hkeyword hcurrent
      exact ⟨hfinished'.trans hfinished, hcurrent'⟩

/-- Where a document ends behind a stretch, its last section is the one that the
stretch closed last. -/
theorem endSection_run_begun {p : Stretch} (h : p.Begun) :
    (run {} p.upTo).endSection.finished =
      (p.closing?.map Stretch.toSection).toList ++
        (run {} p.before).endSection.finished := by
  obtain ⟨hfinished, hcurrent⟩ := run_begun h
  have hfinish : p.reading.finish = p.closing?.map Stretch.toSection := by
    rw [Stretch.reading, OpenSection.finish, Option.map_map]
    refine Option.map_congr fun q hq => ?_
    rw [Function.comp_apply, List.reverse_reverse, Stretch.toSection,
      (Stretch.closed_of_closing? h hq).2.1]
  rw [endSection, hcurrent, hfinished, Option.bind_some, hfinish]

/-- A section that has closed is kept, up to where it closes last. -/
theorem mem_kinds_step {kind : SectionKind} (r : Reading) (l : Lexeme)
    (h : kind ∈ r.endSection.finished.map Section.kind) :
    kind ∈ (r.step l).endSection.finished.map Section.kind := by
  by_cases hbegins : l.keyword? ≠ none ∧ r.atTopLevel = true
  · obtain ⟨other, hkeyword⟩ := Option.ne_none_iff_exists'.mp hbegins.1
    rw [step_keyword hkeyword, if_pos hbegins.2]
    exact h
  · by_cases hbrace : l = .openBrace ∧ r.depth = 0 ∧ r.current = none
    · obtain ⟨rfl, hdepth, hcurrent⟩ := hbrace
      obtain ⟨hfinished, hcurrent'⟩ := step_brace hdepth hcurrent
      rw [endSection, hcurrent] at h
      rw [endSection, hfinished, hcurrent']
      exact h
    · have htop : l.keyword? ≠ none → r.atTopLevel = false := fun hl =>
        Bool.eq_false_iff.mpr fun htop => hbegins ⟨hl, htop⟩
      obtain ⟨hfinished, hcurrent⟩ := step_silent htop fun hl => by
        by_contra hnot
        rw [not_or, not_not, not_not] at hnot
        exact hbrace ⟨hl, hnot⟩
      rw [endSection, List.map_append, List.mem_append] at h ⊢
      rw [hfinished, hcurrent]
      refine h.imp_left fun hlast => ?_
      cases hopen : r.current with
      | none =>
          rw [hopen] at hlast
          cases hlast
      | some o =>
          rw [hopen, Option.bind_some] at hlast
          rw [Option.map_some, Option.bind_some]
          exact OpenSection.mem_kind_take hlast

end Reading

/-- Stretches that lie in a document, one behind the other, each of which closes. -/
structure Found (ls : List Lexeme) (stretches : List Stretch) : Prop where
  closed : ∀ p ∈ stretches, p.Closed
  within : ∀ p ∈ stretches, p.upTo <+: ls
  apart : stretches.Pairwise fun p q => p.upTo <+: q.before

theorem Found.concat {p q : Stretch} {stretches : List Stretch}
    (h : Found p.before stretches) (hclosed : q.Closed)
    (hbefore : q.before = p.before) (hwithin : q.upTo <+: p.upTo) :
    Found p.upTo (stretches ++ [q]) := by
  have hlonger : p.before <+: p.upTo := List.prefix_append _ _
  constructor
  · exact List.forall_mem_append.mpr
      ⟨h.closed, List.forall_mem_singleton.mpr hclosed⟩
  · refine List.forall_mem_append.mpr
      ⟨fun s hs => (h.within s hs).trans hlonger, ?_⟩
    exact List.forall_mem_singleton.mpr hwithin
  · refine List.pairwise_append.mpr ⟨h.apart, List.pairwise_singleton _ _, ?_⟩
    intro s hs t ht
    obtain rfl := List.mem_singleton.mp ht
    rw [hbefore]
    exact h.within s hs

/-- The sections of a document are read from stretches of it that close, one behind
the other. -/
theorem exists_found (ls : List Lexeme) :
    ∃ stretches, (Reading.run {} ls).endSection.finished =
      (stretches.map Stretch.toSection).reverse ∧ Found ls stretches := by
  rcases bare_or_begun ls with hbare | ⟨p, hbegun, hupTo⟩
  · obtain ⟨hcurrent, hfinished⟩ := Reading.run_bare hbare
    refine ⟨[], ?_, ⟨by simp, by simp, List.Pairwise.nil⟩⟩
    rw [Reading.endSection, hcurrent, hfinished]
    rfl
  · obtain ⟨stretches, hsections, hfound⟩ := exists_found p.before
    subst hupTo
    rw [Reading.endSection_run_begun hbegun, hsections]
    cases hclosing : p.closing? with
    | none =>
        have hlonger : p.before <+: p.upTo := List.prefix_append _ _
        exact ⟨stretches, rfl, hfound.closed,
          fun q hq => (hfound.within q hq).trans hlonger, hfound.apart⟩
    | some q =>
        obtain ⟨hclosed, _, hbefore, hwithin⟩ :=
          Stretch.closed_of_closing? hbegun hclosing
        refine ⟨stretches ++ [q], ?_, hfound.concat hclosed hbefore hwithin⟩
        rw [List.map_append, List.reverse_append]
        rfl
termination_by ls.length
decreasing_by
  rw [← hupTo, Stretch.upTo, List.length_append, List.length_cons]
  omega

/-- A document has a section of a kind exactly when a stretch of the kind closes in
it. -/
theorem mem_kinds_iff {ls : List Lexeme} {kind : SectionKind} :
    kind ∈ (Reading.run {} ls).endSection.finished.map Section.kind ↔
      ∃ p : Stretch, p.kind = kind ∧ p.Closed ∧ p.upTo <+: ls := by
  constructor
  · intro h
    obtain ⟨stretches, hsections, hfound⟩ := exists_found ls
    rw [hsections, List.map_reverse, List.mem_reverse, List.map_map,
      List.mem_map] at h
    obtain ⟨p, hp, hkind⟩ := h
    exact ⟨p, hkind, hfound.closed p hp, hfound.within p hp⟩
  · rintro ⟨p, rfl, hclosed, after, rfl⟩
    have hhere : p.kind ∈ (Reading.run {} p.upTo).endSection.finished.map
        Section.kind := by
      rw [Reading.endSection_run_begun hclosed.toBegun,
        Stretch.closing?_of_closes hclosed.closes]
      exact List.mem_cons_self
    rw [Reading.run_append]
    generalize Reading.run {} p.upTo = r at hhere
    induction after generalizing r with
    | nil => exact hhere
    | cons l after ih => exact ih _ (Reading.mem_kinds_step r l hhere)

end QueryGate.Document
