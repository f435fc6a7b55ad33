import QueryGate.Proofs.Pattern.Meaning

/-!
The places that a pattern runs to, all at once.

Marks stand for a set of places of a text. Each way in which marks are computed
carries them along a relation of places, and that of a pattern is the relation of
its runs. Main statements: a pattern occurs in a text when it runs from some place
of it to another, and between the two ends of the text it occurs when it covers all
of it.
-/

namespace QueryGate.Pattern

namespace Place

@[simp]
theorem length_allFrom (before : Option Char) (text : List Char) :
    (allFrom before text).length = text.length + 1 := by
  induction text generalizing before with
  | nil => rfl
  | cons c rest ih => simp [allFrom, ih]

theorem length_rest_le_of_mem_allFrom {before : Option Char} {text : List Char}
    {p : Place} (h : p ∈ allFrom before text) : p.rest.length ≤ text.length := by
  induction text generalizing before with
  | nil => simp_all [allFrom]
  | cons c rest ih =>
      rcases List.mem_cons.mp h with rfl | h
      · exact Nat.le_refl _
      · exact Nat.le_succ_of_le (ih h)

theorem nodup_allFrom (before : Option Char) (text : List Char) :
    (allFrom before text).Nodup := by
  induction text generalizing before with
  | nil => simp [allFrom]
  | cons c rest ih =>
      refine List.nodup_cons.mpr ⟨fun h => ?_, ih (some c)⟩
      have hle := length_rest_le_of_mem_allFrom h
      exact absurd hle (by simp)

theorem mem_allFrom_self (before : Option Char) (text : List Char) :
    ⟨before, text⟩ ∈ allFrom before text := by
  cases text <;> simp [allFrom]

/-- Only the first place of a text has nothing before it. -/
theorem eq_of_mem_all {text : List Char} {p : Place} (h : p ∈ all text)
    (hp : p.before = none) : p = ⟨none, text⟩ := by
  have hinner : ∀ c rest, ∀ q ∈ allFrom (some c) rest, q.before ≠ none := by
    intro c rest
    induction rest generalizing c with
    | nil => simp [allFrom]
    | cons d rest ih => simpa [allFrom] using ih d
  cases text with
  | nil => simpa [all, allFrom] using h
  | cons c rest =>
      rcases List.mem_cons.mp h with rfl | h
      · rfl
      · exact absurd hp (hinner c rest p h)

end Place

namespace Marks

/-- A place is marked. -/
def Marked (places : List Place) (marks : Marks) (p : Place) : Prop :=
  (p, true) ∈ places.zip marks

section Marked

variable {places : List Place} {a b : Marks} {p : Place}

theorem Marked.mem (h : Marked places a p) : p ∈ places :=
  (List.of_mem_zip h).1

theorem marked_keep_iff {l : Look} :
    Marked places (a.keep l places) p ↔ Marked places a p ∧ l.holds p := by
  induction places generalizing a with
  | nil => simp [Marked]
  | cons place places ih =>
      cases a with
      | nil => simp [Marked, keep]
      | cons mark a =>
          have ih := @ih a
          simp only [Marked, keep, List.zipWith_cons_cons, List.zip_cons_cons,
            List.mem_cons, Prod.mk.injEq] at ih ⊢
          rw [ih]
          grind

theorem marked_either_iff (ha : a.length = places.length)
    (hb : b.length = places.length) :
    Marked places (a.either b) p ↔ Marked places a p ∨ Marked places b p := by
  induction places generalizing a b with
  | nil => simp [Marked]
  | cons place places ih =>
      obtain ⟨x, a, rfl⟩ := List.exists_cons_of_length_eq_add_one ha
      obtain ⟨y, b, rfl⟩ := List.exists_cons_of_length_eq_add_one hb
      have ih := @ih a b (by simpa using ha) (by simpa using hb)
      simp only [Marked, either, List.zipWith_cons_cons, List.zip_cons_cons,
        List.mem_cons, Prod.mk.injEq] at ih ⊢
      rw [ih]
      grind

theorem marked_without_iff (hplaces : places.Nodup) (ha : a.length = places.length)
    (hb : b.length = places.length) :
    Marked places (a.without b) p ↔ Marked places a p ∧ ¬Marked places b p := by
  induction places generalizing a b with
  | nil => simp [Marked]
  | cons place places ih =>
      obtain ⟨x, a, rfl⟩ := List.exists_cons_of_length_eq_add_one ha
      obtain ⟨y, b, rfl⟩ := List.exists_cons_of_length_eq_add_one hb
      obtain ⟨hplace, hplaces⟩ := List.nodup_cons.mp hplaces
      have hmem : ∀ {c : Marks}, (p, true) ∈ places.zip c → p ∈ places := Marked.mem
      have ih := @ih a b hplaces (by simpa using ha) (by simpa using hb)
      simp only [Marked, without, List.zipWith_cons_cons, List.zip_cons_cons,
        List.mem_cons, Prod.mk.injEq] at ih ⊢
      rw [ih]
      grind

theorem isEmpty_iff (ha : a.length = places.length) :
    a.isEmpty = true ↔ ∀ p, ¬Marked places a p := by
  induction places generalizing a with
  | nil =>
      obtain rfl := List.eq_nil_of_length_eq_zero ha
      simp [Marked, isEmpty]
  | cons place places ih =>
      obtain ⟨x, a, rfl⟩ := List.exists_cons_of_length_eq_add_one ha
      have ih := @ih a (by simpa using ha)
      simp only [Marked, isEmpty, List.all_cons, Bool.and_eq_true,
        List.zip_cons_cons, List.mem_cons, Prod.mk.injEq, not_or] at ih ⊢
      rw [ih]
      grind

theorem marked_true_iff : Marked places (places.map fun _ => true) p ↔
    p ∈ places := by
  induction places with
  | nil => simp [Marked]
  | cons place places ih =>
      simp only [Marked, List.map_cons, List.zip_cons_cons, List.mem_cons,
        Prod.mk.injEq] at ih ⊢
      rw [ih]
      simp

theorem not_marked_false {c : List Bool} :
    ¬Marked places (c.map fun _ => false) p := by
  intro h
  have hmem := (List.of_mem_zip h).2
  simp at hmem

/-- Moving over one character moves the marks from where it stands to the next
place. The first of the marks after that is free. -/
private theorem marked_cons_dropLast_iff {set : CharSet} {before : Option Char}
    {text : List Char} {first : Bool} {q : Place}
    (ha : a.length = (Place.allFrom before text).length) :
    Marked (Place.allFrom before text)
        (first :: (List.zipWith (fun place mark =>
          mark && place.rest.head?.any set.contains)
          (Place.allFrom before text) a).dropLast) q ↔
      (first = true ∧ q = ⟨before, text⟩) ∨
        ∃ p, Marked (Place.allFrom before text) a p ∧
          (Expression.one set).Runs p q := by
  induction text generalizing a before first with
  | nil =>
      obtain ⟨mark, a, rfl⟩ := List.exists_cons_of_length_eq_add_one ha
      obtain rfl : a = [] := by simpa using ha
      simp [Place.allFrom, Marked, Expression.Runs, and_comm]
  | cons c rest ih =>
      obtain ⟨mark, a, rfl⟩ := List.exists_cons_of_length_eq_add_one ha
      have ha : a.length = (Place.allFrom (some c) rest).length := by
        simpa [Place.allFrom] using ha
      have hne : List.zipWith (fun place mark =>
        mark && place.rest.head?.any set.contains)
          (Place.allFrom (some c) rest) a ≠ [] := by
        rw [← List.length_pos_iff]
        simp [ha]
      have ih := @ih a (some c) (mark && set.contains c) ha
      simp only [Marked, Place.allFrom, List.zipWith_cons_cons, List.head?_cons,
        Option.any_some, List.dropLast_cons_of_ne_nil hne, List.zip_cons_cons,
        List.mem_cons, Prod.mk.injEq] at ih ⊢
      rw [ih, Bool.and_eq_true]
      constructor
      · rintro (⟨rfl, hfirst⟩ | ⟨⟨hmark, hc⟩, rfl⟩ | ⟨p, hp, hruns⟩)
        · exact Or.inl ⟨hfirst.symm, rfl⟩
        · exact Or.inr ⟨_, Or.inl ⟨rfl, hmark.symm⟩, c, rest, rfl, hc, rfl⟩
        · exact Or.inr ⟨p, Or.inr hp, hruns⟩
      · rintro (⟨hfirst, rfl⟩ | ⟨p, ⟨rfl, hmark⟩ | hp, hruns⟩)
        · exact Or.inl ⟨rfl, hfirst.symm⟩
        · obtain ⟨d, _, ⟨rfl, rfl⟩, hc, rfl⟩ := hruns
          exact Or.inr (Or.inl ⟨⟨hmark.symm, hc⟩, rfl⟩)
        · exact Or.inr (Or.inr ⟨p, hp, hruns⟩)

theorem marked_pass_iff {set : CharSet} {text : List Char} {q : Place}
    (ha : a.length = (Place.all text).length) :
    Marked (Place.all text) (a.pass set (Place.all text)) q ↔
      ∃ p, Marked (Place.all text) a p ∧ (Expression.one set).Runs p q := by
  rw [pass, Place.all, marked_cons_dropLast_iff ha]
  simp

end Marked

/-- A way of computing marks takes those of any places to those of the places that a
relation leads to. -/
structure Carries (places : List Place) (step : Marks → Marks)
    (R : Place → Place → Prop) : Prop where
  length : ∀ {a : Marks}, a.length = places.length → (step a).length = places.length
  marked_iff : ∀ {a : Marks}, a.length = places.length →
    ∀ q, Marked places (step a) q ↔ ∃ p, Marked places a p ∧ R p q

section Carries

variable {places : List Place} {step next : Marks → Marks}
  {R S : Place → Place → Prop}

theorem Carries.congr (h : Carries places step R)
    (hR : ∀ p ∈ places, ∀ q, S p q ↔ R p q) : Carries places step S where
  length := h.length
  marked_iff ha q := by
    rw [h.marked_iff ha]
    exact exists_congr fun p => and_congr_right fun hp => (hR p hp.mem q).symm

theorem carries_stay : Carries places (fun a => a) fun p q => q = p where
  length ha := ha
  marked_iff _ q := by simp

theorem carries_keep (l : Look) :
    Carries places (fun a => a.keep l places) (Expression.look l).Runs where
  length ha := by simp [keep, ha]
  marked_iff _ q := by
    rw [marked_keep_iff]
    simp [Expression.Runs]

theorem carries_pass (set : CharSet) (text : List Char) :
    Carries (Place.all text) (fun a => a.pass set (Place.all text))
      (Expression.one set).Runs where
  length ha := by simp [pass, ha, Place.all]
  marked_iff ha q := marked_pass_iff ha

theorem Carries.comp (h : Carries places step R) (hnext : Carries places next S) :
    Carries places (fun a => next (step a)) fun p q =>
      ∃ mid, R p mid ∧ S mid q where
  length ha := hnext.length (h.length ha)
  marked_iff ha q := by
    rw [hnext.marked_iff (h.length ha)]
    simp only [h.marked_iff ha]
    constructor
    · rintro ⟨mid, ⟨p, hp, hfirst⟩, hlast⟩
      exact ⟨p, hp, mid, hfirst, hlast⟩
    · rintro ⟨p, hp, mid, hfirst, hlast⟩
      exact ⟨mid, ⟨p, hp, hfirst⟩, hlast⟩

theorem carries_nowhere : Carries places (fun a => a.map fun _ => false)
    fun _ _ => False where
  length ha := by simp [ha]
  marked_iff _ q := ⟨fun h => (not_marked_false h).elim, fun ⟨_, _, h⟩ => h.elim⟩

theorem Carries.either (h : Carries places step R) (hnext : Carries places next S) :
    Carries places (fun a => (step a).either (next a)) fun p q =>
      R p q ∨ S p q where
  length ha := by simp [Marks.either, h.length ha, hnext.length ha]
  marked_iff ha q := by
    rw [marked_either_iff (h.length ha) (hnext.length ha), h.marked_iff ha,
      hnext.marked_iff ha]
    simp only [and_or_left, exists_or]

/-- Stopping where a step changes nothing changes nothing. -/
theorem after_eq_iterate (step : Marks → Marks) (count : Nat) (a : Marks) :
    after step count a = step^[count] a := by
  induction count generalizing a with
  | zero => rfl
  | succ count ih =>
      rw [after, Function.iterate_succ_apply]
      split
      · next hsame =>
        rw [eq_of_beq hsame, Function.iterate_fixed (eq_of_beq hsame)]
      · exact ih (step a)

theorem Carries.after (h : Carries places step R) (count : Nat) :
    Carries places (after step count) (Rounds R count) := by
  have hiterate : Carries places step^[count] (Rounds R count) := by
    induction count with
    | zero => exact carries_stay
    | succ count ih => exact h.comp ih
  rwa [show Marks.after step count = step^[count]
    from funext (after_eq_iterate step count)]

/-- Where every step from a marked place leads to a marked place, so does every
number of steps. -/
theorem marked_of_rounds {a : Marks}
    (hclosed : ∀ p, Marked places a p → ∀ q, R p q → Marked places a q)
    {rounds : Nat} {p q : Place} (hp : Marked places a p)
    (h : Rounds R rounds p q) : Marked places a q := by
  induction rounds generalizing p with
  | zero => rwa [show q = p from h]
  | succ rounds ih =>
      obtain ⟨mid, hfirst, hrest⟩ := h
      exact ih (hclosed p hp mid hfirst) hrest

/-- What is marked after a step from fresh places: what was seen, and what the step
leads to. -/
theorem Carries.marked_either_without_iff (h : Carries places step R)
    (hplaces : places.Nodup) {seen fresh : Marks}
    (hseen : seen.length = places.length) (hfresh : fresh.length = places.length)
    (q : Place) :
    Marked places (seen.either ((step fresh).without seen)) q ↔
      Marked places seen q ∨ ∃ p, Marked places fresh p ∧ R p q := by
  have hstep := h.length hfresh
  have hfound : ((step fresh).without seen).length = places.length := by
    simp [without, hstep, hseen]
  rw [marked_either_iff hseen hfound, marked_without_iff hplaces hstep hseen,
    h.marked_iff hfresh]
  exact or_and_left.trans (and_iff_left_of_imp fun _ => Classical.em _)

/-- Steps are taken from fresh places only, because the others lead to places that
were seen. -/
theorem Carries.marked_within_iff (h : Carries places step R)
    (hplaces : places.Nodup) (count : Nat) {seen fresh : Marks}
    (hseen : seen.length = places.length) (hfresh : fresh.length = places.length)
    (hsub : ∀ p, Marked places fresh p → Marked places seen p)
    (hclosed : ∀ p, Marked places seen p → ¬Marked places fresh p →
      ∀ q, R p q → Marked places seen q) :
    (within step count seen fresh).length = places.length ∧
      ∀ q, Marked places (within step count seen fresh) q ↔
        ∃ rounds ≤ count, ∃ p, Marked places seen p ∧ Rounds R rounds p q := by
  induction count generalizing seen fresh with
  | zero =>
      refine ⟨hseen, fun q => ?_⟩
      simp [within, Rounds]
  | succ count ih =>
      rw [within]
      split
      · next hempty =>
        have hnone := (isEmpty_iff hfresh).mp hempty
        refine ⟨hseen, fun q => ⟨fun hq => ⟨0, Nat.zero_le _, q, hq, rfl⟩, ?_⟩⟩
        rintro ⟨rounds, -, p, hp, hrounds⟩
        exact marked_of_rounds (fun p hp => hclosed p hp (hnone p)) hp hrounds
      · have hfound : ((step fresh).without seen).length = places.length := by
          simp [without, h.length hfresh, hseen]
        have hboth := h.marked_either_without_iff hplaces hseen hfresh
        have hreach : ∀ p, Marked places seen p → ∀ q, R p q →
            Marked places (seen.either ((step fresh).without seen)) q :=
              fun p hp q hR => by
          rw [hboth]
          by_cases hnew : Marked places fresh p
          · exact Or.inr ⟨p, hnew, hR⟩
          · exact Or.inl (hclosed p hp hnew q hR)
        have hold : ∀ p, Marked places (seen.either ((step fresh).without seen)) p →
            ¬Marked places ((step fresh).without seen) p → ∀ q, R p q →
              Marked places (seen.either ((step fresh).without seen)) q :=
                fun p hp hnew q hR => by
          rcases (marked_either_iff hseen hfound).mp hp with hp | hp
          · exact hreach p hp q hR
          · exact absurd hp hnew
        obtain ⟨hlength, hiff⟩ := ih (by simp [Marks.either, hseen, hfound]) hfound
          (fun p hp => (marked_either_iff hseen hfound).mpr (Or.inr hp)) hold
        refine ⟨hlength, fun q => (hiff q).trans ⟨?_, ?_⟩⟩
        · rintro ⟨rounds, hle, p, hp, hrounds⟩
          rcases (hboth p).mp hp with hp | ⟨origin, horigin, hR⟩
          · exact ⟨rounds, Nat.le_succ_of_le hle, p, hp, hrounds⟩
          · exact ⟨rounds + 1, Nat.succ_le_succ hle, origin, hsub origin horigin, p,
              hR, hrounds⟩
        · rintro ⟨rounds, hle, p, hp, hrounds⟩
          cases rounds with
          | zero => exact ⟨0, Nat.zero_le _, p, (hboth p).mpr (Or.inl hp), hrounds⟩
          | succ rounds =>
              obtain ⟨mid, hfirst, hrest⟩ := hrounds
              exact ⟨rounds, Nat.le_of_succ_le_succ hle, mid,
                hreach p hp mid hfirst, hrest⟩

/-- All places that a number of steps, or less, lead to. -/
theorem Carries.within (h : Carries places step R) (hplaces : places.Nodup)
    (count : Nat) :
    Carries places (fun a => within step count a a)
      fun p q => ∃ rounds ≤ count, Rounds R rounds p q where
  length ha := (h.marked_within_iff hplaces count ha ha (fun _ hp => hp)
    fun _ hp hnew => absurd hp hnew).1
  marked_iff ha q := by
    rw [(h.marked_within_iff hplaces count ha ha (fun _ hp => hp)
      fun _ hp hnew => absurd hp hnew).2 q]
    constructor
    · rintro ⟨rounds, hle, p, hp, hrounds⟩
      exact ⟨p, hp, rounds, hle, hrounds⟩
    · rintro ⟨p, hp, rounds, hle, hrounds⟩
      exact ⟨rounds, hle, p, hp, hrounds⟩

end Carries

end Marks

namespace Expression

open Marks

/-- How many rounds of a repetition are tried after the least. -/
private theorem le_further_iff {least limit rounds : Nat} {most : Option Nat} :
    (rounds ≤ match most with
      | some n => min (n - least) limit
      | none => limit) ↔ (∀ n ∈ most, rounds ≤ n - least) ∧ rounds ≤ limit := by
  cases most with
  | none => simp
  | some n =>
      have hmost : (∀ m ∈ some n, rounds ≤ m - least) ↔
        rounds ≤ n - least := by simp
      exact Nat.le_min.trans (and_congr_left' hmost.symm)

/-- The rounds of a repetition, when rounds that lead nowhere new are left out. -/
theorem runs_repeated_iff {least limit : Nat} {most : Option Nat}
    {item : Expression} {p q : Place} (hp : p.rest.length < limit) :
    (repeated least most item).Runs p q ↔
      ∃ mid, Rounds item.Runs (min least limit) p mid ∧
        ∃ rounds ≤ (match most with
          | some n => min (n - least) limit
          | none => limit), Rounds item.Runs rounds mid q := by
  have hforward := forward_runs item
  simp only [le_further_iff, hforward.rounds_min_iff hp, Runs, rounds_add]
  constructor
  · rintro ⟨extra, hextra, mid, hfirst, hrest⟩
    have hmid : mid.rest.length < limit := by
      rcases hforward.rounds least hfirst with rfl | hlt
      · exact hp
      · exact Nat.lt_trans hlt hp
    refine ⟨mid, hfirst, min extra limit, ⟨fun n hn => ?_, Nat.min_le_right _ _⟩,
      ?_⟩
    · exact Nat.le_trans (Nat.min_le_left _ _) (hextra n hn)
    · exact (hforward.rounds_min_iff hmid extra).mpr hrest
  · rintro ⟨mid, hfirst, extra, ⟨hextra, -⟩, hrest⟩
    exact ⟨extra, hextra, mid, hfirst, hrest⟩

section Spread

variable (text : List Char)

mutual

/-- The marks of a pattern are carried along its runs. -/
theorem carries_spread :
    ∀ e : Expression, Carries (Place.all text) (e.spread (Place.all text)) e.Runs
  | empty => carries_stay
  | setting => carries_stay
  | one set => carries_pass set text
  | look l => carries_keep l
  | sequence items => carries_spreadAll items
  | choice branches => carries_spreadAny branches
  | repeated least most item => by
      have hitem := carries_spread item
      refine Carries.congr ((hitem.after _).comp
        (hitem.within (Place.nodup_allFrom none text) _)) fun p hp q =>
          runs_repeated_iff ?_
      rw [Place.all, Place.length_allFrom]
      exact Nat.lt_succ_of_le (Place.length_rest_le_of_mem_allFrom hp)
  | group _ item => carries_spread item

theorem carries_spreadAll :
    ∀ items : List Expression,
      Carries (Place.all text) (spreadAll (Place.all text) items)
      (RunsAll items)
  | [] => carries_stay
  | item :: rest => (carries_spread item).comp (carries_spreadAll rest)

theorem carries_spreadAny :
    ∀ branches : List Expression,
      Carries (Place.all text) (spreadAny (Place.all text) branches)
      (RunsAny branches)
  | [] => carries_nowhere
  | branch :: rest => (carries_spread branch).either (carries_spreadAny rest)

end

end Spread

/-- A pattern occurs in a text exactly when it covers what stands between two places
of it. -/
theorem occursIn_iff (e : Expression) (text : List Char) :
    e.occursIn text = true ↔ ∃ p ∈ Place.all text, ∃ q, e.Runs p q := by
  have hmarks : ((Place.all text).map fun _ => true).length =
      (Place.all text).length :=
    List.length_map _
  have hcarries := carries_spread text e
  rw [occursIn, Bool.not_eq_true', Bool.eq_false_iff, Ne,
    isEmpty_iff (hcarries.length hmarks)]
  simp only [hcarries.marked_iff hmarks, marked_true_iff, not_forall, not_not]
  exact ⟨fun ⟨q, p, hp, hruns⟩ => ⟨p, hp, q, hruns⟩,
    fun ⟨p, hp, q, hruns⟩ => ⟨q, p, hp, hruns⟩⟩

/-- Between the start and the end of the text, a pattern has to cover all of it. -/
theorem occursIn_whole_iff (remembered : Bool) (e : Expression) (text : List Char) :
    (sequence [look .textStart, group remembered e, look .textEnd]).occursIn
      text = true ↔
      e.Covers text := by
  rw [occursIn_iff]
  constructor
  · rintro ⟨_, hp, q, _, ⟨hstart, rfl⟩, _, hruns, _, ⟨hend, rfl⟩, rfl⟩
    rw [Look.holds, Option.isNone_iff_eq_none] at hstart
    rw [Look.holds, List.isEmpty_iff] at hend
    obtain rfl := Place.eq_of_mem_all hp hstart
    obtain ⟨before, rest⟩ := q
    obtain rfl : rest = [] := hend
    exact ⟨before, hruns⟩
  · rintro ⟨before, hruns⟩
    exact ⟨⟨none, text⟩, Place.mem_allFrom_self none text, ⟨before, []⟩, _,
      ⟨rfl, rfl⟩, _, hruns, _, ⟨rfl, rfl⟩, rfl⟩

end Expression

end QueryGate.Pattern
