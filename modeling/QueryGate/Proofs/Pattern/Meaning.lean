import Mathlib.Logic.Function.Iterate
import QueryGate.Pattern.Expression

/-!
What a pattern covers.

`Expression.Runs` says between which places of a text a pattern runs, by the form of
the pattern. A pattern runs forward or stays where it is, so that rounds of a
repetition can be left out when there are more of them than characters.
-/

namespace QueryGate.Pattern

/-- A relation holds from one place to the next, a number of times. -/
def Rounds (R : Place → Place → Prop) : Nat → Place → Place → Prop
  | 0, p, q => q = p
  | count + 1, p, q => ∃ next, R p next ∧ Rounds R count next q

namespace Expression

mutual

/-- A pattern covers what stands between two places of a text. -/
def Runs : Expression → Place → Place → Prop
  | empty, p, q => q = p
  | setting, p, q => q = p
  | one set, p, q =>
      ∃ c rest, p.rest = c :: rest ∧ set.contains c ∧ q = ⟨some c, rest⟩
  | look l, p, q => l.holds p ∧ q = p
  | sequence items, p, q => RunsAll items p q
  | choice branches, p, q => RunsAny branches p q
  | repeated least most item, p, q =>
      ∃ extra, (∀ n ∈ most, extra ≤ n - least) ∧
        Rounds (fun p q => Runs item p q) (least + extra) p q
  | group _ item, p, q => Runs item p q

/-- Patterns cover it one after the other. -/
def RunsAll : List Expression → Place → Place → Prop
  | [], p, q => q = p
  | item :: rest, p, q => ∃ next, Runs item p next ∧ RunsAll rest next q

/-- One of the patterns covers it. -/
def RunsAny : List Expression → Place → Place → Prop
  | [], _, _ => False
  | branch :: rest, p, q => Runs branch p q ∨ RunsAny rest p q

end

/-- A pattern covers a whole text, from its start to its end. -/
def Covers (e : Expression) (text : List Char) : Prop :=
  ∃ before, e.Runs ⟨none, text⟩ ⟨before, []⟩

end Expression

/-- What is left of a text gets shorter, unless one stays where one is. -/
def Forward (R : Place → Place → Prop) : Prop :=
  ∀ ⦃p q⦄, R p q → q = p ∨ q.rest.length < p.rest.length

theorem Forward.rounds {R : Place → Place → Prop} (hR : Forward R) (count : Nat) :
    Forward (Rounds R count) := by
  induction count with
  | zero => exact fun p q h => Or.inl h
  | succ count ih =>
      rintro p q ⟨next, hfirst, hrest⟩
      rcases hR hfirst with rfl | hlt
      · exact ih hrest
      · rcases ih hrest with rfl | hlt'
        · exact Or.inr hlt
        · exact Or.inr (Nat.lt_trans hlt' hlt)

namespace Expression

mutual

theorem forward_runs : ∀ e : Expression, Forward e.Runs
  | empty => fun _ _ h => Or.inl h
  | setting => fun _ _ h => Or.inl h
  | one _ => by
      rintro p _ ⟨c, rest, hrest, -, rfl⟩
      simp [hrest]
  | look _ => fun _ _ h => Or.inl h.2
  | sequence items => fun _ _ h => forward_runsAll items h
  | choice branches => fun _ _ h => forward_runsAny branches h
  | repeated _ _ item => fun _ _ ⟨_, _, h⟩ => (forward_runs item).rounds _ h
  | group _ item => fun _ _ h => forward_runs item h

theorem forward_runsAll : ∀ items : List Expression, Forward (RunsAll items)
  | [] => fun _ _ h => Or.inl h
  | item :: rest => by
      rintro p q ⟨next, hfirst, hrest⟩
      rcases forward_runs item hfirst with rfl | hlt
      · exact forward_runsAll rest hrest
      · rcases forward_runsAll rest hrest with rfl | hlt'
        · exact Or.inr hlt
        · exact Or.inr (Nat.lt_trans hlt' hlt)

theorem forward_runsAny : ∀ branches : List Expression, Forward (RunsAny branches)
  | [] => fun _ _ h => h.elim
  | branch :: rest => by
      rintro p q (h | h)
      · exact forward_runs branch h
      · exact forward_runsAny rest h

end

end Expression

section Rounds

variable {R : Place → Place → Prop}

theorem rounds_add {p q : Place} {n m : Nat} :
    Rounds R (n + m) p q ↔ ∃ next, Rounds R n p next ∧ Rounds R m next q := by
  induction n generalizing p with
  | zero => simp [Rounds]
  | succ n ih =>
      rw [Nat.succ_add]
      simp only [Rounds, ih]
      constructor
      · rintro ⟨a, hfirst, b, hmid, hlast⟩
        exact ⟨b, ⟨a, hfirst, hmid⟩, hlast⟩
      · rintro ⟨b, ⟨a, hfirst, hmid⟩, hlast⟩
        exact ⟨a, hfirst, b, hmid, hlast⟩

/-- Of more rounds than there are characters, one stays where it is. It can be left
out, and it can be done once more. -/
theorem Forward.rounds_stall (hR : Forward R) {count : Nat} {p q : Place}
    (h : Rounds R (count + 1) p q) (hcount : p.rest.length ≤ count) :
    Rounds R count p q ∧ Rounds R (count + 2) p q := by
  induction count generalizing p with
  | zero =>
      obtain ⟨next, hfirst, rfl⟩ := h
      obtain rfl : q = p := (hR hfirst).resolve_right (by omega)
      exact ⟨rfl, q, hfirst, q, hfirst, rfl⟩
  | succ count ih =>
      obtain ⟨next, hfirst, hrest⟩ := h
      rcases hR hfirst with rfl | hlt
      · exact ⟨hrest, next, hfirst, next, hfirst, hrest⟩
      · obtain ⟨hless, hmore⟩ := ih hrest (by omega)
        exact ⟨⟨next, hfirst, hless⟩, next, hfirst, hmore⟩

/-- From a place with less than `limit` characters left, more rounds than `limit`
lead to the same places. -/
theorem Forward.rounds_min_iff (hR : Forward R) {limit : Nat} {p q : Place}
    (hp : p.rest.length < limit) (count : Nat) :
    Rounds R (min count limit) p q ↔ Rounds R count p q := by
  induction count with
  | zero => simp
  | succ count ih =>
      rcases Nat.lt_or_ge count limit with hlt | hge
      · rw [Nat.min_eq_left hlt]
      · rw [Nat.min_eq_right (Nat.le_succ_of_le hge)]
        rw [Nat.min_eq_right hge] at ih
        obtain ⟨before, rfl⟩ : ∃ before, count = before + 1 := ⟨count - 1, by omega⟩
        rw [ih]
        exact ⟨fun h => (hR.rounds_stall h (by omega)).2,
          fun h => (hR.rounds_stall h (by omega)).1⟩

end Rounds

end QueryGate.Pattern
