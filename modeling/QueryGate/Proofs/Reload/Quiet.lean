import Mathlib.Data.List.Chain
import Mathlib.Data.List.Perm.Subperm
import QueryGate.Proofs.Reload.Vigil
import QueryGate.Proofs.Sequence

/-!
When one who waits for quiet acts.

Main statement: an action begins a whole window after every event that no other
event follows within the window, until the end, and at no other time, however long
actions take.
-/

namespace QueryGate.Reload.Vigil

/-- No event was received within a window after a time. -/
def QuietAfter (window : Nat) (heard : List Nat) (time : Nat) : Prop :=
  ∀ other ∈ heard, other ≤ time ∨ time + window < other

/-- When an event is received that is sent at a given time: at once, or at the end
of the action that is under way then. -/
def ReceivedAt (duration : Nat → Nat) (begun : List Nat)
    (sent received : Nat) : Prop :=
  (received = sent ∧ ∀ s ∈ begun, s < sent → s + duration s ≤ sent) ∨
    ∃ s ∈ begun, s < sent ∧ sent < s + duration s ∧ received = s + duration s

theorem ReceivedAt.le {duration : Nat → Nat} {begun : List Nat}
    {sent received : Nat} (h : ReceivedAt duration begun sent received) :
    sent ≤ received := by
  rcases h with ⟨rfl, _⟩ | ⟨s, _, _, hlt, rfl⟩
  · exact Nat.le_refl _
  · exact Nat.le_of_lt hlt

/-- An action that begins later does not change when an event was received. -/
theorem ReceivedAt.concat {duration : Nat → Nat} {begun : List Nat}
    {sent received later : Nat} (h : ReceivedAt duration begun sent received)
    (hlater : sent ≤ later) :
    ReceivedAt duration (begun ++ [later]) sent received := by
  rcases h with ⟨hsame, hfree⟩ | ⟨s, hs, hbusy⟩
  · refine Or.inl ⟨hsame, fun s hs hlt => ?_⟩
    rcases List.mem_append.mp hs with hs | hs
    · exact hfree s hs hlt
    · rw [List.mem_singleton.mp hs] at hlt
      omega
  · exact Or.inr ⟨s, List.mem_append_left _ hs, hbusy⟩

/-- What holds after any turns, when events are sent at given times. They are
received in that order, and the timer is set by the last of them. An event was acted
upon when it was quiet after it, unless the timer is still set by it. What was begun
has ended. An event that is sent when the timer runs out is received first. One is
not behind with an event, unless there was an action until now. -/
structure Kept (ending : Option Ending) (duration : Nat → Nat) (window : Nat)
    (sent : List Nat) (v : Vigil) : Prop where
  timed : v.timer.window = window
  received : ∃ past, sent = past ++ v.coming ∧
    List.Forall₂ (fun a t => a ≤ v.now ∧ ReceivedAt duration v.begun a t ∧
      ∀ e ∈ ending, ¬e.Misses a t) past v.heard
  heard_le : ∀ t ∈ v.heard, t ≤ v.now
  ordered : v.heard.Pairwise (· ≤ ·)
  armed : ∀ due ∈ v.timer.due,
    v.now ≤ due ∧ ∃ t ∈ v.heard, due = t + window ∧ ∀ other ∈ v.heard, other ≤ t
  acted : ∀ s, s ∈ v.begun ↔
    (∃ t ∈ v.heard, s = t + window ∧ QuietAfter window v.heard t) ∧ s ∉ v.timer.due
  ended : ∀ s ∈ v.begun, s + duration s ≤ v.now
  before : ∀ s ∈ v.begun, ∀ e ∈ ending, s < e.time
  behind : ∀ s ∈ v.begun, ∀ a ∈ v.coming, s < a
  increasing : (v.begun ++ v.timer.due.toList).Pairwise (· < ·)
  busy : (∀ a ∈ v.coming, v.now ≤ a) ∨ ∃ s ∈ v.begun, v.now = s + duration s

section Kept

variable {ending : Option Ending} {duration : Nat → Nat} {window : Nat}
  {sent : List Nat} {v v' : Vigil}

theorem kept_start (ending : Option Ending) (duration : Nat → Nat) (window : Nat)
    (sent : List Nat) : (start window sent).Kept ending duration window sent where
  timed := rfl
  received := ⟨[], rfl, .nil⟩
  heard_le := by simp [start]
  ordered := .nil
  armed := by simp [start, Debouncer.idle]
  acted := by simp [start]
  ended := by simp [start]
  before := by simp [start]
  behind := by simp [start]
  increasing := .nil
  busy := Or.inl fun a _ => Nat.zero_le a

/-- An event that is still to come would be received at once, or at the end of the
last action. -/
theorem Kept.receivedAt (h : v.Kept ending duration window sent) {a : Nat}
    (ha : a ∈ v.coming) : ReceivedAt duration v.begun a (max v.now a) := by
  by_cases hle : v.now ≤ a
  · refine Or.inl ⟨Nat.max_eq_right hle, fun s hs _ => ?_⟩
    exact Nat.le_trans (h.ended s hs) hle
  · rcases h.busy with hfree | ⟨s, hs, hnow⟩
    · exact absurd (hfree a ha) hle
    · exact Or.inr ⟨s, hs, h.behind s hs a ha, by omega, by omega⟩

theorem Kept.le_of_mem_heard (h : v.Kept ending duration window sent) {r : Nat}
    (hnow : v.now ≤ r) {t : Nat} (ht : t ∈ v.heard ++ [r]) : t ≤ r := by
  rcases List.mem_append.mp ht with ht | ht
  · exact Nat.le_trans (h.heard_le t ht) hnow
  · exact Nat.le_of_eq (List.mem_singleton.mp ht)

theorem Kept.due_event (h : v.Kept ending duration window sent) (r : Nat) :
    (v.timer.event r).due = some (r + window) := by
  rw [Debouncer.event, h.timed]

/-- An event that comes before the timer runs out puts off the action for the events
before it, and changes nothing about the actions that began. -/
theorem Kept.acted_heard (h : v.Kept ending duration window sent) {r : Nat}
    (hnow : v.now ≤ r) (hfirst : ∀ due ∈ v.timer.due, r ≤ max v.now due)
    (hbegun : ∀ s ∈ v.begun, s < r) (s : Nat) :
    s ∈ v.begun ↔ (∃ t ∈ v.heard ++ [r],
      s = t + window ∧ QuietAfter window (v.heard ++ [r]) t) ∧
      s ∉ (v.timer.event r).due := by
  have hset : s ∈ (v.timer.event r).due ↔ s = r + window := by
    rw [h.due_event r, Option.mem_some_iff, eq_comm]
  rw [hset, h.acted s]
  constructor
  · rintro ⟨⟨t, ht, hs, hquiet⟩, hunset⟩
    -- The action had begun before the event was received.
    have hlt := hbegun s ((h.acted s).mpr ⟨⟨t, ht, hs, hquiet⟩, hunset⟩)
    refine ⟨⟨t, List.mem_append_left _ ht, hs, fun other hother => ?_⟩, by omega⟩
    rcases List.mem_append.mp hother with hother | hother
    · exact hquiet other hother
    · rw [List.mem_singleton.mp hother]
      omega
  · rintro ⟨⟨t, ht, hs, hquiet⟩, hunset⟩
    rcases List.mem_append.mp ht with ht | ht
    · refine ⟨⟨t, ht, hs, fun other hother =>
        hquiet other (List.mem_append_left _ hother)⟩,
        fun hdue => ?_⟩
      -- The timer has not run out before the event, which comes within its window.
      have hlater := hquiet r (by simp)
      have hheard := h.heard_le t ht
      have hwaits := (h.armed s hdue).1
      have hlast := hfirst s hdue
      omega
    · rw [List.mem_singleton.mp ht] at hs
      exact absurd hs hunset

/-- What is received is kept with what was received before. -/
theorem Kept.of_heard (h : v.Kept ending duration window sent)
    (hsent : sent.Pairwise (· ≤ ·)) {a : Nat} {rest : List Nat}
    (hcoming : v.coming = a :: rest)
    (hfirst : ∀ due ∈ v.timer.due, max v.now a ≤ max v.now due)
    (hmissed : ∀ e ∈ ending, ¬e.Misses a (max v.now a)) :
    Kept ending duration window sent
      { v with
        timer := v.timer.event (max v.now a)
        now := max v.now a
        coming := rest
        heard := v.heard ++ [max v.now a] } := by
  have ha : a ∈ v.coming := by simp [hcoming]
  have hrest : ∀ b ∈ rest, b ∈ v.coming := fun b hb => by simp [hcoming, hb]
  have hreceived := h.receivedAt ha
  obtain ⟨past, hsplit, hpast⟩ := h.received
  have hnow : v.now ≤ max v.now a := Nat.le_max_left _ _
  have hle : a ≤ max v.now a := Nat.le_max_right _ _
  have hbegun : ∀ s ∈ v.begun, s < max v.now a := fun s hs =>
    Nat.lt_of_lt_of_le (h.behind s hs a ha) hle
  exact {
    timed := h.timed
    received := by
      refine ⟨past ++ [a], by simp [hsplit, hcoming], ?_⟩
      refine List.rel_append (hpast.imp fun b t hb => ?_)
        (.cons ⟨hle, hreceived, hmissed⟩ .nil)
      exact ⟨Nat.le_trans hb.1 hnow, hb.2⟩
    heard_le := fun t => h.le_of_mem_heard hnow
    ordered := by
      refine List.pairwise_append.mpr
        ⟨h.ordered, List.pairwise_singleton _ _, fun t ht r hr => ?_⟩
      rw [List.mem_singleton.mp hr]
      exact Nat.le_trans (h.heard_le t ht) hnow
    armed := by
      intro due hdue
      obtain rfl := Option.some.inj ((h.due_event _).symm.trans hdue)
      exact ⟨Nat.le_add_right _ _, _, by simp, rfl,
        fun other => h.le_of_mem_heard hnow⟩
    acted := h.acted_heard hnow hfirst hbegun
    ended := fun s hs => Nat.le_trans (h.ended s hs) hnow
    before := h.before
    behind := fun s hs b hb => h.behind s hs b (hrest b hb)
    increasing := by
      have hold := (List.pairwise_append.mp h.increasing).1
      refine List.pairwise_append.mpr ⟨hold, by simp [Debouncer.event],
        fun s hs due hdue => ?_⟩
      obtain rfl : due = max v.now a + window := by
        simpa [h.due_event, eq_comm] using hdue
      exact Nat.lt_of_lt_of_le (hbegun s hs) (Nat.le_add_right _ _)
    busy := by
      rcases Nat.le_total v.now a with hfree | hlate
      · refine Or.inl fun b hb => ?_
        rw [hsplit, hcoming] at hsent
        rw [Nat.max_eq_right hfree]
        exact (List.pairwise_cons.mp (List.pairwise_append.mp hsent).2.1).1 b hb
      · rw [Nat.max_eq_left hlate]
        exact h.busy.imp_left fun hall b hb => hall b (hrest b hb) }

/-- An action that begins is kept with those that began before. -/
theorem Kept.of_began (h : v.Kept ending duration window sent)
    (hsent : sent.Pairwise (· ≤ ·)) {due : Nat} (hdue : v.timer.due = some due)
    (hfirst : ∀ a ∈ v.coming.head?, max v.now due < a)
    (hended : ∀ e ∈ ending, max v.now due < e.time) :
    Kept ending duration window sent
      { v with
        timer := v.timer.clear
        now := max v.now due + duration (max v.now due)
        begun := v.begun ++ [max v.now due] } := by
  obtain ⟨hnow, t, ht, hset, hlast⟩ := h.armed due hdue
  obtain ⟨past, hsplit, hpast⟩ := h.received
  rw [Nat.max_eq_right hnow] at *
  have hafter : v.now ≤ due + duration due :=
    Nat.le_trans hnow (Nat.le_add_right _ _)
  have hunset : ∀ s, s ∉ v.timer.clear.due := by simp [Debouncer.clear]
  refine ⟨h.timed, ⟨past, hsplit, hpast.imp fun b t hb => ?_⟩, ?_, h.ordered, ?_,
    fun s => ?_, ?_, ?_, ?_, ?_, ?_⟩
  · exact ⟨Nat.le_trans hb.1 hafter, hb.2.1.concat (Nat.le_trans hb.1 hnow), hb.2.2⟩
  · exact fun t ht => Nat.le_trans (h.heard_le t ht) hafter
  · exact fun s hs => absurd hs (hunset s)
  · show s ∈ v.begun ++ [due] ↔ (∃ t ∈ v.heard, _) ∧ s ∉ v.timer.clear.due
    rw [List.mem_append, List.mem_singleton, h.acted s]
    constructor
    · rintro (⟨hquiet, _⟩ | rfl)
      · exact ⟨hquiet, hunset s⟩
      · exact ⟨⟨t, ht, hset, fun other hother => Or.inl (hlast other hother)⟩,
          hunset s⟩
    · rintro ⟨hquiet, _⟩
      by_cases hs : s = due
      · exact Or.inr hs
      · exact Or.inl ⟨hquiet, by simpa [hdue, eq_comm] using hs⟩
  · intro s hs
    rcases List.mem_append.mp hs with hs | hs
    · exact Nat.le_trans (h.ended s hs) hafter
    · exact Nat.le_of_eq (by rw [List.mem_singleton.mp hs])
  · intro s hs
    rcases List.mem_append.mp hs with hs | hs
    · exact h.before s hs
    · rw [List.mem_singleton.mp hs]
      exact hended
  · intro s hs b hb
    rcases List.mem_append.mp hs with hs | hs
    · exact h.behind s hs b hb
    · rw [List.mem_singleton.mp hs]
      -- What comes later is not sent before what comes first.
      obtain ⟨a, rest, hcoming⟩ :=
        List.exists_cons_of_ne_nil (List.ne_nil_of_mem hb)
      have hlt := hfirst a (by simp [show v.coming = a :: rest from hcoming])
      rw [hsplit, show v.coming = a :: rest from hcoming] at hsent
      rcases List.mem_cons.mp (hcoming ▸ hb) with rfl | hb
      · exact hlt
      · exact Nat.lt_of_lt_of_le hlt
          ((List.pairwise_cons.mp (List.pairwise_append.mp hsent).2.1).1 b hb)
  · simpa [Debouncer.clear, hdue] using h.increasing
  · exact Or.inr ⟨due, by simp, rfl⟩

/-- Every turn keeps what holds. -/
theorem Kept.of_comes (h : v.Kept ending duration window sent)
    (hsent : sent.Pairwise (· ≤ ·)) (hcomes : v.Comes ending duration v') :
    v'.Kept ending duration window sent := by
  cases hcomes with
  | heard hcoming hfirst hmissed => exact h.of_heard hsent hcoming hfirst hmissed
  | began hdue hfirst hended => exact h.of_began hsent hdue hfirst hended

/-- All turns keep what holds, and they end when there is none left. -/
theorem Kept.run (h : v.Kept ending duration window sent)
    (hsent : sent.Pairwise (· ≤ ·)) :
    (v.run ending duration).Kept ending duration window sent ∧
      (v.run ending duration).turn? ending = none := by
  fun_induction Vigil.run ending duration v with
  | case1 v turn hturn ih =>
      exact ih (h.of_comes hsent (comes_of_turn? duration hturn))
  | case2 v hturn => exact ⟨h, hturn⟩

end Kept

section Rest

variable {ending : Option Ending} {duration : Nat → Nat} {window : Nat}
  {sent : List Nat} {v : Vigil}

/-- One acts a window after what is followed by quiet, unless the end comes
before. -/
theorem Kept.mem_begun_iff (h : v.Kept ending duration window sent)
    (hrest : v.turn? ending = none) {s : Nat} :
    s ∈ v.begun ↔
      ∃ t ∈ v.heard, s = t + window ∧ QuietAfter window v.heard t ∧
        ∀ e ∈ ending, s < e.time := by
  rw [h.acted s]
  constructor
  · rintro ⟨⟨t, ht, hs, hquiet⟩, hunset⟩
    exact ⟨t, ht, hs, hquiet,
      h.before s ((h.acted s).mpr ⟨⟨t, ht, hs, hquiet⟩, hunset⟩)⟩
  · rintro ⟨t, ht, hs, hquiet, hbefore⟩
    refine ⟨⟨t, ht, hs, hquiet⟩, fun hdue => ?_⟩
    obtain ⟨e, he, hpast⟩ := (rests_of_turn?_eq_none hrest).1 s hdue
    have hwaits := (h.armed s hdue).1
    have hopen := hbefore e he
    omega

/-- Every event is received in its turn, up to those that come too late. -/
theorem Kept.received_or_missed (h : v.Kept ending duration window sent)
    (hsent : sent.Pairwise (· ≤ ·)) (hrest : v.turn? ending = none) :
    ∃ past missed, sent = past ++ missed ∧
      List.Forall₂ (fun a t => ReceivedAt duration v.begun a t ∧
        ∀ e ∈ ending, ¬e.Misses a t)
        past v.heard ∧
      ∀ a ∈ missed, ∃ t, ReceivedAt duration v.begun a t ∧
        ∃ e ∈ ending, e.Misses a t := by
  obtain ⟨past, hsplit, hpast⟩ := h.received
  refine ⟨past, v.coming, hsplit, hpast.imp fun a t ht => ht.2,
    fun a ha => ⟨max v.now a, h.receivedAt ha, ?_⟩⟩
  obtain ⟨first, rest, hcoming⟩ :=
    List.exists_cons_of_ne_nil (List.ne_nil_of_mem ha)
  obtain ⟨e, he, hmisses⟩ :=
    (rests_of_turn?_eq_none hrest).2 first (by simp [hcoming])
  have hle : first ≤ a := by
    rw [hsplit, hcoming] at hsent
    rcases List.mem_cons.mp (hcoming ▸ ha) with rfl | ha
    · exact Nat.le_refl _
    · exact (List.pairwise_cons.mp (List.pairwise_append.mp hsent).2.1).1 a ha
  exact ⟨e, he, hmisses.mono hle (by omega)⟩

/-- There are not more actions than events. -/
theorem Kept.length_begun_le (h : v.Kept ending duration window sent) :
    v.begun.length ≤ sent.length := by
  obtain ⟨past, hsplit, hpast⟩ := h.received
  have hnodup : v.begun.Nodup :=
    (List.pairwise_append.mp h.increasing).1.imp fun hlt => Nat.ne_of_lt hlt
  have hsubset : v.begun ⊆ v.heard.map (· + window) := fun s hs => by
    obtain ⟨⟨t, ht, rfl, _⟩, _⟩ := (h.acted s).mp hs
    exact List.mem_map_of_mem ht
  calc v.begun.length ≤ (v.heard.map (· + window)).length :=
    (hnodup.subperm hsubset).length_le
    _ = past.length := by rw [List.length_map, hpast.length_eq]
    _ ≤ sent.length := by rw [hsplit, List.length_append]; omega

/-- In a burst, only after its last event is it quiet. -/
theorem QuietAfter.le_of_burst {burst : List Nat} {first t : Nat}
    (hburst : burst.IsChain fun a b => b ≤ a + window)
    (hquiet : QuietAfter window burst t) (hfirst : burst.head? = some first)
    (hle : first ≤ t) : ∀ a ∈ burst, a ≤ t := by
  induction burst generalizing first with
  | nil => simp
  | cons b rest ih =>
      obtain rfl : b = first := by simpa using hfirst
      refine List.forall_mem_cons.mpr ⟨hle, fun a ha => ?_⟩
      obtain ⟨c, later, rfl⟩ := List.exists_cons_of_ne_nil (List.ne_nil_of_mem ha)
      obtain ⟨hgap, hburst⟩ := List.isChain_cons_cons.mp hburst
      refine ih hburst
        (fun other hother => hquiet other (List.mem_cons_of_mem _ hother)) rfl ?_
        a ha
      rcases hquiet c (by simp) with hc | hc
      · exact hc
      · omega

/-- A burst among what is received yields one action, a window after its last
event. -/
theorem Kept.begun_during_burst (h : v.Kept ending duration window sent)
    (hrest : v.turn? ending = none) {pre burst post : List Nat} {first last : Nat}
    (hheard : v.heard = pre ++ burst ++ post)
    (hburst : burst.IsChain fun a b => b ≤ a + window)
    (hfirst : burst.head? = some first) (hlast : burst.getLast? = some last)
    (hpre : ∀ t ∈ pre, t + window < first) (hpost : ∀ t ∈ post, last + window < t)
    (hends : ∀ e ∈ ending, last + window < e.time) {s : Nat} :
    s ∈ v.begun ∧ first ≤ s ∧ s ≤ last + window ↔ s = last + window := by
  have hordered := h.ordered
  rw [hheard, List.append_assoc, List.pairwise_append,
    List.pairwise_append] at hordered
  obtain ⟨_, ⟨hinner, _, _⟩, _⟩ := hordered
  have hmem : last ∈ burst := List.mem_of_getLast? hlast
  have hhead : first ∈ burst := List.mem_of_head? hfirst
  have hupper : ∀ t ∈ burst, t ≤ last := by
    obtain ⟨init, rfl⟩ := List.getLast?_eq_some_iff.mp hlast
    intro t ht
    rcases List.mem_append.mp ht with ht | ht
    · exact (List.pairwise_append.mp hinner).2.2 t ht last (by simp)
    · exact Nat.le_of_eq (List.mem_singleton.mp ht)
  have hlower : ∀ t ∈ burst, first ≤ t := by
    obtain ⟨rest, rfl⟩ := List.head?_eq_some_iff.mp hfirst
    intro t ht
    rcases List.mem_cons.mp ht with rfl | ht
    · exact Nat.le_refl _
    · exact (List.pairwise_cons.mp hinner).1 t ht
  rw [h.mem_begun_iff hrest, hheard]
  constructor
  · rintro ⟨⟨t, ht, rfl, hquiet, _⟩, hfrom, hto⟩
    rw [List.mem_append, List.mem_append] at ht
    rcases ht with (ht | ht) | ht
    · exact absurd (hpre t ht) (by omega)
    · have hle := QuietAfter.le_of_burst hburst
        (fun other hother => hquiet other (by simp [hother])) hfirst (hlower t ht)
          last hmem
      have hge := hupper t ht
      omega
    · exact absurd (hpost t ht) (by omega)
  · rintro rfl
    refine ⟨⟨last, by simp [hmem], rfl, fun other hother => ?_, hends⟩, ?_,
      Nat.le_refl _⟩
    · have hspan := hlower last hmem
      rw [List.mem_append, List.mem_append] at hother
      rcases hother with (hother | hother) | hother
      · exact Or.inl (by have := hpre other hother; omega)
      · exact Or.inl (hupper other hother)
      · exact Or.inr (hpost other hother)
    · exact Nat.le_trans (hlower last hmem) (Nat.le_add_right _ _)

/-- What is sent before any action is received at once. -/
theorem ReceivedAt.eq_of_le {begun : List Nat} {a t : Nat}
    (h : ReceivedAt duration begun a t) (hbegun : ∀ s ∈ begun, a ≤ s) : t = a := by
  rcases h with ⟨hsame, _⟩ | ⟨s, hs, hlt, _⟩
  · exact hsame
  · exact absurd (hbegun s hs) (Nat.not_le_of_lt hlt)

section Burst

variable {first last : Nat}

/-- What is sent before any action, and before the end, is received when it is
sent. -/
theorem Kept.mem_heard (h : v.Kept ending duration window sent)
    (hsent : sent.Pairwise (· ≤ ·)) (hrest : v.turn? ending = none) {a : Nat}
    (ha : a ∈ sent) (hends : ∀ e ∈ ending, a < e.time)
    (hbegun : ∀ s ∈ v.begun, a ≤ s) : a ∈ v.heard := by
  obtain ⟨past, missed, hsplit, hpast, hmissed⟩ := h.received_or_missed hsent hrest
  rw [hsplit] at ha
  rcases List.mem_append.mp ha with ha | ha
  · obtain ⟨t, ht, hreceived, _⟩ := exists_mem_of_forall₂ hpast ha
    exact hreceived.eq_of_le hbegun ▸ ht
  · obtain ⟨t, hreceived, e, he, hmisses⟩ := hmissed a ha
    rw [hreceived.eq_of_le hbegun] at hmisses
    have hopen := hends e he
    cases e with
    | cancelled time =>
        exact absurd (show time ≤ a from hmisses) (Nat.not_le_of_lt hopen)
    | closed time => exact absurd (show time < a from hmisses) (Nat.lt_asymm hopen)

/-- When all that is sent is one burst, no action begins before the last event. -/
theorem Kept.le_begun_of_burst (h : v.Kept ending duration window sent)
    (hsent : sent.Pairwise (· ≤ ·)) (hrest : v.turn? ending = none)
    (hburst : sent.IsChain fun a b => b ≤ a + window)
    (hends : ∀ a ∈ sent, ∀ e ∈ ending, a < e.time) :
    ∀ s ∈ v.begun, ∀ a ∈ sent, a ≤ s := by
  have hincreasing := (List.pairwise_append.mp h.increasing).1
  cases hbegun : v.begun with
  | nil => simp
  | cons earliest more =>
      rw [hbegun, List.pairwise_cons] at hincreasing
      have hmin : ∀ s ∈ v.begun, earliest ≤ s := by
        rw [hbegun, List.forall_mem_cons]
        exact ⟨Nat.le_refl _, fun s hs => Nat.le_of_lt (hincreasing.1 s hs)⟩
      obtain ⟨t, ht, hset, hquiet, _⟩ := (h.mem_begun_iff hrest).mp
        (show earliest ∈ v.begun by simp [hbegun])
      -- All that is sent by then is received, so it was quiet after an event.
      have hsilent : QuietAfter window sent t := fun a ha => by
        by_cases hle : a ≤ earliest
        · refine hquiet a (h.mem_heard hsent hrest ha (hends a ha) fun s hs => ?_)
          exact Nat.le_trans hle (hmin s hs)
        · exact Or.inr (by omega)
      obtain ⟨past, hsplit, hpast⟩ := h.received
      obtain ⟨origin, horigin, _, hreceived, _⟩ :=
        exists_mem_of_forall₂ hpast.flip ht
      have hmem : origin ∈ sent := by simp [hsplit, horigin]
      obtain ⟨first, rest, hcons⟩ :=
        List.exists_cons_of_ne_nil (List.ne_nil_of_mem hmem)
      have hfirst : first ≤ t := by
        refine Nat.le_trans ?_ hreceived.le
        rw [hcons] at hsent hmem
        rcases List.mem_cons.mp hmem with rfl | hmem
        · exact Nat.le_refl _
        · exact (List.pairwise_cons.mp hsent).1 _ hmem
      intro s hs a ha
      have hlast :=
        QuietAfter.le_of_burst hburst hsilent (by simp [hcons]) hfirst a ha
      have hle := hmin s (hbegun ▸ hs)
      omega

/-- When all that is sent is one burst, one acts once, a window after the last
event. -/
theorem Kept.begun_of_burst (h : v.Kept ending duration window sent)
    (hsent : sent.Pairwise (· ≤ ·)) (hrest : v.turn? ending = none)
    (hburst : sent.IsChain fun a b => b ≤ a + window)
    (hlast : sent.getLast? = some last)
    (hends : ∀ e ∈ ending, last + window < e.time) : v.begun = [last + window] := by
  have hmem : last ∈ sent := List.mem_of_getLast? hlast
  have hupper : ∀ a ∈ sent, a ≤ last := by
    obtain ⟨init, rfl⟩ := List.getLast?_eq_some_iff.mp hlast
    intro a ha
    rcases List.mem_append.mp ha with ha | ha
    · exact (List.pairwise_append.mp hsent).2.2 a ha last (by simp)
    · exact Nat.le_of_eq (List.mem_singleton.mp ha)
  have hopen : ∀ a ∈ sent, ∀ e ∈ ending, a < e.time := fun a ha e he => by
    have hle := hupper a ha
    have hlt := hends e he
    omega
  have hbegun := h.le_begun_of_burst hsent hrest hburst hopen
  have hheard : ∀ a, a ∈ v.heard ↔ a ∈ sent := fun a => by
    constructor
    · intro ha
      obtain ⟨past, hsplit, hpast⟩ := h.received
      obtain ⟨b, hb, _, hreceived, _⟩ := exists_mem_of_forall₂ hpast.flip ha
      have hsource : b ∈ sent := by simp [hsplit, hb]
      rwa [hreceived.eq_of_le fun s hs => hbegun s hs b hsource]
    · exact fun ha => h.mem_heard hsent hrest ha (hopen a ha) fun s hs =>
        hbegun s hs a ha
  have honly : ∀ s, s ∈ v.begun ↔ s = last + window := fun s => by
    rw [h.mem_begun_iff hrest]
    constructor
    · rintro ⟨t, ht, hs, hquiet, hbefore⟩
      have hsource := (hheard t).mp ht
      have hle :=
        hbegun s ((h.mem_begun_iff hrest).mpr ⟨t, ht, hs, hquiet, hbefore⟩)
          last hmem
      have hge := hupper t hsource
      rcases hquiet last ((hheard last).mpr hmem) with hend | hend
      all_goals omega
    · rintro rfl
      exact ⟨last, (hheard last).mpr hmem, rfl,
        fun other hother => Or.inl (hupper other ((hheard other).mp hother)), hends⟩
  have hincreasing := (List.pairwise_append.mp h.increasing).1
  cases hcases : v.begun with
  | nil => simpa [hcases] using (honly (last + window)).mpr rfl
  | cons s more =>
      have hs := (honly s).mp (by simp [hcases])
      cases more with
      | nil => rw [hs]
      | cons s' more =>
          have hs' := (honly s').mp (by simp [hcases])
          rw [hcases] at hincreasing
          have hlt := (List.pairwise_cons.mp hincreasing).1 s' (by simp)
          omega

end Burst

end Rest

/-- Whatever the window, the times at which events are sent, the time that every
action takes and the end: every event is received at once or at the end of the
action that is under way, unless it comes too late, and an action begins a window
after every event that is received and that no other follows within the window, if
that is before the end, and at no other time. So a burst yields one action, there
are not more actions than events, and there is none without events. -/
theorem begins_exactly_after_quiet (ending : Option Ending) (duration : Nat → Nat)
    (window : Nat) (sent : List Nat) (hsent : sent.Pairwise (· ≤ ·)) :
    let v := (start window sent).run ending duration
    (∃ past missed, sent = past ++ missed ∧
      List.Forall₂ (fun a t => ReceivedAt duration v.begun a t ∧
        ∀ e ∈ ending, ¬e.Misses a t)
        past v.heard ∧
      ∀ a ∈ missed, ∃ t, ReceivedAt duration v.begun a t ∧
        ∃ e ∈ ending, e.Misses a t) ∧
    (∀ s, s ∈ v.begun ↔
      ∃ t ∈ v.heard, s = t + window ∧ QuietAfter window v.heard t ∧
        ∀ e ∈ ending, s < e.time) ∧
    v.begun.Pairwise (· < ·) ∧
    (∀ pre burst post first last, v.heard = pre ++ burst ++ post →
      burst.IsChain (fun a b => b ≤ a + window) →
      burst.head? = some first → burst.getLast? = some last →
      (∀ t ∈ pre, t + window < first) → (∀ t ∈ post, last + window < t) →
      (∀ e ∈ ending, last + window < e.time) →
      ∀ s, s ∈ v.begun ∧ first ≤ s ∧ s ≤ last + window ↔ s = last + window) ∧
    (∀ last, sent.IsChain (fun a b => b ≤ a + window) → sent.getLast? = some last →
      (∀ e ∈ ending, last + window < e.time) → v.begun = [last + window]) ∧
    v.begun.length ≤ sent.length ∧
    (sent = [] → v.begun = []) := by
  intro v
  obtain ⟨h, hrest⟩ := (kept_start ending duration window sent).run hsent
  refine ⟨h.received_or_missed hsent hrest, fun s => h.mem_begun_iff hrest,
    (List.pairwise_append.mp h.increasing).1, ?_, ?_, h.length_begun_le,
    fun hnone => ?_⟩
  · intro pre burst post first last hheard hburst hfirst hlast hpre hpost hends s
    exact h.begun_during_burst hrest hheard hburst hfirst hlast hpre hpost hends
  · exact fun last hburst hlast hends =>
      h.begun_of_burst hsent hrest hburst hlast hends
  · subst hnone
    exact List.length_eq_zero_iff.mp (Nat.le_zero.mp h.length_begun_le)

/-- With a window of ten and actions that take fifteen, the event at ten comes when
the timer runs out and sets it anew, those at twenty-two and twenty-four wait for
the end of the first action, and the last is behind the second action, with too
little time left until one is told to stop. -/
theorem begins_exactly_after_quiet_slow :
    [0, 10, 22, 24, 58].Pairwise (· ≤ ·) ∧
      ∀ s, s ∈ ((start 10 [0, 10, 22, 24, 58]).run (some (.cancelled 70))
          fun _ => 15).begun ↔
        s = 20 ∨ s = 45 := by
  refine ⟨by decide, fun s => ?_⟩
  have hheard :
    ((start 10 [0, 10, 22, 24, 58]).run (some (.cancelled 70)) fun _ => 15).heard =
      [0, 10, 35, 35, 60] := by decide +kernel
  rw [(begins_exactly_after_quiet (some (.cancelled 70))
    (fun _ => 15) 10 [0, 10, 22, 24, 58]
    (by decide)).2.1 s, hheard]
  simp [QuietAfter, Ending.time]
  omega

example : ((start 10 [0, 2, 4, 6, 8]).run none fun _ => 0).begun = [18] := by
  decide +kernel

end QueryGate.Reload.Vigil
