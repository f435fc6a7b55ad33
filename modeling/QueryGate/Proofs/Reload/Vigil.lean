import Mathlib.Order.Basic
import QueryGate.Reload.Background

/-!
One who waits for quiet.

Events are received one after the other, each of them sets the timer anew, and an
action begins when the timer runs out. An action takes its time, and what is sent
meanwhile is received at its end. Of what is ready at one time, being told to stop
comes first, then an event, then the end of sending, and last the timer. The watcher
of a session is one of these, whose actions take no time.
-/

namespace QueryGate.Reload

/-- What brings the waiting to an end. When one is told to stop, what was sent and
not received is left. When nobody sends any more, what was sent before is still
received. -/
inductive Ending where
  | cancelled (time : Nat)
  | closed (time : Nat)
deriving DecidableEq, Repr

namespace Ending

def time : Ending → Nat
  | cancelled time => time
  | closed time => time

/-- One was told to stop by a given time. -/
def Stops : Ending → Nat → Prop
  | cancelled time, now => time ≤ now
  | closed _, _ => False

/-- Events can be sent at a given time. -/
def Sends : Ending → Nat → Prop
  | cancelled _, _ => True
  | closed time, sent => sent ≤ time

/-- An event that is sent at one time and would be received at another is not
received any more. -/
def Misses : Ending → Nat → Nat → Prop
  | cancelled time, _, received => time ≤ received
  | closed time, sent, _ => time < sent

instance : (ending : Ending) → (now : Nat) → Decidable (ending.Stops now)
  | cancelled time, now => inferInstanceAs (Decidable (time ≤ now))
  | closed _, _ => inferInstanceAs (Decidable False)

instance : (ending : Ending) → (sent : Nat) → Decidable (ending.Sends sent)
  | cancelled _, _ => inferInstanceAs (Decidable True)
  | closed time, sent => inferInstanceAs (Decidable (sent ≤ time))

theorem time_le_of_stops {ending : Ending} {now : Nat} (h : ending.Stops now) :
    ending.time ≤ now := by
  cases ending with
  | cancelled time => exact h
  | closed time => exact h.elim

/-- An event is missed because one was told to stop before, or because it could not
be sent. -/
theorem misses_iff {ending : Ending} {sent received : Nat} :
    ending.Misses sent received ↔ ending.Stops received ∨ ¬ending.Sends sent := by
  cases ending with
  | cancelled time => simp [Misses, Stops, Sends]
  | closed time => simp [Misses, Stops, Sends]

/-- What is sent later is missed too. -/
theorem Misses.mono {e : Ending} {sent later received after : Nat}
    (h : e.Misses sent received) (hsent : sent ≤ later)
    (hreceived : received ≤ after) : e.Misses later after := by
  cases e with
  | cancelled time => exact Nat.le_trans h hreceived
  | closed time => exact Nat.lt_of_lt_of_le h hsent

end Ending

/-- One who waits for quiet: when the events are sent that were not received yet,
when events were received, and when actions began. -/
structure Vigil where
  timer : Debouncer
  now : Nat
  coming : List Nat
  heard : List Nat
  begun : List Nat
deriving DecidableEq, Repr

namespace Vigil

/-- What one does next, and when. -/
inductive Turn where
  | hear (time : Nat)
  | act (time : Nat)
deriving DecidableEq, Repr

/-- One who waits for events that are sent at given times. -/
def start (window : Nat) (sent : List Nat) : Vigil :=
  ⟨.idle window, 0, sent, [], []⟩

/-- The next time at which anything is ready. -/
def wake? (ending : Option Ending) (v : Vigil) : Option Nat :=
  (((ending.map Ending.time).toList ++ v.coming.head?.toList ++
    v.timer.due.toList).min?).map
    (max v.now)

/-- What one does next, unless one has come to the end or has nothing to wait
for. -/
def turn? (ending : Option Ending) (v : Vigil) : Option Turn :=
  (v.wake? ending).bind fun time =>
    if ∃ e ∈ ending, e.Stops time then none
    else if ∃ sent ∈ v.coming.head?, sent ≤ time ∧ ∀ e ∈ ending, e.Sends sent then
      some (.hear time)
    else if ∃ e ∈ ending, e.time ≤ time then none
    else (v.timer.dueBy? time).map fun _ => .act time

/-- What comes of a turn, where `duration` tells how long an action takes that
begins at a time. -/
def take (duration : Nat → Nat) (v : Vigil) : Turn → Vigil
  | .hear time =>
      { v with
        timer := v.timer.event time
        now := time
        coming := v.coming.tail
        heard := v.heard ++ [time] }
  | .act time =>
      { v with
        timer := v.timer.clear
        now := time + duration time
        begun := v.begun ++ [time] }

/-- What is left to do: every event is to be received, and may set the timer. -/
def backlog (v : Vigil) : Nat :=
  2 * v.coming.length + v.timer.due.toList.length

section Turns

variable {ending : Option Ending} {duration : Nat → Nat} {v : Vigil} {time : Nat}

/-- One wakes at the earliest time at which anything is ready, and not in the
past. -/
theorem wake?_eq_some_iff :
    v.wake? ending = some time ↔
      ∃ moment, ((moment ∈ ending.map Ending.time ∨ moment ∈ v.coming.head?) ∨
          moment ∈ v.timer.due) ∧
        ((∀ e ∈ ending, moment ≤ e.time) ∧ ∀ sent ∈ v.coming.head?, moment ≤ sent) ∧
        (∀ due ∈ v.timer.due, moment ≤ due) ∧ max v.now moment = time := by
  simp only [wake?, Option.map_eq_some_iff, List.min?_eq_some_iff, List.mem_append,
    Option.mem_toList, or_imp, forall_and, and_assoc]
  simp

theorem wake?_eq_none_iff :
    v.wake? ending = none ↔ ending = none ∧ v.coming = [] ∧ v.timer.due = none := by
  simp [wake?, List.min?_eq_none_iff]

/-- All that can come of a turn. -/
inductive Comes (ending : Option Ending) (duration : Nat → Nat)
    (v : Vigil) : Vigil → Prop
  | heard {sent : Nat} {rest : List Nat} (hcoming : v.coming = sent :: rest)
      (hfirst : ∀ due ∈ v.timer.due, max v.now sent ≤ max v.now due)
      (hmissed : ∀ e ∈ ending, ¬e.Misses sent (max v.now sent)) :
      Comes ending duration v
        { v with
          timer := v.timer.event (max v.now sent)
          now := max v.now sent
          coming := rest
          heard := v.heard ++ [max v.now sent] }
  | began {due : Nat} (hdue : v.timer.due = some due)
      (hfirst : ∀ sent ∈ v.coming.head?, max v.now due < sent)
      (hended : ∀ e ∈ ending, max v.now due < e.time) :
      Comes ending duration v
        { v with
          timer := v.timer.clear
          now := max v.now due + duration (max v.now due)
          begun := v.begun ++ [max v.now due] }

theorem comes_of_turn? (duration : Nat → Nat) {turn : Turn}
    (h : v.turn? ending = some turn) :
    v.Comes ending duration (v.take duration turn) := by
  rw [turn?, Option.bind_eq_some_iff] at h
  obtain ⟨time, hwake, h⟩ := h
  obtain ⟨moment, _, ⟨_, hsent⟩, hdue, htime⟩ := wake?_eq_some_iff.mp hwake
  by_cases hstops : ∃ e ∈ ending, e.Stops time
  · rw [if_pos hstops] at h
    cases h
  rw [if_neg hstops] at h
  by_cases hhears : ∃ sent ∈ v.coming.head?, sent ≤ time ∧
    ∀ e ∈ ending, e.Sends sent
  · rw [if_pos hhears] at h
    cases h
    obtain ⟨sent, hhead, hle, hsends⟩ := hhears
    obtain ⟨rest, hcoming⟩ := List.head?_eq_some_iff.mp hhead
    have hmoment := hsent sent hhead
    obtain rfl : time = max v.now sent := by omega
    rw [take, hcoming]
    refine .heard hcoming (fun due hmem => ?_) fun e he hmisses => ?_
    · have hlater := hdue due hmem
      omega
    · rcases Ending.misses_iff.mp hmisses with hstop | hunsent
      · exact hstops ⟨e, he, hstop⟩
      · exact hunsent (hsends e he)
  · rw [if_neg hhears] at h
    by_cases hended : ∃ e ∈ ending, e.time ≤ time
    · rw [if_pos hended] at h
      cases h
    rw [if_neg hended, Option.map_eq_some_iff] at h
    obtain ⟨due, hover, rfl⟩ := h
    rw [Debouncer.dueBy?, Option.filter_eq_some_iff, decide_eq_true_eq] at hover
    have hmoment := hdue due hover.1
    obtain rfl : time = max v.now due := by omega
    refine .began hover.1 (fun sent hhead => ?_) fun e he => ?_
    · by_contra hle
      refine hhears ⟨sent, hhead, by omega, fun e he => ?_⟩
      -- What cannot be sent is past the end, and the end has not come yet.
      have hopen : ¬e.time ≤ max v.now due := fun hpast => hended ⟨e, he, hpast⟩
      cases e with
      | cancelled time => trivial
      | closed time =>
          show sent ≤ time
          simp only [Ending.time] at hopen
          omega
    · exact Nat.lt_of_not_le fun hpast => hended ⟨e, he, hpast⟩

/-- One does nothing any more only when the end has come, or when there is nothing
to wait for. -/
theorem rests_of_turn?_eq_none (h : v.turn? ending = none) :
    (∀ due ∈ v.timer.due, ∃ e ∈ ending, e.time ≤ max v.now due) ∧
      ∀ sent ∈ v.coming.head?, ∃ e ∈ ending, e.Misses sent (max v.now sent) := by
  rw [turn?, Option.bind_eq_none_iff] at h
  cases hwake : v.wake? ending with
  | none =>
      obtain ⟨_, hcoming, hdue⟩ := wake?_eq_none_iff.mp hwake
      simp [hcoming, hdue]
  | some time =>
      have h := h time hwake
      obtain ⟨moment, hmoment, ⟨hend, hsent⟩, hdue, htime⟩ :=
        wake?_eq_some_iff.mp hwake
      have hunheard : (∃ e ∈ ending, e.Stops time) ∨
          ¬∃ sent ∈ v.coming.head?, sent ≤ time ∧ ∀ e ∈ ending, e.Sends sent := by
        by_contra hboth
        obtain ⟨hstops, hhears⟩ := not_or.mp hboth
        rw [if_neg hstops, if_pos (not_not.mp hhears)] at h
        cases h
      have hpast : ∃ e ∈ ending, e.time ≤ time := by
        by_contra hopen
        have hstops : ¬∃ e ∈ ending, e.Stops time :=
          fun ⟨e, he, hstop⟩ => hopen ⟨e, he, Ending.time_le_of_stops hstop⟩
        have hhears := hunheard.resolve_left hstops
        rw [if_neg hstops, if_neg hhears, if_neg hopen, Option.map_eq_none_iff,
          Debouncer.dueBy?, Option.filter_eq_none_iff] at h
        -- So what is ready at first is neither the end, nor an event, nor the
        -- timer.
        rcases hmoment with (hready | hready) | hready
        · obtain ⟨e, he, rfl⟩ := Option.map_eq_some_iff.mp hready
          exact hopen ⟨e, he, by omega⟩
        · refine hhears ⟨moment, hready, by omega, fun e he => ?_⟩
          cases e with
          | cancelled limit => trivial
          | closed limit => exact hend _ he
        · refine h moment hready ?_
          rw [decide_eq_true_eq]
          omega
      obtain ⟨e, he, hover⟩ := hpast
      refine ⟨fun due hmem => ⟨e, he, ?_⟩, fun sent hhead => ⟨e, he, ?_⟩⟩
      · have hle := hdue due hmem
        omega
      · have hle := hsent sent hhead
        cases e with
        | cancelled limit =>
            simp only [Ending.time] at hover
            show limit ≤ max v.now sent
            omega
        | closed limit =>
            -- What could be sent would have been received.
            show limit < sent
            rw [Option.mem_def.mp he] at hunheard
            simp only [Ending.time] at hover
            by_contra hsends
            have hhears := hunheard.resolve_left (by simp [Ending.Stops])
            refine hhears ⟨sent, hhead, by omega, fun e he => ?_⟩
            cases he
            exact Nat.le_of_not_lt hsends

/-- Every turn leaves less to do. -/
theorem Comes.backlog_lt {v' : Vigil} (h : v.Comes ending duration v') :
    v'.backlog < v.backlog := by
  cases h with
  | heard hcoming _ _ =>
      simp [backlog, hcoming, Debouncer.event]
      omega
  | began hdue _ _ => simp [backlog, hdue, Debouncer.clear]

end Turns

/-- All that one does, one turn after the other. -/
def run (ending : Option Ending) (duration : Nat → Nat) (v : Vigil) : Vigil :=
  match _h : v.turn? ending with
  | some turn => run ending duration (v.take duration turn)
  | none => v
termination_by v.backlog
decreasing_by exact (comes_of_turn? duration _h).backlog_lt

end Vigil

end QueryGate.Reload
