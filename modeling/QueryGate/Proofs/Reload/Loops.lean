import QueryGate.Proofs.Reload.Lookout

/-!
When the loops of the poller and the watcher act.

A loop that waits acts as soon as its time has come: time passes only while neither
loop has anything to do at once. What it does may take long, and the other loop goes
on meanwhile. The loops remember when they began and ended what they did, but not
what came of it. So whatever they do, the times at which they begin follow from the
interval of the poller, the window of the watcher, the changes, and how long
everything took.
-/

namespace QueryGate.Reload

/-- What a loop remembers. A change is noticed when it is signalled and a message
sent, and heard when the message is received. -/
inductive Deed where
  | noticed
  | heard
  | began (duty : Duty)
  | ended (duty : Duty)
  | cancelled
deriving DecidableEq, Repr

structure Entry where
  time : Nat
  deed : Deed
deriving DecidableEq, Repr

/-- The loops of the poller and the watcher. What was done is logged, latest first.
-/
structure Loops where
  poller : Option Poller
  inbox : Inbox
  timer : Debouncer
  phase : Duty → Phase
  now : Nat
  cancelled : Bool
  log : List Entry

/-- What can happen to the loops. -/
inductive Beat where
  | signal (signal : Signal)
  | pass (time : Nat)
  | receive
  | begin (duty : Duty)
  | finish (duty : Duty)
  | leave (duty : Duty)
  | cancel
deriving DecidableEq, Repr

/-- The poller after a tick. A tick that is late by more than some slack puts off
the next ones. -/
def Poller.tick (poller : Poller) (slack now : Nat) : Poller :=
  { poller with
    due :=
      (if now ≤ poller.due + slack then poller.due else now) + poller.interval }

/-- How many actions are under way. -/
def Phase.underway : Phase → Nat
  | .acting => 1
  | _ => 0

namespace Loops

/-- When a loop has to act, as far as it knows. -/
def due? (loops : Loops) : Duty → Option Nat
  | .checkSchema => loops.poller.map Poller.due
  | .reload => loops.timer.due

/-- The messages that a loop has not received yet. -/
def messages (loops : Loops) : Duty → Nat
  | .checkSchema => 0
  | .reload => loops.inbox.waiting

/-- A loop waits, and nobody has told it to stop. -/
def Listens (loops : Loops) (duty : Duty) : Prop :=
  loops.phase duty = .waiting ∧ loops.cancelled = false

instance (loops : Loops) (duty : Duty) : Decidable (loops.Listens duty) :=
  inferInstanceAs (Decidable (_ ∧ _))

/-- A loop is about to act. Cancellation and messages come first. -/
def Ready (loops : Loops) (duty : Duty) : Prop :=
  loops.Listens duty ∧ loops.messages duty = 0 ∧
    ∃ due ∈ loops.due? duty, due ≤ loops.now

instance (loops : Loops) (duty : Duty) : Decidable (loops.Ready duty) :=
  inferInstanceAs (Decidable (_ ∧ _))

/-- If a loop waits, it has nothing to do for some time. -/
def Rests (loops : Loops) (time : Nat) (duty : Duty) : Prop :=
  loops.phase duty = .waiting →
    loops.cancelled = false ∧ loops.messages duty = 0 ∧
      ∀ due ∈ loops.due? duty, loops.now + time ≤ due

instance (loops : Loops) (time : Nat) (duty : Duty) :
    Decidable (loops.Rests time duty) :=
  inferInstanceAs (Decidable (_ → _))

/-- A loop sets the time for the next action when it begins one. -/
def engage (loops : Loops) (slack : Nat) : Duty → Loops
  | .checkSchema =>
      { loops with poller := loops.poller.map (·.tick slack loops.now) }
  | .reload => { loops with timer := loops.timer.clear }

def setPhase (loops : Loops) (duty : Duty) (phase : Phase) : Loops :=
  { loops with phase := fun other => if other = duty then phase
    else loops.phase other }

def note (loops : Loops) (deed : Deed) : Loops :=
  { loops with log := ⟨loops.now, deed⟩ :: loops.log }

/-- What comes of a beat, if it is possible. -/
def step (slack : Nat) (loops : Loops) : Beat → Option Loops
  | .signal signal =>
      some (if signal.counts then
          ({ loops with inbox := loops.inbox.offer }).note .noticed
        else loops)
  | .pass time =>
      if loops.Rests time .checkSchema ∧ loops.Rests time .reload then
        some { loops with now := loops.now + time }
      else none
  | .receive =>
      if loops.Listens .reload ∧ 0 < loops.inbox.waiting then
        some (({ loops with
          inbox := loops.inbox.take
          timer := loops.timer.event loops.now }).note .heard)
      else none
  | .begin duty =>
      if loops.Ready duty then
        some (((loops.engage slack duty).setPhase duty .acting).note (.began duty))
      else none
  | .finish duty =>
      if loops.phase duty = .acting then
        some ((loops.setPhase duty .waiting).note (.ended duty))
      else none
  | .leave duty =>
      if loops.phase duty = .waiting ∧ loops.cancelled = true then
        some (loops.setPhase duty .ended)
      else none
  | .cancel => some ({ loops with cancelled := true }.note .cancelled)

/-- What comes of beats, if they are possible one after the other. -/
def run? (slack : Nat) (loops : Loops) : List Beat → Option Loops
  | [] => some loops
  | beat :: rest => (loops.step slack beat).bind fun loops => loops.run? slack rest

/-- Loops that have just been started. -/
structure Fresh (loops : Loops) : Prop where
  log : loops.log = []
  quiet : loops.timer.due = none
  empty : loops.inbox.waiting = 0
  uncancelled : loops.cancelled = false
  idle : ∀ duty, loops.phase duty ≠ .acting
  early : ∀ poller, loops.poller = some poller → loops.now ≤ poller.due

end Loops

namespace Log

/-- The next tick of a poller. -/
def tick (slack : Nat) (poller : Poller) : List Entry → Nat
  | [] => poller.due
  | ⟨time, .began .checkSchema⟩ :: older =>
      (if time ≤ tick slack poller older + slack
        then tick slack poller older else time) +
        poller.interval
  | _ :: older => tick slack poller older

/-- When a loop last ended what it did. -/
def free (duty : Duty) : List Entry → Nat
  | [] => 0
  | ⟨time, deed⟩ :: older => if deed = .ended duty then time else free duty older

/-- The end of the window that is under way: it began with the last message. -/
def windowEnd (window : Nat) : List Entry → Option Nat
  | [] => none
  | ⟨time, .heard⟩ :: _ => some (time + window)
  | ⟨_, .began .reload⟩ :: _ => none
  | _ :: older => windowEnd window older

/-- When there was last something for the watcher to receive: a change was
signalled, or an action ended, during which changes may have been. -/
def stirred : List Entry → Option Nat
  | [] => none
  | ⟨time, .noticed⟩ :: _ => some time
  | ⟨time, .ended .reload⟩ :: _ => some time
  | _ :: older => stirred older

/-- How often something was done. -/
def times (deed : Deed) (log : List Entry) : Nat :=
  log.countP (·.deed = deed)

@[simp] theorem times_nil (deed : Deed) : times deed [] = 0 :=
  rfl

@[simp] theorem times_cons (deed : Deed) (entry : Entry) (log : List Entry) :
    times deed (entry :: log) = times deed log + if entry.deed = deed
      then 1 else 0 := by
  simp [times, List.countP_cons]

end Log

/-- What the poller and the watcher are like when they are started. -/
structure Habits where
  slack : Nat
  poller : Option Poller
  window : Nat

/-- The habits of loops that have just been started. -/
def Loops.habits (first : Loops) (slack : Nat) : Habits :=
  ⟨slack, first.poller, first.timer.window⟩

/-- Why an entry is in the log, after those before it. A check begins at its tick,
or at the end of the check before it when that one took longer. A reload begins at
the end of its window. A message is received once it was sent, or at the end of the
reload that was under way then. Nothing of this is done after cancellation. -/
def Entry.Follows (habits : Habits) (entry : Entry) (older : List Entry) : Prop :=
  match entry.deed with
  | .began .checkSchema =>
      (∃ poller, habits.poller = some poller ∧ entry.time =
        max (Log.tick habits.slack poller older) (Log.free .checkSchema older)) ∧
      Log.times .cancelled older = 0
  | .began .reload =>
      Log.windowEnd habits.window older = some entry.time ∧
        Log.times .cancelled older = 0
  | .heard => Log.stirred older = some entry.time ∧ Log.times .cancelled older = 0
  | _ => True

/-- Every entry of a log follows from those before it. -/
def Lawful (habits : Habits) (log : List Entry) : Prop :=
  ∀ entry older, entry :: older <:+ log → entry.Follows habits older

theorem Lawful.cons {habits : Habits} {entry : Entry} {log : List Entry}
    (h : Lawful habits log) (hentry : entry.Follows habits log) :
    Lawful habits (entry :: log) := by
  intro other older hsuffix
  rcases List.suffix_cons_iff.mp hsuffix with hsame | hsuffix
  · cases hsame
    exact hentry
  · exact h other older hsuffix

namespace Loops

section Beats

variable {slack : Nat} {loops loops' : Loops} {beat : Beat}

/-- All that a beat can do. -/
inductive Comes (slack : Nat) (loops : Loops) : Beat → Loops → Prop
  | unmoved {signal : Signal} (h : signal.counts = false) :
      Comes slack loops (.signal signal) loops
  | noticed {signal : Signal} (h : signal.counts = true) :
      Comes slack loops (.signal signal)
        (({ loops with inbox := loops.inbox.offer }).note .noticed)
  | passed {time : Nat} (h : ∀ duty, loops.Rests time duty) :
      Comes slack loops (.pass time) { loops with now := loops.now + time }
  | heard (hlistens : loops.Listens .reload) (hwaiting : 0 < loops.inbox.waiting) :
      Comes slack loops .receive
        (({ loops with
          inbox := loops.inbox.take
          timer := loops.timer.event loops.now }).note .heard)
  | began {duty : Duty} (hready : loops.Ready duty) :
      Comes slack loops (.begin duty)
        (((loops.engage slack duty).setPhase duty .acting).note (.began duty))
  | ended {duty : Duty} (hacting : loops.phase duty = .acting) :
      Comes slack loops (.finish duty)
        ((loops.setPhase duty .waiting).note (.ended duty))
  | left {duty : Duty} (hwaiting : loops.phase duty = .waiting)
      (hcancelled : loops.cancelled = true) :
      Comes slack loops (.leave duty) (loops.setPhase duty .ended)
  | cancelled : Comes slack loops .cancel
      ({ loops with cancelled := true }.note .cancelled)

theorem comes_of_step (h : loops.step slack beat = some loops') :
    loops.Comes slack beat loops' := by
  cases beat with
  | signal signal =>
      cases hcounts : signal.counts with
      | true =>
          rw [step, hcounts, if_pos rfl, Option.some.injEq] at h
          rw [← h]
          exact .noticed hcounts
      | false =>
          rw [step, hcounts, if_neg Bool.false_ne_true, Option.some.injEq] at h
          rw [← h]
          exact .unmoved hcounts
  | cancel =>
      cases h
      exact .cancelled
  | pass time =>
      simp only [step, Option.ite_none_right_eq_some, Option.some.injEq] at h
      obtain ⟨⟨hcheck, hreload⟩, rfl⟩ := h
      exact .passed fun duty => by cases duty <;> assumption
  | receive =>
      simp only [step, Option.ite_none_right_eq_some, Option.some.injEq] at h
      obtain ⟨⟨hlistens, hwaiting⟩, rfl⟩ := h
      exact .heard hlistens hwaiting
  | begin duty =>
      simp only [step, Option.ite_none_right_eq_some, Option.some.injEq] at h
      obtain ⟨hready, rfl⟩ := h
      exact .began hready
  | finish duty =>
      simp only [step, Option.ite_none_right_eq_some, Option.some.injEq] at h
      obtain ⟨hacting, rfl⟩ := h
      exact .ended hacting
  | leave duty =>
      simp only [step, Option.ite_none_right_eq_some, Option.some.injEq] at h
      obtain ⟨⟨hwaiting, hcancelled⟩, rfl⟩ := h
      exact .left hwaiting hcancelled

/-- What holds of loops with some habits, whatever was done. A poller that waits is
not behind: its tick is still to come, or it has just ended a check. Nor is a
watcher that waits: its window is not over, and when there are messages it has just
been sent them, or has just ended a reload. There is no window while a reload is
under way. What began has ended, unless it is under way. -/
structure Kept (habits : Habits) (loops : Loops) : Prop where
  poller : loops.poller = habits.poller.map fun poller =>
    { poller with due := Log.tick habits.slack poller loops.log }
  timer : loops.timer = ⟨habits.window, Log.windowEnd habits.window loops.log⟩
  cancelled : loops.cancelled = true ↔ 0 < Log.times .cancelled loops.log
  past : ∀ entry ∈ loops.log, entry.time ≤ loops.now
  punctual : loops.phase .checkSchema = .waiting →
    ∀ poller ∈ habits.poller, loops.now ≤
    max (Log.tick habits.slack poller loops.log) (Log.free .checkSchema loops.log)
  patient : loops.phase .reload = .waiting →
    ∀ due ∈ Log.windowEnd habits.window loops.log, loops.now ≤ due
  disarmed : loops.phase .reload = .acting →
    Log.windowEnd habits.window loops.log = none
  attentive : loops.phase .reload = .waiting → 0 < loops.inbox.waiting →
    Log.stirred loops.log = some loops.now
  rounds : ∀ duty, Log.times (.began duty) loops.log =
    Log.times (.ended duty) loops.log + (loops.phase duty).underway

theorem free_le {now : Nat} {duty : Duty} {log : List Entry}
    (h : ∀ entry ∈ log, entry.time ≤ now) : Log.free duty log ≤ now := by
  induction log with
  | nil => exact Nat.zero_le now
  | cons entry log ih =>
      rw [List.forall_mem_cons] at h
      unfold Log.free
      split
      · exact h.1
      · exact ih h.2

variable {habits : Habits}

/-- What is noted at the present moment does not lie in the future. -/
theorem past_note (h : ∀ entry ∈ loops.log, entry.time ≤ loops.now) (deed : Deed) :
    ∀ entry ∈ (loops.note deed).log, entry.time ≤ (loops.note deed).now :=
  List.forall_mem_cons.mpr ⟨Nat.le_refl loops.now, h⟩

/-- A loop that begins has one more round than it has ended. -/
theorem rounds_began {duty : Duty} (hwaiting : loops.phase duty = .waiting)
    (h : ∀ other, Log.times (.began other) loops.log =
      Log.times (.ended other) loops.log + (loops.phase other).underway)
        (other : Duty) :
    Log.times (.began other) (⟨loops.now, .began duty⟩ :: loops.log) =
      Log.times (.ended other) (⟨loops.now, .began duty⟩ :: loops.log) +
        (if other = duty then .acting else loops.phase other).underway := by
  have hother := h other
  by_cases hsame : other = duty
  · rw [hsame, hwaiting] at hother
    simp [hsame, hother, Phase.underway]
  · simp [hsame, Ne.symm hsame, hother]

/-- A loop that ends a round has ended all that it began. -/
theorem rounds_ended {duty : Duty} (hacting : loops.phase duty = .acting)
    (h : ∀ other, Log.times (.began other) loops.log =
      Log.times (.ended other) loops.log + (loops.phase other).underway)
        (other : Duty) :
    Log.times (.began other) (⟨loops.now, .ended duty⟩ :: loops.log) =
      Log.times (.ended other) (⟨loops.now, .ended duty⟩ :: loops.log) +
        (if other = duty then .waiting else loops.phase other).underway := by
  have hother := h other
  by_cases hsame : other = duty
  · rw [hsame, hacting] at hother
    simp [hsame, hother, Phase.underway]
  · simp [hsame, Ne.symm hsame, hother]

namespace Kept

theorem noticed (h : loops.Kept habits) :
    (({ loops with inbox := loops.inbox.offer }).note .noticed).Kept habits where
  poller := by simpa [note, Log.tick] using h.poller
  timer := by simpa [note, Log.windowEnd] using h.timer
  cancelled := by simpa [note] using h.cancelled
  past := past_note h.past .noticed
  punctual := by simpa [note, Log.tick, Log.free] using h.punctual
  patient := by simpa [note, Log.windowEnd] using h.patient
  disarmed := by simpa [note, Log.windowEnd] using h.disarmed
  attentive := fun _ _ => rfl
  rounds := by simpa [note] using h.rounds

theorem passed {time : Nat} (h : loops.Kept habits)
    (hrests : ∀ duty, loops.Rests time duty) :
    ({ loops with now := loops.now + time } : Loops).Kept habits where
  poller := h.poller
  timer := h.timer
  cancelled := h.cancelled
  past := fun entry hentry => Nat.le_add_right_of_le (h.past entry hentry)
  punctual := by
    intro hwaiting poller hpoller
    obtain ⟨_, _, hdue⟩ := hrests .checkSchema hwaiting
    have hlater := hdue _ (by rw [due?, h.poller, Option.mem_def.mp hpoller]; rfl)
    exact Nat.le_trans hlater (Nat.le_max_left _ _)
  patient := by
    intro hwaiting due hdue
    obtain ⟨_, _, hlater⟩ := hrests .reload hwaiting
    exact hlater due (by rw [due?, h.timer]; exact hdue)
  disarmed := h.disarmed
  attentive := by
    intro hwaiting hmessages
    obtain ⟨_, hnone, _⟩ := hrests .reload hwaiting
    exact absurd hnone (Nat.ne_of_gt hmessages)
  rounds := h.rounds

theorem heard (h : loops.Kept habits) (hlistens : loops.Listens .reload)
    (hwaiting : 0 < loops.inbox.waiting) :
    (({ loops with
      inbox := loops.inbox.take
      timer := loops.timer.event loops.now }).note .heard).Kept habits where
  poller := by simpa [note, Log.tick] using h.poller
  timer := by simp [note, Log.windowEnd, Debouncer.event, h.timer]
  cancelled := by simpa [note] using h.cancelled
  past := past_note h.past .heard
  punctual := by simpa [note, Log.tick, Log.free] using h.punctual
  patient := by simp [note, Log.windowEnd]
  disarmed := by simp [note, hlistens.1]
  attentive := by
    intro _ _
    simpa [note, Log.stirred] using h.attentive hlistens.1 hwaiting
  rounds := by simpa [note] using h.rounds

theorem beganCheck (h : loops.Kept habits)
    (hwaiting : loops.phase .checkSchema = .waiting) :
    (((loops.engage habits.slack .checkSchema).setPhase .checkSchema .acting).note
      (.began .checkSchema)).Kept habits where
  poller := by
    cases hpoller : habits.poller <;>
      simp [note, setPhase, engage, h.poller, hpoller, Poller.tick, Log.tick]
  timer := by simpa [note, setPhase, engage, Log.windowEnd] using h.timer
  cancelled := by simpa [note, setPhase, engage] using h.cancelled
  past := past_note h.past _
  punctual := by simp [note, setPhase]
  patient := by simpa [note, setPhase, engage, Log.windowEnd] using h.patient
  disarmed := by simpa [note, setPhase, engage, Log.windowEnd] using h.disarmed
  attentive := by simpa [note, setPhase, engage, Log.stirred] using h.attentive
  rounds := rounds_began hwaiting h.rounds

theorem beganReload (h : loops.Kept habits)
    (hwaiting : loops.phase .reload = .waiting) :
    (((loops.engage habits.slack .reload).setPhase .reload .acting).note
      (.began .reload)).Kept habits where
  poller := by simpa [note, setPhase, engage, Log.tick] using h.poller
  timer := by simp [note, setPhase, engage, Log.windowEnd, h.timer, Debouncer.clear]
  cancelled := by simpa [note, setPhase, engage] using h.cancelled
  past := past_note h.past _
  punctual := by simpa [note, setPhase, engage, Log.tick, Log.free] using h.punctual
  patient := by simp [note, setPhase]
  disarmed := fun _ => rfl
  attentive := by simp [note, setPhase]
  rounds := rounds_began hwaiting h.rounds

theorem endedCheck (h : loops.Kept habits)
    (hacting : loops.phase .checkSchema = .acting) :
    ((loops.setPhase .checkSchema .waiting).note (.ended .checkSchema)).Kept
      habits where
  poller := by simpa [note, setPhase, Log.tick] using h.poller
  timer := by simpa [note, setPhase, Log.windowEnd] using h.timer
  cancelled := by simpa [note, setPhase] using h.cancelled
  past := past_note h.past _
  punctual := fun _ _ _ => by
    rw [note, Log.free, if_pos rfl]
    exact Nat.le_max_right _ _
  patient := by simpa [note, setPhase, Log.windowEnd] using h.patient
  disarmed := by simpa [note, setPhase, Log.windowEnd] using h.disarmed
  attentive := by simpa [note, setPhase, Log.stirred] using h.attentive
  rounds := rounds_ended hacting h.rounds

theorem endedReload (h : loops.Kept habits)
    (hacting : loops.phase .reload = .acting) :
    ((loops.setPhase .reload .waiting).note (.ended .reload)).Kept habits where
  poller := by simpa [note, setPhase, Log.tick] using h.poller
  timer := by simpa [note, setPhase, Log.windowEnd] using h.timer
  cancelled := by simpa [note, setPhase] using h.cancelled
  past := past_note h.past _
  punctual := by simpa [note, setPhase, Log.tick, Log.free] using h.punctual
  patient := by simp [note, Log.windowEnd, setPhase, h.disarmed hacting]
  disarmed := by simp [note, setPhase]
  attentive := fun _ _ => rfl
  rounds := rounds_ended hacting h.rounds

theorem left {duty : Duty} (h : loops.Kept habits)
    (hwaiting : loops.phase duty = .waiting) :
    (loops.setPhase duty .ended).Kept habits where
  poller := h.poller
  timer := h.timer
  cancelled := h.cancelled
  past := h.past
  punctual := by
    cases duty with
    | checkSchema => simp [setPhase]
    | reload => simpa [setPhase] using h.punctual
  patient := by
    cases duty with
    | checkSchema => simpa [setPhase] using h.patient
    | reload => simp [setPhase]
  disarmed := by
    cases duty with
    | checkSchema => simpa [setPhase] using h.disarmed
    | reload => simp [setPhase]
  attentive := by
    cases duty with
    | checkSchema => simpa [setPhase] using h.attentive
    | reload => simp [setPhase]
  rounds := by
    intro other
    have hother := h.rounds other
    by_cases hsame : other = duty
    · rw [hsame, hwaiting] at hother
      simp [setPhase, hsame, hother, Phase.underway]
    · simp [setPhase, hsame, hother]

theorem cancel (h : loops.Kept habits) :
    ({ loops with cancelled := true }.note .cancelled).Kept habits where
  poller := by simpa [note, Log.tick] using h.poller
  timer := by simpa [note, Log.windowEnd] using h.timer
  cancelled := by simp [note]
  past := past_note h.past _
  punctual := by simpa [note, Log.tick, Log.free] using h.punctual
  patient := by simpa [note, Log.windowEnd] using h.patient
  disarmed := by simpa [note, Log.windowEnd] using h.disarmed
  attentive := by simpa [note, Log.stirred] using h.attentive
  rounds := by simpa [note] using h.rounds

theorem comes (h : loops.Kept habits)
    (hcomes : loops.Comes habits.slack beat loops') : loops'.Kept habits := by
  cases hcomes with
  | unmoved _ => exact h
  | noticed _ => exact h.noticed
  | passed hrests => exact h.passed hrests
  | heard hlistens hwaiting => exact h.heard hlistens hwaiting
  | @began duty hready =>
      cases duty with
      | checkSchema => exact h.beganCheck hready.1.1
      | reload => exact h.beganReload hready.1.1
  | @ended duty hacting =>
      cases duty with
      | checkSchema => exact h.endedCheck hacting
      | reload => exact h.endedReload hacting
  | left hwaiting _ => exact h.left hwaiting
  | cancelled => exact h.cancel

end Kept

theorem Kept.uncancelled (h : loops.Kept habits)
    (hcancelled : loops.cancelled = false) :
    Log.times .cancelled loops.log = 0 := by
  have hiff := h.cancelled
  rw [hcancelled] at hiff
  simpa using hiff

/-- Whatever a beat adds to the log follows from what is there. -/
theorem Kept.lawful (h : loops.Kept habits) (hlawful : Lawful habits loops.log)
    (hcomes : loops.Comes habits.slack beat loops') : Lawful habits loops'.log := by
  cases hcomes with
  | unmoved _ => exact hlawful
  | noticed _ => exact hlawful.cons trivial
  | passed _ => exact hlawful
  | heard hlistens hwaiting =>
      exact hlawful.cons ⟨h.attentive hlistens.1 hwaiting, h.uncancelled hlistens.2⟩
  | @began duty hready =>
      obtain ⟨⟨hwaiting, huncancelled⟩, _, due, hdue, hnow⟩ := hready
      have hnone := h.uncancelled huncancelled
      cases duty with
      | checkSchema =>
          rw [due?, h.poller, Option.map_map, Option.mem_def,
            Option.map_eq_some_iff] at hdue
          obtain ⟨poller, hpoller, rfl⟩ := hdue
          refine hlawful.cons ⟨⟨poller, hpoller, ?_⟩, hnone⟩
          exact Nat.le_antisymm (h.punctual hwaiting poller hpoller)
            (Nat.max_le.mpr ⟨hnow, free_le h.past⟩)
      | reload =>
          rw [due?, h.timer] at hdue
          refine hlawful.cons ⟨?_, hnone⟩
          show Log.windowEnd habits.window loops.log = some loops.now
          rw [Nat.le_antisymm (h.patient hwaiting due hdue) hnow]
          exact hdue
  | ended _ => exact hlawful.cons trivial
  | left _ _ => exact hlawful
  | cancelled => exact hlawful.cons trivial

end Beats

/-- What can be relied on after any beats of loops that were just started. A loop
goes on until it is told to stop. -/
structure Regular (slack : Nat) (first loops : Loops) : Prop
    extends Kept (first.habits slack) loops where
  lawful : Lawful (first.habits slack) loops.log
  goes : ∀ duty, loops.phase duty = .ended → first.phase duty = .ended ∨
    loops.cancelled = true

variable {slack : Nat} {first loops loops' : Loops} {beat : Beat}

theorem Fresh.regular (h : first.Fresh) (slack : Nat) :
    first.Regular slack first where
  poller := by cases hpoller : first.poller <;>
    simp [habits, hpoller, h.log, Log.tick]
  timer := by
    rw [h.log, Log.windowEnd, ← h.quiet]
    rfl
  cancelled := by simp [h.uncancelled, h.log]
  past := by simp [h.log]
  punctual := fun _ poller hpoller => by
    rw [h.log]
    exact Nat.le_trans (h.early poller hpoller) (Nat.le_max_left _ _)
  patient := by simp [h.log, Log.windowEnd]
  disarmed := fun hacting => absurd hacting (h.idle .reload)
  attentive := by simp [h.empty]
  rounds := fun duty => by
    have hidle := h.idle duty
    cases hphase : first.phase duty with
    | acting => exact absurd hphase hidle
    | _ => simp [h.log, Phase.underway]
  lawful := by simp [Lawful, h.log]
  goes := fun _ hended => Or.inl hended

/-- Only the end of a round makes one more of them. -/
theorem times_ended_of_comes {duty : Duty}
    (hcomes : loops.Comes slack beat loops') :
    Log.times (.ended duty) loops'.log =
      Log.times (.ended duty) loops.log + if beat = .finish duty then 1 else 0 := by
  cases hcomes with
  | @began other _ => cases other <;> simp [note, setPhase, engage]
  | @ended other _ => simp [note, setPhase]
  | _ => simp [note, setPhase]

/-- A round begins only with such a beat, and not once the loops were told to
stop. -/
theorem times_began_of_comes {duty : Duty}
    (hcomes : loops.Comes slack beat loops') :
    Log.times (.began duty) loops'.log = Log.times (.began duty) loops.log +
      if beat = .begin duty ∧ loops.cancelled = false then 1 else 0 := by
  cases hcomes with
  | @began other hready => cases other <;> simp [note, setPhase, engage, hready.1.2]
  | @ended other _ => simp [note, setPhase]
  | _ => simp [note, setPhase]

/-- A round is under way from its beginning to its end. -/
theorem acting_of_comes {duty : Duty} (hcomes : loops.Comes slack beat loops') :
    loops'.phase duty = .acting ↔
      beat = .begin duty ∨ loops.phase duty = .acting ∧ beat ≠ .finish duty := by
  cases hcomes with
  | @began other hready =>
      by_cases hsame : duty = other
      · simp [note, setPhase, hsame]
      · cases other <;> simp [note, setPhase, engage, hsame, Ne.symm hsame]
  | @ended other _ =>
      by_cases hsame : duty = other
      · simp [note, setPhase, hsame]
      · simp [note, setPhase, hsame, Ne.symm hsame]
  | @left other hwaiting _ =>
      by_cases hsame : duty = other
      · simp [setPhase, hsame, hwaiting]
      · simp [setPhase, hsame]
  | _ => simp [note]

/-- A loop ends only when it leaves, and it leaves only when it was told to. -/
theorem ended_of_comes {duty : Duty} (hcomes : loops.Comes slack beat loops')
    (hended : loops'.phase duty = .ended) :
    loops.phase duty = .ended ∨ loops'.cancelled = true := by
  cases hcomes with
  | unmoved _ => exact Or.inl hended
  | noticed _ => exact Or.inl hended
  | passed _ => exact Or.inl hended
  | heard _ _ => exact Or.inl hended
  | @began other _ =>
      by_cases hsame : duty = other
      · simp [note, setPhase, hsame] at hended
      · cases other <;> exact Or.inl
          (by simpa [note, setPhase, engage, hsame] using hended)
  | @ended other _ =>
      by_cases hsame : duty = other
      · simp [note, setPhase, hsame] at hended
      · exact Or.inl (by simpa [note, setPhase, hsame] using hended)
  | left _ hcancelled => exact Or.inr hcancelled
  | cancelled => exact Or.inr rfl

theorem cancelled_of_comes (hcomes : loops.Comes slack beat loops')
    (hcancelled : loops.cancelled = true) : loops'.cancelled = true := by
  cases hcomes with
  | @began duty _ => cases duty <;> exact hcancelled
  | cancelled => rfl
  | _ => exact hcancelled

theorem Regular.step (h : first.Regular slack loops)
    (hstep : loops.step slack beat = some loops') : first.Regular slack loops' where
  toKept := h.toKept.comes (comes_of_step hstep)
  lawful := h.toKept.lawful h.lawful (comes_of_step hstep)
  goes := fun duty hended => by
    rcases ended_of_comes (comes_of_step hstep) hended with hbefore | hcancelled
    · exact (h.goes duty hbefore).imp_right
        (cancelled_of_comes (comes_of_step hstep))
    · exact Or.inr hcancelled

theorem Regular.run (h : first.Regular slack loops) {beats : List Beat}
    (hrun : loops.run? slack beats = some loops') : first.Regular slack loops' := by
  induction beats generalizing loops with
  | nil =>
      cases hrun
      exact h
  | cons beat rest ih =>
      rw [run?, Option.bind_eq_some_iff] at hrun
      obtain ⟨next, hstep, hrest⟩ := hrun
      exact ih (h.step hstep) hrest

/-- Loops that were told to stop begin nothing any more. -/
theorem times_began_of_run (hcancelled : loops.cancelled = true) {beats : List Beat}
    (hrun : loops.run? slack beats = some loops') (duty : Duty) :
    Log.times (.began duty) loops'.log = Log.times (.began duty) loops.log := by
  induction beats generalizing loops with
  | nil =>
      cases hrun
      rfl
  | cons beat rest ih =>
      rw [run?, Option.bind_eq_some_iff] at hrun
      obtain ⟨next, hstep, hrest⟩ := hrun
      have hcomes := comes_of_step hstep
      rw [ih (cancelled_of_comes hcomes hcancelled) hrest,
        times_began_of_comes hcomes, hcancelled, if_neg (by simp), Nat.add_zero]

end Loops

namespace Log

/-- How many windows have begun: a message begins one, unless another one is under
way. -/
def windows (window : Nat) : List Entry → Nat
  | [] => 0
  | ⟨_, .heard⟩ :: older =>
      windows window older + if (windowEnd window older).isNone then 1 else 0
  | _ :: older => windows window older

/-- A log without what was noted last is as lawful. -/
theorem lawful_of_cons {habits : Habits} {entry : Entry} {log : List Entry}
    (h : Lawful habits (entry :: log)) : Lawful habits log :=
  fun other older hother => h other older
    (hother.trans (List.suffix_cons entry log))

/-- There is one reload for each window, and no other. It begins when the window is
over. -/
theorem windows_eq {habits : Habits} {log : List Entry} (h : Lawful habits log) :
    windows habits.window log = times (.began .reload) log +
      (windowEnd habits.window log).toList.length := by
  induction log with
  | nil => rfl
  | cons entry log ih =>
      have hbefore := ih (lawful_of_cons h)
      have hfollows := h entry log List.suffix_rfl
      obtain ⟨time, deed⟩ := entry
      cases deed with
      | heard =>
          cases hend : windowEnd habits.window log <;>
            simp [windows, windowEnd, hend, hbefore]
      | began duty =>
          cases duty with
          | checkSchema => simpa [windows, windowEnd] using hbefore
          | reload =>
              rw [hfollows.1] at hbefore
              simpa [windows, windowEnd] using hbefore
      | noticed | ended duty | cancelled => simpa [windows, windowEnd] using hbefore

/-- When something began, earliest first. -/
def beginnings (duty : Duty) (log : List Entry) : List Nat :=
  (log.filter (·.deed = .began duty)).reverse.map Entry.time

/-- No check has taken longer than until the next tick. -/
def Quick (slack : Nat) (poller : Poller) (log : List Entry) : Prop :=
  ∀ time older, ⟨time, .ended .checkSchema⟩ :: older <:+ log →
    time ≤ tick slack poller older

/-- Checks that are quick begin at the ticks of the interval, and none of these is
left out. -/
theorem steady {slack window : Nat} {poller : Poller} {log : List Entry}
    (hlawful : Lawful ⟨slack, some poller, window⟩ log)
    (hquick : Quick slack poller log) :
    tick slack poller log = poller.due + times (.began .checkSchema) log *
      poller.interval ∧
      free .checkSchema log ≤ tick slack poller log ∧
      beginnings .checkSchema log =
        (List.range (times (.began .checkSchema) log)).map
        fun round => poller.due + round * poller.interval := by
  induction log with
  | nil => simp [tick, free, beginnings]
  | cons entry log ih =>
      obtain ⟨htick, hfree, hbeginnings⟩ := ih (lawful_of_cons hlawful)
        (fun time older hother => hquick time older
          (hother.trans (List.suffix_cons entry log)))
      have hfollows := hlawful entry log List.suffix_rfl
      have hended := fun time => hquick time log
      obtain ⟨time, deed⟩ := entry
      rw [beginnings] at hbeginnings
      cases deed with
      | began duty =>
          cases duty with
          | checkSchema =>
              -- The check before it had ended, so this one begins at its tick.
              obtain ⟨⟨_, hpoller, htime⟩, _⟩ := hfollows
              cases hpoller
              rw [Nat.max_eq_left hfree] at htime
              simp only at htime
              subst htime
              refine ⟨?_, ?_, ?_⟩
              · rw [tick, if_pos (Nat.le_add_right _ _), htick]
                simp [Nat.succ_mul, Nat.add_assoc]
              · rw [tick, if_pos (Nat.le_add_right _ _)]
                exact Nat.le_add_right_of_le (by simpa [free] using hfree)
              · simp [beginnings, hbeginnings, List.range_succ, htick]
          | reload =>
              exact ⟨by simpa [tick] using htick, by simpa [tick, free] using hfree,
                by simpa [beginnings] using hbeginnings⟩
      | ended duty =>
          cases duty with
          | checkSchema =>
              refine ⟨by simpa [tick] using htick, ?_, by simpa [beginnings]
                using hbeginnings⟩
              simpa [tick, free] using hended time List.suffix_rfl
          | reload =>
              exact ⟨by simpa [tick] using htick, by simpa [tick, free] using hfree,
                by simpa [beginnings] using hbeginnings⟩
      | noticed | heard | cancelled =>
          exact ⟨by simpa [tick] using htick, by simpa [tick, free] using hfree,
            by simpa [beginnings] using hbeginnings⟩

end Log

end QueryGate.Reload
