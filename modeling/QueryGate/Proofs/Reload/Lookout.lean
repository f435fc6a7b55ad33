import QueryGate.Reload.Background

/-!
Changes of a watched directory are not forgotten.

The platform signals a change at any time, also while a reload is under way. Each
signal sends a message, which is dropped when there is no room for it, and the one
who receives the messages waits for quiet and then acts. That a message was dropped
does no harm: there was no room because others were waiting, and one message is as
good as many. So whenever a change has not been acted upon, a message is waiting or
the timer is set, and what is left to do leads to an action.
-/

namespace QueryGate.Reload

open Engine

/-- Messages that wait to be received. They say nothing, so that they need only be
counted. -/
structure Inbox where
  capacity : Nat
  waiting : Nat
  capacity_pos : 0 < capacity
  waiting_le : waiting ≤ capacity

namespace Inbox

def empty (capacity : Nat) (h : 0 < capacity) : Inbox :=
  ⟨capacity, 0, h, Nat.zero_le capacity⟩

/-- Adds a message, or drops it where there is no room. -/
def offer (inbox : Inbox) : Inbox :=
  if h : inbox.waiting < inbox.capacity then
    { inbox with waiting := inbox.waiting + 1, waiting_le := h }
  else inbox

/-- Takes a message out. -/
def take (inbox : Inbox) : Inbox :=
  { inbox with
    waiting := inbox.waiting - 1
    waiting_le := Nat.le_trans (Nat.sub_le _ _) inbox.waiting_le }

@[simp] theorem waiting_take (inbox : Inbox) :
    inbox.take.waiting = inbox.waiting - 1 :=
  rfl

/-- A message is waiting after one was sent, whether or not that one was dropped. -/
theorem waiting_offer_pos (inbox : Inbox) : 0 < inbox.offer.waiting := by
  by_cases h : inbox.waiting < inbox.capacity
  · simp [offer, h]
  · have hpos := inbox.capacity_pos
    rw [offer, dif_neg h]
    omega

end Inbox

/-- What the platform signals. -/
inductive Signal where
  | accessed
  | changed
  | failed (reason : String)
deriving DecidableEq, Repr

/-- Whether something was changed. -/
def Signal.counts : Signal → Bool
  | .changed => true
  | _ => false

/-- What one is about. One who waits does so for messages or for the timer. -/
inductive Phase where
  | waiting
  | acting
  | ended
deriving DecidableEq, Repr

/-- One who waits for messages about changes, and acts after a time of quiet. Once
closed, no more messages can be sent. -/
structure Lookout where
  inbox : Inbox
  timer : Debouncer
  phase : Phase
  now : Nat
  cancelled : Bool
  closed : Bool

/-- What can happen. One acts when the time of quiet is over. -/
inductive Move where
  | signal (signal : Signal)
  | pass (time : Nat)
  | receive
  | act
  | finish
  | cancel
  | close
  | leave
deriving DecidableEq, Repr

namespace Lookout

def start (capacity window : Nat) (h : 0 < capacity) : Lookout :=
  ⟨.empty capacity h, .idle window, .waiting, 0, false, false⟩

/-- What comes of a move, if it is possible. A message is received in preference to
the end of the quiet, but one may be sent just before an action begins, so that
messages may be waiting then. -/
def step (l : Lookout) : Move → Option Lookout
  | .signal signal =>
      some (if signal.counts then { l with inbox := l.inbox.offer } else l)
  | .pass time => some { l with now := l.now + time }
  | .receive =>
      if l.phase = .waiting ∧ 0 < l.inbox.waiting then
        some { l with inbox := l.inbox.take, timer := l.timer.event l.now }
      else none
  | .act =>
      if l.phase = .waiting ∧ (l.timer.dueBy? l.now).isSome then
        some { l with timer := l.timer.clear, phase := .acting }
      else none
  | .finish => if l.phase = .acting then some { l with phase := .waiting } else none
  | .cancel => some { l with cancelled := true }
  | .close => some { l with closed := true }
  | .leave =>
      if l.phase = .waiting ∧ (l.cancelled ∨ l.closed ∧ l.inbox.waiting = 0) then
        some { l with phase := .ended }
      else none

/-- What comes of moves, if they are possible one after the other. -/
def run? (l : Lookout) : List Move → Option Lookout
  | [] => some l
  | move :: rest => (l.step move).bind fun l => l.run? rest

theorem run?_append (l : Lookout) (moves rest : List Move) :
    l.run? (moves ++ rest) = (l.run? moves).bind fun l => l.run? rest := by
  induction moves generalizing l with
  | nil => rfl
  | cons move moves ih =>
      rw [List.cons_append, run?, run?]
      cases l.step move with
      | none => rfl
      | some l' => exact ih l'

/-- There is something left to do: a message is waiting, or the timer is set. -/
def Pending (l : Lookout) : Prop :=
  0 < l.inbox.waiting ∨ l.timer.due.isSome

end Lookout

/-- A change was signalled, and no action has begun since. -/
def Unheeded (moves : List Move) : Prop :=
  ∃ before signal after, moves = before ++ .signal signal :: after ∧
    signal.counts = true ∧
    .act ∉ after

/-- A change is not heeded because it was signalled just now, or because it was not
before. -/
theorem unheeded_concat {moves : List Move} {move : Move}
    (h : Unheeded (moves ++ [move])) :
    (∃ signal, move = .signal signal ∧ signal.counts = true) ∨ move ≠ .act ∧
    Unheeded moves := by
  obtain ⟨before, signal, after, hmoves, hcounts, hquiet⟩ := h
  -- The last move is the signal itself, or it comes after the signal and is no
  -- action.
  rcases List.eq_nil_or_concat after with rfl | ⟨rest, last, rfl⟩
  · obtain ⟨_, hlast⟩ := List.append_inj' hmoves rfl
    exact Or.inl ⟨signal, by simpa using hlast, hcounts⟩
  · rw [List.concat_eq_append, List.mem_append, not_or,
      List.mem_singleton] at hquiet
    rw [List.concat_eq_append, ← List.cons_append, ← List.append_assoc] at hmoves
    obtain ⟨hbefore, hlast⟩ := List.append_inj' hmoves rfl
    have hsame : move = last := by simpa using hlast
    refine Or.inr ⟨?_, before, signal, rest, hbefore, hcounts, hquiet.1⟩
    rw [hsame]
    exact Ne.symm hquiet.2

namespace Lookout

/-- What holds whatever happened before. Nobody stops looking out unless told to,
and the timer runs out after at most a whole window. -/
structure Sound (l : Lookout) : Prop where
  ended : l.phase = .ended → l.cancelled = true ∨ l.closed = true
  timely : ∀ due, l.timer.due = some due → due ≤ l.now + l.timer.window

theorem sound_start (capacity window : Nat) (h : 0 < capacity) :
    (start capacity window h).Sound := by
  constructor
  case ended => simp [start]
  case timely => simp [start, Debouncer.idle]

section Moves

variable {l l' : Lookout} {move : Move}

theorem Sound.step (h : l.Sound) (hstep : l.step move = some l') : l'.Sound := by
  cases move with
  | signal signal =>
      simp only [Lookout.step, Option.some.injEq] at hstep
      rw [← hstep]
      by_cases hcounts : signal.counts = true
      · rw [if_pos hcounts]
        exact ⟨h.ended, h.timely⟩
      · rw [if_neg hcounts]
        exact h
  | pass time =>
      cases hstep
      refine ⟨h.ended, fun due hdue => ?_⟩
      have hbound := h.timely due hdue
      show due ≤ l.now + time + l.timer.window
      omega
  | receive =>
      simp only [Lookout.step, Option.ite_none_right_eq_some,
        Option.some.injEq] at hstep
      obtain ⟨_, rfl⟩ := hstep
      refine ⟨h.ended, fun due hdue => ?_⟩
      exact Nat.le_of_eq (Option.some.inj hdue).symm
  | act =>
      simp only [Lookout.step, Option.ite_none_right_eq_some,
        Option.some.injEq] at hstep
      obtain ⟨_, rfl⟩ := hstep
      exact ⟨nofun, nofun⟩
  | finish =>
      simp only [Lookout.step, Option.ite_none_right_eq_some,
        Option.some.injEq] at hstep
      obtain ⟨_, rfl⟩ := hstep
      exact ⟨nofun, h.timely⟩
  | cancel =>
      cases hstep
      exact ⟨fun _ => Or.inl rfl, h.timely⟩
  | close =>
      cases hstep
      exact ⟨fun _ => Or.inr rfl, h.timely⟩
  | leave =>
      simp only [Lookout.step, Option.ite_none_right_eq_some,
        Option.some.injEq] at hstep
      obtain ⟨⟨_, htold⟩, rfl⟩ := hstep
      exact ⟨fun _ => htold.imp_right And.left, h.timely⟩

/-- A change that is signalled leaves something to do, also where the message is
dropped. -/
theorem pending_of_signal {signal : Signal} (hcounts : signal.counts = true)
    (hstep : l.step (.signal signal) = some l') : l'.Pending := by
  simp only [Lookout.step, if_pos hcounts, Option.some.injEq] at hstep
  rw [← hstep]
  exact Or.inl l.inbox.waiting_offer_pos

/-- Only an action leaves nothing to do: a message that is received sets the
timer. -/
theorem Pending.step (h : l.Pending) (hstep : l.step move = some l')
    (hact : move ≠ .act) : l'.Pending := by
  cases move with
  | signal signal =>
      by_cases hcounts : signal.counts = true
      · exact pending_of_signal hcounts hstep
      · simp only [Lookout.step, if_neg hcounts, Option.some.injEq] at hstep
        rw [← hstep]
        exact h
  | receive =>
      simp only [Lookout.step, Option.ite_none_right_eq_some,
        Option.some.injEq] at hstep
      obtain ⟨_, rfl⟩ := hstep
      exact Or.inr rfl
  | act => exact absurd rfl hact
  | pass time =>
      cases hstep
      exact h
  | cancel =>
      cases hstep
      exact h
  | close =>
      cases hstep
      exact h
  | finish =>
      simp only [Lookout.step, Option.ite_none_right_eq_some,
        Option.some.injEq] at hstep
      obtain ⟨_, rfl⟩ := hstep
      exact h
  | leave =>
      simp only [Lookout.step, Option.ite_none_right_eq_some,
        Option.some.injEq] at hstep
      obtain ⟨_, rfl⟩ := hstep
      exact h

end Moves

/-- What can be relied on after moves. A change that is not heeded leaves something
to do. -/
structure Heedful (moves : List Move) (l : Lookout) : Prop extends Sound l where
  pending : Unheeded moves → l.Pending

theorem heedful_start (capacity window : Nat) (h : 0 < capacity) :
    (start capacity window h).Heedful [] where
  toSound := sound_start capacity window h
  pending := by
    rintro ⟨before, signal, after, hmoves, _⟩
    simp at hmoves

theorem Heedful.step {moves : List Move} {l l' : Lookout} (h : l.Heedful moves)
    {move : Move} (hstep : l.step move = some l') :
    l'.Heedful (moves ++ [move]) where
  toSound := h.toSound.step hstep
  pending := by
    intro hunheeded
    rcases unheeded_concat hunheeded with ⟨signal, rfl, hcounts⟩ | ⟨hact, hunheeded⟩
    · exact pending_of_signal hcounts hstep
    · exact (h.pending hunheeded).step hstep hact

theorem Heedful.run {moves : List Move} {l l' : Lookout} (h : l.Heedful moves)
    {rest : List Move} (hrun : l.run? rest = some l') :
    l'.Heedful (moves ++ rest) := by
  induction rest generalizing l moves with
  | nil =>
      cases hrun
      simpa using h
  | cons move rest ih =>
      rw [run?, Option.bind_eq_some_iff] at hrun
      obtain ⟨next, hstep, hrest⟩ := hrun
      have hlater := ih (h.step hstep) hrest
      rw [List.append_assoc] at hlater
      exact hlater

/-- What happens when nothing more is signalled: the action under way comes to its
end, the messages are received, and it is quiet for a whole window. -/
def settling (l : Lookout) : List Move :=
  (if l.phase = .acting then [.finish] else []) ++
    (List.replicate l.inbox.waiting .receive ++ [.pass l.timer.window, .act])

/-- When all messages are received, the timer is set. -/
theorem run?_receive {l : Lookout} {count : Nat} (hsound : l.Sound)
    (hwaiting : l.inbox.waiting = count) (hphase : l.phase = .waiting)
    (hpending : l.Pending) :
    ∃ l', l.run? (List.replicate count .receive) = some l' ∧ l'.Sound ∧
      l'.phase = .waiting ∧
      l'.timer.window = l.timer.window ∧ l'.timer.due.isSome := by
  induction count generalizing l with
  | zero =>
      -- No message is waiting, so it is the timer that makes something left to do.
      have hset : l.timer.due.isSome := by
        rcases hpending with hpending | hset
        · rw [hwaiting] at hpending
          exact absurd hpending (Nat.lt_irrefl 0)
        · exact hset
      exact ⟨l, rfl, hsound, hphase, rfl, hset⟩
  | succ count ih =>
      have hstep : l.step .receive =
          some { l with inbox := l.inbox.take, timer := l.timer.event l.now } := by
        rw [step, if_pos ⟨hphase, by omega⟩]
      have hleft : l.inbox.take.waiting = count := by
        rw [Inbox.waiting_take, hwaiting, Nat.add_sub_cancel]
      obtain ⟨l', hrun, hsound', hphase', hwindow, hset⟩ :=
        ih (hsound.step hstep) hleft hphase (hpending.step hstep (by simp))
      refine ⟨l', ?_, hsound', hphase', hwindow, hset⟩
      rw [List.replicate_succ, run?, hstep]
      exact hrun

/-- One who is waiting and has something to do acts after a whole window of
quiet. -/
theorem run?_quiet {l : Lookout} (hsound : l.Sound) (hphase : l.phase = .waiting)
    (hset : l.timer.due.isSome) :
    ∃ l', l.run? [.pass l.timer.window, .act] = some l' ∧ l'.phase = .acting := by
  obtain ⟨due, hdue⟩ := Option.isSome_iff_exists.mp hset
  have hover : (l.timer.dueBy? (l.now + l.timer.window)).isSome := by
    have hbound := hsound.timely due hdue
    simp [Debouncer.dueBy?, hdue, hbound]
  refine ⟨{ l with
    now := l.now + l.timer.window
    timer := l.timer.clear
    phase := .acting }, ?_, rfl⟩
  simp [run?, step, hphase, hover]

theorem run?_settling {l : Lookout} (hsound : l.Sound) (hphase : l.phase ≠ .ended)
    (hpending : l.Pending) :
    ∃ l', l.run? l.settling = some l' ∧ l'.phase = .acting := by
  -- An action under way only has to come to its end first.
  have hwaiting : ∀ l : Lookout,
      l.Sound → l.phase = .waiting → l.Pending → ∃ l',
        l.run? (List.replicate l.inbox.waiting .receive ++
          [.pass l.timer.window, .act]) =
        some l' ∧ l'.phase = .acting := by
    intro l hsound hphase hpending
    obtain ⟨received, hreceived, hsound', hphase', hwindow, hset⟩ :=
      run?_receive hsound rfl hphase hpending
    obtain ⟨l', hquiet, hacting⟩ := run?_quiet hsound' hphase' hset
    refine ⟨l', ?_, hacting⟩
    rw [run?_append, hreceived, ← hwindow]
    exact hquiet
  cases hcase : l.phase with
  | waiting =>
      rw [settling, hcase]
      exact hwaiting l hsound hcase hpending
  | acting =>
      have hstep : l.step .finish = some { l with phase := .waiting } := by
        rw [step, if_pos hcase]
      obtain ⟨l', hrun, hacting⟩ :=
        hwaiting { l with phase := .waiting } (hsound.step hstep) rfl
        (hpending.step hstep (by simp))
      refine ⟨l', ?_, hacting⟩
      rw [settling, if_pos hcase, run?_append, run?, hstep]
      exact hrun
  | ended => exact absurd hcase hphase

/-- However signals, receipts, the passing of time and actions come after one
another, and however few messages there is room for: as long as one is not told to
stop, one goes on looking out, and a change that was signalled after the last action
began leaves a message waiting or the timer set. When it is quiet then, another
action begins. -/
theorem changes_heeded (capacity window : Nat) (hcapacity : 0 < capacity)
    {moves : List Move} {l : Lookout}
    (hrun : (start capacity window hcapacity).run? moves = some l)
    (hcancelled : l.cancelled = false) (hclosed : l.closed = false) :
    l.phase ≠ .ended ∧
      (Unheeded moves →
        (0 < l.inbox.waiting ∨ l.timer.due.isSome) ∧
          ∃ l', l.run? l.settling = some l' ∧ l'.phase = .acting) := by
  have hheedful := (heedful_start capacity window hcapacity).run hrun
  have hphase : l.phase ≠ .ended := by
    intro hended
    rcases hheedful.ended hended with htold | htold
    · rw [hcancelled] at htold
      cases htold
    · rw [hclosed] at htold
      cases htold
  refine ⟨hphase, fun hunheeded => ?_⟩
  have hpending := hheedful.pending hunheeded
  exact ⟨hpending, run?_settling hheedful.toSound hphase hpending⟩

namespace BusyReload

def moves : List Move :=
  [.signal .changed, .receive, .pass 10, .act, .signal .accessed, .signal .changed,
    .signal .changed, .pass 3]

/-- With room for a single message the last change is dropped, and it is acted upon
all the same. -/
theorem changes_heeded_dropped :
    ∃ l, (start 1 10 Nat.one_pos).run? moves = some l ∧ l.phase = .acting ∧
      l.inbox.waiting = 1 ∧ Unheeded moves ∧
      ∃ l', l.run? l.settling = some l' ∧ l'.phase = .acting := by
  have hunheeded : Unheeded moves :=
    ⟨[.signal .changed, .receive, .pass 10, .act, .signal .accessed,
      .signal .changed], .changed, [.pass 3], rfl, rfl, by simp⟩
  have hrun : (start 1 10 Nat.one_pos).run? moves = some _ := rfl
  obtain ⟨_, hheeded⟩ := changes_heeded 1 10 Nat.one_pos hrun rfl rfl
  exact ⟨_, hrun, rfl, rfl, hunheeded, (hheeded hunheeded).2⟩

end BusyReload

end Lookout

variable {State Plan : Type}

/-- The watcher after all that is due by a given time was done. -/
def Watcher.settle (watcher : Watcher) (time : Nat) : Watcher :=
  if (watcher.timer.dueBy? time).isSome then
    { watcher with timer := watcher.timer.clear }
  else watcher

theorem Watcher.settle_clear (watcher : Watcher) (time : Nat) :
    { watcher with timer := watcher.timer.clear }.settle time =
      { watcher with timer := watcher.timer.clear } := by
  simp [settle, Debouncer.dueBy?, Debouncer.clear]

namespace Tasks

/-- A reload is a duty because the directory was quiet for long enough. -/
theorem dueBy?_of_nextBy? {tasks : Tasks} {time due : Nat}
    (h : tasks.nextBy? time = some (.reload, due)) :
    ∃ watcher, tasks.watcher = some watcher ∧
      (watcher.timer.dueBy? time).isSome := by
  cases hwatcher : tasks.watcher with
  | none =>
      rw [nextBy?, hwatcher] at h
      cases hpoll : (tasks.poller.map Poller.due).filter (· ≤ time) <;>
        simp [hpoll] at h
  | some watcher =>
      refine ⟨watcher, rfl, ?_⟩
      cases hquiet : watcher.timer.dueBy? time with
      | some _ => rfl
      | none =>
          rw [nextBy?, hwatcher] at h
          cases hpoll : (tasks.poller.map Poller.due).filter (· ≤ time) <;>
            simp [hpoll, hquiet] at h

theorem dueBy?_of_nextBy?_eq_none {tasks : Tasks} {time : Nat} {watcher : Watcher}
    (h : tasks.nextBy? time = .none) (hwatcher : tasks.watcher = some watcher) :
    watcher.timer.dueBy? time = .none := by
  cases hquiet : watcher.timer.dueBy? time with
  | none => rfl
  | some due =>
      rw [nextBy?, hwatcher] at h
      cases hpoll : (tasks.poller.map Poller.due).filter (· ≤ time) with
      | none => simp [hpoll, hquiet] at h
      | some poll =>
          simp only [hpoll, hquiet, Option.bind_some] at h
          split at h <;> simp at h

end Tasks

/-- Doing what is due clears the timer of the watcher if it has run out, and else
leaves it. -/
theorem watcher_runUntil [Catalog.Hashing] (world : World) (time : Nat)
    (service : Service State Plan) (tasks : Tasks) :
    (runUntil world time service tasks).2.watcher =
      tasks.watcher.map (·.settle time) := by
  fun_induction runUntil world time service tasks with
  | case1 service tasks duty due hnext ih =>
      rw [ih]
      cases duty with
      | checkSchema => rfl
      | reload =>
          obtain ⟨watcher, hwatcher, hdue⟩ := Tasks.dueBy?_of_nextBy? hnext
          simp only [Tasks.after, hwatcher, Option.map_some, Watcher.settle_clear]
          rw [Watcher.settle, if_pos hdue]
  | case2 service tasks hnext =>
      cases hwatcher : tasks.watcher with
      | none => rfl
      | some watcher =>
          have hnone := Tasks.dueBy?_of_nextBy?_eq_none hnext hwatcher
          rw [Option.map_some, Watcher.settle, hnone]
          rfl

/-- What happens around a session. A file is written, in a directory that holds
others, or time passes. -/
inductive Happening where
  | touch (present : List String) (path : String)
  | advance (world : World) (time : Nat)

/-- How much time passes. -/
def Happening.time : Happening → Nat
  | .touch _ _ => 0
  | .advance _ time => time

/-- How much time passes while things happen. -/
def Happening.elapsed : List Happening → Nat
  | [] => 0
  | happening :: rest => happening.time + elapsed rest

def Session.meet [Catalog.Hashing] (session : Session State Plan) :
    Happening → Session State Plan
  | .touch present path => session.touch present path
  | .advance world time => session.advance world time

theorem Session.now_meet [Catalog.Hashing] (session : Session State Plan)
    (happening : Happening) :
    (session.meet happening).now = session.now + happening.time := by
  cases happening with
  | touch present path => rfl
  | advance world time =>
      rw [meet, advance]
      cases session.tasks <;> rfl

/-- The session after what happened. -/
def Session.follow [Catalog.Hashing] (session : Session State Plan)
    (happenings : List Happening) : Session State Plan :=
  happenings.foldl meet session

/-- A session has come as far as time has been passed. -/
theorem Session.now_follow [Catalog.Hashing] (session : Session State Plan)
    (happenings : List Happening) :
    (session.follow happenings).now =
      session.now + Happening.elapsed happenings := by
  induction happenings generalizing session with
  | nil => rfl
  | cons happening rest ih =>
      rw [Happening.elapsed, ← Nat.add_assoc, ← session.now_meet]
      exact ih _

namespace Watcher

/-- The watcher after something happened. -/
def meet (watcher : Watcher) (now : Nat) : Happening → Watcher
  | .touch present path =>
      if watcher.scope.notices present path then
        { watcher with timer := watcher.timer.event now }
      else watcher
  | .advance _ time => watcher.settle (now + time)

/-- What the watcher does when something happens. A message is received at once, and
an action is finished at once. -/
def movesOf (watcher : Watcher) (now : Nat) : Happening → List Move
  | .touch present path =>
      if watcher.scope.notices present path then [.signal .changed, .receive]
      else []
  | .advance _ time =>
      .pass time :: if (watcher.timer.dueBy? (now + time)).isSome
        then [.act, .finish] else []

/-- What the watcher does while things happen. -/
def moves (watcher : Watcher) (now : Nat) : List Happening → List Move
  | [] => []
  | happening :: rest =>
      watcher.movesOf now happening ++
        (watcher.meet now happening).moves (now + happening.time) rest

end Watcher

/-- The watcher of a session is one who looks out, and has received all messages. -/
structure Lookout.Mirrors (l : Lookout) (session : Session State Plan)
    (watcher : Watcher) : Prop where
  tasks : ∃ tasks, session.tasks = some tasks ∧ tasks.watcher = some watcher
  timer : l.timer = watcher.timer
  now : l.now = session.now
  phase : l.phase = .waiting
  waiting : l.inbox.waiting = 0

namespace Lookout.Mirrors

variable {l : Lookout} {session : Session State Plan} {watcher : Watcher}

theorem touch (h : l.Mirrors session watcher) (present : List String)
    (path : String) :
    ∃ l', l.run? (watcher.movesOf session.now (.touch present path)) = some l' ∧
      l'.Mirrors (session.touch present path)
        (watcher.meet session.now (.touch present path)) := by
  obtain ⟨tasks, htasks, hwatcher⟩ := h.tasks
  have htouched : (session.touch present path).tasks =
      some (tasks.touch present path session.now) := by
    rw [Session.touch, htasks]
    rfl
  by_cases hnotices : watcher.scope.notices present path = true
  · have hroom : l.inbox.offer.waiting = 1 := by
      have hpos := l.inbox.capacity_pos
      rw [Inbox.offer, dif_pos (by rw [h.waiting]; exact hpos)]
      simp [h.waiting]
    rw [Watcher.movesOf, Watcher.meet, if_pos hnotices, if_pos hnotices]
    refine ⟨{ l with inbox := l.inbox.offer.take, timer := l.timer.event l.now },
      ?_, ?_⟩
    · simp [run?, step, Signal.counts, h.phase, hroom]
    · constructor
      case tasks => exact ⟨_, htouched, by simp [Tasks.touch, hwatcher, hnotices]⟩
      case timer => simp only [h.timer, h.now]
      case now => exact h.now
      case phase => exact h.phase
      case waiting => rw [Inbox.waiting_take, hroom]
  · rw [Watcher.movesOf, Watcher.meet, if_neg hnotices, if_neg hnotices]
    refine ⟨l, rfl, ?_⟩
    constructor
    case tasks => exact ⟨_, htouched, by simp [Tasks.touch, hwatcher, hnotices]⟩
    case timer => exact h.timer
    case now => exact h.now
    case phase => exact h.phase
    case waiting => exact h.waiting

variable [Catalog.Hashing]

theorem advance (h : l.Mirrors session watcher) (world : World) (time : Nat) :
    ∃ l', l.run? (watcher.movesOf session.now (.advance world time)) = some l' ∧
      l'.Mirrors (session.advance world time)
        (watcher.meet session.now (.advance world time)) := by
  obtain ⟨tasks, htasks, hwatcher⟩ := h.tasks
  have hsettled := watcher_runUntil world (session.now + time) session.service tasks
  rw [hwatcher, Option.map_some] at hsettled
  have hadvanced : session.advance world time =
      ⟨(runUntil world (session.now + time) session.service tasks).1,
        session.now + time,
        some (runUntil world (session.now + time) session.service tasks).2⟩ := by
    simp [Session.advance, htasks]
  rw [hadvanced, Watcher.movesOf, Watcher.meet]
  by_cases hdue : (watcher.timer.dueBy? (session.now + time)).isSome = true
  · rw [if_pos hdue]
    refine ⟨{ l with now := l.now + time, timer := l.timer.clear }, ?_, ?_⟩
    · simp [run?, step, h.phase, h.timer, h.now, hdue]
    · constructor
      case tasks => exact ⟨_, rfl, hsettled⟩
      case timer =>
        rw [Watcher.settle, if_pos hdue]
        simp only [h.timer]
      case now => simp only [h.now]
      case phase => exact h.phase
      case waiting => exact h.waiting
  · rw [if_neg hdue]
    refine ⟨{ l with now := l.now + time }, rfl, ?_⟩
    constructor
    case tasks => exact ⟨_, rfl, hsettled⟩
    case timer =>
      rw [Watcher.settle, if_neg hdue]
      exact h.timer
    case now => simp only [h.now]
    case phase => exact h.phase
    case waiting => exact h.waiting

theorem meet (h : l.Mirrors session watcher) (happening : Happening) :
    ∃ l', l.run? (watcher.movesOf session.now happening) = some l' ∧
      l'.Mirrors (session.meet happening) (watcher.meet session.now happening) := by
  cases happening with
  | touch present path => exact h.touch present path
  | advance world time => exact h.advance world time

theorem follow (h : l.Mirrors session watcher) (happenings : List Happening) :
    ∃ l' watcher', l.run? (watcher.moves session.now happenings) = some l' ∧
      l'.Mirrors (session.follow happenings) watcher' := by
  induction happenings generalizing l session watcher with
  | nil => exact ⟨l, watcher, rfl, h⟩
  | cons happening rest ih =>
      obtain ⟨next, hrun, hnext⟩ := h.meet happening
      obtain ⟨l', watcher', hrun', hlater⟩ := ih hnext
      refine ⟨l', watcher', ?_, hlater⟩
      rw [Watcher.moves, run?_append, hrun, ← session.now_meet happening]
      exact hrun'

end Lookout.Mirrors

/-- Whatever happens around a session whose tasks watch a directory, the watcher
makes moves of one who looks out. A change that it noticed, and since which it has
not reloaded, leaves its timer set. -/
theorem Session.watcher_looksOut [Catalog.Hashing] (session : Session State Plan)
    {options : TaskOptions} (hwatch : options.watch = true) (present : List String)
    (happenings : List Happening) (capacity : Nat) (hcapacity : 0 < capacity) :
    let moves := .pass session.now :: Watcher.moves
      ⟨.ofDirectories present, .idle options.debounce⟩ session.now happenings
    ∃ l watcher,
      (Lookout.start capacity options.debounce hcapacity).run? moves = some l ∧
      l.Mirrors
        ((session.start options (some (.directory present))).follow happenings)
        watcher ∧
      (Unheeded moves → watcher.timer.due.isSome) := by
  intro moves
  let begun : Lookout :=
    { Lookout.start capacity options.debounce hcapacity with now := session.now }
  have hbegun : begun.Mirrors (session.start options (some (.directory present)))
      ⟨.ofDirectories present, .idle options.debounce⟩ := by
    refine ⟨⟨_, rfl, ?_⟩, rfl, rfl, rfl, rfl⟩
    simp [Tasks.start, Tasks.watcher?, hwatch]
  obtain ⟨l, watcher, hfollowed, hmirrors⟩ := hbegun.follow happenings
  have hrun :
      (Lookout.start capacity options.debounce hcapacity).run? moves = some l := by
    rw [Lookout.run?, Lookout.step, Option.bind_some, Lookout.start, Nat.zero_add]
    exact hfollowed
  refine ⟨l, watcher, hrun, hmirrors, fun hunheeded => ?_⟩
  have hheedful :=
    (Lookout.heedful_start capacity options.debounce hcapacity).run hrun
  rcases hheedful.pending hunheeded with hwaiting | hset
  · rw [hmirrors.waiting] at hwaiting
    exact absurd hwaiting (Nat.lt_irrefl 0)
  · rw [← hmirrors.timer]
    exact hset

end QueryGate.Reload
