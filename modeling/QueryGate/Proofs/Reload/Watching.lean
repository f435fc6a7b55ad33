import QueryGate.Proofs.Reload.Quiet
import QueryGate.Proofs.Reload.SessionCrew

/-!
When a session reloads.

A session does its duties one after the other, and reloads whenever one who waits
for quiet would act, if no action took any time. Main statement: where no change is
noticed at the very time of a reload, a session reloads a whole window after each
change that no other one follows within the window, and at no other time.
-/

namespace QueryGate.Reload

open Engine

variable {State Plan : Type}

namespace Tasks

/-- The duties that are due by a given time, one after the other, and when they are
due. -/
def dutiesUntil (tasks : Tasks) (time : Nat) : List (Duty × Nat) :=
  match _h : tasks.nextBy? time with
  | some (duty, due) => (duty, due) :: (tasks.after duty).dutiesUntil time
  | .none => []
termination_by tasks.backlog time
decreasing_by exact backlog_after_lt _h

variable {tasks : Tasks} {time due : Nat} {duty : Duty}

theorem dutiesUntil_of_some (h : tasks.nextBy? time = some (duty, due)) :
    tasks.dutiesUntil time =
      (duty, due) :: (tasks.after duty).dutiesUntil time := by
  rw [dutiesUntil]
  split
  · next hnext =>
      rw [h] at hnext
      cases hnext
      rfl
  · next hnext =>
      rw [h] at hnext
      cases hnext

theorem dutiesUntil_of_none (h : tasks.nextBy? time = .none) :
    tasks.dutiesUntil time = [] := by
  rw [dutiesUntil]
  split
  · next hnext =>
      rw [h] at hnext
      cases hnext
  · rfl

end Tasks

/-- All that is done is to perform the duties that are due. -/
theorem runUntil_eq_foldl [Catalog.Hashing] (world : World) (time : Nat)
    (service : Service State Plan) (tasks : Tasks) :
    (runUntil world time service tasks).1 =
      (tasks.dutiesUntil time).foldl
        (fun service duty => service.perform world duty.1)
        service := by
  fun_induction runUntil world time service tasks with
  | case1 service tasks duty due hnext ih =>
      rw [ih, Tasks.dutiesUntil_of_some hnext, List.foldl_cons]
  | case2 service tasks hnext =>
      rw [Tasks.dutiesUntil_of_none hnext, List.foldl_nil]

/-- When a reload is due, if the duty is one. -/
def Duty.reloadTime? : Duty × Nat → Option Nat
  | (.reload, due) => some due
  | (.checkSchema, _) => none

/-- Of the duties that are due, at most one is a reload: when the timer has run
out. -/
theorem Tasks.reloads_dutiesUntil (tasks : Tasks) (time : Nat) :
    (tasks.dutiesUntil time).filterMap Duty.reloadTime? =
      (tasks.watcher.bind fun watcher => watcher.timer.dueBy? time).toList := by
  fun_induction dutiesUntil tasks time with
  | case1 tasks duty due hnext ih =>
      cases duty with
      | checkSchema => exact ih
      | reload =>
          obtain ⟨hdue, htime, _⟩ := due?_of_nextBy? hnext
          cases hwatcher : tasks.watcher with
          | none => simp [due?, timer, hwatcher, Debouncer.idle] at hdue
          | some watcher =>
              have hset : watcher.timer.due = some due := by
                simpa [due?, timer, hwatcher] using hdue
              have hover : watcher.timer.dueBy? time = some due := by
                simp [Debouncer.dueBy?, hset, htime]
              simp only [List.filterMap_cons, Duty.reloadTime?, ih,
                Option.bind_some, hover]
              simp [after, hwatcher, Debouncer.clear, Debouncer.dueBy?]
  | case2 tasks hnext =>
      cases hwatcher : tasks.watcher with
      | none => rfl
      | some watcher =>
          rw [Option.bind_some, dueBy?_of_nextBy?_eq_none hnext hwatcher]
          rfl

/-- When changes are noticed while things happen. -/
def Scope.noticed (scope : Scope) (now : Nat) : List Happening → List Nat
  | [] => []
  | .touch present path :: rest =>
      if scope.notices present path then now :: scope.noticed now rest
      else scope.noticed now rest
  | .advance _ time :: rest => scope.noticed (now + time) rest

theorem Scope.le_of_mem_noticed {scope : Scope} {now sent : Nat}
    {happenings : List Happening} (h : sent ∈ scope.noticed now happenings) :
    now ≤ sent ∧ sent ≤ now + Happening.elapsed happenings := by
  induction happenings generalizing now with
  | nil => cases h
  | cons happening rest ih =>
      rw [Happening.elapsed]
      cases happening with
      | touch present path =>
          have hcases : sent = now ∨ sent ∈ scope.noticed now rest := by
            by_cases hnotices : scope.notices present path = true
            · simpa [noticed, hnotices] using h
            · exact Or.inr (by simpa [noticed, hnotices] using h)
          simp only [Happening.time, Nat.zero_add]
          rcases hcases with rfl | hlater
          · exact ⟨Nat.le_refl _, Nat.le_add_right _ _⟩
          · exact ih hlater
      | advance world time =>
          obtain ⟨hfrom, hto⟩ := ih h
          simp only [Happening.time]
          omega

theorem Scope.pairwise_noticed (scope : Scope) (now : Nat)
    (happenings : List Happening) :
    (scope.noticed now happenings).Pairwise (· ≤ ·) := by
  induction happenings generalizing now with
  | nil => exact .nil
  | cons happening rest ih =>
      cases happening with
      | advance world time => exact ih _
      | touch present path =>
          by_cases hnotices : scope.notices present path = true
          · rw [noticed, if_pos hnotices]
            exact List.pairwise_cons.mpr ⟨fun _ hsent =>
              (le_of_mem_noticed hsent).1, ih now⟩
          · rw [noticed, if_neg hnotices]
            exact ih now

namespace Session

def watcher? (session : Session State Plan) : Option Watcher :=
  session.tasks.bind Tasks.watcher

/-- The duties that are done while something happens. -/
def dutiesIn (session : Session State Plan) : Happening → List (Duty × Nat)
  | .touch _ _ => []
  | .advance _ time =>
      (session.tasks.map fun tasks =>
        tasks.dutiesUntil (session.now + time)).getD []

theorem reloads_dutiesIn (session : Session State Plan)
    (world : World) (time : Nat) :
    (session.dutiesIn (.advance world time)).filterMap Duty.reloadTime? =
      (session.watcher?.bind fun watcher =>
        watcher.timer.dueBy? (session.now + time)).toList := by
  cases htasks : session.tasks with
  | none => simp [dutiesIn, watcher?, htasks]
  | some tasks =>
      simpa [dutiesIn, watcher?, htasks] using tasks.reloads_dutiesUntil _

variable [Catalog.Hashing]

theorem service_advance (session : Session State Plan)
    (world : World) (time : Nat) :
    (session.advance world time).service =
      (session.dutiesIn (.advance world time)).foldl
        (fun service duty => service.perform world duty.1) session.service := by
  cases htasks : session.tasks with
  | none => simp [advance, dutiesIn, htasks]
  | some tasks => simp [advance, dutiesIn, htasks, runUntil_eq_foldl]

/-- When a session reloads while things happen. -/
def reloads (session : Session State Plan) : List Happening → List Nat
  | [] => []
  | happening :: rest =>
      (session.dutiesIn happening).filterMap Duty.reloadTime? ++
        (session.meet happening).reloads rest

theorem watcher?_meet (session : Session State Plan) (happening : Happening) :
    (session.meet happening).watcher? =
      session.watcher?.map fun watcher => watcher.meet session.now happening := by
  obtain ⟨service, now, tasks⟩ := session
  cases tasks with
  | none => cases happening <;> rfl
  | some tasks =>
      cases happening with
      | touch present path => rfl
      | advance world time =>
          exact watcher_runUntil world (now + time) service tasks

end Session

namespace Vigil

section Turns

variable {v : Vigil} {limit : Nat}

theorem run_of_turn? {ending : Option Ending} {duration : Nat → Nat} {turn : Turn}
    (h : v.turn? ending = some turn) :
    v.run ending duration = (v.take duration turn).run ending duration := by
  rw [run]
  split
  · next hturn =>
      rw [h] at hturn
      cases hturn
      rfl
  · next hturn =>
      rw [h] at hturn
      cases hturn

theorem run_of_turn?_eq_none {ending : Option Ending} {duration : Nat → Nat}
    (h : v.turn? ending = none) : v.run ending duration = v := by
  rw [run]
  split
  · next hturn =>
      rw [h] at hturn
      cases hturn
  · rfl

/-- One receives an event that comes no later than the timer runs out. -/
theorem turn?_eq_hear {sent : Nat} {rest : List Nat}
    (hcoming : v.coming = sent :: rest) (hnow : v.now ≤ sent)
    (hdue : ∀ due ∈ v.timer.due, sent ≤ due) (hlimit : sent < limit) :
    v.turn? (some (.cancelled limit)) = some (.hear sent) := by
  have hwake : v.wake? (some (.cancelled limit)) = some sent := by
    refine wake?_eq_some_iff.mpr ⟨sent, by simp [hcoming],
      ⟨?_, by simp [hcoming]⟩, hdue, Nat.max_eq_right hnow⟩
    simpa [Ending.time] using hlimit.le
  simp [turn?, hwake, hcoming, Ending.Stops, Ending.Sends, hlimit]

/-- One acts when the timer runs out, if no event is sent by then. -/
theorem turn?_eq_act {due : Nat} (hdue : v.timer.due = some due)
    (hnow : v.now ≤ due) (hcoming : ∀ sent ∈ v.coming, due < sent)
    (hlimit : due < limit) :
    v.turn? (some (.cancelled limit)) = some (.act due) := by
  have hhead : ∀ sent ∈ v.coming.head?, due < sent :=
    fun sent hsent => hcoming sent (List.mem_of_mem_head? hsent)
  have hwake : v.wake? (some (.cancelled limit)) = some due := by
    refine wake?_eq_some_iff.mpr ⟨due, by simp [hdue],
      ⟨?_, fun sent hsent => (hhead sent hsent).le⟩, by simp [hdue],
      Nat.max_eq_right hnow⟩
    simpa [Ending.time] using hlimit.le
  have hsilent : ¬∃ sent ∈ v.coming.head?, sent ≤ due := by
    rintro ⟨sent, hsent, hle⟩
    exact Nat.not_le_of_lt (hhead sent hsent) hle
  simp only [Option.mem_def] at hsilent
  simp [turn?, hwake, hdue, hsilent, hlimit, Ending.Stops, Ending.Sends,
    Ending.time, Debouncer.dueBy?]

/-- One who has received everything stops before the timer runs out. -/
theorem turn?_eq_none (hcoming : v.coming = [])
    (hdue : ∀ due ∈ v.timer.due, limit ≤ due) :
    v.turn? (some (.cancelled limit)) = none := by
  have hwake : v.wake? (some (.cancelled limit)) = some (max v.now limit) :=
    wake?_eq_some_iff.mpr ⟨limit, by simp [Ending.time],
      ⟨by simp [Ending.time], by simp [hcoming]⟩, hdue, rfl⟩
  have hstops : (Ending.cancelled limit).Stops (max v.now limit) :=
    Nat.le_max_right _ _
  simp [turn?, hwake, hstops]

end Turns

/-- All that one does who acts in no time, until one is told to stop. -/
def stoppedAt (v : Vigil) (limit : Nat) : Vigil :=
  v.run (some (.cancelled limit)) fun _ => 0

/-- One waits for quiet as the watcher of a session does, and what is still to come
is what that will notice. -/
structure Attends (v : Vigil) (session : Session State Plan) (watcher : Watcher)
    (happenings : List Happening) : Prop where
  watches : session.watcher? = some watcher
  timer : v.timer = watcher.timer
  now_le : v.now ≤ session.now
  coming : v.coming = watcher.scope.noticed session.now happenings
  ahead : ∀ due ∈ watcher.timer.due, session.now < due
  window_pos : 0 < watcher.timer.window

namespace Attends

variable [Catalog.Hashing] {v : Vigil} {session : Session State Plan}
  {watcher : Watcher} {happening : Happening} {rest : List Happening} {limit : Nat}

/-- A change that is noticed is received at once. -/
theorem touch {present : List String} {path : String}
    (h : v.Attends session watcher (.touch present path :: rest))
    (hlimit : session.now < limit) :
    ∃ v' : Vigil, v.stoppedAt limit = v'.stoppedAt limit ∧ v'.begun = v.begun ∧
      v'.coming ⊆ v.coming ∧ v'.Attends (session.meet (.touch present path))
        (watcher.meet session.now (.touch present path)) rest := by
  have hwatches := session.watcher?_meet (.touch present path)
  rw [h.watches, Option.map_some] at hwatches
  have hcoming := h.coming
  by_cases hnotices : watcher.scope.notices present path = true
  · rw [Scope.noticed, if_pos hnotices] at hcoming
    rw [Watcher.meet, if_pos hnotices] at hwatches ⊢
    have hturn : v.turn? (some (.cancelled limit)) = some (.hear session.now) :=
      turn?_eq_hear hcoming h.now_le
        (fun due hdue => (h.ahead due (h.timer ▸ hdue)).le) hlimit
    refine ⟨_, run_of_turn? hturn, rfl, fun _ => List.mem_of_mem_tail, hwatches, ?_,
      Nat.le_refl _, ?_, ?_, h.window_pos⟩
    · simp only [take, h.timer]
    · simp only [take, hcoming]
      rfl
    · intro due hdue
      cases hdue
      exact Nat.lt_add_of_pos_right h.window_pos
  · rw [Scope.noticed, if_neg hnotices] at hcoming
    rw [Watcher.meet, if_neg hnotices] at hwatches ⊢
    exact ⟨v, rfl, rfl, List.Subset.refl _, hwatches, h.timer, h.now_le, hcoming,
      h.ahead, h.window_pos⟩

/-- While time passes, one acts when the session reloads. -/
theorem advance {world : World} {time : Nat}
    (h : v.Attends session watcher (.advance world time :: rest))
    (hlimit : session.now + time < limit)
    (hapart : ∀ s ∈ (session.dutiesIn (.advance world time)).filterMap
      Duty.reloadTime?, s ∉ v.coming) :
    ∃ v' : Vigil, v.stoppedAt limit = v'.stoppedAt limit ∧
      v'.begun = v.begun ++
        (session.dutiesIn (.advance world time)).filterMap Duty.reloadTime? ∧
      v'.coming ⊆ v.coming ∧ v'.Attends (session.meet (.advance world time))
        (watcher.meet session.now (.advance world time)) rest := by
  have hwatches := session.watcher?_meet (.advance world time)
  have hnow : (session.meet (.advance world time)).now = session.now + time :=
    session.now_meet _
  have hcoming : v.coming =
      watcher.scope.noticed (session.meet (.advance world time)).now rest := by
    rw [hnow]
    exact h.coming
  have hlater : v.now ≤ (session.meet (.advance world time)).now := by
    have := h.now_le
    omega
  rw [session.reloads_dutiesIn, h.watches, Option.bind_some] at hapart ⊢
  rw [h.watches, Option.map_some, Watcher.meet, Watcher.settle] at hwatches
  rw [Watcher.meet, Watcher.settle]
  cases hover : watcher.timer.dueBy? (session.now + time) with
  | none =>
      rw [hover, Option.isSome_none, if_neg Bool.false_ne_true] at hwatches
      rw [Option.isSome_none, if_neg Bool.false_ne_true]
      refine ⟨v, rfl, (List.append_nil _).symm, List.Subset.refl _, hwatches,
        h.timer, hlater, hcoming, fun due hdue => ?_, h.window_pos⟩
      rw [Debouncer.dueBy?, Option.filter_eq_none_iff] at hover
      have hopen := hover due hdue
      rw [decide_eq_true_eq] at hopen
      omega
  | some due =>
      rw [hover, Option.isSome_some, if_pos rfl] at hwatches
      rw [Option.isSome_some, if_pos rfl]
      rw [hover] at hapart
      rw [Debouncer.dueBy?, Option.filter_eq_some_iff, decide_eq_true_eq] at hover
      obtain ⟨hdue, hle⟩ := hover
      have hahead := h.ahead due hdue
      have hbehind := h.now_le
      -- What is still to come is not earlier, and by assumption not just then.
      have hsilent : ∀ sent ∈ v.coming, due < sent := fun sent hsent => by
        have hfrom := (Scope.le_of_mem_noticed (hcoming ▸ hsent)).1
        have hne : due ≠ sent := fun hsame => hapart due (by simp) (hsame ▸ hsent)
        omega
      have hturn : v.turn? (some (.cancelled limit)) = some (.act due) :=
        turn?_eq_act (h.timer ▸ hdue) (by omega) hsilent (by omega)
      refine ⟨_, run_of_turn? hturn, rfl, List.Subset.refl _, hwatches, ?_, ?_,
        hcoming, ?_, h.window_pos⟩
      · simp only [take, h.timer]
      · simp only [take, hnow]
        omega
      · simp [Debouncer.clear]

theorem meet (h : v.Attends session watcher (happening :: rest))
    (hlimit : session.now + happening.time < limit)
    (hapart : ∀ s ∈ (session.dutiesIn happening).filterMap Duty.reloadTime?,
      s ∉ v.coming) :
    ∃ v' : Vigil, v.stoppedAt limit = v'.stoppedAt limit ∧
      v'.begun =
        v.begun ++ (session.dutiesIn happening).filterMap Duty.reloadTime? ∧
      v'.coming ⊆ v.coming ∧ v'.Attends (session.meet happening)
        (watcher.meet session.now happening) rest := by
  cases happening with
  | touch present path =>
      obtain ⟨v', hrun, hbegun, hattends⟩ := h.touch hlimit
      exact ⟨v', hrun, hbegun.trans (List.append_nil _).symm, hattends⟩
  | advance world time => exact h.advance hlimit hapart

theorem begun_stoppedAt {happenings : List Happening}
    (h : v.Attends session watcher happenings)
    (hapart : ∀ s ∈ session.reloads happenings, s ∉ v.coming) :
    (v.stoppedAt ((session.follow happenings).now + 1)).begun =
      v.begun ++ session.reloads happenings := by
  induction happenings generalizing v session watcher with
  | nil =>
      have hturn : v.turn? (some (.cancelled (session.now + 1))) = none :=
        turn?_eq_none h.coming fun due hdue => h.ahead due (h.timer ▸ hdue)
      show (v.stoppedAt (session.now + 1)).begun = v.begun ++ []
      rw [stoppedAt, run_of_turn?_eq_none hturn, List.append_nil]
  | cons happening rest ih =>
      rw [Session.reloads, List.forall_mem_append] at hapart
      have hlimit :
          session.now + happening.time <
            ((session.meet happening).follow rest).now + 1 := by
        rw [Session.now_follow, Session.now_meet]
        omega
      obtain ⟨v', hrun, hbegun, hcoming, hattends⟩ := h.meet hlimit hapart.1
      show (v.stoppedAt (((session.meet happening).follow rest).now + 1)).begun = _
      rw [hrun, ih hattends fun s hs hsent => hapart.2 s hs (hcoming hsent), hbegun,
        List.append_assoc]
      rfl

end Attends

/-- One whose actions take no time receives everything when it is sent. -/
theorem heard_stoppedAt (window : Nat) {sent : List Nat} {limit : Nat}
    (hsent : sent.Pairwise (· ≤ ·)) (hlimit : ∀ a ∈ sent, a < limit) :
    ((start window sent).stoppedAt limit).heard = sent := by
  obtain ⟨h, hrest⟩ :=
    (kept_start (some (.cancelled limit)) (fun _ => 0) window sent).run hsent
  obtain ⟨past, missed, hsplit, hpast, hmissed⟩ := h.received_or_missed hsent hrest
  have hprompt : ∀ {begun : List Nat} {a t : Nat},
      ReceivedAt (fun _ => 0) begun a t → a = t := by
    rintro begun a t (⟨rfl, _⟩ | ⟨s, _, hfrom, hto, _⟩)
    · rfl
    · exact absurd hto (Nat.lt_asymm hfrom)
  have hnone : missed = [] := by
    refine List.eq_nil_iff_forall_not_mem.mpr fun a ha => ?_
    obtain ⟨t, hreceived, e, he, hmisses⟩ := hmissed a ha
    cases he
    rw [← hprompt hreceived] at hmisses
    exact Nat.not_le_of_lt (hlimit a (by simp [hsplit, ha])) hmisses
  rw [hnone, List.append_nil] at hsplit
  have hsame : List.Forall₂ (· = ·) past
      ((start window sent).stoppedAt limit).heard :=
    hpast.imp fun a t ht => hprompt ht.1
  rw [List.forall₂_eq_eq_eq] at hsame
  exact hsame.symm.trans hsplit.symm

/-- One whose actions take no time acts a window after each event that no other one
follows. -/
theorem mem_begun_stoppedAt (window : Nat) {sent : List Nat} {last s : Nat}
    (hsent : sent.Pairwise (· ≤ ·)) (hlast : ∀ a ∈ sent, a ≤ last) :
    s ∈ ((start window sent).stoppedAt (last + 1)).begun ↔
      ∃ t ∈ sent, s = t + window ∧ QuietAfter window sent t ∧ s ≤ last := by
  obtain ⟨h, hrest⟩ :=
    (kept_start (some (.cancelled (last + 1))) (fun _ => 0) window sent).run hsent
  have hheard := heard_stoppedAt window hsent fun a ha =>
    Nat.lt_succ_of_le (hlast a ha)
  rw [stoppedAt] at hheard ⊢
  rw [h.mem_begun_iff hrest, hheard]
  simp only [Option.mem_def, Option.some.injEq, Ending.time, forall_eq',
    Nat.lt_succ_iff]

end Vigil

/-- A session whose tasks watch a directory reloads when one who waits for quiet
acts, if that one is sent what is noticed and acts in no time. Were a change noticed
at the very time of a reload, the session would have reloaded before, and one who
waits would first receive the change. -/
theorem Session.reloads_after_quiet [Catalog.Hashing] (session : Session State Plan)
    {options : TaskOptions} (hwatch : options.watch = true)
    (hwindow : 0 < options.debounce) (present : List String)
    (happenings : List Happening) :
    let begun := session.start options (some (.directory present))
    let sent := (Scope.ofDirectories present).noticed session.now happenings
    let now := session.now + Happening.elapsed happenings
    (∀ s ∈ begun.reloads happenings, s ∉ sent) →
      begun.reloads happenings =
        ((Vigil.start options.debounce sent).stoppedAt (now + 1)).begun ∧
      ∀ s, s ∈ begun.reloads happenings ↔ ∃ t ∈ sent, s = t + options.debounce ∧
        Vigil.QuietAfter options.debounce sent t ∧ s ≤ now := by
  intro begun sent now hapart
  have hattends : (Vigil.start options.debounce sent).Attends begun
      ⟨.ofDirectories present, .idle options.debounce⟩ happenings := by
    constructor
    case watches =>
      simp [begun, start, watcher?, Tasks.start, Tasks.watcher?, hwatch]
    case timer => rfl
    case now_le => exact Nat.zero_le _
    case coming => rfl
    case ahead => simp [Debouncer.idle]
    case window_pos => exact hwindow
  have hsame := hattends.begun_stoppedAt hapart
  rw [now_follow] at hsame
  refine ⟨hsame.symm, fun s => ?_⟩
  rw [← Vigil.mem_begun_stoppedAt options.debounce (Scope.pairwise_noticed _ _ _)
    fun a ha => (Scope.le_of_mem_noticed ha).2]
  exact Eq.to_iff (congrArg (s ∈ ·) hsame.symm)

end QueryGate.Reload
