import QueryGate.Proofs.Reload.Polling
import QueryGate.Proofs.Tool.Numerals
import QueryGate.Proofs.Tool.Rehearsal

/-!
What starting the tasks asks of the runtime.

A clock needs a period, and a channel needs places, but not more than the runtime
has. `Demands` is what the settings and the environment come to ask for. Clocks
always get a period, as short ones are not used. The number of places is taken from
the environment as it is: when it is one that no channel can have, the program
breaks off, and nothing else makes it.
-/

namespace QueryGate

namespace Tool

open Engine Reload

/-- A variable of the environment spells a number that 64 bits are enough for. -/
def Tunable.Gives (tunable : Tunable) (environment : Environment)
    (n : Nat) : Prop :=
  ∃ text, environment.lookup tunable.key = some text ∧ Spells text n ∧
    n ≤ largestWord

theorem Tunable.gives_iff {tunable : Tunable} {environment : Environment}
    {n : Nat} :
    tunable.Gives environment n ↔
    (environment.lookup tunable.key).bind readWord? = some n := by
  simp only [Gives, ← readWord?_eq_some_iff, Option.bind_eq_some_iff]

/-- Where no number is given, the standard counts. -/
theorem Tunable.value_eq_iff {tunable : Tunable} {environment : Environment}
    {n : Nat} :
    tunable.value environment = n ↔ tunable.Gives environment n ∨
      n = tunable.standard ∧ ∀ other, ¬ tunable.Gives environment other := by
  simp only [Tunable.gives_iff, Tunable.value]
  cases (environment.lookup tunable.key).bind readWord? with
  | none => simp [eq_comm]
  | some given => simp

/-- What starting the tasks asks of the runtime: the milliseconds between two ticks
of a clock, and how many changes may wait in a channel. -/
structure Demands where
  period : Option Nat
  places : Option Nat

/-- What is asked for when the tasks of an engine with some settings are started. -/
def Demands.ofStart (settings : Settings) (environment : Environment)
    (options : TaskOptions) : Demands where
  period := settings.pollInterval.map (· * 1000)
  places := if options.watch then some (channelSize.value environment) else none

/-- The runtime can do what it is asked for. -/
structure Demands.Sound (demands : Demands) : Prop where
  period_pos : ∀ period ∈ demands.period, 0 < period
  places_pos : ∀ places ∈ demands.places, 1 ≤ places
  places_le : ∀ places ∈ demands.places, places ≤ largestChannel

/-- The environment gives a number of places that no channel can have. -/
def Misgiven (environment : Environment) : Prop :=
  ∃ places, channelSize.Gives environment places ∧
    (places = 0 ∨ largestChannel < places)

section Start

variable {settings : Settings} {environment : Environment} {options : TaskOptions}

/-- A clock ticks every five seconds at most. -/
theorem Demands.period_ge {period : Nat}
    (h : period ∈ (Demands.ofStart settings environment options).period) :
    5000 ≤ period := by
  obtain ⟨seconds, hseconds, rfl⟩ := Option.map_eq_some_iff.mp h
  obtain ⟨_, _, heq⟩ := Session.pollInterval_eq_some_iff.mp hseconds
  split at heq <;> omega

theorem isChannelSize_eq_false_iff :
    isChannelSize (channelSize.value environment) = false ↔
    Misgiven environment := by
  have hsize : ∀ n, isChannelSize n = false ↔ n = 0 ∨ largestChannel < n := by
    intro n
    simp only [isChannelSize, Bool.and_eq_false_iff, decide_eq_false_iff_not]
    omega
  have hstandard :
    ¬ (channelSize.standard = 0 ∨ largestChannel < channelSize.standard) := by
      decide
  rw [hsize]
  constructor
  · intro hbad
    rcases Tunable.value_eq_iff.mp rfl with hgiven | ⟨hvalue, _⟩
    · exact ⟨_, hgiven, hbad⟩
    · exact absurd (hvalue ▸ hbad) hstandard
  · rintro ⟨places, hgiven, hbad⟩
    rw [Tunable.value_eq_iff.mpr (Or.inl hgiven)]
    exact hbad

/-- Of all that is asked for, only the places that the environment gives can be too
much. -/
theorem Demands.sound_ofStart_iff :
    (Demands.ofStart settings environment options).Sound ↔
    (options.watch = true → ¬ Misgiven environment) := by
  have hperiod : ∀ period ∈ (Demands.ofStart settings environment options).period,
      0 < period :=
    fun period h => by have := Demands.period_ge h; omega
  rw [← isChannelSize_eq_false_iff, Bool.not_eq_false, isChannelSize,
    Bool.and_eq_true, decide_eq_true_eq, decide_eq_true_eq]
  constructor
  · intro hsound hwatch
    have hplaces : channelSize.value environment ∈
        (Demands.ofStart settings environment options).places := if_pos hwatch
    exact ⟨hsound.places_pos _ hplaces, hsound.places_le _ hplaces⟩
  · intro h
    have hplaces : ∀ places ∈ (Demands.ofStart settings environment options).places,
        1 ≤ places ∧ places ≤ largestChannel := by
      intro places hmem
      simp only [Demands.ofStart, Option.mem_def,
        Option.ite_none_right_eq_some] at hmem
      obtain ⟨hwatch, hvalue⟩ := hmem
      cases hvalue
      exact h hwatch
    exact ⟨hperiod, fun _ hmem => (hplaces _ hmem).1,
      fun _ hmem => (hplaces _ hmem).2⟩

/-- The poller has the period of the clock that is asked for. -/
theorem interval_poller? (now : Nat) :
    (Tasks.poller? settings now).map Poller.interval =
    (Demands.ofStart settings environment options).period := by
  unfold Tasks.poller? Demands.ofStart
  cases hinterval : settings.pollInterval with
  | none => rfl
  | some seconds =>
      have hpos : 0 < seconds * 1000 :=
        Nat.mul_pos (Session.pollInterval_pos hinterval) (by decide)
      rw [Option.bind_some, dif_pos hpos]
      rfl

end Start

section Hashed

variable [Catalog.Hashing]

theorem ending_watchService_eq_broken_iff {environment : Environment}
    {options : TaskOptions} {path : String} {database : Database}
    {place : Except IoFault Storage.Node} {service : WatchedService}
    {changes : List Change} :
    (watchService environment options path database place service
        changes).ending = .broken ↔
      options.watch = true ∧ Misgiven environment := by
  rw [← isChannelSize_eq_false_iff]
  unfold watchService
  by_cases hbroken :
    (options.watch && !isChannelSize (channelSize.value environment)) = true
  · rw [if_pos hbroken]
    simpa using hbroken
  · rw [if_neg hbroken]
    simpa using hbroken

/-- Starting the tasks in some environment, with a window that is asked for or not,
and a watcher that is wanted or not. An interval of less than five seconds is
replaced, and none is used that is negative. A text that spells no number of 64 bits
is not accepted, or counts as none. -/
structure Starting (environment : Environment) (debounce : Option Nat)
    (noWatch : Bool) : Prop where
  interval : ∀ (settings : Settings) seconds, settings.pollInterval = some seconds ↔
    settings.restricted = false ∧ 0 ≤ settings.pollSeconds ∧
      (seconds : Int) = if settings.pollSeconds < 5 then 10
        else settings.pollSeconds
  poller : ∀ settings options now,
    (Tasks.poller? settings now).map Poller.interval =
    (Demands.ofStart settings environment options).period
  accepted : ∀ text, Setting.debounce.accepts text = true ↔
    ∃ n ≤ largestWord, Spells text n
  window : ∀ n, (taskOptions environment debounce noWatch).debounce = n ↔
    debounce = some n ∨ debounce = none ∧ (reloadDebounce.Gives environment n ∨
      n = 10000 ∧ ∀ other, ¬ reloadDebounce.Gives environment other)
  places : ∀ settings n,
    (Demands.ofStart settings environment
      (taskOptions environment debounce noWatch)).places =
      some n ↔ noWatch = false ∧ (channelSize.Gives environment n ∨
        n = 256 ∧ ∀ other, ¬ channelSize.Gives environment other)
  sound : ∀ settings,
    (Demands.ofStart settings environment
      (taskOptions environment debounce noWatch)).Sound ↔
      ¬ (noWatch = false ∧ Misgiven environment)
  broken : ∀ (around : Surroundings) subject changes,
    (watch around environment subject (taskOptions environment debounce noWatch)
        changes).ending = .broken ↔
      ∃ snapshot, around.firstSnapshot subject.endpoint = .ok snapshot ∧
        ¬ (Demands.ofStart snapshot.settings environment
          (taskOptions environment debounce noWatch)).Sound

/-- Whatever the settings, the environment and the options are: clocks have a period
of five seconds or more, and watching breaks off just when a snapshot is there, the
directory is to be watched, and the environment gives a number of places that no
channel can have. -/
theorem sound_unless_misgiven (environment : Environment) (debounce : Option Nat)
    (noWatch : Bool) : Starting environment debounce noWatch := by
  have hsound : ∀ settings,
      (Demands.ofStart settings environment
        (taskOptions environment debounce noWatch)).Sound ↔
        ¬ (noWatch = false ∧ Misgiven environment) := by
    intro settings
    rw [Demands.sound_ofStart_iff, not_and]
    simp [taskOptions]
  constructor
  case interval => exact fun settings seconds => Session.pollInterval_eq_some_iff
  case poller => exact fun settings options now => interval_poller? now
  case accepted =>
    intro text
    simp only [Setting.accepts, Option.isSome_iff_exists, readWord?_eq_some_iff,
      and_comm]
  case window =>
    intro n
    cases debounce with
    | none =>
        have hvalue := @Tunable.value_eq_iff reloadDebounce environment n
        simpa [taskOptions, reloadDebounce] using hvalue
    | some given => simp [taskOptions]
  case places =>
    intro settings n
    simp only [Demands.ofStart, Option.ite_none_right_eq_some, Option.some.injEq,
      Tunable.value_eq_iff]
    simp [taskOptions, channelSize]
  case sound => exact hsound
  case broken =>
    intro around subject changes
    have hwatched := watchedFrom around environment subject
      (taskOptions environment debounce noWatch) changes
    cases hfirst : around.firstSnapshot subject.endpoint with
    | error failure => simp [(hwatched.failed failure).mpr hfirst]
    | ok snapshot =>
        obtain ⟨database, service, _, _, hwatch⟩ := hwatched.begun snapshot hfirst
        have hbroken : (∃ first,
          (.ok snapshot : Except Failure Snapshot) = .ok first ∧
            ¬ (Demands.ofStart first.settings environment
              (taskOptions environment debounce noWatch)).Sound) ↔
            noWatch = false ∧ Misgiven environment := by
          simp only [Except.ok.injEq, exists_eq_left', hsound, not_not]
        rw [hwatch, ending_watchService_eq_broken_iff, hbroken]
        simp [taskOptions]

end Hashed

namespace NoPlaces

/-- A database without tables, and a directory without settings. -/
def around : Surroundings where
  place := .ok (.directory [])
  connect := fun _ _ => .ok (.ok ⟨⟨14, "public", "app"⟩, [], [], []⟩)

def subject : Subject :=
  ⟨"postgres://db", "."⟩

/-- The variable spells a number, so the standard does not count. -/
def environment : Environment :=
  [("QUARRY_WATCHER_CHANNEL_SIZE", "0")]

/-- The directory is watched, and no window is asked for. -/
def options : TaskOptions :=
  taskOptions environment none false

/-- A channel without places is asked for, and the program breaks off. -/
theorem asked_without_places :
    (∃ snapshot, around.firstSnapshot subject.endpoint = .ok snapshot) ∧
      channelSize.notices environment = [] ∧
      (Demands.ofStart .default environment options).places = some 0 ∧
      ¬ (Demands.ofStart .default environment options).Sound ∧
      (watch around environment subject options []).ending = .broken := by
  have hplaces : (Demands.ofStart .default environment options).places =
      some 0 := by
    decide +kernel
  refine ⟨⟨_, rfl⟩, by decide +kernel, hplaces, fun hsound => ?_, by decide +kernel⟩
  exact absurd (hsound.places_pos 0 hplaces) (by decide)

end NoPlaces

end Tool

end QueryGate
