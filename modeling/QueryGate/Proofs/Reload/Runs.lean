import QueryGate.Catalog.Client
import QueryGate.Proofs.Engine.Assembly
import QueryGate.Proofs.Engine.Serving
import QueryGate.Reload.Service

/-!
What a service goes through.

Reloads, looks at the schema and requests come in any order, and the outside world
may be another one each time it is asked. Whatever comes, the active snapshot is the
one of the last success: it was built as a whole from what one world answered, and a
failure leaves it as it was.
-/

namespace QueryGate

/-- One of the catalog queries fails. -/
def Catalog.Content.Fails {Flag : Type} (content : Catalog.Content Flag) : Prop :=
  (∃ reason, content.info = .error reason) ∨
    (∃ reason, content.columns = .error reason) ∨
    (∃ reason, content.functions = .error reason) ∨
    ∃ reason, content.indexes = .error reason

/-- Of a discovery there is no part: a query that fails leaves no rows at all. -/
theorem Catalog.Client.rows_of_fails {Flag : Type} (client : Catalog.Client Flag)
    {content : Catalog.Content Flag} (h : content.Fails) :
    ∃ e, client.rows content = .error e := by
  unfold Catalog.Client.rows
  cases hinfo : client.readInfo content.info with
  | error e => exact ⟨e, rfl⟩
  | ok info =>
      cases hcolumns : readRows client.column? content.columns with
      | error e => exact ⟨e, rfl⟩
      | ok columns =>
          cases hfunctions : readRows client.function? content.functions with
          | error e => exact ⟨e, rfl⟩
          | ok functions =>
              cases hindexes : readRows index? content.indexes with
              | error e => exact ⟨e, rfl⟩
              | ok indexes =>
                  rcases h with ⟨reason, h⟩ | ⟨reason, h⟩
                    | ⟨reason, h⟩ | ⟨reason, h⟩
                  · simp [readInfo, h] at hinfo
                  · simp [readRows, h] at hcolumns
                  · simp [readRows, h] at hfunctions
                  · simp [readRows, h] at hindexes

namespace Reload

open Catalog Engine

variable {State Plan : Type}

/-- What is asked of a service. A look at the schema finds one world, and a reload
after it another. A request may be that of somebody who holds the snapshot of a
generation. -/
inductive Event where
  | reload (world : World)
  | checkSchema (seen world : World)
  | compile (request : Request)
  | compileHeld (generation : Nat) (request : Request)

/-- The world that a new snapshot is built of. -/
def Event.world? : Event → Option World
  | .reload world => some world
  | .checkSchema _ world => some world
  | .compile _ => none
  | .compileHeld _ _ => none

/-- What a service replies. A snapshot is unheld that nobody holds. -/
inductive Reply (Plan : Type) where
  | reloaded (outcome : Except Error Unit)
  | checked (outcome : Except Error Bool)
  | answered (answer : Except Error (Compiled Plan))
  | unheld

namespace Reply

/-- A new snapshot was published. -/
def published : Reply Plan → Bool
  | .reloaded (.ok ()) => true
  | .checked (.ok drifted) => drifted
  | _ => false

/-- A reload or a look at the schema failed. -/
def failed : Reply Plan → Bool
  | .reloaded (.error _) => true
  | .checked (.error _) => true
  | _ => false

end Reply

namespace Service

/-- All snapshots are as they were, and so is what was compiled with them. -/
def Keeps (before after : Service State Plan) : Prop :=
  after.active = before.active ∧ after.retired = before.retired

/-- A snapshot that was built of a world, as a whole and alone, takes the place of
the active one. Nothing was compiled with it. -/
def Publishes (world : World) (before after : Service State Plan) : Prop :=
  ∃ snapshot : Snapshot, snapshot.BuiltFrom world ∧
    snapshot.generation = before.generation + 1 ∧ after.active = .fresh snapshot ∧
    after.retired = before.active :: before.retired

@[simp] theorem generation_look (service : Service State Plan) (times : Nat) :
    (service.look times).generation = service.generation :=
  rfl

@[simp] theorem generation_report (service : Service State Plan)
    (notices : List Notice) :
    (service.report notices).generation = service.generation :=
  rfl

@[simp] theorem snapshot_keepCells (generation : Nat) (cells : Cells Plan)
    (live : Live Plan) :
    (keepCells generation cells live).snapshot = live.snapshot := by
  by_cases h : live.snapshot.generation = generation <;> simp [keepCells, h]

/-- A request changes no snapshot, only what was compiled with one. -/
theorem snapshot_compileWith {backend : Backend State Plan}
    (service : Service State Plan) (live : Live Plan) (request : Request) :
    (service.compileWith backend live request).2.active.snapshot =
      service.active.snapshot ∧
      (service.compileWith backend live request).2.retired.map Live.snapshot =
        service.retired.map Live.snapshot := by
  simp [compileWith, Function.comp_def]

/-- No snapshot is another one than before. -/
def KeepsSnapshots (before after : Service State Plan) : Prop :=
  after.active.snapshot = before.active.snapshot ∧
    after.retired.map Live.snapshot = before.retired.map Live.snapshot

theorem Keeps.keepsSnapshots {before after : Service State Plan}
    (h : before.Keeps after) : before.KeepsSnapshots after := by
  obtain ⟨hactive, hretired⟩ := h
  exact ⟨by rw [hactive], by rw [hretired]⟩

/-- The active snapshot is the last one that was published, and was built as a whole
of one of the worlds. The first world is the one that the service was started in,
and the generation counts the snapshots that were published after the first one. -/
structure Current (worlds : List World) (service : Service State Plan) : Prop where
  generation : service.generation + 1 = worlds.length
  built : ∃ world, worlds.getLast? = some world ∧
    service.active.snapshot.BuiltFrom world

namespace Current

variable {worlds : List World} {before after : Service State Plan}

theorem of_keepsSnapshots (h : before.Current worlds)
    (hkeeps : before.KeepsSnapshots after) : after.Current worlds := by
  obtain ⟨hactive, _⟩ := hkeeps
  constructor
  case generation =>
    rw [Service.generation, hactive]
    exact h.generation
  case built =>
    rw [hactive]
    exact h.built

theorem of_publishes (h : before.Current worlds) {world : World}
    (hpublishes : Publishes world before after) :
    after.Current (worlds ++ [world]) := by
  obtain ⟨snapshot, hbuilt, hnumber, hactive, _⟩ := hpublishes
  constructor
  case generation =>
    rw [Service.generation, hactive, List.length_append]
    exact congrArg (· + 1) (hnumber.trans h.generation)
  case built =>
    rw [hactive]
    exact ⟨world, List.getLast?_concat, hbuilt⟩

end Current

theorem current_start {world : World} {state : State} {service : Service State Plan}
    (h : start world state = .ok service) :
    service.Current [world] ∧ service.active = .fresh service.active.snapshot := by
  unfold start at h
  cases hsnapshot : world.snapshot 0 with
  | error e =>
      rw [hsnapshot] at h
      cases h
  | ok snapshot =>
      rw [hsnapshot] at h
      cases h
      obtain ⟨hbuilt, hnumber⟩ := World.builtFrom_of_snapshot hsnapshot
      exact ⟨⟨congrArg (· + 1) hnumber, world, rfl, hbuilt⟩, rfl⟩

section Hashed

variable [Hashing]

/-- Like `checkSchema`, but the world that a reload finds may be another one. -/
def checkSchemaThen (service : Service State Plan) (seen world : World) :
    Except Error Bool × Service State Plan :=
  let current := service.active.snapshot
  let service := service.look 1
  match seen.discover current.blocklist with
  | .ok found =>
      if found.sameStructure current.schema then (.ok false, service)
      else
        let service :=
          service.report [.schemaChanged current.schema.shownDigest
            found.shownDigest]
        let (outcome, service) := service.reload world
        (outcome.map fun _ => true, service)
  | .error e => (.error e, service)

theorem checkSchemaThen_self (service : Service State Plan) (world : World) :
    service.checkSchemaThen world world = service.checkSchema world :=
  rfl

variable (backend : Backend State Plan)

/-- What a service does when something is asked of it. -/
def handle (service : Service State Plan) : Event → Reply Plan × Service State Plan
  | .reload world =>
      let (outcome, service) := service.reload world
      (.reloaded outcome, service)
  | .checkSchema seen world =>
      let (outcome, service) := service.checkSchemaThen seen world
      (.checked outcome, service)
  | .compile request =>
      let (answer, service) := service.compile backend request
      (.answered answer, service)
  | .compileHeld generation request =>
      match service.live? generation with
      | some live =>
          let (answer, service) := service.compileWith backend live request
          (.answered answer, service)
      | none => (.unheld, service)

/-- The service after events. -/
def run (service : Service State Plan) (events : List Event) : Service State Plan :=
  events.foldl (fun service event => (service.handle backend event).2) service

/-- The worlds of which snapshots were published, in order. -/
def publications (service : Service State Plan) : List Event → List World
  | [] => []
  | event :: rest =>
      let (reply, service) := service.handle backend event
      (if reply.published then event.world?.toList else []) ++
        publications service rest

variable {backend}

theorem reload_of_error {service : Service State Plan} {world : World} {e : Error}
    (h : world.snapshot (service.generation + 1) = .error e) :
    service.reload world =
      (.error e, (service.look world.looks).report world.notices) := by
  simp [reload, h]

theorem reload_of_ok {service : Service State Plan} {world : World}
    {snapshot : Snapshot}
    (h : world.snapshot (service.generation + 1) = .ok snapshot) :
    service.reload world =
      (.ok (),
        (((service.look world.looks).report world.notices).publish snapshot).report
          [.published snapshot.generation snapshot.schema.shownDigest]) := by
  simp [reload, h]

/-- A reload publishes a snapshot, unless something stands in the way. -/
theorem reload_cases (service : Service State Plan) (world : World) :
    (∃ e, world.Obstacle e ∧ (service.reload world).1 = .error e ∧
      service.Keeps (service.reload world).2) ∨
    ((service.reload world).1 = .ok () ∧
      service.Publishes world (service.reload world).2) := by
  rcases world.snapshot_cases (service.generation + 1) with
    ⟨e, hobstacle, herror⟩ | ⟨snapshot, hbuilt, hgeneration, hok⟩
  · rw [reload_of_error herror]
    exact Or.inl ⟨e, hobstacle, rfl, rfl, rfl⟩
  · rw [reload_of_ok hok]
    exact Or.inr ⟨rfl, snapshot, hbuilt, hgeneration, rfl, rfl⟩

theorem checkSchemaThen_of_error {service : Service State Plan} {seen : World}
    {e : Error} (h : seen.discover service.active.snapshot.blocklist = .error e)
    (world : World) :
    service.checkSchemaThen seen world = (.error e, service.look 1) := by
  simp [checkSchemaThen, h]

theorem checkSchemaThen_of_same {service : Service State Plan} {seen : World}
    {found : SchemaModel}
    (h : seen.discover service.active.snapshot.blocklist = .ok found)
    (hsame : found.sameStructure service.active.snapshot.schema = true)
    (world : World) :
    service.checkSchemaThen seen world = (.ok false, service.look 1) := by
  simp [checkSchemaThen, h, hsame]

theorem checkSchemaThen_of_other {service : Service State Plan} {seen : World}
    {found : SchemaModel}
    (h : seen.discover service.active.snapshot.blocklist = .ok found)
    (hother : found.sameStructure service.active.snapshot.schema = false)
    (world : World) :
    ∃ looked : Service State Plan, service.Keeps looked ∧
      looked.generation = service.generation ∧
      service.checkSchemaThen seen world =
        ((looked.reload world).1.map fun _ => true, (looked.reload world).2) := by
  refine ⟨(service.look 1).report
    [.schemaChanged service.active.snapshot.schema.shownDigest found.shownDigest],
    ⟨rfl, rfl⟩, rfl, ?_⟩
  simp [checkSchemaThen, h, hother]

/-- A look at the schema fails, finds the schema of the active snapshot, or leads to
a reload. -/
theorem checkSchemaThen_cases (service : Service State Plan) (seen world : World) :
    (∃ e, (service.checkSchemaThen seen world).1 = .error e ∧
      service.Keeps (service.checkSchemaThen seen world).2) ∨
    ((service.checkSchemaThen seen world).1 = .ok false ∧
      service.Keeps (service.checkSchemaThen seen world).2) ∨
    ((service.checkSchemaThen seen world).1 = .ok true ∧
      service.Publishes world (service.checkSchemaThen seen world).2) := by
  cases hseen : seen.discover service.active.snapshot.blocklist with
  | error e =>
      rw [checkSchemaThen_of_error hseen]
      exact Or.inl ⟨e, rfl, rfl, rfl⟩
  | ok found =>
      cases hsame : found.sameStructure service.active.snapshot.schema with
      | true =>
          rw [checkSchemaThen_of_same hseen hsame]
          exact Or.inr (Or.inl ⟨rfl, rfl, rfl⟩)
      | false =>
          obtain ⟨looked, ⟨hactive, hretired⟩, hgeneration, hthen⟩ :=
            checkSchemaThen_of_other hseen hsame world
          rw [hthen]
          rcases looked.reload_cases world with
            ⟨e, _, herror, hkept, hkept'⟩
              | ⟨hok, snapshot, hbuilt, hnumber, hfresh, hmore⟩
          · refine Or.inl ⟨e, ?_, hkept.trans hactive, hkept'.trans hretired⟩
            rw [herror]
            rfl
          · refine Or.inr (Or.inr ⟨?_, snapshot, hbuilt, ?_, hfresh, ?_⟩)
            · rw [hok]
              rfl
            · rw [hnumber, hgeneration]
            · rw [hmore, hactive, hretired]

/-- All that an event can do to the snapshots: a failure leaves them as they are, a
success publishes one, and anything else changes at most what was compiled with
them. -/
theorem handle_cases (backend : Backend State Plan) (service : Service State Plan)
    (event : Event) :
    ((service.handle backend event).1.failed = true ∧
      (service.handle backend event).1.published = false ∧
      service.Keeps (service.handle backend event).2) ∨
    ((service.handle backend event).1.failed = false ∧
      (service.handle backend event).1.published = true ∧
      ∃ world, event.world? = some world ∧
        service.Publishes world (service.handle backend event).2) ∨
    ((service.handle backend event).1.failed = false ∧
      (service.handle backend event).1.published = false ∧
      service.KeepsSnapshots (service.handle backend event).2) := by
  cases event with
  | reload world =>
      simp only [handle]
      rcases service.reload_cases world with ⟨e, _, herror, hkeeps⟩
        | ⟨hok, hpublishes⟩
      · rw [herror]
        exact Or.inl ⟨rfl, rfl, hkeeps⟩
      · rw [hok]
        exact Or.inr (Or.inl ⟨rfl, rfl, world, rfl, hpublishes⟩)
  | checkSchema seen world =>
      simp only [handle]
      rcases service.checkSchemaThen_cases seen world with
        ⟨e, herror, hkeeps⟩ | ⟨hsame, hkeeps⟩ | ⟨hok, hpublishes⟩
      · rw [herror]
        exact Or.inl ⟨rfl, rfl, hkeeps⟩
      · rw [hsame]
        exact Or.inr (Or.inr ⟨rfl, rfl, hkeeps.keepsSnapshots⟩)
      · rw [hok]
        exact Or.inr (Or.inl ⟨rfl, rfl, world, rfl, hpublishes⟩)
  | compile request =>
      exact Or.inr (Or.inr ⟨rfl, rfl,
        service.snapshot_compileWith service.active request⟩)
  | compileHeld generation request =>
      simp only [handle]
      cases service.live? generation with
      | none => exact Or.inr (Or.inr ⟨rfl, rfl, rfl, rfl⟩)
      | some live =>
          exact Or.inr (Or.inr ⟨rfl, rfl,
            service.snapshot_compileWith live request⟩)

namespace Current

variable {worlds : List World} {before : Service State Plan}

theorem handle (h : before.Current worlds) (backend : Backend State Plan)
    (event : Event) :
    (before.handle backend event).2.Current
      (worlds ++ if (before.handle backend event).1.published
        then event.world?.toList
        else []) := by
  rcases before.handle_cases backend event with
    ⟨_, hnot, hkeeps⟩ | ⟨_, hpublished, world, hworld, hpublishes⟩
      | ⟨_, hnot, hkeeps⟩
  · rw [hnot]
    simpa using h.of_keepsSnapshots hkeeps.keepsSnapshots
  · rw [hpublished, hworld]
    exact h.of_publishes hpublishes
  · rw [hnot]
    simpa using h.of_keepsSnapshots hkeeps

theorem run (h : before.Current worlds) (backend : Backend State Plan)
    (events : List Event) :
    (before.run backend events).Current
      (worlds ++ before.publications backend events) := by
  induction events generalizing before worlds with
  | nil => simpa [Service.run, publications] using h
  | cons event rest ih =>
      have hrest := ih (h.handle backend event)
      rw [List.append_assoc] at hrest
      exact hrest

end Current

theorem reload_fails_iff {service : Service State Plan} {world : World}
    {e : Error} :
    (service.reload world).1 = .error e ↔ world.Obstacle e := by
  constructor
  · intro h
    rcases service.reload_cases world with ⟨other, hobstacle, hother, _⟩ | ⟨hok, _⟩
    · rw [h] at hother
      cases hother
      exact hobstacle
    · rw [h] at hok
      cases hok
  · intro h
    rw [reload_of_error (h.snapshot_eq _)]

theorem checkSchemaThen_fails_iff {service : Service State Plan}
    {seen world : World} {e : Error} :
    (service.checkSchemaThen seen world).1 = .error e ↔
      seen.discover service.active.snapshot.blocklist = .error e ∨
        ∃ found, seen.discover service.active.snapshot.blocklist = .ok found ∧
          found.sameStructure service.active.snapshot.schema = false ∧
          world.Obstacle e := by
  cases hseen : seen.discover service.active.snapshot.blocklist with
  | error other =>
      rw [checkSchemaThen_of_error hseen]
      simp
  | ok found =>
      cases hsame : found.sameStructure service.active.snapshot.schema with
      | true =>
          rw [checkSchemaThen_of_same hseen hsame]
          simp [hsame]
      | false =>
          obtain ⟨looked, _, _, hthen⟩ := checkSchemaThen_of_other hseen hsame world
          have hmap : ((looked.reload world).1.map fun _ => true) = .error e ↔
              (looked.reload world).1 = .error e := by
            cases (looked.reload world).1 <;> simp [Except.map]
          rw [hthen, hmap, reload_fails_iff]
          simp [hsame]

/-- A catalog query that fails makes a reload fail, and a look at the schema too. -/
theorem fails_of_query {Flag : Type} {client : Client Flag} {content : Content Flag}
    {world : World} (hfails : content.Fails)
    (hrows : world.rows = client.rows content) (service : Service State Plan) :
    (∃ e, (service.reload world).1 = .error e) ∧
      ∀ later, ∃ e, (service.checkSchemaThen world later).1 = .error e := by
  obtain ⟨e, herror⟩ := client.rows_of_fails hfails
  rw [herror] at hrows
  constructor
  · rcases service.reload_cases world with ⟨other, _, hother, _⟩
      | ⟨_, snapshot, hbuilt, _⟩
    · exact ⟨other, hother⟩
    · obtain ⟨rows, hread, _⟩ := hbuilt.schema
      rw [hrows] at hread
      cases hread
  · intro later
    have hseen : world.discover service.active.snapshot.blocklist = .error e := by
      rw [World.discover, hrows]
      rfl
    exact ⟨e, by rw [checkSchemaThen_of_error hseen]⟩

/-- What can be relied on after any events, where snapshots of some worlds were
published. A failure leaves all snapshots alone, and what was compiled with them. A
success publishes a snapshot with which nothing was compiled. Nothing but a success
changes a snapshot. It is told why a reload and a look at the schema fail, and each
of the catalog queries is needed. -/
structure Atomic (backend : Backend State Plan) (worlds : List World)
    (service : Service State Plan) : Prop extends Current worlds service where
  unregistered : service.active.snapshot.cache = none ↔
    service.active.snapshot.settings.disableAllowList = true
  restricted : service.active.snapshot.restricted =
    service.active.snapshot.settings.restricted
  failure : ∀ event, (service.handle backend event).1.failed = true →
    service.Keeps (service.handle backend event).2
  success : ∀ event, (service.handle backend event).1.published = true →
    ∃ world, event.world? = some world ∧
      service.Publishes world (service.handle backend event).2
  otherwise : ∀ event, (service.handle backend event).1.published = false →
    service.KeepsSnapshots (service.handle backend event).2
  reload_fails : ∀ world e, (service.reload world).1 = .error e ↔ world.Obstacle e
  look_fails : ∀ seen world e, (service.checkSchemaThen seen world).1 = .error e ↔
    seen.discover service.active.snapshot.blocklist = .error e ∨
      ∃ found, seen.discover service.active.snapshot.blocklist = .ok found ∧
        found.sameStructure service.active.snapshot.schema = false ∧
        world.Obstacle e
  query_fails : ∀ (Flag : Type) (client : Client Flag) (content : Content Flag)
    (world : World), content.Fails → world.rows = client.rows content →
      (∃ e, (service.reload world).1 = .error e) ∧
        ∀ later, ∃ e, (service.checkSchemaThen world later).1 = .error e

theorem Current.atomic {worlds : List World} {service : Service State Plan}
    (h : service.Current worlds) (backend : Backend State Plan) :
    service.Atomic backend worlds := by
  obtain ⟨world, _, hbuilt⟩ := h.built
  constructor
  case toCurrent => exact h
  case unregistered => exact hbuilt.cache_eq_none_iff
  case restricted => exact hbuilt.restricted_eq
  case failure =>
    intro event hfailed
    rcases service.handle_cases backend event with ⟨_, _, hkeeps⟩
      | ⟨hnot, _⟩ | ⟨hnot, _⟩
    · exact hkeeps
    · rw [hnot] at hfailed
      cases hfailed
    · rw [hnot] at hfailed
      cases hfailed
  case success =>
    intro event hpublished
    rcases service.handle_cases backend event with
      ⟨_, hnot, _⟩ | ⟨_, _, hpublishes⟩ | ⟨_, hnot, _⟩
    · rw [hnot] at hpublished
      cases hpublished
    · exact hpublishes
    · rw [hnot] at hpublished
      cases hpublished
  case otherwise =>
    intro event hnot
    rcases service.handle_cases backend event with
      ⟨_, _, hkeeps⟩ | ⟨_, hpublished, _⟩ | ⟨_, _, hkeeps⟩
    · exact hkeeps.keepsSnapshots
    · rw [hnot] at hpublished
      cases hpublished
    · exact hkeeps
  case reload_fails =>
    intro world e
    exact reload_fails_iff
  case look_fails =>
    intro seen world e
    exact checkSchemaThen_fails_iff
  case query_fails =>
    intro Flag client content world hfails hrows
    exact fails_of_query hfails hrows service

/-- Whatever reloads, looks and requests come after a successful start, in whatever
worlds, the active snapshot is the one of the last success, built as a whole of one
world. -/
theorem run_atomic {world : World} {state : State} {first : Service State Plan}
    (hstart : start world state = .ok first) (backend : Backend State Plan)
    (events : List Event) :
    first.active = .fresh first.active.snapshot ∧
      (first.run backend events).Atomic backend
        (world :: first.publications backend events) := by
  obtain ⟨hcurrent, hfresh⟩ := current_start hstart
  exact ⟨hfresh, (hcurrent.run backend events).atomic backend⟩

end Hashed

namespace BrokenSource

def world : World :=
  ⟨.postgres, .ok ⟨⟨14, "public", "app"⟩, [], [], []⟩, .ok .default, .ok []⟩

/-- The database does not answer. -/
def unreachable : World :=
  { world with rows := .error (.discoveryFailed "gone") }

/-- After a failure and a success there is one more snapshot. -/
theorem run_atomic_unreachable :
    ∃ first, start world () = .ok first ∧
      (first.run .echo [.reload unreachable, .reload world]).Atomic .echo
        [world, world] :=
  ⟨_, rfl, (run_atomic rfl .echo [.reload unreachable, .reload world]).2⟩

end BrokenSource

end Service

end Reload

end QueryGate
