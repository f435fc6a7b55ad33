import QueryGate.Proofs.Reload.Skipping

/-!
Looks at the schema settle.

A look judges the database by the blocklist of the active snapshot, and a reload
brings the blocklist of the settings that it finds. So the model that a reload
publishes is the one that the next look builds again: once a look or a reload has
succeeded, nothing but a change of the database makes a later look reload, whatever
becomes of the settings and of the queries to register.
-/

namespace QueryGate

/-- Two worlds have the same database. Their settings and the queries to register
may differ. -/
structure Engine.World.SameSource (world other : Engine.World) : Prop where
  kind : world.kind = other.kind
  rows : world.rows = other.rows

theorem Engine.World.SameSource.discover_eq {world other : Engine.World}
    (h : world.SameSource other) (blocklist : Blocklist) :
    world.discover blocklist = other.discover blocklist := by
  rw [World.discover, World.discover, h.kind, h.rows]

theorem Catalog.SchemaModel.sameStructure_self (model : Catalog.SchemaModel) :
    model.sameStructure model = true := by
  rw [sameStructure, beq_self_eq_true]

namespace Reload

open Catalog Engine

variable {State Plan : Type}

/-- Whenever the event asks the database, it finds this one. -/
def Event.Finds (source : World) : Event → Prop
  | .reload world => world.SameSource source
  | .checkSchema seen later => seen.SameSource source ∧ later.SameSource source
  | .compile _ => True
  | .compileHeld _ _ => True

namespace Service

/-- A look at a database finds the structure of the active snapshot. -/
def Settled (service : Service State Plan) (source : World) : Prop :=
  ∃ found, source.discover service.active.snapshot.blocklist = .ok found ∧
    found.sameStructure service.active.snapshot.schema = true

/-- As long as the database is this one, every further look finds nothing and
publishes nothing, whatever else is asked of the service in between. -/
def Rests [Hashing] (service : Service State Plan) (backend : Backend State Plan)
    (source : World) : Prop :=
  ∀ events : List Event, (∀ event ∈ events, event.Finds source) →
    ∀ seen later : World, seen.SameSource source →
      let after := service.run backend events
      after.checkSchemaThen seen later = (.ok false, after.look 1)

section Settling

variable {service : Service State Plan} {source : World}

/-- A snapshot has the structure of the database that it was built of. -/
theorem settled_of_builtFrom (h : service.active.snapshot.BuiltFrom source) :
    service.Settled source := by
  obtain ⟨rows, hrows, hschema⟩ := h.schema
  refine ⟨service.active.snapshot.schema, ?_, SchemaModel.sameStructure_self _⟩
  rw [World.discover, hrows, hschema]
  rfl

theorem settled_of_publishes {before : Service State Plan}
    (h : Publishes source before service) : service.Settled source := by
  obtain ⟨snapshot, hbuilt, _, hactive, _⟩ := h
  apply settled_of_builtFrom
  rw [hactive]
  exact hbuilt

theorem Settled.of_snapshot_eq (h : service.Settled source)
    {after : Service State Plan}
    (hsame : after.active.snapshot = service.active.snapshot) :
    after.Settled source := by
  rw [Settled, hsame]
  exact h

theorem Settled.of_sameSource {world : World} (h : service.Settled world)
    (hsame : world.SameSource source) : service.Settled source := by
  rw [Settled, ← hsame.discover_eq]
  exact h

variable [Hashing]

theorem Settled.checkSchemaThen_eq (h : service.Settled source) {seen : World}
    (hseen : seen.SameSource source) (later : World) :
    service.checkSchemaThen seen later = (.ok false, service.look 1) := by
  obtain ⟨found, hfound, hsame⟩ := h
  exact checkSchemaThen_of_same ((hseen.discover_eq _).trans hfound) hsame later

/-- Nothing that is asked of a service unsettles it, as long as the database is the
same: a reload publishes a snapshot of just this database, and anything else leaves
the snapshot as it is. -/
theorem Settled.handle (h : service.Settled source) (backend : Backend State Plan)
    {event : Event} (hevent : event.Finds source) :
    (service.handle backend event).2.Settled source := by
  rcases service.handle_cases backend event with
    ⟨_, _, hkeeps⟩ | ⟨_, _, world, hworld, hpublishes⟩ | ⟨_, _, hkeeps⟩
  · exact h.of_snapshot_eq hkeeps.keepsSnapshots.1
  · have hsource : world.SameSource source := by
      cases event with
      | reload found =>
          obtain rfl : found = world := Option.some.inj hworld
          exact hevent
      | checkSchema seen found =>
          obtain rfl : found = world := Option.some.inj hworld
          exact hevent.2
      | compile request => cases hworld
      | compileHeld generation request => cases hworld
    exact (settled_of_publishes hpublishes).of_sameSource hsource
  · exact h.of_snapshot_eq hkeeps.1

theorem Settled.run (h : service.Settled source) (backend : Backend State Plan)
    {events : List Event} (hevents : ∀ event ∈ events, event.Finds source) :
    (service.run backend events).Settled source := by
  induction events generalizing service with
  | nil => exact h
  | cons event rest ih =>
      obtain ⟨hevent, hrest⟩ := List.forall_mem_cons.mp hevents
      exact ih (h.handle backend hevent) hrest

theorem Settled.rests (h : service.Settled source) (backend : Backend State Plan) :
    service.Rests backend source := by
  intro events hevents seen later hseen
  exact (h.run backend hevents).checkSchemaThen_eq hseen later

end Settling

section Hashed

variable [Hashing]

/-- A look that succeeds leaves the service settled: where it found nothing, with
the database that it saw, and where it led to a reload, with the one that the reload
found. -/
theorem settled_of_checked {service : Service State Plan} {seen later : World}
    {drifted : Bool} (h : (service.checkSchemaThen seen later).1 = .ok drifted) :
    (service.checkSchemaThen seen later).2.Settled
      (if drifted then later else seen) := by
  rcases service.checkSchemaThen_cases seen later with
    ⟨e, herror, _⟩ | ⟨hsame, hkept, _⟩ | ⟨hother, hpublishes⟩
  · rw [herror] at h
    cases h
  · rw [hsame] at h
    cases h
    obtain ⟨found, hfound, hstructure⟩ := discover_of_skipped hsame
    exact Settled.of_snapshot_eq ⟨found, hfound, hstructure⟩
      (congrArg Live.snapshot hkept)
  · rw [hother] at h
    cases h
    exact settled_of_publishes hpublishes

/-- What can be relied on about looks and reloads, in a service at any moment. A
look tells of another structure only after it has published one new snapshot. Any
other look leaves the snapshots in place, and what was compiled with them. After a
look or a reload that succeeded, further looks find nothing until the database
changes. -/
structure Converges (backend : Backend State Plan)
    (service : Service State Plan) : Prop where
  drifted : ∀ seen later, (service.checkSchemaThen seen later).1 = .ok true →
    service.Publishes later (service.checkSchemaThen seen later).2
  otherwise : ∀ seen later, (service.checkSchemaThen seen later).1 ≠ .ok true →
    service.Keeps (service.checkSchemaThen seen later).2
  afterLook : ∀ seen later drifted,
    (service.checkSchemaThen seen later).1 = .ok drifted →
    (service.checkSchemaThen seen later).2.Rests backend
      (if drifted then later else seen)
  afterReload : ∀ world, (service.reload world).1 = .ok () →
    (service.reload world).2.Rests backend world

/-- Whatever a service went through, and whatever blocklist the settings have come
to hold, one look or reload that succeeds is enough: no later look reloads again
until the database changes. -/
theorem polling_converges (backend : Backend State Plan)
    (service : Service State Plan) : service.Converges backend := by
  constructor
  case drifted =>
    intro seen later h
    rcases service.checkSchemaThen_cases seen later with
      ⟨e, herror, _⟩ | ⟨hsame, _⟩ | ⟨_, hpublishes⟩
    · rw [herror] at h
      cases h
    · rw [hsame] at h
      cases h
    · exact hpublishes
  case otherwise =>
    intro seen later h
    rcases service.checkSchemaThen_cases seen later with
      ⟨_, _, hkeeps⟩ | ⟨_, hkeeps⟩ | ⟨hother, _⟩
    · exact hkeeps
    · exact hkeeps
    · exact absurd hother h
  case afterLook =>
    intro seen later drifted h
    exact (settled_of_checked h).rests backend
  case afterReload =>
    intro world h
    rcases service.reload_cases world with ⟨e, _, herror, _⟩ | ⟨_, hpublishes⟩
    · rw [herror] at h
      cases h
    · exact (settled_of_publishes hpublishes).rests backend

end Hashed

namespace Upgrade

def rows (version : Int) : Rows where
  info := ⟨version, "public", "app"⟩
  columns := [⟨"public", "users", "id", "bigint", "r", .none, ⟨"", "", ""⟩⟩,
    ⟨"public", "purge", "day", "date", "r", .none, ⟨"", "", ""⟩⟩]
  functions := []
  indexes := []

def settings (patterns : List String) : Settings :=
  { Settings.default with blocklist := patterns }

def world (version : Int) (patterns : List String) : World :=
  ⟨.postgres, .ok (rows version), .ok (settings patterns), .ok []⟩

/-- The database after the upgrade, with a blocklist in the settings. -/
def upgraded : World :=
  world 15 ["purge"]

theorem blockedNames_purge :
    ∃ blocklist, (settings ["purge"]).blockedNames = .ok blocklist ∧
      blocklist.patterns = ["purge"] := by
  have hok : ((settings ["purge"]).blockedNames.map Blocklist.patterns).toOption =
      some ["purge"] := by
    decide +kernel
  cases hnames : (settings ["purge"]).blockedNames with
  | error e =>
      rw [hnames] at hok
      cases hok
  | ok blocklist =>
      rw [hnames] at hok
      exact ⟨blocklist, rfl, Option.some.inj hok⟩

theorem not_obstacle (e : Error) : ¬ upgraded.Obstacle e := by
  obtain ⟨blocklist, hnames, _⟩ := blockedNames_purge
  intro h
  cases h with
  | settings h => cases h
  | blocklist hsettings h =>
      cases hsettings
      rw [hnames] at h
      cases h
  | rows _ _ h => cases h
  | records _ _ _ _ h => cases h
  | role hsettings _ _ _ h =>
      cases hsettings
      cases h

/-- Models of different versions differ, whatever is blocked in them. -/
theorem sameStructure_upgraded (blocked other : String → Bool) :
    (SchemaModel.build .postgres blocked (rows 15)).sameStructure
      (SchemaModel.build .postgres other (rows 14)) = false := by
  rw [Bool.eq_false_iff]
  intro hsame
  have hversion := congrArg Fingerprint.version (beq_iff_eq.mp hsame)
  exact absurd hversion (show ¬ (15 : Int) = 14 by decide)

/-- The look that finds the new version reloads, which brings the new blocklist, and
no later look does. -/
theorem polling_converges_upgraded :
    ∃ first : Service Unit String, start (world 14 []) () = .ok first ∧
      (first.checkSchemaThen upgraded upgraded).1 = .ok true ∧
        (first.checkSchemaThen upgraded
          upgraded).2.active.snapshot.blocklist.patterns = ["purge"] ∧
        ((first.checkSchemaThen upgraded upgraded).2.checkSchemaThen
          upgraded upgraded).1 = .ok false := by
  obtain ⟨first, hstart, hschema⟩ : ∃ first : Service Unit String,
      start (world 14 []) () = .ok first ∧
        first.active.snapshot.schema =
          .build .postgres Blocklist.none.blocks (rows 14) :=
    ⟨_, rfl, rfl⟩
  refine ⟨first, hstart, ?_⟩
  rcases first.checkSchemaThen_cases upgraded upgraded with
    ⟨e, herror, _⟩ | ⟨hskipped, _⟩ | ⟨hother, hpublishes⟩
  · rcases checkSchemaThen_fails_iff.mp herror with hfails | ⟨_, _, _, hobstacle⟩
    · cases hfails
    · exact absurd hobstacle (not_obstacle e)
  · obtain ⟨found, hfound, hsame⟩ := discover_of_skipped hskipped
    cases hfound
    rw [hschema] at hsame
    exact absurd hsame (Bool.eq_false_iff.mp (sameStructure_upgraded _ _))
  · refine ⟨hother, ?_, ?_⟩
    · obtain ⟨snapshot, hbuilt, _, hactive, _⟩ := hpublishes
      obtain ⟨blocklist, hnames, hpatterns⟩ := blockedNames_purge
      have hsettings : settings ["purge"] = snapshot.settings :=
        Except.ok.inj hbuilt.settings
      have hblocklist := hbuilt.blocklist
      rw [← hsettings, hnames, Except.ok.injEq] at hblocklist
      rw [hactive, Live.fresh, ← hblocklist, hpatterns]
    · have hsource : upgraded.SameSource upgraded := ⟨rfl, rfl⟩
      have hrests :=
        (polling_converges .echo first).afterLook upgraded upgraded true hother
      exact congrArg Prod.fst
        (hrests [] (List.forall_mem_nil _) upgraded upgraded hsource)

end Upgrade

end Service

end Reload

end QueryGate
