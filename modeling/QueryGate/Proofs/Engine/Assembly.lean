import QueryGate.Engine.Snapshot
import QueryGate.Proofs.Access.Building

/-!
How a snapshot is put together.

Building a snapshot stops at the first thing that cannot be read. The lemmas say
what was read when a snapshot was built, and that each of its parts is made of just
that.
-/

namespace QueryGate

namespace Engine

open Access Catalog

/-- A snapshot of readings: its parts are those that were read, and the roles and
registrations that follow from them. -/
theorem Readings.snapshot_eq_ok_iff {readings : Readings} {generation : Nat}
    {snapshot : Snapshot} :
    readings.snapshot generation = .ok snapshot ↔
      ∃ roles, RoleTable.build readings.settings.roles
        readings.settings.defaultBlock = .ok roles ∧
        snapshot = ⟨readings.settings, readings.blocklist, readings.schema, roles,
          readings.cache roles, generation⟩ := by
  unfold Readings.snapshot
  cases RoleTable.build readings.settings.roles readings.settings.defaultBlock with
  | error e => simp [bind, Except.bind]
  | ok roles => simp [bind, Except.bind, pure, Except.pure, eq_comm]

/-- A restricted engine has the registrations of its readings, and its gate is made
of them. -/
theorem Readings.gate_of_restricted {readings : Readings} {generation : Nat}
    {snapshot : Snapshot} (hbuilt : readings.snapshot generation = .ok snapshot)
    (hrestricted : snapshot.restricted = true) :
    snapshot.gate? =
      some (.ofAllowList (.ofRecords readings.records) snapshot.roles.names) ∧
        snapshot.cache = snapshot.gate? := by
  obtain ⟨roles, _, rfl⟩ := snapshot_eq_ok_iff.mp hbuilt
  simp only [Snapshot.restricted, Bool.and_eq_true] at hrestricted
  obtain ⟨hproduction, hcache⟩ := hrestricted
  have henabled : readings.settings.disableAllowList = false := by
    cases hdisabled : readings.settings.disableAllowList with
    | false => rfl
    | true => simp [Readings.cache, hdisabled] at hcache
  simp [Snapshot.gate?, hproduction, Readings.cache, henabled]

/-- Everything of a snapshot comes from what one world answered. -/
structure Snapshot.BuiltFrom (snapshot : Snapshot) (world : World) : Prop where
  settings : world.settings = .ok snapshot.settings
  blocklist : snapshot.settings.blockedNames = .ok snapshot.blocklist
  schema : ∃ rows, world.rows = .ok rows ∧
    snapshot.schema = .build world.kind snapshot.blocklist.blocks rows
  roles : RoleTable.build snapshot.settings.roles snapshot.settings.defaultBlock =
    .ok snapshot.roles
  cache : (snapshot.settings.disableAllowList = true ∧ snapshot.cache = none) ∨
    (snapshot.settings.disableAllowList = false ∧
      ∃ records, world.records = .ok records ∧
      snapshot.cache = some (.ofAllowList (.ofRecords records)
        snapshot.roles.names))

namespace Snapshot.BuiltFrom

variable {snapshot : Snapshot} {world : World}

/-- There are registrations unless the allow-list is disabled. -/
theorem cache_eq_none_iff (h : snapshot.BuiltFrom world) :
    snapshot.cache = none ↔ snapshot.settings.disableAllowList = true := by
  rcases h.cache with ⟨hdisabled, hcache⟩ | ⟨henabled, records, _, hcache⟩
  · rw [hcache, hdisabled]
    simp
  · rw [hcache, henabled]
    simp

/-- A snapshot is restricted as its settings are. -/
theorem restricted_eq (h : snapshot.BuiltFrom world) :
    snapshot.restricted = snapshot.settings.restricted := by
  rw [Snapshot.restricted, Settings.restricted]
  rcases h.cache with ⟨hdisabled, hcache⟩ | ⟨henabled, records, _, hcache⟩
  · rw [hcache, hdisabled]
    rfl
  · rw [hcache, henabled]
    rfl

end Snapshot.BuiltFrom

/-- What stands in the way of a snapshot, in the order in which it is met. -/
inductive World.Obstacle (world : World) : Error → Prop
  | settings {e : Error} (h : world.settings = .error e) : Obstacle world e
  | blocklist {settings : Settings} {e : Error}
      (hsettings : world.settings = .ok settings)
      (h : settings.blockedNames = .error e) : Obstacle world e
  | rows {settings : Settings} {blocklist : Blocklist} {e : Error}
      (hsettings : world.settings = .ok settings)
      (hblocklist : settings.blockedNames = .ok blocklist)
      (h : world.rows = .error e) :
      Obstacle world e
  | records {settings : Settings} {blocklist : Blocklist} {rows : Rows} {e : Error}
      (hsettings : world.settings = .ok settings)
      (hblocklist : settings.blockedNames = .ok blocklist)
      (hrows : world.rows = .ok rows) (henabled : settings.disableAllowList = false)
      (h : world.records = .error e) :
      Obstacle world e
  | role {settings : Settings} {blocklist : Blocklist} {rows : Rows}
      {records : List AllowRecord} {name : String}
      (hsettings : world.settings = .ok settings)
      (hblocklist : settings.blockedNames = .ok blocklist)
      (hrows : world.rows = .ok rows)
      (hrecords : world.registered settings = .ok records)
      (h : firstRepeated? [] (settings.roles.map RoleConfig.name) = some name) :
      Obstacle world (.duplicateRole name)

namespace World

variable {world : World}

theorem registered_of_enabled {settings : Settings}
    (henabled : settings.disableAllowList = false) :
    world.registered settings = world.records := by
  rw [registered, henabled]
  rfl

/-- What stands in the way of a snapshot keeps it from being built. -/
theorem Obstacle.snapshot_eq {e : Error} (h : world.Obstacle e) (generation : Nat) :
    world.snapshot generation = .error e := by
  cases h with
  | settings h => simp [snapshot, read, policy, bind, Except.bind, h]
  | blocklist hsettings h =>
      simp [snapshot, read, policy, bind, Except.bind, hsettings, h]
  | rows hsettings hblocklist h =>
      simp [snapshot, read, policy, discover, bind, Except.bind, pure, Except.pure,
        Except.map, hsettings, hblocklist, h]
  | records hsettings hblocklist hrows henabled h =>
      simp [snapshot, read, policy, discover, bind, Except.bind, pure, Except.pure,
        Except.map, hsettings, hblocklist, hrows, registered_of_enabled henabled, h]
  | role hsettings hblocklist hrows hrecords h =>
      simp [snapshot, read, policy, discover, bind, Except.bind, pure, Except.pure,
        Except.map, hsettings, hblocklist, hrows, hrecords, Readings.snapshot,
        RoleTable.build, h]

/-- What can be read of a world is all that a snapshot is made of, unless something
stands in the way. -/
theorem read_cases (world : World) :
    (∃ e, world.Obstacle e) ∨
      ∃ readings rows, world.read = .ok readings ∧
        world.settings = .ok readings.settings ∧
        readings.settings.blockedNames = .ok readings.blocklist ∧
        world.rows = .ok rows ∧
        readings.schema = .build world.kind readings.blocklist.blocks rows ∧
        world.registered readings.settings = .ok readings.records := by
  cases hsettings : world.settings with
  | error e => exact Or.inl ⟨e, .settings hsettings⟩
  | ok settings =>
      cases hblocklist : settings.blockedNames with
      | error e => exact Or.inl ⟨e, .blocklist hsettings hblocklist⟩
      | ok blocklist =>
          cases hrows : world.rows with
          | error e => exact Or.inl ⟨e, .rows hsettings hblocklist hrows⟩
          | ok rows =>
              cases hrecords : world.registered settings with
              | error e =>
                  have henabled : settings.disableAllowList = false := by
                    cases hdisabled : settings.disableAllowList with
                    | false => rfl
                    | true => simp [registered, hdisabled] at hrecords
                  rw [registered_of_enabled henabled] at hrecords
                  exact Or.inl ⟨e,
                    .records hsettings hblocklist hrows henabled hrecords⟩
              | ok records =>
                  refine Or.inr ⟨⟨settings, blocklist,
                    .build world.kind blocklist.blocks rows, records⟩, rows, ?_,
                      rfl, hblocklist, rfl, rfl, hrecords⟩
                  simp [read, policy, discover, bind, Except.bind, pure,
                    Except.pure, Except.map, hsettings, hblocklist, hrows, hrecords]

/-- A snapshot is built of a world unless something stands in the way. -/
theorem snapshot_cases (world : World) (generation : Nat) :
    (∃ e, world.Obstacle e ∧ world.snapshot generation = .error e) ∨
      ∃ snapshot, snapshot.BuiltFrom world ∧ snapshot.generation = generation ∧
        world.snapshot generation = .ok snapshot := by
  rcases world.read_cases with ⟨e, hobstacle⟩ |
    ⟨readings, rows, hread, hsettings, hblocklist, hrows, hschema, hrecords⟩
  · exact Or.inl ⟨e, hobstacle, hobstacle.snapshot_eq generation⟩
  · have hsame : world.snapshot generation = readings.snapshot generation := by
      simp [snapshot, hread, bind, Except.bind]
    cases hrepeated : firstRepeated? []
      (readings.settings.roles.map RoleConfig.name) with
    | some name =>
        have hobstacle :=
          Obstacle.role hsettings hblocklist hrows hrecords hrepeated
        exact Or.inl ⟨_, hobstacle, hobstacle.snapshot_eq generation⟩
    | none =>
        have hroles : RoleTable.build readings.settings.roles
          readings.settings.defaultBlock =
            .ok (.ofConfigs readings.settings.roles
              readings.settings.defaultBlock) := by
          simp [RoleTable.build, hrepeated]
        have hsnapshot := hsame.trans
          (Readings.snapshot_eq_ok_iff.mpr ⟨_, hroles, rfl⟩)
        refine Or.inr ⟨_,
          ⟨hsettings, hblocklist, ⟨rows, hrows, hschema⟩, hroles, ?_⟩, rfl,
          hsnapshot⟩
        cases hdisabled : readings.settings.disableAllowList with
        | true => exact Or.inl ⟨rfl, by simp [Readings.cache, hdisabled]⟩
        | false =>
            rw [registered_of_enabled hdisabled] at hrecords
            exact Or.inr ⟨rfl, readings.records, hrecords,
              by simp [Readings.cache, hdisabled]⟩

theorem builtFrom_of_snapshot {generation : Nat} {built : Snapshot}
    (h : world.snapshot generation = .ok built) :
    built.BuiltFrom world ∧ built.generation = generation := by
  rcases world.snapshot_cases generation with ⟨e, _, herror⟩
    | ⟨other, hbuilt, hnumber, hok⟩
  · rw [h] at herror
    cases herror
  · rw [h] at hok
    cases hok
    exact ⟨hbuilt, hnumber⟩

end World

end Engine

end QueryGate
