import QueryGate.Proofs.Engine.Assembly
import QueryGate.Proofs.Engine.Registering
import QueryGate.Tool.Watch

/-!
A check is a rehearsal of watching.

Both commands go through the same steps, each in an order of its own, and end at the
first step that has a fault. So a database and a configuration that are checked
without a failure can be watched, and what was found is what the first snapshot is
made of.
-/

namespace QueryGate

open Access Catalog Engine Storage

namespace Engine

/-- The names of the queries that statements of a snapshot are compiled for. -/
def Snapshot.queryNames (snapshot : Snapshot) : List String :=
  (snapshot.cache.map QueryCache.names).getD []

/-- Puts a snapshot together of a model and registered queries. The names that are
blocked are read once more. -/
def assemble (settings : Settings) (schema : SchemaModel) (list : AllowList)
    (generation : Nat) :
    Except Error Snapshot := do
  let roles ← RoleTable.build settings.roles settings.defaultBlock
  let cache := if settings.disableAllowList then none
    else some (QueryCache.ofAllowList list roles.names)
  let blocklist ← settings.blockedNames
  return ⟨settings, blocklist, schema, roles, cache, generation⟩

/-- Reading the blocked names once more makes no difference, as they were read
before. -/
theorem World.snapshot_eq_assemble (world : World) (generation : Nat) :
    world.snapshot generation = (do
      let (settings, blocklist) ← world.policy
      let schema ← world.discover blocklist
      let records ← world.registered settings
      assemble settings schema (.ofRecords records) generation) := by
  unfold World.snapshot World.read World.policy
  cases world.settings with
  | error e => rfl
  | ok settings =>
      cases hblocklist : settings.blockedNames with
      | error e => simp [bind, Except.bind, hblocklist]
      | ok blocklist =>
          cases hschema : world.discover blocklist with
          | error e =>
              simp [bind, Except.bind, pure, Except.pure, hblocklist, hschema]
          | ok schema =>
              cases hrecords : world.registered settings with
              | error e =>
                  simp [bind, Except.bind, pure, Except.pure, hblocklist, hschema,
                    hrecords]
              | ok records =>
                  simp [bind, Except.bind, pure, Except.pure, hblocklist, hschema,
                    hrecords, Readings.snapshot, Readings.cache, assemble]

end Engine

namespace Tool

open Reload

/-- What either command does before it has an answer. -/
inductive Step where
  | settings
  | blocklist
  | connection
  | rows
  | roles
  | records
deriving DecidableEq, Repr

/-- The steps of a check, in order. -/
def checkSteps : List Step :=
  [.settings, .blocklist, .connection, .rows, .roles, .records]

/-- The steps up to the first snapshot of a command that watches. The names that are
blocked are read a second time when all else is there. -/
def watchSteps : List Step :=
  [.connection, .settings, .blocklist, .rows, .records, .roles, .blocklist]

/-- What went wrong, if anything did. -/
def faultOf {α : Type} : Except Failure α → Option Failure
  | .ok _ => none
  | .error failure => some failure

/-- What goes wrong in an engine is a failure of the command. -/
def raised {α : Type} (outcome : Except Error α) : Except Failure α :=
  outcome.mapError .engine

@[simp] theorem raised_ok {α : Type} (a : α) : raised (.ok a) = .ok a :=
  rfl

@[simp] theorem raised_error {α : Type} (cause : Error) :
    raised (.error cause : Except Error α) = .error (.engine cause) :=
  rfl

theorem raised_eq_ok_iff {α : Type} {outcome : Except Error α} {a : α} :
    raised outcome = .ok a ↔ outcome = .ok a := by
  cases outcome <;> simp

/-- The queries that settings let be registered, at a place. -/
def registeredAt (place : Except IoFault Node) (settings : Settings) :
    Except Error (List AllowRecord) :=
  if settings.disableAllowList then .ok [] else readRecords place

/-- The fault that a step reports. A step that needs the result of another one
reports nothing where there is no such result. -/
def Surroundings.fault? (around : Surroundings) (endpoint : String) :
    Step → Option Failure
  | .settings => faultOf (raised (readSettings around.place))
  | .blocklist => (readSettings around.place).toOption.bind fun settings =>
      faultOf (raised settings.blockedNames)
  | .connection => faultOf (around.database endpoint)
  | .rows => (around.database endpoint).toOption.bind fun database =>
      faultOf (raised database.rows)
  | .roles => (readSettings around.place).toOption.bind fun settings =>
      faultOf (raised (RoleTable.build settings.roles settings.defaultBlock))
  | .records => (readSettings around.place).toOption.bind fun settings =>
      faultOf (raised (registeredAt around.place settings))

/-- The snapshot that watching begins with. -/
def Surroundings.firstSnapshot (around : Surroundings) (endpoint : String) :
    Except Failure Snapshot := do
  let database ← around.database endpoint
  raised ((worldOf around.place database).snapshot 0)

/-- What the steps come to when none of them has a fault. -/
structure Results where
  settings : Settings
  blocklist : Blocklist
  database : Database
  rows : Rows
  roles : RoleTable
  records : List AllowRecord

namespace Results

def schema (results : Results) : SchemaModel :=
  .build results.database.kind results.blocklist.blocks results.rows

def findings (results : Results) : Findings :=
  ⟨results.schema, results.roles, .ofRecords results.records⟩

/-- The registered queries with their targets, unless the allow-list is disabled. -/
def cache (results : Results) : Option QueryCache :=
  if results.settings.disableAllowList then none
  else some (.ofAllowList (.ofRecords results.records) results.roles.names)

def snapshot (results : Results) : Snapshot :=
  ⟨results.settings, results.blocklist, results.schema, results.roles,
    results.cache, 0⟩

end Results

/-- Each step comes to its result. -/
structure Surroundings.Yields (around : Surroundings) (endpoint : String)
    (results : Results) : Prop where
  settings : readSettings around.place = .ok results.settings
  blocklist : results.settings.blockedNames = .ok results.blocklist
  database : around.database endpoint = .ok results.database
  rows : results.database.rows = .ok results.rows
  roles : RoleTable.build results.settings.roles results.settings.defaultBlock =
    .ok results.roles
  records : registeredAt around.place results.settings = .ok results.records

variable {around : Surroundings} {endpoint : String}

theorem mem_checkSteps (step : Step) : step ∈ checkSteps := by
  cases step <;> simp [checkSteps]

theorem mem_watchSteps (step : Step) : step ∈ watchSteps := by
  cases step <;> simp [watchSteps]

theorem Surroundings.Yields.eq {first second : Results}
    (hfirst : around.Yields endpoint first)
    (hsecond : around.Yields endpoint second) : first = second := by
  obtain ⟨settings, blocklist, database, rows, roles, records⟩ := first
  obtain ⟨settings', blocklist', database', rows', roles', records'⟩ := second
  obtain ⟨hsettings, hblocklist, hdatabase, hrows, hroles, hrecords⟩ := hfirst
  obtain ⟨hsettings', hblocklist', hdatabase', hrows', hroles', hrecords'⟩ :=
    hsecond
  obtain rfl : settings = settings' :=
    Except.ok.inj (hsettings.symm.trans hsettings')
  obtain rfl : database = database' :=
    Except.ok.inj (hdatabase.symm.trans hdatabase')
  obtain rfl : blocklist = blocklist' :=
    Except.ok.inj (hblocklist.symm.trans hblocklist')
  obtain rfl : rows = rows' := Except.ok.inj (hrows.symm.trans hrows')
  obtain rfl : roles = roles' := Except.ok.inj (hroles.symm.trans hroles')
  obtain rfl : records = records' := Except.ok.inj (hrecords.symm.trans hrecords')
  rfl

section Faults

variable {settings : Settings} {database : Database}

theorem fault?_blocklist
    (hsettings : raised (readSettings around.place) = .ok settings) :
    around.fault? endpoint .blocklist = faultOf (raised settings.blockedNames) := by
  rw [Surroundings.fault?, raised_eq_ok_iff.mp hsettings]
  rfl

theorem fault?_rows (hdatabase : around.database endpoint = .ok database) :
    around.fault? endpoint .rows = faultOf (raised database.rows) := by
  rw [Surroundings.fault?, hdatabase]
  rfl

theorem fault?_roles
    (hsettings : raised (readSettings around.place) = .ok settings) :
    around.fault? endpoint .roles =
      faultOf (raised (RoleTable.build settings.roles settings.defaultBlock)) := by
  rw [Surroundings.fault?, raised_eq_ok_iff.mp hsettings]
  rfl

theorem fault?_records
    (hsettings : raised (readSettings around.place) = .ok settings) :
    around.fault? endpoint .records =
      faultOf (raised (registeredAt around.place settings)) := by
  rw [Surroundings.fault?, raised_eq_ok_iff.mp hsettings]
  rfl

end Faults

/-- One who goes through steps ends at the first fault, or comes to something good
when there is none. -/
def Goes {β : Type} (fault? : Step → Option Failure) (steps : List Step)
    (Good : β → Prop) (outcome : Except Failure β) : Prop :=
  (∃ failure, steps.findSome? fault? = some failure ∧ outcome = .error failure) ∨
    ∃ b, steps.findSome? fault? = none ∧ Good b ∧ outcome = .ok b

section Going

variable {α β : Type} {fault? : Step → Option Failure} {Good : β → Prop}

theorem goes_ok {b : β} (h : Good b) : Goes fault? [] Good (.ok b) :=
  Or.inr ⟨b, rfl, h, rfl⟩

theorem goes_bind {step : Step} {steps : List Step} {outcome : Except Failure α}
    {next : α → Except Failure β} (hfault : fault? step = faultOf outcome)
    (hnext : ∀ a, outcome = .ok a → Goes fault? steps Good (next a)) :
    Goes fault? (step :: steps) Good (outcome >>= next) := by
  unfold Goes
  rw [List.findSome?_cons, hfault]
  cases outcome with
  | error failure => exact Or.inl ⟨failure, rfl, rfl⟩
  | ok a => exact hnext a rfl

end Going

theorem registered_worldOf (place : Except IoFault Node) (database : Database)
    (settings : Settings) :
    (worldOf place database).registered settings = registeredAt place settings :=
  rfl

/-- The steps of a check, one after the other. -/
theorem check_findings (around : Surroundings) (endpoint : String) :
    (check around endpoint).findings = (do
      let settings ← raised (readSettings around.place)
      let blocklist ← raised settings.blockedNames
      let database ← around.database endpoint
      let rows ← raised database.rows
      let roles ← raised (RoleTable.build settings.roles settings.defaultBlock)
      let records ← raised (registeredAt around.place settings)
      return Results.findings ⟨settings, blocklist, database, rows, roles,
        records⟩) := by
  unfold check
  simp only [bind, Except.bind, pure, Except.pure]
  rcases readSettings around.place with cause | settings
  · rfl
  simp only [raised_ok]
  rcases settings.blockedNames with cause | blocklist
  · rfl
  rcases around.database endpoint with failure | database
  · rfl
  simp only [checkQueries, registered_worldOf]
  simp only [World.discover, worldOf]
  rcases database.rows with cause | rows
  · rfl
  simp only [Except.map]
  rcases RoleTable.build settings.roles settings.defaultBlock with cause | roles
  · rfl
  rcases registeredAt around.place settings with cause | records
  · rfl
  rfl

/-- The steps up to the first snapshot, one after the other. -/
theorem firstSnapshot_eq (around : Surroundings) (endpoint : String) :
    around.firstSnapshot endpoint = (do
      let database ← around.database endpoint
      let settings ← raised (readSettings around.place)
      let blocklist ← raised settings.blockedNames
      let rows ← raised database.rows
      let records ← raised (registeredAt around.place settings)
      let roles ← raised (RoleTable.build settings.roles settings.defaultBlock)
      let again ← raised settings.blockedNames
      let results : Results := ⟨settings, blocklist, database, rows, roles, records⟩
      return { results.snapshot with blocklist := again }) := by
  unfold Surroundings.firstSnapshot
  simp only [World.snapshot_eq_assemble, World.policy, registered_worldOf, bind,
    Except.bind, pure, Except.pure]
  rcases around.database endpoint with failure | database
  · rfl
  simp only [worldOf]
  rcases readSettings around.place with cause | settings
  · rfl
  simp only [raised_ok]
  rcases hblocklist : settings.blockedNames with cause | blocklist
  · rfl
  simp only [World.discover]
  rcases database.rows with cause | rows
  · rfl
  simp only [Except.map]
  rcases registeredAt around.place settings with cause | records
  · rfl
  simp only [assemble, bind, Except.bind, pure, Except.pure]
  rcases RoleTable.build settings.roles settings.defaultBlock with cause | roles
  · rfl
  simp only [hblocklist]
  rfl

/-- A check ends at the first fault, and has findings where there is none. -/
theorem goes_check (around : Surroundings) (endpoint : String) :
    Goes (around.fault? endpoint) checkSteps
      (fun findings => ∃ results,
        around.Yields endpoint results ∧ findings = results.findings)
      (check around endpoint).findings := by
  rw [check_findings]
  refine goes_bind rfl fun settings hsettings => ?_
  refine goes_bind (fault?_blocklist hsettings) fun blocklist hblocklist => ?_
  refine goes_bind rfl fun database hdatabase => ?_
  refine goes_bind (fault?_rows hdatabase) fun rows hrows => ?_
  refine goes_bind (fault?_roles hsettings) fun roles hroles => ?_
  refine goes_bind (fault?_records hsettings) fun records hrecords => ?_
  rw [raised_eq_ok_iff] at hsettings hblocklist hrows hroles hrecords
  exact goes_ok ⟨_, ⟨hsettings, hblocklist, hdatabase, hrows, hroles, hrecords⟩,
    rfl⟩

/-- Watching fails to begin at the first fault, and has a snapshot where there is
none. -/
theorem goes_firstSnapshot (around : Surroundings) (endpoint : String) :
    Goes (around.fault? endpoint) watchSteps
      (fun snapshot => ∃ results,
        around.Yields endpoint results ∧ snapshot = results.snapshot)
      (around.firstSnapshot endpoint) := by
  rw [firstSnapshot_eq]
  refine goes_bind rfl fun database hdatabase => ?_
  refine goes_bind rfl fun settings hsettings => ?_
  refine goes_bind (fault?_blocklist hsettings) fun blocklist hblocklist => ?_
  refine goes_bind (fault?_rows hdatabase) fun rows hrows => ?_
  refine goes_bind (fault?_records hsettings) fun records hrecords => ?_
  refine goes_bind (fault?_roles hsettings) fun roles hroles => ?_
  refine goes_bind (fault?_blocklist hsettings) fun again hagain => ?_
  obtain rfl : blocklist = again := Except.ok.inj (hblocklist.symm.trans hagain)
  rw [raised_eq_ok_iff] at hsettings hblocklist hrows hroles hrecords
  exact goes_ok ⟨⟨settings, blocklist, database, rows, roles, records⟩,
    ⟨hsettings, hblocklist, hdatabase, hrows, hroles, hrecords⟩, rfl⟩

section Ends

variable {β : Type} {fault? : Step → Option Failure} {steps : List Step}
  {Good : β → Prop} {outcome : Except Failure β}

theorem Goes.fails_iff (h : Goes fault? steps Good outcome) {failure : Failure} :
    outcome = .error failure ↔ steps.findSome? fault? = some failure := by
  rcases h with ⟨first, hfirst, houtcome⟩ | ⟨b, hnone, _, houtcome⟩
  · rw [hfirst, houtcome]
    simp
  · rw [hnone, houtcome]
    simp

theorem Goes.succeeds_iff (h : Goes fault? steps Good outcome) :
    (∃ b, outcome = .ok b) ↔ ∀ step ∈ steps, fault? step = none := by
  rw [← List.findSome?_eq_none_iff]
  rcases h with ⟨first, hfirst, houtcome⟩ | ⟨b, hnone, _, houtcome⟩
  · rw [hfirst, houtcome]
    simp
  · rw [hnone, houtcome]
    simp

theorem Goes.good (h : Goes fault? steps Good outcome) {b : β}
    (hok : outcome = .ok b) : Good b := by
  rcases h with ⟨first, _, houtcome⟩ | ⟨other, _, hgood, houtcome⟩
  · rw [houtcome] at hok
    cases hok
  · rw [houtcome] at hok
    cases hok
    exact hgood

end Ends

section Hashed

variable [Hashing]

/-- What was found is what a snapshot is made of. The blocked names are the same
however often they are read. -/
structure Findings.Foretells (findings : Findings)
    (snapshot : Snapshot) : Prop where
  schema : findings.schema = snapshot.schema
  shownDigest : findings.schema.shownDigest = snapshot.schema.shownDigest
  roles : findings.roles.names = snapshot.roles.names
  queries : ∀ name, name ∈ findings.queries.entries.map AllowEntry.name ↔
    name ∈ snapshot.queryNames
  disabled : snapshot.settings.disableAllowList = true →
    findings.queries = .empty ∧ snapshot.cache = none
  blocklist : snapshot.settings.blockedNames = .ok snapshot.blocklist

theorem Surroundings.Yields.foretells {results : Results}
    (h : around.Yields endpoint results) :
    results.findings.Foretells results.snapshot := by
  have huser : "user" ∈ results.roles.names :=
    RoleTable.default_mem_names h.roles (by decide)
  constructor
  case schema => rfl
  case shownDigest => rfl
  case roles => rfl
  case queries =>
    intro name
    have hrecords := h.records
    rw [registeredAt] at hrecords
    show name ∈ (AllowList.ofRecords results.records).entries.map AllowEntry.name ↔
      name ∈ (results.cache.map QueryCache.names).getD []
    cases hdisabled : results.settings.disableAllowList with
    | true =>
        rw [if_pos hdisabled] at hrecords
        rw [← Except.ok.inj hrecords, Results.cache, if_pos hdisabled]
        simp [AllowList.ofRecords]
    | false =>
        rw [Results.cache, if_neg (by simp [hdisabled])]
        exact (QueryCache.mem_names_ofAllowList huser name).symm
  case disabled =>
    intro hdisabled
    have hdisabled : results.settings.disableAllowList = true := hdisabled
    have hrecords := h.records
    rw [registeredAt, if_pos hdisabled] at hrecords
    refine ⟨?_, if_pos hdisabled⟩
    rw [Results.findings, ← Except.ok.inj hrecords]
    rfl
  case blocklist => exact h.blocklist

/-- Watching begins with the first snapshot, and fails with what keeps it from being
built. -/
structure Surroundings.WatchedFrom (around : Surroundings)
    (environment : Environment) (subject : Subject) (options : TaskOptions)
    (changes : List Change) : Prop where
  failed : ∀ failure,
    (watch around environment subject options changes).ending = .failed failure ↔
      around.firstSnapshot subject.endpoint = .error failure
  begun : ∀ snapshot, around.firstSnapshot subject.endpoint = .ok snapshot →
    ∃ database, ∃ service : WatchedService, around.database subject.endpoint =
      .ok database ∧
      service.active = .fresh snapshot ∧
      watch around environment subject options changes =
        watchService environment options subject.config database around.place
          service changes

theorem ending_watchService (environment : Environment) (options : TaskOptions)
    (path : String) (database : Database) (place : Except IoFault Node)
    (service : WatchedService) (changes : List Change) (failure : Failure) :
    (watchService environment options path database place service changes).ending ≠
      .failed failure := by
  unfold watchService
  by_cases hbroken :
    (options.watch && !isChannelSize (channelSize.value environment)) = true
  · rw [if_pos hbroken]
    nofun
  · rw [if_neg hbroken]
    nofun

theorem watchedFrom (around : Surroundings) (environment : Environment)
    (subject : Subject) (options : TaskOptions) (changes : List Change) :
    around.WatchedFrom environment subject options changes := by
  cases hdatabase : around.database subject.endpoint with
  | error failure =>
      have hwatch : (watch around environment subject options changes).ending =
          .failed failure := by
        rw [watch, hdatabase]
      have hfirst : around.firstSnapshot subject.endpoint = .error failure := by
        rw [Surroundings.firstSnapshot, hdatabase]
        rfl
      constructor
      case failed => simp [hwatch, hfirst]
      case begun => simp [hfirst]
  | ok database =>
      cases hsnapshot : (worldOf around.place database).snapshot 0 with
      | error cause =>
          have hwatch : (watch around environment subject options changes).ending =
              .failed (.engine cause) := by
            simp [watch, hdatabase, Service.start, hsnapshot, bind, Except.bind]
          have hfirst : around.firstSnapshot subject.endpoint =
              .error (.engine cause) := by
            simp [Surroundings.firstSnapshot, hdatabase, hsnapshot, bind,
              Except.bind]
          constructor
          case failed => simp [hwatch, hfirst]
          case begun => simp [hfirst]
      | ok snapshot =>
          have hfirst : around.firstSnapshot subject.endpoint = .ok snapshot := by
            simp [Surroundings.firstSnapshot, hdatabase, hsnapshot, bind,
              Except.bind]
          have hwatch : ∃ service : WatchedService,
            service.active = .fresh snapshot ∧
              watch around environment subject options changes =
                watchService environment options subject.config database
                  around.place service
                  changes := by
            simp only [watch, hdatabase, Service.start, hsnapshot, bind,
              Except.bind, pure, Except.pure]
            exact ⟨_, rfl, rfl⟩
          obtain ⟨service, hactive, hwatch⟩ := hwatch
          constructor
          case failed =>
            intro failure
            rw [hwatch, hfirst]
            simp [ending_watchService]
          case begun =>
            intro other hother
            rw [hfirst] at hother
            cases hother
            exact ⟨database, service, hdatabase, hactive, hwatch⟩

/-- A check and the beginning of watching, for the same surroundings and the same
database. Each of them fails at the first of its own steps that has a fault, and
reports a fault that a step of the other one has. -/
structure Surroundings.Rehearsed (around : Surroundings)
    (endpoint : String) : Prop where
  succeeds : (∃ findings, (check around endpoint).findings = .ok findings) ↔
    ∃ snapshot, around.firstSnapshot endpoint = .ok snapshot
  foretells : ∀ findings snapshot, (check around endpoint).findings = .ok findings →
    around.firstSnapshot endpoint = .ok snapshot → findings.Foretells snapshot
  check_fails : ∀ failure, (check around endpoint).findings = .error failure ↔
    checkSteps.findSome? (around.fault? endpoint) = some failure
  watch_fails : ∀ failure, around.firstSnapshot endpoint = .error failure ↔
    watchSteps.findSome? (around.fault? endpoint) = some failure
  check_reports : ∀ failure, (check around endpoint).findings = .error failure →
    ∃ step ∈ watchSteps, around.fault? endpoint step = some failure
  watch_reports : ∀ failure, around.firstSnapshot endpoint = .error failure →
    ∃ step ∈ checkSteps, around.fault? endpoint step = some failure
  watched : ∀ environment subject options changes, subject.endpoint = endpoint →
    around.WatchedFrom environment subject options changes

/-- Whatever a database, a configuration and a connection string are like: a check
succeeds just when watching can begin with a first snapshot, and then it tells what
that snapshot is made of. When they fail, each of them reports what a step of the
other one would report too. -/
theorem check_rehearses (around : Surroundings) (endpoint : String) :
    around.Rehearsed endpoint := by
  have hcheck := goes_check around endpoint
  have hwatch := goes_firstSnapshot around endpoint
  constructor
  case succeeds =>
    rw [hcheck.succeeds_iff, hwatch.succeeds_iff]
    exact ⟨fun h step _ => h step (mem_checkSteps step),
      fun h step _ => h step (mem_watchSteps step)⟩
  case foretells =>
    intro findings snapshot hfindings hsnapshot
    obtain ⟨results, hyields, rfl⟩ := hcheck.good hfindings
    obtain ⟨other, hother, rfl⟩ := hwatch.good hsnapshot
    rw [hother.eq hyields]
    exact hyields.foretells
  case check_fails => exact fun failure => hcheck.fails_iff
  case watch_fails => exact fun failure => hwatch.fails_iff
  case check_reports =>
    intro failure hfailure
    obtain ⟨step, _, hstep⟩ :=
      List.exists_of_findSome?_eq_some (hcheck.fails_iff.mp hfailure)
    exact ⟨step, mem_watchSteps step, hstep⟩
  case watch_reports =>
    intro failure hfailure
    obtain ⟨step, _, hstep⟩ :=
      List.exists_of_findSome?_eq_some (hwatch.fails_iff.mp hfailure)
    exact ⟨step, mem_checkSteps step, hstep⟩
  case watched =>
    exact fun environment subject options changes _ =>
      watchedFrom around environment subject options changes

end Hashed

end Tool

namespace Tool.QueriedUsers

def endpoint : String :=
  "postgres://db"

/-- A database of one table, and a directory that holds one query. -/
def around : Surroundings where
  place := .ok (.directory [(FileName.ofText "queries", .directory
    [(FileName.ofText "all.gql",
      .file (.ok (FileName.ofText "query all { users { id } }")))])])
  connect _ _ := .ok (.ok ⟨⟨14, "public", "app"⟩,
    [⟨"public", "users", "id", "bigint", "r", .none, ⟨"", "", ""⟩⟩], [], []⟩)

/-- The settings are no text, and nobody answers for the database. -/
def faulty : Surroundings where
  place := .ok (.directory [(FileName.ofText "quarry.toml", .file (.ok [255]))])
  connect _ _ := .error (.io .notFound)

/-- The query that was found can be asked for. With two faults, each command reports
the one that its own steps come upon first. -/
theorem check_rehearses_users :
    (∃ findings snapshot, (check around endpoint).findings = .ok findings ∧
      around.firstSnapshot endpoint = .ok snapshot ∧ findings.Foretells snapshot ∧
      "all" ∈ snapshot.queryNames) ∧
    (check faulty endpoint).findings = .error (.engine (.io .invalidData)) ∧
    faulty.firstSnapshot endpoint = .error (.engine (.io .notFound)) := by
  have hsound := check_rehearses around endpoint
  have hfaulty := check_rehearses faulty endpoint
  have hnames : (check around endpoint).findings.toOption.map
      (fun findings => findings.queries.entries.map AllowEntry.name) =
        some ["all"] := by
    decide +kernel
  refine ⟨?_, (hfaulty.check_fails _).mpr (by decide +kernel),
    (hfaulty.watch_fails _).mpr (by decide +kernel)⟩
  cases hfindings : (check around endpoint).findings with
  | error failure =>
      rw [hfindings] at hnames
      cases hnames
  | ok findings =>
      obtain ⟨snapshot, hsnapshot⟩ := hsound.succeeds.mp ⟨findings, hfindings⟩
      have hforetells := hsound.foretells findings snapshot hfindings hsnapshot
      refine ⟨findings, snapshot, rfl, hsnapshot, hforetells,
        (hforetells.queries _).mp ?_⟩
      rw [hfindings, Except.toOption, Option.map_some, Option.some.injEq] at hnames
      rw [hnames]
      exact List.mem_singleton.mpr rfl

end Tool.QueriedUsers

end QueryGate
