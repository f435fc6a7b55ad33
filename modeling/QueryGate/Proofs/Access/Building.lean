import QueryGate.Proofs.Access.Policies
import QueryGate.Proofs.Catalog.Collecting

/-!
How a role table is built.

Configurations are taken one after the other. The tables that one names are looked
up first, so that there are notices about them also when its name turns out to be
taken. Main statements: this process builds what `RoleTable.build` says, with the
notices of `RoleTable.notices`, and which role a table has for a name.
-/

namespace QueryGate.Access

open QueryGate.Catalog

/-- Makes the role of a configuration, with a notice for each table that the model
lacks. -/
def RoleConfig.enlist (model : SchemaModel) (config : RoleConfig) :
    List Notice × Role :=
  config.tables.foldl (fun (said, role) entry =>
    let schema := entry.schemaIn model
    let missing := if (model.table? schema entry.name).isSome then []
      else [.roleTableMissing config.name schema entry.name]
    (said ++ missing, role.grant entry)) ([], config.bare)

namespace RoleTable

/-- Adds the roles of configurations to those that are there, up to a name that is
taken. -/
def enroll (model : SchemaModel) (roles : List Role) :
    List RoleConfig → List Notice × Except Error (List Role)
  | [] => ([], .ok roles)
  | config :: rest =>
      let (said, role) := config.enlist model
      if (roles.map Role.name).contains role.name then
        (said, .error (.duplicateRole role.name))
      else
        let (later, result) := enroll model (roles ++ [role]) rest
        (said ++ later, result)

/-- Adds the roles that need no configuration, and blocks by default if that is
asked for. -/
def complete (configs : List RoleConfig) (defaultBlock : Bool)
    (configured : List Role) : RoleTable :=
  let roles := configured ++ missingDefaults configured
  ⟨if defaultBlock && !configs.isEmpty then roles.map blockAnonymous else roles⟩

/-- A role table and the notices of building it, one configuration after the
other. -/
def assemble (configs : List RoleConfig) (model : SchemaModel)
    (defaultBlock : Bool) : List Notice × Except Error RoleTable :=
  let (said, result) := enroll model [] configs
  (said, result.map (complete configs defaultBlock))

end RoleTable

namespace RoleConfig

theorem enlist_eq (model : SchemaModel) (config : RoleConfig) :
    config.enlist model = (config.notices model, Role.ofConfig config) := by
  rw [ofConfig_eq_foldl, enlist, notices]
  induction config.tables using List.reverseRecOn with
  | nil => rfl
  | append_singleton entries entry ih =>
      rw [List.foldl_append, ih, List.filterMap_append, List.foldl_append]
      by_cases h : (model.table? (entry.schemaIn model) entry.name).isSome = true
      · simp [h]
      · simp [h]

end RoleConfig

theorem firstRepeated?_eq_none_iff {seen names : List String} :
    firstRepeated? seen names = none ↔
    names.Nodup ∧ ∀ name ∈ names, name ∉ seen := by
  induction names generalizing seen with
  | nil => simp [firstRepeated?]
  | cons name rest ih =>
      by_cases h : name ∈ seen
      · simp [firstRepeated?, h]
      · rw [firstRepeated?, if_neg (by simpa using h), ih, List.nodup_cons,
          List.forall_mem_cons]
        simp only [List.mem_cons, not_or]
        constructor
        · rintro ⟨hrest, hnew⟩
          refine ⟨⟨fun hmem => (hnew name hmem).1 rfl, hrest⟩, h, ?_⟩
          exact fun other hother => (hnew other hother).2
        · rintro ⟨⟨hname, hrest⟩, _, hnew⟩
          refine ⟨hrest, fun other hother => ⟨?_, hnew other hother⟩⟩
          exact fun hsame => hname (hsame ▸ hother)

/-- The first name that repeats an earlier one comes after names that are all
new. -/
theorem firstRepeated?_eq_some_iff {seen names : List String} {name : String} :
    firstRepeated? seen names = some name ↔
      ∃ before after, names = before ++ name :: after ∧
        firstRepeated? seen before = none ∧
        (name ∈ seen ∨ name ∈ before) := by
  induction names generalizing seen with
  | nil => simp [firstRepeated?]
  | cons head rest ih =>
      by_cases h : head ∈ seen
      · rw [firstRepeated?, if_pos (by simpa using h), Option.some.injEq]
        constructor
        · rintro rfl
          exact ⟨[], rest, rfl, rfl, Or.inl h⟩
        · rintro ⟨before, after, hnames, hnew, _⟩
          cases before with
          | nil => exact (List.cons.inj hnames).1
          | cons other before =>
              obtain ⟨rfl, _⟩ := List.cons.inj hnames
              exact absurd h ((firstRepeated?_eq_none_iff.mp hnew).2 head
                List.mem_cons_self)
      · rw [firstRepeated?, if_neg (by simpa using h), ih]
        constructor
        · rintro ⟨before, after, rfl, hnew, hname⟩
          refine ⟨head :: before, after, rfl, ?_, ?_⟩
          · rw [firstRepeated?, if_neg (by simpa using h)]
            exact hnew
          · simpa [or_comm, or_left_comm, or_assoc] using hname
        · rintro ⟨before, after, hnames, hnew, hname⟩
          cases before with
          | nil =>
              obtain ⟨rfl, _⟩ := List.cons.inj hnames
              simp [h] at hname
          | cons other before =>
              obtain ⟨rfl, rfl⟩ := List.cons.inj hnames
              rw [firstRepeated?, if_neg (by simpa using h)] at hnew
              refine ⟨before, after, rfl, hnew, ?_⟩
              simpa [or_comm, or_left_comm, or_assoc] using hname

namespace RoleTable

theorem enroll_eq (model : SchemaModel) {roles : List Role} (seen : List String)
    (configs : List RoleConfig)
    (hseen : ∀ name, name ∈ seen ↔ name ∈ roles.map Role.name) :
    enroll model roles configs =
      ((uptoRepeated seen configs).flatMap (RoleConfig.notices model),
        match firstRepeated? seen (configs.map RoleConfig.name) with
        | some name => .error (.duplicateRole name)
        | none => .ok (roles ++ configs.map Role.ofConfig)) := by
  induction configs generalizing roles seen with
  | nil => simp [enroll, uptoRepeated, firstRepeated?]
  | cons config rest ih =>
      have hname : (Role.ofConfig config).name = config.name := rfl
      simp only [enroll, RoleConfig.enlist_eq, hname, List.contains_iff_mem,
        ← hseen, uptoRepeated, List.map_cons, firstRepeated?]
      by_cases h : config.name ∈ seen
      · simp [h]
      · have hnext : ∀ name, name ∈ config.name :: seen ↔
            name ∈ (roles ++ [Role.ofConfig config]).map Role.name := by
          intro name
          simp [hseen, hname, or_comm]
        rw [if_neg h, if_neg h, if_neg h, ih _ hnext]
        simp

/-- Taking one configuration after the other builds the role table. -/
theorem assemble_eq (configs : List RoleConfig) (model : SchemaModel)
    (defaultBlock : Bool) :
    assemble configs model defaultBlock =
      (notices configs model, build configs defaultBlock) := by
  rw [assemble, enroll_eq model [] configs (by simp), notices, build]
  cases firstRepeated? [] (configs.map RoleConfig.name) with
  | some name => rfl
  | none => rfl

section Build

variable {configs : List RoleConfig} {defaultBlock : Bool} {table : RoleTable}

theorem build_eq_ok_iff :
    build configs defaultBlock = .ok table ↔
      (configs.map RoleConfig.name).Nodup ∧
      table = ofConfigs configs defaultBlock := by
  have hnone : firstRepeated? [] (configs.map RoleConfig.name) = none ↔
      (configs.map RoleConfig.name).Nodup := by
    simp [firstRepeated?_eq_none_iff]
  rw [← hnone, build]
  cases firstRepeated? [] (configs.map RoleConfig.name) with
  | some name => simp
  | none => simp [eq_comm]

/-- Building fails with the first name that repeats an earlier one. -/
theorem build_eq_error_iff {e : Error} :
    build configs defaultBlock = .error e ↔
      ∃ before config after, configs = before ++ config :: after ∧
        (before.map RoleConfig.name).Nodup ∧
        config.name ∈ before.map RoleConfig.name ∧
        e = .duplicateRole config.name := by
  have herror : build configs defaultBlock = .error e ↔
      ∃ name, firstRepeated? [] (configs.map RoleConfig.name) = some name ∧
        e = .duplicateRole name := by
    rw [build]
    cases firstRepeated? [] (configs.map RoleConfig.name) with
    | some name => simp [eq_comm]
    | none => simp
  rw [herror]
  constructor
  · rintro ⟨name, hname, rfl⟩
    obtain ⟨before, after, hsplit, hnew, hmem⟩ :=
      firstRepeated?_eq_some_iff.mp hname
    obtain ⟨front, back, rfl, rfl, hback⟩ := List.map_eq_append_iff.mp hsplit
    obtain ⟨config, rest, rfl, rfl, rfl⟩ := List.map_eq_cons_iff.mp hback
    refine ⟨front, config, rest, rfl, (firstRepeated?_eq_none_iff.mp hnew).1,
      ?_, rfl⟩
    simpa using hmem
  · rintro ⟨before, config, after, rfl, hnodup, hmem, rfl⟩
    refine ⟨config.name, firstRepeated?_eq_some_iff.mpr ?_, rfl⟩
    refine ⟨before.map RoleConfig.name, after.map RoleConfig.name, by simp, ?_,
      Or.inr hmem⟩
    exact firstRepeated?_eq_none_iff.mpr ⟨hnodup, by simp⟩

end Build

/-- Nothing graver than a warning is reported. -/
theorem severity_of_mem_notices {configs : List RoleConfig} {model : SchemaModel}
    {notice : Notice} (h : notice ∈ notices configs model) :
    notice.severity = .warn := by
  obtain ⟨config, _, hconfig⟩ := List.mem_flatMap.mp h
  obtain ⟨table, _, hnotice⟩ := List.mem_filterMap.mp hconfig
  simp only at hnotice
  split at hnotice
  · cases hnotice
  · cases hnotice
    rfl

theorem name_of_role? {table : RoleTable} {name : String} {role : Role}
    (h : table.role? name = some role) : role.name = name := by
  simpa using List.find?_some h

theorem mem_of_role? {table : RoleTable} {name : String} {role : Role}
    (h : table.role? name = some role) : role ∈ table.roles :=
  List.mem_of_find?_eq_some h

theorem mem_names_iff_exists {table : RoleTable} {name : String} :
    name ∈ table.names ↔ ∃ role ∈ table.roles, role.name = name := by
  rw [names, Text.sorted, List.mem_mergeSort, List.mem_map]

theorem name_blockAnonymous (role : Role) :
    (blockAnonymous role).name = role.name := by
  unfold blockAnonymous
  split <;> rfl

/-- A role as it is in a table: blocking by default is added where it is asked
for. -/
def settled (configs : List RoleConfig) (defaultBlock : Bool)
    (role : Role) : Role :=
  if defaultBlock && !configs.isEmpty then blockAnonymous role else role

section Settled

variable (configs : List RoleConfig) (defaultBlock : Bool) (role : Role)

theorem name_settled : (settled configs defaultBlock role).name = role.name := by
  unfold settled
  split
  · exact name_blockAnonymous role
  · rfl

theorem policy?_settled (table : String) :
    (settled configs defaultBlock role).policy? table = role.policy? table := by
  unfold settled blockAnonymous
  split
  · split <;> rfl
  · rfl

/-- Only the anonymous role blocks by default, and only where roles are configured
and it was asked for. -/
theorem defaultBlock_settled (hrole : role.defaultBlock = false) :
    (settled configs defaultBlock role).defaultBlock = true ↔
      role.name = anonymous ∧ defaultBlock = true ∧ configs ≠ [] := by
  unfold settled blockAnonymous
  by_cases hblocks : (defaultBlock && !configs.isEmpty) = true
  · have hasked : defaultBlock = true ∧ configs ≠ [] := by simpa using hblocks
    rw [if_pos hblocks]
    by_cases hanonymous : role.name = anonymous
    · simp [hanonymous, hasked]
    · simp [hanonymous, hrole]
  · have hasked : ¬(defaultBlock = true ∧ configs ≠ []) := by simpa using hblocks
    rw [if_neg hblocks]
    simp [hrole, hasked]

end Settled

section Roles

variable {configs : List RoleConfig} {defaultBlock : Bool} {name : String}

/-- The roles of a table: those that are configured, and the others that need no
configuration. -/
theorem roles_ofConfigs (configs : List RoleConfig) (defaultBlock : Bool) :
    (ofConfigs configs defaultBlock).roles =
      (configs.map Role.ofConfig ++ missingDefaults (configs.map Role.ofConfig)).map
        (settled configs defaultBlock) := by
  unfold ofConfigs settled
  by_cases hblocks : (defaultBlock && !configs.isEmpty) = true
  · simp only [if_pos hblocks]
  · simp only [if_neg hblocks, List.map_id']

/-- Blocking by default does not change which role is found. -/
theorem role?_ofConfigs (configs : List RoleConfig) (defaultBlock : Bool)
    (name : String) :
    (ofConfigs configs defaultBlock).role? name =
      ((configs.map Role.ofConfig ++
        missingDefaults (configs.map Role.ofConfig)).find?
        (·.name = name)).map (settled configs defaultBlock) := by
  rw [role?, roles_ofConfigs, List.find?_map]
  congr 2
  funext role
  rw [Function.comp_apply, name_settled]

/-- The names of a table: those that are configured, and the others that need no
configuration. -/
theorem map_name_ofConfigs (configs : List RoleConfig) (defaultBlock : Bool) :
    (ofConfigs configs defaultBlock).roles.map Role.name =
      configs.map RoleConfig.name ++
        defaultRoles.filter fun name =>
          !(configs.map RoleConfig.name).contains name := by
  have hconfigured :
      (Role.name ∘ settled configs defaultBlock) ∘ Role.ofConfig =
        RoleConfig.name :=
    funext fun config => name_settled configs defaultBlock (.ofConfig config)
  have hopen : (Role.name ∘ settled configs defaultBlock) ∘ Role.open_ = id :=
    funext fun name => name_settled configs defaultBlock (.open_ name)
  have hnames : (configs.map Role.ofConfig).map Role.name =
      configs.map RoleConfig.name := by
    rw [List.map_map]
    rfl
  rw [roles_ofConfigs, missingDefaults, hnames, List.map_map, List.map_append,
    List.map_map, List.map_map, hconfigured, hopen, List.map_id]

theorem nodup_map_name_ofConfigs (defaultBlock : Bool)
    (hnodup : (configs.map RoleConfig.name).Nodup) :
    ((ofConfigs configs defaultBlock).roles.map Role.name).Nodup := by
  rw [map_name_ofConfigs]
  refine List.nodup_append.mpr ⟨hnodup, List.Pairwise.filter _ (by decide), ?_⟩
  intro name hconfigured other hother hsame
  rw [List.mem_filter] at hother
  simp [← hsame, hconfigured] at hother

theorem nodup_names_ofConfigs (defaultBlock : Bool)
    (hnodup : (configs.map RoleConfig.name).Nodup) :
    (ofConfigs configs defaultBlock).names.Nodup := by
  rw [names, Text.sorted, (List.mergeSort_perm _ _).nodup_iff]
  exact nodup_map_name_ofConfigs defaultBlock hnodup

theorem mem_names_ofConfigs :
    name ∈ (ofConfigs configs defaultBlock).names ↔
      name ∈ configs.map RoleConfig.name ∨ name ∈ defaultRoles := by
  rw [names, Text.sorted, List.mem_mergeSort, map_name_ofConfigs, List.mem_append,
    List.mem_filter]
  by_cases hconfigured : name ∈ configs.map RoleConfig.name
  · simp [hconfigured]
  · simp [hconfigured]

/-- The roles that need no configuration are in every table. -/
theorem default_mem_names {table : RoleTable}
    (hbuild : build configs defaultBlock = .ok table)
    (hname : name ∈ defaultRoles) : name ∈ table.names := by
  obtain ⟨_, rfl⟩ := build_eq_ok_iff.mp hbuild
  exact mem_names_ofConfigs.mpr (Or.inr hname)

theorem role?_isSome_iff {table : RoleTable} : (table.role? name).isSome ↔
    name ∈ table.names := by
  simp [role?, mem_names_iff_exists]

theorem mem_roles_ofConfigs {role : Role} :
    role ∈ (ofConfigs configs defaultBlock).roles ↔
      (∃ config ∈ configs, settled configs defaultBlock (.ofConfig config) = role) ∨
      ∃ name ∈ defaultRoles, name ∉ configs.map RoleConfig.name ∧
        settled configs defaultBlock (.open_ name) = role := by
  have hconfigured : (configs.map Role.ofConfig).map Role.name =
      configs.map RoleConfig.name := by
    rw [List.map_map]
    rfl
  rw [roles_ofConfigs, missingDefaults, hconfigured]
  simp only [List.map_append, List.map_map, List.mem_append, List.mem_map,
    List.mem_filter, Function.comp_apply, Bool.not_eq_true', List.contains_eq_mem,
    decide_eq_false_iff_not, and_assoc]

/-- Where no name is configured twice, each role of a table is found by its name. -/
theorem role?_eq_some_iff (hnodup : (configs.map RoleConfig.name).Nodup)
    {role : Role} :
    (ofConfigs configs defaultBlock).role? name = some role ↔
      role ∈ (ofConfigs configs defaultBlock).roles ∧ role.name = name := by
  constructor
  · exact fun h => ⟨mem_of_role? h, name_of_role? h⟩
  · rintro ⟨hrole, rfl⟩
    exact find?_key_of_mem (nodup_map_name_ofConfigs defaultBlock hnodup) hrole

/-- A configured role is made of its configuration. -/
theorem role?_of_mem (defaultBlock : Bool)
    (hnodup : (configs.map RoleConfig.name).Nodup) {config : RoleConfig}
    (hconfig : config ∈ configs) :
    (ofConfigs configs defaultBlock).role? config.name =
      some (settled configs defaultBlock (.ofConfig config)) := by
  refine (role?_eq_some_iff hnodup).mpr ⟨?_, name_settled configs defaultBlock _⟩
  exact mem_roles_ofConfigs.mpr (Or.inl ⟨config, hconfig, rfl⟩)

/-- The role of a name is made of its configuration, or is one that needs none. -/
theorem of_role? (hnodup : (configs.map RoleConfig.name).Nodup) {role : Role}
    (h : (ofConfigs configs defaultBlock).role? name = some role) :
    (∃ config ∈ configs, config.name = name ∧
      role = settled configs defaultBlock (.ofConfig config)) ∨
    (name ∈ defaultRoles ∧ name ∉ configs.map RoleConfig.name ∧
      role = settled configs defaultBlock (.open_ name)) := by
  obtain ⟨hrole, rfl⟩ := (role?_eq_some_iff hnodup).mp h
  rcases mem_roles_ofConfigs.mp hrole with ⟨config, hconfig, rfl⟩
    | ⟨name, hdefault, hnew, rfl⟩
  · rw [name_settled]
    exact Or.inl ⟨config, hconfig, rfl, rfl⟩
  · rw [name_settled]
    exact Or.inr ⟨hdefault, hnew, rfl⟩

end Roles

end RoleTable

end QueryGate.Access
