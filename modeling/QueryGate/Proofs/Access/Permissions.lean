import QueryGate.Proofs.Access.Building

/-!
What the roles of a table allow.

Main statements: a restriction that is configured for the name of a table is
enforced unless a later entry for the name lifts it, and what every role of a table
may do follows from its configuration and from whether there is blocking by default.
Which tables there are in the model is of no account.
-/

namespace QueryGate.Access

open QueryGate.Catalog

namespace RoleTable

section Settled

variable {configs : List RoleConfig} {defaultBlock : Bool} {config : RoleConfig}
  {table : String}

/-- The last entry for a name decides what may be done with the table. -/
theorem allows_of_lastFor (configs : List RoleConfig) (defaultBlock : Bool)
    {entry : RoleTableConfig} (hlast : config.lastFor? table = some entry) :
    (settled configs defaultBlock (.ofConfig config)).canRead table =
      !entry.blocked ∧
      (settled configs defaultBlock (.ofConfig config)).canWrite table =
        (!entry.blocked && !entry.readOnly) := by
  have hpolicy : (settled configs defaultBlock (.ofConfig config)).policy? table =
      some entry.policy := by
    rw [policy?_settled, RoleConfig.policy?_ofConfig, hlast]
    rfl
  exact ⟨Role.canRead_of_policy hpolicy, Role.canWrite_of_policy hpolicy⟩

/-- A table without a policy is open, but for the anonymous role where there is
blocking by default. -/
theorem allows_of_no_policy {role : Role} (hpolicy : role.policy? table = none)
    (hopen : role.defaultBlock = false) :
    (settled configs defaultBlock role).canWrite table =
        (settled configs defaultBlock role).canRead table ∧
      ((settled configs defaultBlock role).canRead table = false ↔
        role.name = anonymous ∧ defaultBlock = true ∧ configs ≠ []) := by
  have hsettled : (settled configs defaultBlock role).policy? table = none := by
    rw [policy?_settled, hpolicy]
  rw [Role.canWrite_of_no_policy hsettled, Role.canRead_of_no_policy hsettled,
    ← defaultBlock_settled configs defaultBlock role hopen]
  simp

/-- Blocking by default takes rights away and gives none. -/
theorem noWider_settled (configs : List RoleConfig) (role : Role) :
    (settled configs true role).NoWider (settled configs false role) := by
  have hopen : settled configs false role = role := by
    simp [settled]
  rw [hopen, settled]
  split
  · exact role.noWider_blockAnonymous
  · exact role.noWider_self

/-- Blocking by default changes no role but the anonymous one. -/
theorem settled_of_ne (configs : List RoleConfig) (defaultBlock : Bool)
    {role : Role} (hrole : role.name ≠ anonymous) :
    settled configs defaultBlock role = role := by
  unfold settled blockAnonymous
  rw [if_neg hrole]
  split <;> rfl

end Settled

/-- Whatever the schemas of its entries, a role keeps to what the last entry for the
name of a table says. So a restriction is enforced, whichever entries come before
it, unless a later entry for the name is without it. -/
theorem restriction_enforced {configs : List RoleConfig} {defaultBlock : Bool}
    {table : RoleTable} (hbuilt : build configs defaultBlock = .ok table)
    {config : RoleConfig} (hconfig : config ∈ configs)
    {before after : List RoleTableConfig} {entry : RoleTableConfig}
    (htables : config.tables = before ++ entry :: after) :
    ∃ role, table.role? config.name = some role ∧
      (entry.blocked = true →
        (∀ later ∈ after, later.name = entry.name → later.blocked = true) →
          role.canRead entry.name = false ∧ role.canWrite entry.name = false) ∧
      (entry.readOnly = true →
        (∀ later ∈ after, later.name = entry.name →
          later.readOnly = true ∨ later.blocked = true) →
          role.canWrite entry.name = false) ∧
      ((∀ later ∈ after, later.name ≠ entry.name) →
        role.canRead entry.name = !entry.blocked ∧
          role.canWrite entry.name = (!entry.blocked && !entry.readOnly)) := by
  obtain ⟨hnodup, rfl⟩ := build_eq_ok_iff.mp hbuilt
  obtain ⟨last, hlast, hwhich⟩ := RoleConfig.exists_lastFor htables
  obtain ⟨hread, hwrite⟩ := allows_of_lastFor configs defaultBlock hlast
  refine ⟨_, role?_of_mem defaultBlock hnodup hconfig, ?_, ?_, ?_⟩
  · intro hblocked hkept
    have hlastBlocked : last.blocked = true := by
      rcases hwhich with rfl | ⟨hlater, hname⟩
      · exact hblocked
      · exact hkept last hlater hname
    simp [hread, hwrite, hlastBlocked]
  · intro hreadOnly hkept
    have hlastRestricted : last.readOnly = true ∨ last.blocked = true := by
      rcases hwhich with rfl | ⟨hlater, hname⟩
      · exact Or.inl hreadOnly
      · exact hkept last hlater hname
    rcases hlastRestricted with h | h <;> simp [hwrite, h]
  · intro hnone
    rcases hwhich with rfl | ⟨hlater, hname⟩
    · exact ⟨hread, hwrite⟩
    · exact absurd hname (hnone last hlater)

namespace Namesakes

/-- The users of two schemas, of whom those of one are blocked. -/
def clerk : RoleConfig :=
  ⟨"clerk", "", [⟨"public", "users", false, true⟩,
    ⟨"archive", "users", false, false⟩]⟩

/-- The same entries the other way round. -/
def auditor : RoleConfig :=
  ⟨"auditor", "", [⟨"archive", "users", false, false⟩,
    ⟨"public", "users", true, true⟩]⟩

/-- The entries are for different tables, and the one that is blocked may be read
and written. -/
theorem blocked_readable :
    clerk.tables.Pairwise
        (fun entry other => (entry.schema, entry.name) ≠
          (other.schema, other.name)) ∧
      ∃ table role, build [clerk] false = .ok table ∧
        table.role? "clerk" = some role ∧
        ∃ entry ∈ clerk.tables, entry.blocked = true ∧
          role.canRead entry.name = true ∧
          role.canWrite entry.name = true := by
  refine ⟨by decide, _, _, rfl, rfl, _, List.mem_cons_self, rfl, ?_⟩
  decide

/-- A restriction that comes last is enforced. -/
theorem restriction_enforced_last :
    ∃ table role, build [clerk, auditor] false = .ok table ∧
      table.role? "auditor" = some role ∧ role.canRead "users" = false ∧
        role.canWrite "users" = false := by
  have hbuilt : build [clerk, auditor] false =
    .ok (ofConfigs [clerk, auditor] false) := rfl
  have hauditor : auditor ∈ [clerk, auditor] := by simp
  have htables : auditor.tables =
      [⟨"archive", "users", false, false⟩] ++
        ⟨"public", "users", true, true⟩ :: [] := rfl
  obtain ⟨role, hrole, hblocked, _⟩ := restriction_enforced hbuilt hauditor htables
  obtain ⟨hread, hwrite⟩ := hblocked rfl (by simp)
  exact ⟨_, role, hbuilt, hrole, hread, hwrite⟩

end Namesakes

/-- The roles of a table are what the configurations say, and allow what they say.
Where the entries of a role have different names, each of them decides. What a role
does not name is open, but for the anonymous role where there is blocking by default
and roles are configured. -/
structure Reflects (table : RoleTable) (configs : List RoleConfig)
    (defaultBlock : Bool) : Prop where
  names : ∀ name, name ∈ table.names ↔ name ∈ configs.map RoleConfig.name ∨
    name ∈ defaultRoles
  once : table.names.Nodup
  found : ∀ name, (table.role? name).isSome ↔ name ∈ table.names
  listed : ∀ config ∈ configs, (config.tables.map RoleTableConfig.name).Nodup →
    ∀ role, table.role? config.name = some role → ∀ entry ∈ config.tables,
      role.canRead entry.name = !entry.blocked ∧
        role.canWrite entry.name = (!entry.blocked && !entry.readOnly)
  unlisted : ∀ name role, table.role? name = some role → ∀ other,
    (∀ config ∈ configs, config.name = name → ∀ entry ∈ config.tables,
      entry.name ≠ other) →
      role.canWrite other = role.canRead other ∧
        (role.canRead other = false ↔ name = anonymous ∧
          defaultBlock = true ∧ configs ≠ [])
  writers : ∀ name role, table.role? name = some role → ∀ other,
    role.canWrite other = true → role.canRead other = true

/-- A table of the same roles, of whom the anonymous one may do no more and the
others the same. -/
structure Narrows (narrow wide : RoleTable) : Prop where
  names : narrow.names = wide.names
  others : ∀ name, name ≠ anonymous → narrow.role? name = wide.role? name
  noWider : ∀ role role', narrow.role? anonymous = some role →
    wide.role? anonymous = some role' →
    role.NoWider role'

section

variable {configs : List RoleConfig}

theorem reflects_ofConfigs (defaultBlock : Bool)
    (hnodup : (configs.map RoleConfig.name).Nodup) :
    (ofConfigs configs defaultBlock).Reflects configs defaultBlock where
  names := fun _ => mem_names_ofConfigs
  once := nodup_names_ofConfigs defaultBlock hnodup
  found := fun _ => role?_isSome_iff
  listed := by
    intro config hconfig hentries role hrole entry hentry
    rw [role?_of_mem defaultBlock hnodup hconfig, Option.some.injEq] at hrole
    rw [← hrole]
    exact allows_of_lastFor configs defaultBlock
      (RoleConfig.lastFor?_of_nodup hentries hentry)
  unlisted := by
    intro name role hrole other hother
    rcases of_role? hnodup hrole with ⟨config, hconfig, hname, rfl⟩ | ⟨_, _, rfl⟩
    · have hpolicy : (Role.ofConfig config).policy? other = none := by
        rw [RoleConfig.policy?_ofConfig,
          RoleConfig.lastFor?_eq_none_iff.mpr (hother config hconfig hname)]
        rfl
      rw [← hname]
      exact allows_of_no_policy hpolicy rfl
    · exact allows_of_no_policy rfl rfl
  writers := fun _ _ _ _ => Role.canRead_of_canWrite

theorem narrows_ofConfigs (configs : List RoleConfig) :
    (ofConfigs configs true).Narrows (ofConfigs configs false) where
  names := by
    rw [RoleTable.names, RoleTable.names, map_name_ofConfigs, map_name_ofConfigs]
  others := by
    intro name hname
    rw [role?_ofConfigs, role?_ofConfigs]
    cases hfound :
      (configs.map Role.ofConfig ++ missingDefaults
        (configs.map Role.ofConfig)).find? (·.name = name) with
    | none => rfl
    | some role =>
        have hrole : role.name ≠ anonymous := by
          have hsame : role.name = name := by simpa using List.find?_some hfound
          rwa [hsame]
        simp only [Option.map_some, settled_of_ne configs _ hrole]
  noWider := by
    intro role role' hrole hrole'
    rw [role?_ofConfigs, Option.map_eq_some_iff] at hrole hrole'
    obtain ⟨found, hfound, rfl⟩ := hrole
    obtain ⟨same, hsame, rfl⟩ := hrole'
    rw [hfound, Option.some.injEq] at hsame
    rw [← hsame]
    exact noWider_settled configs found

end

/-- Roles are configured without a schema in mind: the structure of the database
decides about the notices, all of them warnings, and about nothing else. Building
fails only where a name repeats an earlier one, and reports the first that does.
What the roles allow is what the configurations say, and blocking by default changes
nothing but that the anonymous role may do less. -/
theorem permissions_of_configs (configs : List RoleConfig) (model : SchemaModel)
    (defaultBlock : Bool) :
    assemble configs model defaultBlock =
        (notices configs model, build configs defaultBlock) ∧
      (∀ notice ∈ notices configs model, notice.severity = .warn) ∧
      (∀ e, build configs defaultBlock = .error e ↔
        ∃ before config after, configs = before ++ config :: after ∧
          (before.map RoleConfig.name).Nodup ∧
          config.name ∈ before.map RoleConfig.name ∧
          e = .duplicateRole config.name) ∧
      ((∃ table, build configs defaultBlock = .ok table) ↔
        (configs.map RoleConfig.name).Nodup) ∧
      (∀ table, build configs defaultBlock = .ok table →
        table.Reflects configs defaultBlock) ∧
      (∀ narrow wide, build configs true = .ok narrow →
        build configs false = .ok wide →
        narrow.Narrows wide) := by
  refine ⟨assemble_eq configs model defaultBlock, fun _ => severity_of_mem_notices,
    fun _ => build_eq_error_iff, ?_, ?_, ?_⟩
  · simp [build_eq_ok_iff]
  · intro table hbuilt
    obtain ⟨hnodup, rfl⟩ := build_eq_ok_iff.mp hbuilt
    exact reflects_ofConfigs defaultBlock hnodup
  · intro narrow wide hnarrow hwide
    obtain ⟨_, rfl⟩ := build_eq_ok_iff.mp hnarrow
    obtain ⟨_, rfl⟩ := build_eq_ok_iff.mp hwide
    exact narrows_ofConfigs configs

end RoleTable

end QueryGate.Access
