import Mathlib.Data.List.Induction
import QueryGate.Access.RoleTable

/-!
What a role allows.

A role is put together from the entries of its configuration, one after the other,
and a later entry for a name takes the place of an earlier one. So the last entry
for the name of a table decides, whatever schema it is meant for.
-/

namespace QueryGate.Access

namespace Role

/-- Keeps the policy of one more entry. -/
def grant (role : Role) (entry : RoleTableConfig) : Role :=
  { role with policies := role.policies ++ [(entry.name, entry.policy)] }

/-- An entry decides about its own name, and about no other. -/
theorem policy?_grant (role : Role) (entry : RoleTableConfig) (table : String) :
    (role.grant entry).policy? table =
      if entry.name = table then some entry.policy else role.policy? table := by
  rw [policy?, grant, List.reverse_append, List.reverse_singleton,
    List.singleton_append, List.lookup_cons]
  by_cases h : entry.name = table
  · simp [h]
  · have hne : (table == entry.name) = false := by simpa using Ne.symm h
    rw [hne, if_neg h, policy?]

/-- One role allows no more than another. -/
def NoWider (role other : Role) : Prop :=
  ∀ table, (role.canRead table = true → other.canRead table = true) ∧
    (role.canWrite table = true → other.canWrite table = true)

theorem noWider_self (role : Role) : role.NoWider role :=
  fun _ => ⟨id, id⟩

/-- Who may write to a table may read from it. -/
theorem canRead_of_canWrite {role : Role} {table : String}
    (h : role.canWrite table = true) : role.canRead table = true := by
  unfold canWrite at h
  unfold canRead
  cases hpolicy : role.policy? table with
  | none => simpa [hpolicy] using h
  | some policy =>
      simp only [hpolicy, Bool.and_eq_true] at h
      exact h.1

section

variable {role : Role} {table : String}

theorem canRead_of_policy {policy : Policy} (h : role.policy? table = some policy) :
    role.canRead table = !policy.blocked := by
  rw [canRead, h]

theorem canWrite_of_policy {policy : Policy}
    (h : role.policy? table = some policy) :
    role.canWrite table = (!policy.blocked && !policy.readOnly) := by
  rw [canWrite, h]

theorem canRead_of_no_policy (h : role.policy? table = none) :
    role.canRead table = !role.defaultBlock := by
  rw [canRead, h]

theorem canWrite_of_no_policy (h : role.policy? table = none) :
    role.canWrite table = !role.defaultBlock := by
  rw [canWrite, h]

end

/-- Blocking by default takes rights away and gives none. -/
theorem noWider_blockAnonymous (role : Role) :
    (blockAnonymous role).NoWider role := by
  intro table
  unfold blockAnonymous
  by_cases hanonymous : role.name = anonymous
  · have hsame : ({ role with defaultBlock := true } : Role).policy? table =
        role.policy? table :=
      rfl
    rw [if_pos hanonymous]
    cases hpolicy : role.policy? table with
    | none => simp [canRead, canWrite, hsame, hpolicy]
    | some policy => simp [canRead, canWrite, hsame, hpolicy]
  · rw [if_neg hanonymous]
    exact role.noWider_self table

end Role

namespace RoleConfig

/-- The role before its tables are looked at. -/
def bare (config : RoleConfig) : Role :=
  ⟨config.name, config.filter, [], false⟩

theorem foldl_grant (role : Role) (entries : List RoleTableConfig) :
    entries.foldl Role.grant role =
      { role with policies := role.policies ++ entries.map fun t =>
        (t.name, t.policy) } := by
  induction entries generalizing role with
  | nil => simp
  | cons entry rest ih =>
      rw [List.foldl_cons, ih]
      simp [Role.grant]

/-- A role is made by keeping the entries of its configuration one after the
other. -/
theorem ofConfig_eq_foldl (config : RoleConfig) :
    Role.ofConfig config = config.tables.foldl Role.grant config.bare := by
  rw [foldl_grant]
  rfl

/-- The last entry for the name of a table. -/
def lastFor? (config : RoleConfig) (table : String) : Option RoleTableConfig :=
  config.tables.reverse.find? (·.name = table)

/-- The policy for a table is that of the last entry for its name. -/
theorem policy?_ofConfig (config : RoleConfig) (table : String) :
    (Role.ofConfig config).policy? table =
      (config.lastFor? table).map RoleTableConfig.policy := by
  rw [ofConfig_eq_foldl, lastFor?]
  induction config.tables using List.reverseRecOn with
  | nil => rfl
  | append_singleton entries entry ih =>
      rw [List.foldl_append, List.foldl_cons, List.foldl_nil,
        Role.policy?_grant, ih, List.reverse_append, List.reverse_singleton,
        List.singleton_append, List.find?_cons]
      by_cases h : entry.name = table
      · simp [h]
      · simp [h]

variable {config : RoleConfig} {table : String}

theorem lastFor?_eq_none_iff :
    config.lastFor? table = none ↔ ∀ entry ∈ config.tables, entry.name ≠ table := by
  simp [lastFor?]

section Split

variable {before after : List RoleTableConfig} {entry : RoleTableConfig}
  (htables : config.tables = before ++ entry :: after)

include htables

/-- An entry is the last one for its name when no later one has the name. -/
theorem lastFor?_of_no_later (hlater : ∀ later ∈ after, later.name ≠ entry.name) :
    config.lastFor? entry.name = some entry := by
  have hnone : after.reverse.find? (·.name = entry.name) = none := by
    simpa using hlater
  simp [lastFor?, htables, List.find?_append, hnone]

/-- For the name of an entry there is a last one: the entry itself, or one that
comes later. -/
theorem exists_lastFor :
    ∃ last, config.lastFor? entry.name = some last ∧
      (last = entry ∨ last ∈ after ∧ last.name = entry.name) := by
  cases hfound : after.reverse.find? (·.name = entry.name) with
  | none =>
      refine ⟨entry, lastFor?_of_no_later htables ?_, Or.inl rfl⟩
      simpa using hfound
  | some last =>
      have hlast : last ∈ after := by
        simpa using List.mem_of_find?_eq_some hfound
      have hname : last.name = entry.name := by
        simpa using List.find?_some hfound
      refine ⟨last, ?_, Or.inr ⟨hlast, hname⟩⟩
      simp [lastFor?, htables, List.find?_append, hfound]

end Split

/-- Where all entries have different names, each of them decides. -/
theorem lastFor?_of_nodup (hnodup : (config.tables.map RoleTableConfig.name).Nodup)
    {entry : RoleTableConfig} (hentry : entry ∈ config.tables) :
    config.lastFor? entry.name = some entry := by
  obtain ⟨before, after, htables⟩ := List.append_of_mem hentry
  apply lastFor?_of_no_later htables
  intro later hlater hname
  rw [htables, List.map_append, List.map_cons] at hnodup
  have hfresh := (List.nodup_cons.mp (List.nodup_append.mp hnodup).2.1).1
  exact hfresh (hname ▸ List.mem_map_of_mem hlater)

end RoleConfig

end QueryGate.Access
