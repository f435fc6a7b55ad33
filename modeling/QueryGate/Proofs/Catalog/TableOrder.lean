import QueryGate.Proofs.Catalog.Merging

/-!
The tables of a model that was built.

Columns of one schema and table end up in one group, so that no two tables of a
model have the same schema and name. As the tables are sorted by them, each one
strictly precedes those after it, and the tables alone determine how they are
listed.
-/

namespace QueryGate.Catalog

/-- What tells the tables of a model apart. -/
def Table.key (table : Table) : String × String :=
  (table.schema, table.name)

/-- The strict order of keys: by schema, and within a schema by name. -/
def KeyBefore (a b : String × String) : Prop :=
  a.1 < b.1 ∨ a.1 = b.1 ∧ a.2 < b.2

theorem KeyBefore.asymm {a b : String × String} (h : KeyBefore a b) :
    ¬ KeyBefore b a := by
  intro hback
  rcases h with hschema | ⟨hschema, hname⟩
  · rcases hback with hback | ⟨hsame, _⟩
    · exact String.lt_asymm hschema hback
    · rw [hsame] at hschema
      exact String.lt_irrefl _ hschema
  · rcases hback with hback | ⟨_, hback⟩
    · rw [hschema] at hback
      exact String.lt_irrefl _ hback
    · exact String.lt_asymm hname hback

namespace Table

theorem before_iff {a b : Table} :
    a.before b = true ↔ a.schema < b.schema ∨ a.schema = b.schema ∧
    a.name ≤ b.name := by
  simp [before]

theorem before_trans {a b c : Table} (hab : a.before b = true)
    (hbc : b.before c = true) : a.before c = true := by
  rw [before_iff] at *
  rcases hab with hab | ⟨hab, hname⟩
  · rcases hbc with hbc | ⟨hbc, _⟩
    · exact Or.inl (String.lt_trans hab hbc)
    · exact Or.inl (hbc ▸ hab)
  · rcases hbc with hbc | ⟨hbc, hname'⟩
    · exact Or.inl (hab ▸ hbc)
    · exact Or.inr ⟨hab.trans hbc, String.le_trans hname hname'⟩

theorem before_total (a b : Table) : (a.before b || b.before a) = true := by
  rw [Bool.or_eq_true, before_iff, before_iff]
  by_cases hlt : a.schema < b.schema
  · exact Or.inl (Or.inl hlt)
  · by_cases hgt : b.schema < a.schema
    · exact Or.inr (Or.inl hgt)
    · have hschema : a.schema = b.schema :=
        String.le_antisymm (String.not_lt.mp hgt) (String.not_lt.mp hlt)
      rcases String.le_total a.name b.name with hname | hname
      · exact Or.inl (Or.inr ⟨hschema, hname⟩)
      · exact Or.inr (Or.inr ⟨hschema.symm, hname⟩)

/-- A table before one with another key is strictly before it. -/
theorem keyBefore_of_before {a b : Table} (h : a.before b = true)
    (hne : a.key ≠ b.key) : KeyBefore a.key b.key := by
  rcases before_iff.mp h with hschema | ⟨hschema, hname⟩
  · exact Or.inl hschema
  · refine Or.inr ⟨hschema, ?_⟩
    by_cases hlt : a.name < b.name
    · exact hlt
    · have hsame : a.name = b.name :=
        String.le_antisymm hname (String.not_lt.mp hlt)
      exact absurd (Prod.ext hschema hsame) hne

end Table

namespace SchemaModel

theorem perm_buildTables (blocked : String → Bool) (rows : Rows) :
    (buildTables blocked rows).Perm
      (((groupColumns (mergeColumns blocked rows.columns)).filter
        fun group => !isInternal group.name).map
          (TableGroup.toTable blocked rows.indexes)) :=
  List.mergeSort_perm _ _

theorem buildTables_of_one_group {blocked : String → Bool} {rows : Rows}
    {group : TableGroup}
    (hgroup : groupColumns (mergeColumns blocked rows.columns) = [group])
    (hshown : isInternal group.name = false) :
    buildTables blocked rows = [group.toTable blocked rows.indexes] := by
  simp [buildTables, hgroup, hshown]

theorem nodup_keys_buildTables (blocked : String → Bool) (rows : Rows) :
    ((buildTables blocked rows).map Table.key).Nodup := by
  have hkey : Table.key ∘ TableGroup.toTable blocked rows.indexes =
    TableGroup.key := rfl
  rw [((perm_buildTables blocked rows).map Table.key).nodup_iff, List.map_map, hkey]
  exact (nodup_keys_groupColumns _).sublist (List.filter_sublist.map TableGroup.key)

/-- Each table of a model strictly precedes those after it. -/
theorem pairwise_buildTables (blocked : String → Bool) (rows : Rows) :
    (buildTables blocked rows).Pairwise fun a b => KeyBefore a.key b.key := by
  have hsorted : (buildTables blocked rows).Pairwise fun a b =>
      a.before b = true := by
    rw [buildTables]
    apply List.pairwise_mergeSort
    · intro a b c hab hbc
      exact Table.before_trans hab hbc
    · exact Table.before_total
  have hdistinct : (buildTables blocked rows).Pairwise fun a b => a.key ≠ b.key :=
    List.pairwise_map.mp (nodup_keys_buildTables blocked rows)
  exact (hsorted.and hdistinct).imp fun ⟨h, hne⟩ => Table.keyBefore_of_before h hne

end SchemaModel

end QueryGate.Catalog
