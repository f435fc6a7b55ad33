import Mathlib.Data.String.Basic
import QueryGate.Catalog.Fingerprint
import QueryGate.Proofs.Catalog.Collision
import QueryGate.Proofs.Catalog.TableOrder
import QueryGate.Proofs.Sorting
import QueryGate.Proofs.Text.Spelling

/-!
What it means that two models have the same structure.

A fingerprint sorts what has no order. Sorting loses nothing but the order, and the
facts about something lose nothing at all, so that models which were built have the
same fingerprint exactly when they have the same shape.
-/

namespace QueryGate.Catalog

open Text

namespace Facts

theorem precede_cons_iff {a b : String} {rest others : Facts} :
    precede (a :: rest) (b :: others) = true ↔
      a < b ∨ a = b ∧ precede rest others = true := by
  simp [precede]

theorem precede_trans {as bs cs : Facts} (hab : as.precede bs = true)
    (hbc : bs.precede cs = true) : as.precede cs = true := by
  induction as generalizing bs cs with
  | nil => simp [precede]
  | cons a as ih =>
      cases bs with
      | nil => simp [precede] at hab
      | cons b bs =>
          cases cs with
          | nil => simp [precede] at hbc
          | cons c cs =>
              rw [precede_cons_iff] at hab hbc ⊢
              rcases hab with hab | ⟨rfl, hab⟩
              · rcases hbc with hbc | ⟨rfl, _⟩
                · exact Or.inl (String.lt_trans hab hbc)
                · exact Or.inl hab
              · rcases hbc with hbc | ⟨rfl, hbc⟩
                · exact Or.inl hbc
                · exact Or.inr ⟨rfl, ih hab hbc⟩

theorem precede_total (as bs : Facts) :
    (as.precede bs || bs.precede as) = true := by
  rw [Bool.or_eq_true]
  induction as generalizing bs with
  | nil => exact Or.inl (by simp [precede])
  | cons a as ih =>
      cases bs with
      | nil => exact Or.inr (by simp [precede])
      | cons b bs =>
          rw [precede_cons_iff, precede_cons_iff]
          rcases lt_trichotomy a b with hlt | heq | hgt
          · exact Or.inl (Or.inl hlt)
          · rcases ih bs with h | h
            · exact Or.inl (Or.inr ⟨heq, h⟩)
            · exact Or.inr (Or.inr ⟨heq.symm, h⟩)
          · exact Or.inr (Or.inl hgt)

theorem precede_antisymm {as bs : Facts} (hab : as.precede bs = true)
    (hba : bs.precede as = true) : as = bs := by
  induction as generalizing bs with
  | nil =>
      cases bs with
      | nil => rfl
      | cons b bs => simp [precede] at hba
  | cons a as ih =>
      cases bs with
      | nil => simp [precede] at hab
      | cons b bs =>
          rw [precede_cons_iff] at hab hba
          rcases hab with hab | ⟨rfl, hab⟩
          · rcases hba with hba | ⟨rfl, _⟩
            · exact absurd hba (String.lt_asymm hab)
            · exact absurd hab (String.lt_irrefl _)
          · rcases hba with hba | ⟨_, hba⟩
            · exact absurd hba (String.lt_irrefl _)
            · rw [ih hab hba]

end Facts

/-- Sorting loses nothing but the order. -/
theorem sortFacts_eq_iff {xs ys : List Facts} :
    sortFacts xs = sortFacts ys ↔ (xs : Multiset Facts) = ys := by
  rw [Multiset.coe_eq_coe]
  exact mergeSort_eq_mergeSort_iff
    (fun _ _ _ => Facts.precede_trans) Facts.precede_total
    fun _ _ => Facts.precede_antisymm

theorem Column.facts_shape (column : Column) : column.shape.facts = column.facts :=
  rfl

theorem Column.shape_eq_of_facts_eq {column other : Column}
    (h : column.facts = other.facts) : column.shape = other.shape := by
  obtain ⟨id, schema, table, name, type, flags, foreignKey, blocked⟩ := column
  obtain ⟨id', schema', table', name', type', flags', foreignKey', blocked'⟩ :=
    other
  obtain ⟨notNull, primaryKey, uniqueKey, array, fullText⟩ := flags
  obtain ⟨notNull', primaryKey', uniqueKey', array', fullText'⟩ := flags'
  simp only [facts, ColumnFlags.facts, List.map_cons, List.map_nil,
    List.cons_append, List.nil_append, List.cons.injEq,
    toString_bool_injective.eq_iff] at h
  obtain ⟨rfl, rfl, rfl, rfl, rfl, rfl, rfl, rfl, rfl, rfl, hkey⟩ := h
  have hsame : foreignKey = foreignKey' := by
    cases foreignKey with
    | none =>
        cases foreignKey' with
        | none => rfl
        | some key' => simp [ForeignKey.facts] at hkey
    | some key =>
        cases foreignKey' with
        | none => simp [ForeignKey.facts] at hkey
        | some key' =>
            obtain ⟨schema, table, column⟩ := key
            obtain ⟨schema', table', column'⟩ := key'
            simpa [ForeignKey.facts] using hkey
  rw [hsame]
  rfl

theorem IndexEntry.facts_injective : Function.Injective IndexEntry.facts := by
  intro entry other h
  obtain ⟨schema, constraint, table, type, column, composite⟩ := entry
  obtain ⟨schema', constraint', table', type', column', composite'⟩ := other
  simpa [facts, toString_bool_injective.eq_iff] using h

theorem Function.facts_injective : Function.Injective Function.facts := by
  intro function other h
  obtain ⟨name, params⟩ := function
  obtain ⟨name', params'⟩ := other
  simp only [facts, List.cons.injEq] at h
  obtain ⟨rfl, hparams⟩ := h
  congr 1
  induction params generalizing params' with
  | nil =>
      cases params' with
      | nil => rfl
      | cons param' rest' => simp [Param.facts] at hparams
  | cons param rest ih =>
      cases params' with
      | nil => simp [Param.facts] at hparams
      | cons param' rest' =>
          obtain ⟨position, name, type⟩ := param
          obtain ⟨position', name', type'⟩ := param'
          simp only [List.flatMap_cons, Param.facts, List.cons_append,
            List.nil_append, List.cons.injEq,
            toString_int_injective.eq_iff] at hparams
          obtain ⟨rfl, rfl, rfl, hrest⟩ := hparams
          rw [ih rest' hrest]

theorem Table.fingerprint_eq_iff {table other : Table} :
    table.fingerprint = other.fingerprint ↔ table.shape = other.shape := by
  have hcolumns : sortFacts (table.columns.map Column.facts) =
      sortFacts (other.columns.map Column.facts) ↔
        (table.columns : Multiset Column).map Column.shape =
          (other.columns : Multiset Column).map Column.shape := by
    rw [sortFacts_eq_iff, ← Multiset.map_coe, ← Multiset.map_coe]
    constructor
    · intro h
      exact map_eq_map_of_map_eq_map h fun _ _ _ _ => Column.shape_eq_of_facts_eq
    · intro h
      refine map_eq_map_of_map_eq_map h fun column _ column' _ hshape => ?_
      rw [← column.facts_shape, hshape, column'.facts_shape]
  have hindexes : sortFacts (table.indexes.entries.map IndexEntry.facts) =
      sortFacts (other.indexes.entries.map IndexEntry.facts) ↔
        (table.indexes.entries : Multiset IndexEntry) = other.indexes.entries := by
    rw [sortFacts_eq_iff, ← Multiset.map_coe, ← Multiset.map_coe]
    exact (Multiset.map_injective IndexEntry.facts_injective).eq_iff
  simp only [fingerprint, shape, TableFingerprint.mk.injEq, TableShape.mk.injEq,
    hcolumns, hindexes]

/-- Listed in the strict order of their keys, tables are determined by what is
counted of them. -/
theorem map_fingerprint_eq_iff {xs ys : List Table}
    (hxs : xs.Pairwise fun a b => KeyBefore a.key b.key)
    (hys : ys.Pairwise fun a b => KeyBefore a.key b.key) :
    xs.map Table.fingerprint = ys.map Table.fingerprint ↔
      (xs : Multiset Table).map Table.shape =
        (ys : Multiset Table).map Table.shape := by
  constructor
  · intro h
    have hcount : (xs : Multiset Table).map Table.fingerprint =
        (ys : Multiset Table).map Table.fingerprint :=
      congrArg Multiset.ofList h
    exact map_eq_map_of_map_eq_map hcount fun _ _ _ _ => Table.fingerprint_eq_iff.mp
  · intro h
    have hcount : (xs : Multiset Table).map Table.fingerprint =
        (ys : Multiset Table).map Table.fingerprint :=
      map_eq_map_of_map_eq_map h fun _ _ _ _ => Table.fingerprint_eq_iff.mpr
    have hsorted : ∀ {zs : List Table},
      (zs.Pairwise fun a b => KeyBefore a.key b.key) →
        (zs.map Table.fingerprint).Pairwise fun a b =>
          KeyBefore (a.schema, a.name) (b.schema, b.name) :=
      fun hzs => List.pairwise_map.mpr hzs
    exact (Multiset.coe_eq_coe.mp hcount).eq_of_pairwise
      (fun _ _ _ _ hab hba => absurd hba hab.asymm) (hsorted hxs) (hsorted hys)

namespace SchemaModel

/-- Models that were built have the same structure exactly when they have the same
shape. -/
theorem sameStructure_build_iff (kind kind' : DatabaseKind)
    (blocked blocked' : String → Bool) (rows rows' : Rows) :
    (build kind blocked rows).sameStructure (build kind' blocked' rows') = true ↔
      (build kind blocked rows).shape = (build kind' blocked' rows').shape := by
  have htables := map_fingerprint_eq_iff (pairwise_buildTables blocked rows)
    (pairwise_buildTables blocked' rows')
  have hfunctions :
    sortFacts ((groupFunctions blocked rows.functions).map Function.facts) =
      sortFacts ((groupFunctions blocked' rows'.functions).map Function.facts) ↔
        (groupFunctions blocked rows.functions : Multiset Function) =
          groupFunctions blocked' rows'.functions := by
    rw [sortFacts_eq_iff, ← Multiset.map_coe, ← Multiset.map_coe]
    exact (Multiset.map_injective Function.facts_injective).eq_iff
  rw [sameStructure, beq_iff_eq]
  simp only [fingerprint, shape, build, Fingerprint.mk.injEq, SchemaShape.mk.injEq,
    htables, hfunctions]

/-- Models of one shape have one digest, whatever the hasher; a hasher that keeps
two models apart gives them one digest only if they have one shape; and to have one
shape is what is looked for when the structures of models are compared. -/
theorem digest_build_iff (hash : Hasher) (kind kind' : DatabaseKind)
    (blocked blocked' : String → Bool) (rows rows' : Rows) :
    let model := build kind blocked rows
    let other := build kind' blocked' rows'
    (model.shape = other.shape → model.digest hash = other.digest hash) ∧
      (hash.KeepsApart model other →
        (model.digest hash = other.digest hash ↔ model.shape = other.shape)) ∧
      (model.sameStructure other = true ↔ model.shape = other.shape) := by
  refine ⟨?_, ?_, ?_⟩
  · intro hshape
    exact digest_eq_of_shape_eq hash hshape
  · intro happart
    constructor
    · intro hdigest
      exact happart.shape_eq_of_digest_eq hdigest
    · intro hshape
      exact digest_eq_of_shape_eq hash hshape
  · exact sameStructure_build_iff kind kind' blocked blocked' rows rows'

namespace WidenedColumn

def rows (type : String) : Rows where
  info := ⟨14, "public", "app"⟩
  columns :=
    [⟨"public", "users", "id", type, "r", ⟨true, true, false, false, false⟩,
      ⟨"", "", ""⟩⟩]
  functions := []
  indexes := []

def columns (type : String) : List Column :=
  [⟨0, "public", "users", "id", type, ⟨true, true, true, false, false⟩,
    none, false⟩]

def model (type : String) : SchemaModel :=
  ⟨.postgres, 14, "public", "app",
    [⟨"public", "users", .table, columns type, ⟨[]⟩, false⟩], []⟩

theorem build_rows (type : String) : build .postgres (fun _ => false)
    (rows type) = model type := by
  have hgroups : groupColumns (mergeColumns (fun _ => false) (rows type).columns) =
      [⟨"public", "users", "r", columns type⟩] := rfl
  have hfunctions : groupFunctions (fun _ => false) (rows type).functions = [] :=
    rfl
  have hinternal : isInternal "users" = false := by decide +kernel
  have hkind : TableKind.ofCatalog "r" = .table := by decide +kernel
  rw [build, buildTables, hgroups, hfunctions]
  simp [hinternal, TableGroup.toTable, hkind, rows, model, tableIndexes]

theorem keepsApart_model : standardHash.KeepsApart (model "integer")
    (model "bigint") where
  data := by
    have hdiffer : ∀ x ∈ (model "integer").fed standardHash,
        ∀ y ∈ (model "bigint").fed standardHash,
          standardHash x ≠ standardHash y := by
      decide +kernel
    intro x hx y hy hxy
    exact absurd hxy (hdiffer x hx y hy)
  sets := by decide +kernel

/-- With another type of a column the shape is another one, and so is the digest. -/
theorem digest_build_iff_bigint :
    standardHash.KeepsApart (build .postgres (fun _ => false) (rows "integer"))
        (build .postgres (fun _ => false) (rows "bigint")) ∧
      (build .postgres (fun _ => false) (rows "integer")).digest standardHash ≠
        (build .postgres (fun _ => false) (rows "bigint")).digest standardHash ∧
      (build .postgres (fun _ => false) (rows "integer")).shape ≠
        (build .postgres (fun _ => false) (rows "bigint")).shape := by
  have happart : standardHash.KeepsApart
    (build .postgres (fun _ => false) (rows "integer"))
      (build .postgres (fun _ => false) (rows "bigint")) := by
    rw [build_rows, build_rows]
    exact keepsApart_model
  have hdigest : (build .postgres (fun _ => false) (rows "integer")).digest
    standardHash ≠
      (build .postgres (fun _ => false) (rows "bigint")).digest standardHash := by
    rw [build_rows, build_rows]
    decide +kernel
  obtain ⟨_, hiff, _⟩ :=
    digest_build_iff standardHash .postgres .postgres (fun _ => false)
    (fun _ => false) (rows "integer") (rows "bigint")
  exact ⟨happart, hdigest, fun hshape => hdigest ((hiff happart).mpr hshape)⟩

end WidenedColumn

end SchemaModel

end QueryGate.Catalog
