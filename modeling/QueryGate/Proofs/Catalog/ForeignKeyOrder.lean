import QueryGate.Proofs.Catalog.RowOrder

/-!
The rows of one column in another order.

A column has every flag that one of its rows sets, whatever their order. Its foreign
key is the first one that they name, so that a column whose rows name several is
another column when another one of them comes first. Where the rows of a column come
among those of other columns is of no account, unless what they say of the kind of
the table is then heard before others say something else.
-/

namespace QueryGate.Catalog

/-- One list is the other one rearranged, where all things but those of one key keep
their order. -/
structure ReorderedAt {α κ : Type} [DecidableEq κ] (key : α → κ) (k : κ)
    (xs ys : List α) : Prop where
  perm : xs.Perm ys
  others : xs.filter (fun x => key x ≠ k) = ys.filter (fun y => key y ≠ k)

namespace ReorderedAt

variable {α κ : Type} [DecidableEq κ] {key : α → κ} {k : κ} {xs ys : List α}

/-- Things that all have another key keep their order. -/
theorem filter_eq (h : ReorderedAt key k xs ys) {keep : α → Bool}
    (hkeep : ∀ x, keep x = true → key x ≠ k) : xs.filter keep = ys.filter keep := by
  have hboth : ∀ zs : List α,
      zs.filter keep = (zs.filter fun x => key x ≠ k).filter keep := by
    intro zs
    rw [List.filter_filter]
    apply List.filter_congr
    intro x _
    by_cases hx : keep x = true
    · simp [hx, hkeep x hx]
    · simp [hx]
  rw [hboth xs, hboth ys, h.others]

theorem filter (h : ReorderedAt key k xs ys) (keep : α → Bool) :
    ReorderedAt key k (xs.filter keep) (ys.filter keep) where
  perm := h.perm.filter keep
  others := by rw [List.filter_comm, h.others, List.filter_comm]

end ReorderedAt

namespace ColumnRow

/-- The rows of a column agree on its type and on the kind of its table. -/
def Agree (key : ColumnKey) (rows : List ColumnRow) : Prop :=
  ∀ row ∈ rows, row.key = key → ∀ other ∈ rows, other.key = key →
    row.type = other.type ∧ row.tableKind = other.tableKind

/-- The rows of a column name at most one foreign key. -/
def OneTarget (key : ColumnKey) (rows : List ColumnRow) : Prop :=
  ∀ row ∈ rows, row.key = key → ∀ other ∈ rows, other.key = key →
    row.foreignKey ≠ none → other.foreignKey ≠ none →
    row.foreignKey = other.foreignKey

end ColumnRow

/-- The rows about a column. -/
def rowsOf (key : ColumnKey) (rows : List ColumnRow) : List ColumnRow :=
  rows.filter fun row => row.key = key

theorem mem_rowsOf {key : ColumnKey} {rows : List ColumnRow} {row : ColumnRow} :
    row ∈ rowsOf key rows ↔ row ∈ rows ∧ row.key = key := by
  simp [rowsOf]

section Rows

variable {blocked : String → Bool} {key : ColumnKey} {rows rows' : List ColumnRow}

/-- Things that are all the same have no order. -/
theorem map_eq_of_agree {f : ColumnRow → String} (hperm : rows.Perm rows')
    (hagree : ∀ row ∈ rows, ∀ other ∈ rows, f row = f other) :
    rows.map f = rows'.map f := by
  have hany : ∀ texts : List String, texts.Pairwise fun _ _ => True :=
    fun _ => List.pairwise_of_forall fun _ _ => trivial
  refine List.Perm.eq_of_pairwise ?_ (hany (rows.map f)) (hany (rows'.map f))
    (hperm.map f)
  intro a b ha hb _ _
  obtain ⟨row, hrow, rfl⟩ := List.mem_map.mp ha
  obtain ⟨other, hother, rfl⟩ := List.mem_map.mp hb
  exact hagree row hrow other (hperm.mem_iff.mpr hother)

/-- Where rows name at most one foreign key, it is the first one in any order. -/
theorem firstForeignKey?_eq_of_oneTarget (hperm : rows.Perm rows')
    (hone : ColumnRow.OneTarget key rows) :
    firstForeignKey? (rowsOf key rows) = firstForeignKey? (rowsOf key rows') := by
  have hrows : (rowsOf key rows).Perm (rowsOf key rows') := hperm.filter _
  cases hfirst : firstForeignKey? (rowsOf key rows) with
  | none =>
      rw [firstForeignKey?, List.findSome?_eq_none_iff] at hfirst
      symm
      rw [firstForeignKey?, List.findSome?_eq_none_iff]
      intro row hrow
      exact hfirst row (hrows.mem_iff.mpr hrow)
  | some target =>
      obtain ⟨row, hrow, htarget⟩ := List.exists_of_findSome?_eq_some hfirst
      cases hfirst' : firstForeignKey? (rowsOf key rows') with
      | none =>
          rw [firstForeignKey?, List.findSome?_eq_none_iff] at hfirst'
          rw [hfirst' row (hrows.mem_iff.mp hrow)] at htarget
          cases htarget
      | some target' =>
          obtain ⟨row', hrow', htarget'⟩ := List.exists_of_findSome?_eq_some hfirst'
          obtain ⟨hrow, hkey⟩ := mem_rowsOf.mp hrow
          obtain ⟨hrow', hkey'⟩ := mem_rowsOf.mp (hrows.mem_iff.mpr hrow')
          rw [← htarget, ← htarget']
          exact hone row hrow hkey row' hrow' hkey' (by simp [htarget])
            (by simp [htarget'])

/-- Rows that agree come to the same column when they name the same foreign key
first. -/
theorem ofRows_rowsOf_eq (blocked : String → Bool) (hperm : rows.Perm rows')
    (hagree : ColumnRow.Agree key rows)
    (hfirst : firstForeignKey? (rowsOf key rows) =
      firstForeignKey? (rowsOf key rows')) :
    MergedColumn.ofRows blocked key (rowsOf key rows) =
      MergedColumn.ofRows blocked key (rowsOf key rows') := by
  have hrows : (rowsOf key rows).Perm (rowsOf key rows') := hperm.filter _
  have hagree : ∀ row ∈ rowsOf key rows, ∀ other ∈ rowsOf key rows,
      row.type = other.type ∧ row.tableKind = other.tableKind := by
    intro row hrow other hother
    obtain ⟨hrow, hkey⟩ := mem_rowsOf.mp hrow
    obtain ⟨hother, hkey'⟩ := mem_rowsOf.mp hother
    exact hagree row hrow hkey other hother hkey'
  have htypes := map_eq_of_agree hrows fun row hrow other hother =>
    (hagree row hrow other hother).1
  have hkinds := map_eq_of_agree hrows fun row hrow other hother =>
    (hagree row hrow other hother).2
  rw [MergedColumn.ofRows_eq, MergedColumn.ofRows_eq, htypes, hkinds, hfirst,
    setFlagsOf_perm hrows]

/-- Then all columns are the same. -/
theorem find?_mergeColumns_eq (h : ReorderedAt ColumnRow.key key rows rows')
    (hagree : ColumnRow.Agree key rows)
    (hfirst : firstForeignKey? (rowsOf key rows) =
      firstForeignKey? (rowsOf key rows'))
    (other : ColumnKey) :
    ((mergeColumns blocked rows).map MergedColumn.shape).find?
    (fun m => m.column.key = other) =
      ((mergeColumns blocked rows').map MergedColumn.shape).find?
        fun m => m.column.key = other := by
  rw [find?_mergeColumns, find?_mergeColumns]
  by_cases hother : other = key
  · subst hother
    have hrows : (rowsOf other rows).Perm (rowsOf other rows') := h.perm.filter _
    have hempty : rowsOf other rows = [] ↔ rowsOf other rows' = [] := by
      rw [← List.length_eq_zero_iff, ← List.length_eq_zero_iff, hrows.length_eq]
    have hcolumn := ofRows_rowsOf_eq blocked h.perm hagree hfirst
    simp only [rowsOf] at hempty hcolumn
    simp only [hempty, hcolumn]
  · have hsame : rows.filter (fun row => row.key = other) =
        rows'.filter fun row => row.key = other := by
      apply h.filter_eq
      intro row hrow hkey
      exact hother ((of_decide_eq_true hrow).symm.trans hkey)
    rw [hsame]

/-- Rows that only exchange their places leave every column in its place. -/
theorem map_shape_mergeColumns_eq (blocked : String → Bool)
    (h : ReorderedAt ColumnRow.key key rows rows')
    (hagree : ColumnRow.Agree key rows)
    (hfirst : firstForeignKey? (rowsOf key rows) =
      firstForeignKey? (rowsOf key rows'))
    (hplaces : rows.map ColumnRow.key = rows'.map ColumnRow.key) :
    (mergeColumns blocked rows).map MergedColumn.shape =
      (mergeColumns blocked rows').map MergedColumn.shape := by
  have hkeys := (columnCollection blocked).keys_collect_congr (fun _ => rfl) hplaces
  rw [← map_shape_mergeColumns, ← map_shape_mergeColumns] at hkeys
  exact eq_of_find?_key (nodup_keys_shape_mergeColumns blocked rows) hkeys
    (find?_mergeColumns_eq h hagree hfirst)

/-- Rows that come among others leave everything but the order of the columns. -/
theorem perm_shape_mergeColumns_of_reorderedAt
    (h : ReorderedAt ColumnRow.key key rows rows')
    (hagree : ColumnRow.Agree key rows)
    (hfirst : firstForeignKey? (rowsOf key rows) =
      firstForeignKey? (rowsOf key rows')) :
    ((mergeColumns blocked rows).map MergedColumn.shape).Perm
      ((mergeColumns blocked rows').map MergedColumn.shape) := by
  exact perm_of_find?_key (nodup_keys_shape_mergeColumns blocked rows)
    (nodup_keys_shape_mergeColumns blocked rows')
    (find?_mergeColumns_eq h hagree hfirst)

/-- Neither does the kind of a table depend on the order, where the rows exchange
their places or tell of one kind. -/
theorem ofCatalog_reportedKind_eq_of_reorderedAt
    (h : ReorderedAt ColumnRow.key key rows rows')
    (hagree : ColumnRow.Agree key rows)
    (hfirst : firstForeignKey? (rowsOf key rows) =
      firstForeignKey? (rowsOf key rows'))
    (hplaces : rows.map ColumnRow.key = rows'.map ColumnRow.key ∨
      ColumnRow.OneKind rows)
    (table : String × String) :
    TableKind.ofCatalog (reportedKind (mergeColumns blocked rows) table) =
      TableKind.ofCatalog (reportedKind (mergeColumns blocked rows') table) := by
  rcases hplaces with hplaces | hkind
  · have hsame := congrArg reportedKind
      (map_shape_mergeColumns_eq blocked h hagree hfirst hplaces)
    rw [reportedKind_map_shape, reportedKind_map_shape] at hsame
    rw [hsame]
  · exact ofCatalog_reportedKind_eq h.perm hkind

end Rows

section Models

variable {blocked : String → Bool} {key : ColumnKey} {rows : Rows}
  {columns' : List ColumnRow}

theorem rowsOf_shownRows (hshown : isInternal key.table = false)
    (rows : List ColumnRow) : rowsOf key (shownRows rows) = rowsOf key rows := by
  rw [rowsOf, rowsOf, shownRows, List.filter_filter]
  apply List.filter_congr
  intro row _
  by_cases hkey : row.key = key
  · have htable : row.table = key.table := congrArg ColumnKey.table hkey
    simp [hkey, htable, hshown]
  · simp [hkey]

namespace SchemaModel

/-- The rows of a column of an internal table may come in any order. -/
theorem shape_build_eq_of_internal (kind : DatabaseKind)
    (h : ReorderedAt ColumnRow.key key rows.columns columns')
    (hinternal : isInternal key.table = true) :
    (build kind blocked rows).shape =
      (build kind blocked { rows with columns := columns' }).shape := by
  have hshown : shownRows rows.columns = shownRows columns' := by
    apply h.filter_eq
    intro row hrow hkey
    rw [← hkey] at hinternal
    simp only [ColumnRow.key] at hinternal
    simp [hinternal] at hrow
  apply shape_build_eq kind
  · rfl
  · apply shape_buildTables_eq
    · rw [hshown]
    · intro table
      rw [hshown]
    · exact List.Perm.refl _
  · exact List.Perm.refl _

/-- The rows of a column may come in any order as long as the first foreign key is
the same. -/
theorem shape_build_eq_of_firstForeignKey? (kind : DatabaseKind)
    (h : ReorderedAt ColumnRow.key key rows.columns columns')
    (hagree : ColumnRow.Agree key rows.columns)
    (hplaces : rows.columns.map ColumnRow.key = columns'.map ColumnRow.key ∨
      ColumnRow.OneKind rows.columns)
    (hshown : isInternal key.table = false)
    (hfirst : firstForeignKey? (rowsOf key rows.columns) =
      firstForeignKey? (rowsOf key columns')) :
    (build kind blocked rows).shape =
      (build kind blocked { rows with columns := columns' }).shape := by
  have hrows : ReorderedAt ColumnRow.key key (shownRows rows.columns)
      (shownRows columns') :=
    h.filter _
  have hagree : ColumnRow.Agree key (shownRows rows.columns) :=
    fun row hrow hkey other hother =>
      hagree row (List.mem_filter.mp hrow).1 hkey other
        (List.mem_filter.mp hother).1
  have hplaces : (shownRows rows.columns).map ColumnRow.key =
      (shownRows columns').map ColumnRow.key ∨
      ColumnRow.OneKind (shownRows rows.columns) := by
    have hmap : ∀ rows : List ColumnRow, (shownRows rows).map ColumnRow.key =
        (rows.map ColumnRow.key).filter fun key => !isInternal key.table := by
      intro rows
      rw [List.filter_map]
      rfl
    rcases hplaces with hplaces | hkind
    · exact Or.inl (by rw [hmap, hmap, hplaces])
    · exact Or.inr (hkind.filter _)
  rw [← rowsOf_shownRows hshown, ← rowsOf_shownRows hshown columns'] at hfirst
  apply shape_build_eq kind
  · rfl
  · apply shape_buildTables_eq
    · exact perm_shape_mergeColumns_of_reorderedAt hrows hagree hfirst
    · exact ofCatalog_reportedKind_eq_of_reorderedAt hrows hagree hfirst hplaces
    · exact List.Perm.refl _
  · exact List.Perm.refl _

/-- The first foreign key that the rows of a column name can be looked up. -/
theorem firstForeignKey?_eq_of_shape_eq {kind : DatabaseKind} {rows' : Rows}
    (hperm : rows.columns.Perm rows'.columns)
    (hshown : isInternal key.table = false)
    (hshape : (build kind blocked rows).shape = (build kind blocked rows').shape) :
    firstForeignKey? (rowsOf key rows.columns) =
      firstForeignKey? (rowsOf key rows'.columns) := by
  have hrows : (rowsOf key rows.columns).Perm (rowsOf key rows'.columns) :=
    hperm.filter _
  cases hfirst : rowsOf key rows.columns with
  | nil =>
      rw [hfirst] at hrows
      rw [hrows.nil_eq]
  | cons row rest =>
      obtain ⟨hrow, hkey⟩ :=
        mem_rowsOf.mp (by rw [hfirst]; exact List.mem_cons_self)
      have hinternal : isInternal row.table = false := by
        rw [← hkey] at hshown
        exact hshown
      have hlike :=
        (answersLike_of_shape_build_eq hshape).column row.schema row.table row.name
      rw [map_shape_column_build kind blocked hrow hinternal,
        map_shape_column_build kind blocked (hperm.mem_iff.mp hrow)
          hinternal] at hlike
      have hcolumn := congrArg Column.foreignKey (Except.ok.inj hlike)
      rw [MergedColumn.ofRows_eq, MergedColumn.ofRows_eq, hkey] at hcolumn
      rw [← hfirst]
      exact hcolumn

end SchemaModel

end Models

namespace SchemaModel

/-- A discovery that reports the rows of a column in another order, which exchange
their places or come among rows that tell the same kind of the table, finds the same
structure exactly when the first foreign key of the column is the same. So it is
when they name at most one. -/
theorem build_reorderedAt (kind : DatabaseKind) (blocked : String → Bool)
    {key : ColumnKey} {rows : Rows} {columns' : List ColumnRow}
    (h : ReorderedAt ColumnRow.key key rows.columns columns')
    (hagree : ColumnRow.Agree key rows.columns)
    (hplaces : rows.columns.map ColumnRow.key = columns'.map ColumnRow.key ∨
      ColumnRow.OneKind rows.columns) :
    let model := build kind blocked rows
    let other := build kind blocked { rows with columns := columns' }
    let Same := isInternal key.table = true ∨
      firstForeignKey? (rowsOf key rows.columns) =
        firstForeignKey? (rowsOf key columns')
    (ColumnRow.OneTarget key rows.columns → Same) ∧
      (Same → ∀ hash : Hasher, model.digest hash = other.digest hash) ∧
      (∀ hash : Hasher, hash.KeepsApart model other →
        model.digest hash = other.digest hash → Same) ∧
      (model.sameStructure other = true ↔ Same) := by
  intro model other Same
  -- An internal table is no part of a model, and of any other one the column can be
  -- looked up.
  have hshape : model.shape = other.shape ↔ Same := by
    cases hinternal : isInternal key.table with
    | true =>
        constructor
        · exact fun _ => Or.inl hinternal
        · exact fun _ => shape_build_eq_of_internal kind h hinternal
    | false =>
        constructor
        · intro hshape
          exact Or.inr (firstForeignKey?_eq_of_shape_eq h.perm hinternal hshape)
        · intro hsame
          rcases hsame with hsame | hfirst
          · rw [hinternal] at hsame
            cases hsame
          · exact shape_build_eq_of_firstForeignKey? kind h hagree hplaces
              hinternal hfirst
  refine ⟨?_, ?_, ?_, ?_⟩
  · intro hone
    exact Or.inr (firstForeignKey?_eq_of_oneTarget h.perm hone)
  · intro hsame hash
    exact digest_eq_of_shape_eq hash (hshape.mpr hsame)
  · intro hash happart hdigest
    exact hshape.mp (happart.shape_eq_of_digest_eq hdigest)
  · exact (sameStructure_build_iff kind kind blocked blocked rows
      { rows with columns := columns' }).trans hshape

namespace Posts

/-- A row about a column of posts, which references the identifiers of another table
if one is named. -/
def column (name kind target : String) : ColumnRow :=
  ⟨"public", "posts", name, "int", kind, .none, ⟨"public", target, "id"⟩⟩

def author : ColumnKey :=
  ⟨"public", "posts", "author"⟩

def rows (columns : List ColumnRow) : Rows :=
  ⟨⟨14, "public", "app"⟩, columns, [], []⟩

/-- One row tells what is referenced, and another one tells nothing. -/
def plainFirst : List ColumnRow :=
  [column "author" "r" "", column "id" "r" "", column "author" "r" "users"]

def plainLast : List ColumnRow :=
  [column "author" "r" "users", column "id" "r" "", column "author" "r" ""]

/-- Rows that name one foreign key exchange their places, and the structure stays
the same. -/
theorem build_reorderedAt_author :
    ReorderedAt ColumnRow.key author plainFirst plainLast ∧
      ColumnRow.Agree author plainFirst ∧
      plainFirst.map ColumnRow.key = plainLast.map ColumnRow.key ∧
      (build .postgres (fun _ => false) (rows plainFirst)).digest standardHash =
        (build .postgres (fun _ => false) (rows plainLast)).digest
          standardHash := by
  have hmoved : ReorderedAt ColumnRow.key author (rows plainFirst).columns
      plainLast :=
    ⟨by decide +kernel, by decide +kernel⟩
  have hagree : ColumnRow.Agree author plainFirst := by
    unfold ColumnRow.Agree
    decide +kernel
  have hone : ColumnRow.OneTarget author plainFirst := by
    unfold ColumnRow.OneTarget
    decide +kernel
  obtain ⟨hsame, hdigest, _⟩ := build_reorderedAt .postgres (fun _ => false)
    hmoved hagree (Or.inl rfl)
  exact ⟨hmoved, hagree, rfl, hdigest (hsame hone) standardHash⟩

theorem build_rows {columns : List ColumnRow} {group : TableGroup}
    (hgroup : groupColumns (mergeColumns (fun _ => false) columns) = [group])
    (hshown : isInternal group.name = false) :
    build .postgres (fun _ => false) (rows columns) =
      ⟨.postgres, 14, "public", "app",
        [group.toTable (fun _ => false) []], []⟩ := by
  have hfunctions :
      groupFunctions (fun _ => false) (rows columns).functions = [] := rfl
  rw [build, buildTables_of_one_group hgroup hshown, hfunctions]
  rfl

/-- Rows that name two foreign keys, and rows that tell another kind of the table
than the rows that they come before, make another structure in another order. -/
theorem digest_reordered_ne :
    (ReorderedAt ColumnRow.key author [column "author" "r" "users",
      column "author" "r" "accounts"]
        [column "author" "r" "accounts", column "author" "r" "users"] ∧
      ColumnRow.Agree author [column "author" "r" "users",
        column "author" "r" "accounts"] ∧
      (build .postgres (fun _ => false)
          (rows [column "author" "r" "users",
            column "author" "r" "accounts"])).digest standardHash ≠
        (build .postgres (fun _ => false)
          (rows [column "author" "r" "accounts",
            column "author" "r" "users"])).digest standardHash) ∧
    (ReorderedAt ColumnRow.key author [column "id" "r" "", column "author" "v" ""]
        [column "author" "v" "", column "id" "r" ""] ∧
      ColumnRow.Agree author [column "id" "r" "", column "author" "v" ""] ∧
      (build .postgres (fun _ => false)
          (rows [column "id" "r" "", column "author" "v" ""])).digest standardHash ≠
        (build .postgres (fun _ => false)
          (rows [column "author" "v" "", column "id" "r" ""])).digest
            standardHash) := by
  refine ⟨⟨⟨List.Perm.swap _ _ _, by decide +kernel⟩, ?_, ?_⟩,
    ⟨⟨List.Perm.swap _ _ _, by decide +kernel⟩, ?_, ?_⟩⟩
  · unfold ColumnRow.Agree
    decide +kernel
  · rw [build_rows rfl (by decide +kernel), build_rows rfl (by decide +kernel)]
    decide +kernel
  · unfold ColumnRow.Agree
    decide +kernel
  · rw [build_rows rfl (by decide +kernel), build_rows rfl (by decide +kernel)]
    decide +kernel

end Posts

end SchemaModel

end QueryGate.Catalog
