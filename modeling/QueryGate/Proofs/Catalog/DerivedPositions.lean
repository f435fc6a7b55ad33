import QueryGate.Proofs.Catalog.Positions

/-!
The positions that a table derives from its columns.

One pass over the columns puts all of them down: a column that is searched as text
joins the full-text positions, any other primary key is the primary column unless
there is one, and every column leaves its position under its name. Main statements:
what this pass comes to is what a table answers with, and which positions these are.
Where the first primary key of a table is searched as text, too, the table has
another primary column or none.
-/

namespace QueryGate.Catalog

/-- What a pass over columns has put down so far. -/
structure PositionNotes where
  primary : Option Nat
  fullText : List Nat
  names : Std.HashMap String Nat

namespace PositionNotes

/-- Nothing is put down yet. -/
def blank : PositionNotes :=
  ⟨none, [], ∅⟩

/-- Puts down the next column, which stands at a position. -/
def note (notes : PositionNotes) (column : Column) (position : Nat) :
    PositionNotes :=
  { primary :=
      if column.flags.fullText then notes.primary
      else if column.flags.primaryKey && notes.primary.isNone then some position
      else notes.primary
    fullText := if column.flags.fullText then notes.fullText ++ [position]
      else notes.fullText
    names := notes.names.insert column.name position }

/-- Puts down columns from first to last. -/
def ofColumns (columns : List Column) : PositionNotes :=
  columns.zipIdx.foldl
    (fun notes (column, position) => notes.note column position) blank

theorem ofColumns_concat (columns : List Column) (column : Column) :
    ofColumns (columns ++ [column]) =
      (ofColumns columns).note column columns.length := by
  rw [ofColumns, List.zipIdx_append, List.foldl_append, Nat.zero_add]
  rfl

/-- A column is the primary one when it identifies rows and none before it does. -/
theorem primary_note (notes : PositionNotes) (column : Column) (position : Nat) :
    (notes.note column position).primary =
      notes.primary.or (if Table.isIdentifying column then some position
        else none) := by
  unfold note Table.isIdentifying
  cases column.flags.fullText <;> cases column.flags.primaryKey <;>
    cases notes.primary <;> rfl

theorem primary_ofColumns (columns : List Column) :
    (ofColumns columns).primary = columns.findIdx? Table.isIdentifying := by
  induction columns using List.reverseRecOn with
  | nil => rfl
  | append_singleton columns column ih =>
      rw [ofColumns_concat, primary_note, ih, List.findIdx?_append,
        List.findIdx?_singleton]
      cases Table.isIdentifying column <;> simp

theorem fullText_ofColumns (columns : List Column) :
    (ofColumns columns).fullText =
      (columns.zipIdx.filter fun place => place.1.flags.fullText).map Prod.snd := by
  induction columns using List.reverseRecOn with
  | nil => rfl
  | append_singleton columns column ih =>
      rw [ofColumns_concat, note, ih, List.zipIdx_append, List.filter_append,
        List.map_append, Nat.zero_add]
      cases hfullText : column.flags.fullText <;> simp [hfullText]

theorem names_ofColumns (columns : List Column) :
    (ofColumns columns).names = byName.record Column.name columns := by
  induction columns using List.reverseRecOn with
  | nil => rfl
  | append_singleton columns column ih =>
      rw [ofColumns_concat, note, ih, PositionMap.record_concat]
      rfl

end PositionNotes

namespace Table

/-- A table answers with what one pass over its columns comes to. -/
theorem positionNotes_eq (table : Table) :
    PositionNotes.ofColumns table.columns =
      ⟨table.primary?, table.fullText, table.columnPositions⟩ := by
  rw [primary?, fullText, columnPositions, ← PositionNotes.primary_ofColumns,
    ← PositionNotes.fullText_ofColumns, ← PositionNotes.names_ofColumns]

/-- The full-text positions of a table stand in ascending order. -/
theorem pairwise_fullText (table : Table) : table.fullText.Pairwise (· < ·) := by
  have hpositions : (table.columns.zipIdx.map Prod.snd).Pairwise (· < ·) := by
    rw [List.zipIdx_map_snd]
    exact List.pairwise_lt_range'
  exact hpositions.sublist (List.filter_sublist.map Prod.snd)

/-- The primary column is the first primary key exactly where that one is not
searched as text. -/
theorem primary?_eq_findIdx?_iff (table : Table) :
    table.primary? = table.columns.findIdx? (·.flags.primaryKey) ↔
      ∀ column, table.columns.find? (·.flags.primaryKey) = some column →
        column.flags.fullText = false := by
  unfold primary?
  induction table.columns with
  | nil => simp
  | cons column rest ih =>
      rw [List.findIdx?_cons, List.findIdx?_cons, List.find?_cons]
      cases hkey : column.flags.primaryKey with
      | false =>
          have hother : isIdentifying column = false := by
            simp [isIdentifying, hkey]
          simp only [hother, Bool.false_eq_true, if_false]
          rw [(Option.map_injective fun _ _ => Nat.succ.inj).eq_iff, ih]
      | true =>
          cases htext : column.flags.fullText <;> simp [isIdentifying, hkey, htext]

/-- The primary column is the first one that identifies rows and is not searched as
text. -/
theorem primary?_eq_some_iff {table : Table} {i : Nat} :
    table.primary? = some i ↔
      ∃ column, table.columns[i]? = some column ∧ isIdentifying column = true ∧
        ∀ j < i, ∀ other, table.columns[j]? = some other →
          isIdentifying other = false := by
  unfold primary?
  rw [List.findIdx?_eq_some_iff_getElem]
  constructor
  · rintro ⟨hbound, hcolumn, hearlier⟩
    refine ⟨_, List.getElem?_eq_getElem hbound, hcolumn,
      fun j hj other hother => ?_⟩
    obtain ⟨_, rfl⟩ := List.getElem?_eq_some_iff.mp hother
    exact Bool.not_eq_true _ ▸ hearlier j hj
  · rintro ⟨column, hcolumn, hidentifies, hearlier⟩
    obtain ⟨hbound, rfl⟩ := List.getElem?_eq_some_iff.mp hcolumn
    refine ⟨hbound, hidentifies, fun j hj => ?_⟩
    rw [hearlier j hj _ (List.getElem?_eq_getElem (hj.trans hbound))]
    exact Bool.false_ne_true

theorem isSome_primary? {table : Table} :
    table.primary?.isSome ↔
      ∃ column ∈ table.columns, column.flags.primaryKey = true ∧
        column.flags.fullText = false := by
  simp [primary?, isIdentifying]

/-- A name is kept with the one position where a column of that name stands. -/
theorem columnPositions_eq_some_iff {table : Table}
    (hnames : (table.columns.map Column.name).Nodup) {name : String} {i : Nat} :
    table.columnPositions[name]? = some i ↔
      ∃ column, table.columns[i]? = some column ∧ column.name = name := by
  have hkept : ∀ j, table.columnPositions[name]? = some j →
      ∃ hbound : j < table.columns.length, table.columns[j].name = name :=
        fun j hj =>
    byName.getElem_of_get?_record Column.name hj
  constructor
  · intro hposition
    obtain ⟨hbound, hname⟩ := hkept i hposition
    exact ⟨_, List.getElem?_eq_getElem hbound, hname⟩
  · rintro ⟨column, hcolumn, rfl⟩
    obtain ⟨hbound, rfl⟩ := List.getElem?_eq_some_iff.mp hcolumn
    have hknown : (table.columnPositions[table.columns[i].name]?).isSome :=
      (byName.isSome_get?_record Column.name).mpr
        (List.mem_map_of_mem (List.getElem_mem hbound))
    obtain ⟨j, hj⟩ := Option.isSome_iff_exists.mp hknown
    obtain ⟨hbound', hname⟩ := hkept j hj
    -- Two positions with one name are the same position.
    have hi' : i < (table.columns.map Column.name).length := by simpa
    have hj' : j < (table.columns.map Column.name).length := by simpa
    have hsame : (table.columns.map Column.name)[j] =
        (table.columns.map Column.name)[i] := by
      rw [List.getElem_map, List.getElem_map, hname]
    rw [hj, (List.Nodup.getElem_inj_iff hnames).mp hsame]

theorem column?_eq_some_iff {table : Table}
    (hnames : (table.columns.map Column.name).Nodup) {name : String}
    {column : Column} :
    table.column? name = some column ↔
    column ∈ table.columns ∧ column.name = name := by
  constructor
  · intro hfound
    exact ⟨List.mem_of_find?_eq_some hfound, by simpa using List.find?_some hfound⟩
  · rintro ⟨hmem, rfl⟩
    exact find?_key_of_mem hnames hmem

/-- What a table derives from its columns, all of it put down in one pass. The
primary column is the first primary key that is not searched as text, if there is
any. It is the first primary key of all exactly where that one is not searched as
text. -/
structure Derived (table : Table) : Prop where
  pass : PositionNotes.ofColumns table.columns =
    ⟨table.primary?, table.fullText, table.columnPositions⟩
  primary : ∀ i, table.primary? = some i ↔
    ∃ column, table.columns[i]? = some column ∧
      (column.flags.primaryKey = true ∧ column.flags.fullText = false) ∧
      ∀ j < i, ∀ other, table.columns[j]? = some other →
        ¬(other.flags.primaryKey = true ∧ other.flags.fullText = false)
  primary_isSome : table.primary?.isSome ↔
    ∃ column ∈ table.columns, column.flags.primaryKey = true ∧
      column.flags.fullText = false
  primary_first : table.primary? = table.columns.findIdx? (·.flags.primaryKey) ↔
    ∀ column, table.columns.find? (·.flags.primaryKey) = some column →
      column.flags.fullText = false
  fullText_ascending : table.fullText.Pairwise (· < ·)
  fullText : ∀ i, i ∈ table.fullText ↔
    ∃ column, table.columns[i]? = some column ∧ column.flags.fullText = true
  position : ∀ (name : String) (i : Nat), table.columnPositions[name]? = some i ↔
    ∃ column, table.columns[i]? = some column ∧ column.name = name
  column : ∀ name column, table.column? name = some column ↔
    column ∈ table.columns ∧ column.name = name

/-- What a table derives from columns of different names. -/
theorem derived_of_nodup {table : Table}
    (hnames : (table.columns.map Column.name).Nodup) : table.Derived where
  pass := table.positionNotes_eq
  primary i := by
    rw [primary?_eq_some_iff]
    simp [isIdentifying]
  primary_isSome := isSome_primary?
  primary_first := table.primary?_eq_findIdx?_iff
  fullText_ascending := table.pairwise_fullText
  fullText _ := mem_fullText
  position _ _ := columnPositions_eq_some_iff hnames
  column _ _ := column?_eq_some_iff hnames

namespace Pages

/-- The text that identifies a page, and that is searched. -/
def slug : Column :=
  ⟨0, "public", "pages", "slug", "text", ⟨true, true, true, false, true⟩,
    none, false⟩

def number : Column :=
  ⟨1, "public", "pages", "number", "int", ⟨true, true, true, false, false⟩,
    none, false⟩

def body : Column :=
  ⟨2, "public", "pages", "body", "text", ⟨true, false, false, false, true⟩,
    none, false⟩

/-- The table with some columns. -/
def of (columns : List Column) : Table :=
  ⟨"public", "pages", .table, columns, ⟨[]⟩, false⟩

/-- With a number as well, the number is the primary column although the slug comes
first. -/
theorem derived_of_nodup_number :
    ((of [slug, number, body]).columns.map Column.name).Nodup ∧
      (of [slug, number, body]).primary? = some 1 ∧
      (2 ∈ (of [slug, number, body]).fullText ∧
        1 ∉ (of [slug, number, body]).fullText) ∧
      (of [slug, number, body]).column? "body" = some body := by
  have hnames : ((of [slug, number, body]).columns.map Column.name).Nodup := by
    decide
  have hderived := derived_of_nodup hnames
  refine ⟨hnames, (hderived.primary 1).mpr ⟨number, rfl, by decide, ?_⟩,
    ⟨?_, ?_⟩, ?_⟩
  · intro j hj other hother
    obtain rfl : j = 0 := by omega
    obtain rfl : slug = other := Option.some.inj hother
    decide
  · exact (hderived.fullText 2).mpr ⟨body, rfl, rfl⟩
  · rw [hderived.fullText 1]
    rintro ⟨column, hcolumn, hflag⟩
    obtain rfl : number = column := Option.some.inj hcolumn
    cases hflag
  · exact (hderived.column "body" body).mpr ⟨by decide, rfl⟩

/-- With the slug as its only key, a table with a primary key has no primary
column. -/
theorem primary_missing :
    ((of [slug]).columns.map Column.name).Nodup ∧
      (∃ column ∈ (of [slug]).columns, column.flags.primaryKey = true) ∧
      (of [slug]).primary? = none := by
  decide

end Pages

end Table

end QueryGate.Catalog
