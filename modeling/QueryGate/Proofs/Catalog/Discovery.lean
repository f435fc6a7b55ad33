import QueryGate.Catalog.Client
import QueryGate.Proofs.Sequence

/-!
What the clients make of cells.

A discovery has no parts: it is the model of all rows, each of which tells what its
cells say, or it fails. Which cells have to be filled is a matter of the client. One
of them takes every cell at its word; the other one reads flags as numbers, and has
something to say for an empty flag and for empty cells about the server. Where both
are told the same rows, their models differ in the kind only.
-/

namespace QueryGate.Catalog

/-- A cell says what it holds, or, where it is empty, what stands for that. -/
def SaysOr {α : Type} (cell : Option α) (absent value : α) : Prop :=
  cell = some value ∨ cell = none ∧ value = absent

/-- How flags and the cells about the server are to be understood, and whether all
of them have to be filled. -/
structure Reading (Flag : Type) where
  flag : Option Flag → Bool → Prop
  info : InfoCells → ServerInfo → Prop
  demanding : Bool

namespace Reading

/-- Every cell is taken at its word. -/
def literal : Reading Bool where
  flag cell set := cell = some set
  info cells info :=
    cells.version = some info.version ∧ cells.schema = some info.schema ∧
    cells.name = some info.name
  demanding := true

/-- A flag is set by any number but zero. -/
def numeric : Reading Int where
  flag cell set := set = true ↔ ∃ n, cell = some n ∧ n ≠ 0
  info cells info :=
    SaysOr cells.version 0 info.version ∧ SaysOr cells.schema "" info.schema ∧
    SaysOr cells.name "" info.name
  demanding := false

end Reading

/-- A row tells what the cells about a column say. -/
structure ColumnRow.Tells {Flag : Type} (reading : Reading Flag)
    (cells : ColumnCells Flag) (row : ColumnRow) : Prop where
  schema : cells.schema = some row.schema
  table : cells.table = some row.table
  name : cells.name = some row.name
  type : cells.type = some row.type
  tableKind : cells.tableKind = some row.tableKind
  notNull : reading.flag cells.notNull row.flags.notNull
  primaryKey : reading.flag cells.primaryKey row.flags.primaryKey
  uniqueKey : reading.flag cells.uniqueKey row.flags.uniqueKey
  array : reading.flag cells.array row.flags.array
  fullText : reading.flag cells.fullText row.flags.fullText
  targetSchema : cells.targetSchema = some row.target.schema
  targetTable : cells.targetTable = some row.target.table
  targetColumn : cells.targetColumn = some row.target.column

/-- A row tells what the cells about a function say. -/
structure FunctionRow.Tells (cells : FunctionCells) (row : FunctionRow) : Prop where
  id : cells.id = some row.id
  name : cells.name = some row.name
  position : cells.position = row.position
  paramName : cells.paramName = row.paramName
  paramType : cells.paramType = some row.paramType

/-- A row tells what the cells about an index say. -/
structure IndexRow.Tells (cells : IndexCells) (row : IndexRow) : Prop where
  schema : cells.schema = some row.schema
  constraint : cells.constraint = some row.constraint
  table : cells.table = some row.table
  type : cells.type = some row.type
  column : cells.column = some row.column

/-- Rows tell what the queries answered, cell by cell. Of the rows about the server
it is the first one that counts. -/
structure Rows.Tells {Flag : Type} (reading : Reading Flag) (content : Content Flag)
    (rows : Rows) : Prop where
  info : ∃ first rest, content.info = .ok (first :: rest) ∧
    reading.info first rows.info
  columns : ∃ cells, content.columns = .ok cells ∧
    List.Forall₂ (ColumnRow.Tells reading) cells rows.columns
  functions : ∃ cells, content.functions = .ok cells ∧
    List.Forall₂ FunctionRow.Tells cells rows.functions
  indexes : ∃ cells, content.indexes = .ok cells ∧
    List.Forall₂ IndexRow.Tells cells rows.indexes

def InfoCells.Filled (cells : InfoCells) : Prop :=
  cells.version ≠ none ∧ cells.schema ≠ none ∧ cells.name ≠ none

/-- The texts of a row about a column. -/
def ColumnCells.texts {Flag : Type} (cells : ColumnCells Flag) :
    List (Option String) :=
  [cells.schema, cells.table, cells.name, cells.type, cells.tableKind,
    cells.targetSchema, cells.targetTable, cells.targetColumn]

def ColumnCells.flags {Flag : Type} (cells : ColumnCells Flag) :
    List (Option Flag) :=
  [cells.notNull, cells.primaryKey, cells.uniqueKey, cells.array, cells.fullText]

/-- The texts of a row about a function, but for the name of the parameter. -/
def FunctionCells.texts (cells : FunctionCells) : List (Option String) :=
  [cells.id, cells.name, cells.paramType]

def IndexCells.texts (cells : IndexCells) : List (Option String) :=
  [cells.schema, cells.constraint, cells.table, cells.type, cells.column]

namespace Content

variable {Flag : Type}

/-- No query fails, there is a row about the server, and no cell is empty that has
to be filled. -/
structure Readable (content : Content Flag) (demanding : Bool) : Prop where
  info : ∃ first rest, content.info = .ok (first :: rest) ∧
    (demanding = true → first.Filled)
  columns : ∃ rows, content.columns = .ok rows ∧ ∀ cells ∈ rows,
    (∀ text ∈ cells.texts, text ≠ none) ∧
    (demanding = true → ∀ flag ∈ cells.flags, flag ≠ none)
  functions : ∃ rows, content.functions = .ok rows ∧
    ∀ cells ∈ rows, ∀ text ∈ cells.texts, text ≠ none
  indexes : ∃ rows, content.indexes = .ok rows ∧
    ∀ cells ∈ rows, ∀ text ∈ cells.texts, text ≠ none

/-- The positions of parameters are numbers of 32 bits. -/
def PositionsFit (content : Content Flag) : Prop :=
  ∀ rows, content.functions = .ok rows → ∀ cells ∈ rows, ∀ n,
    cells.position = some n →
    -2147483648 ≤ n ∧ n < 2147483648

end Content

/-- A client understands cells in some way. -/
structure Client.Follows {Flag : Type} (client : Client Flag)
    (reading : Reading Flag) : Prop where
  flag : ∀ cell set, client.flag cell = some set ↔ reading.flag cell set
  flag_filled : ∀ cell, client.flag cell ≠ none ↔
    (reading.demanding = true → cell ≠ none)
  info : ∀ cells info, client.info cells = some info ↔ reading.info cells info
  info_filled : ∀ cells, client.info cells ≠ none ↔
    (reading.demanding = true → cells.Filled)

namespace Client

theorem follows_postgres : postgres.Follows .literal where
  flag _ _ := Iff.rfl
  flag_filled cell := by simp [postgres, Reading.literal]
  info cells info := by
    obtain ⟨version, schema, name⟩ := cells
    obtain ⟨infoVersion, infoSchema, infoName⟩ := info
    cases version <;> cases schema <;> cases name <;>
      simp [postgres, Reading.literal]
  info_filled cells := by
    obtain ⟨version, schema, name⟩ := cells
    cases version <;> cases schema <;> cases name <;>
      simp [postgres, Reading.literal, InfoCells.Filled]

theorem saysOr_iff {α : Type} {cell : Option α} {absent value : α} :
    SaysOr cell absent value ↔ cell.getD absent = value := by
  cases cell <;> simp [SaysOr, eq_comm]

theorem follows_mysql : mysql.Follows .numeric where
  flag cell set := by
    cases cell <;> cases set <;> simp [mysql, Reading.numeric]
  flag_filled cell := by simp [mysql, Reading.numeric]
  info cells info := by
    obtain ⟨version, schema, name⟩ := info
    simp [mysql, Reading.numeric, saysOr_iff]
  info_filled cells := by simp [mysql, Reading.numeric]

theorem position_mysql {n : Int} (hlow : -2147483648 ≤ n) (hhigh : n < 2147483648) :
    mysql.position n = n := by
  show n.bmod (Nat.pow 2 32) = n
  apply Int.bmod_eq_of_le <;> simp <;> omega

section Rows

variable {Flag : Type} {client : Client Flag} {reading : Reading Flag}

theorem column?_eq_some_iff (h : client.Follows reading) {cells : ColumnCells Flag}
    {row : ColumnRow} : client.column? cells = some row ↔
    row.Tells reading cells := by
  constructor
  · intro hread
    -- One cell after the other: a single rewriting of all of them is slow.
    obtain ⟨schema, hschema, hread⟩ := Option.bind_eq_some_iff.mp hread
    obtain ⟨table, htable, hread⟩ := Option.bind_eq_some_iff.mp hread
    obtain ⟨name, hname, hread⟩ := Option.bind_eq_some_iff.mp hread
    obtain ⟨type, htype, hread⟩ := Option.bind_eq_some_iff.mp hread
    obtain ⟨kind, hkind, hread⟩ := Option.bind_eq_some_iff.mp hread
    obtain ⟨notNull, hnotNull, hread⟩ := Option.bind_eq_some_iff.mp hread
    obtain ⟨primaryKey, hprimary, hread⟩ := Option.bind_eq_some_iff.mp hread
    obtain ⟨uniqueKey, hunique, hread⟩ := Option.bind_eq_some_iff.mp hread
    obtain ⟨array, harray, hread⟩ := Option.bind_eq_some_iff.mp hread
    obtain ⟨fullText, hfullText, hread⟩ := Option.bind_eq_some_iff.mp hread
    obtain ⟨targetSchema, htargetSchema, hread⟩ := Option.bind_eq_some_iff.mp hread
    obtain ⟨targetTable, htargetTable, hread⟩ := Option.bind_eq_some_iff.mp hread
    obtain ⟨targetColumn, htargetColumn, hread⟩ := Option.bind_eq_some_iff.mp hread
    cases hread
    exact ⟨hschema, htable, hname, htype, hkind, (h.flag _ _).mp hnotNull,
      (h.flag _ _).mp hprimary, (h.flag _ _).mp hunique, (h.flag _ _).mp harray,
      (h.flag _ _).mp hfullText, htargetSchema, htargetTable, htargetColumn⟩
  · intro htells
    simp [column?, htells.schema, htells.table, htells.name, htells.type,
      htells.tableKind, (h.flag _ _).mpr htells.notNull,
      (h.flag _ _).mpr htells.primaryKey, (h.flag _ _).mpr htells.uniqueKey,
      (h.flag _ _).mpr htells.array, (h.flag _ _).mpr htells.fullText,
      htells.targetSchema, htells.targetTable, htells.targetColumn]

theorem flag_says_iff (h : client.Follows reading) {cell : Option Flag} :
    (∃ set, reading.flag cell set) ↔ (reading.demanding = true → cell ≠ none) := by
  rw [← h.flag_filled, Option.ne_none_iff_exists']
  simp only [h.flag]

theorem exists_columnRow_iff (h : client.Follows reading)
    {cells : ColumnCells Flag} :
    (∃ row, ColumnRow.Tells reading cells row) ↔
    (∀ text ∈ cells.texts, text ≠ none) ∧
      (reading.demanding = true → ∀ flag ∈ cells.flags, flag ≠ none) := by
  have hflags : (reading.demanding = true → ∀ flag ∈ cells.flags, flag ≠ none) ↔
      ∀ flag ∈ cells.flags, ∃ set, reading.flag flag set := by
    simp only [flag_says_iff h]
    exact ⟨fun hall flag hflag hdemands => hall hdemands flag hflag,
      fun hall hdemands flag hflag => hall flag hflag hdemands⟩
  rw [hflags]
  constructor
  · rintro ⟨row, htells⟩
    constructor
    · simp [ColumnCells.texts, htells.schema, htells.table, htells.name,
        htells.type, htells.tableKind, htells.targetSchema, htells.targetTable,
        htells.targetColumn]
    · simp only [ColumnCells.flags, List.forall_mem_cons]
      exact ⟨⟨_, htells.notNull⟩, ⟨_, htells.primaryKey⟩, ⟨_, htells.uniqueKey⟩,
        ⟨_, htells.array⟩, ⟨_, htells.fullText⟩, List.forall_mem_nil _⟩
  · rintro ⟨htexts, hflags⟩
    simp only [ColumnCells.texts, List.forall_mem_cons,
      Option.ne_none_iff_exists'] at htexts
    simp only [ColumnCells.flags, List.forall_mem_cons] at hflags
    obtain ⟨⟨schema, hschema⟩, ⟨table, htable⟩, ⟨name, hname⟩, ⟨type, htype⟩,
      ⟨kind, hkind⟩, ⟨targetSchema, htargetSchema⟩, ⟨targetTable, htargetTable⟩,
      ⟨targetColumn, htargetColumn⟩, _⟩ := htexts
    obtain ⟨⟨notNull, hnotNull⟩, ⟨primaryKey, hprimary⟩, ⟨uniqueKey, hunique⟩,
      ⟨array, harray⟩, ⟨fullText, hfullText⟩, _⟩ := hflags
    exact ⟨⟨schema, table, name, type, kind,
      ⟨notNull, primaryKey, uniqueKey, array, fullText⟩,
      ⟨targetSchema, targetTable, targetColumn⟩⟩, hschema, htable, hname, htype,
        hkind, hnotNull, hprimary, hunique, harray, hfullText, htargetSchema,
        htargetTable, htargetColumn⟩

theorem function?_eq_some_iff {cells : FunctionCells} {row : FunctionRow}
    (hposition : ∀ n, cells.position = some n → client.position n = n) :
    client.function? cells = some row ↔ row.Tells cells := by
  have hsame : cells.position.map client.position = cells.position := by
    cases hcell : cells.position with
    | none => rfl
    | some n => rw [Option.map_some, hposition n hcell]
  constructor
  · intro hread
    simp only [function?, bind, Option.bind_eq_some_iff, pure,
      Option.some.injEq] at hread
    obtain ⟨id, hid, name, hname, type, htype, rfl⟩ := hread
    exact ⟨hid, hname, hsame.symm, rfl, htype⟩
  · intro htells
    rw [htells.position] at hsame
    simp [function?, htells.id, htells.name, htells.position, hsame,
      htells.paramName, htells.paramType]

end Rows

theorem exists_functionRow_iff {cells : FunctionCells} :
    (∃ row, FunctionRow.Tells cells row) ↔ ∀ text ∈ cells.texts, text ≠ none := by
  constructor
  · rintro ⟨row, htells⟩
    simp [FunctionCells.texts, htells.id, htells.name, htells.paramType]
  · intro htexts
    simp only [FunctionCells.texts, List.forall_mem_cons,
      Option.ne_none_iff_exists'] at htexts
    obtain ⟨⟨id, hid⟩, ⟨name, hname⟩, ⟨type, htype⟩, _⟩ := htexts
    exact ⟨⟨id, name, cells.position, cells.paramName, type⟩, hid, hname, rfl,
      rfl, htype⟩

theorem index?_eq_some_iff {cells : IndexCells} {row : IndexRow} :
    index? cells = some row ↔ row.Tells cells := by
  constructor
  · intro hread
    simp only [index?, bind, Option.bind_eq_some_iff, pure,
      Option.some.injEq] at hread
    obtain ⟨schema, hschema, constraint, hconstraint, table, htable, type, htype,
      column, hcolumn, rfl⟩ := hread
    exact ⟨hschema, hconstraint, htable, htype, hcolumn⟩
  · intro htells
    simp [index?, htells.schema, htells.constraint, htells.table, htells.type,
      htells.column]

theorem exists_indexRow_iff {cells : IndexCells} :
    (∃ row, IndexRow.Tells cells row) ↔ ∀ text ∈ cells.texts, text ≠ none := by
  constructor
  · rintro ⟨row, htells⟩
    simp [IndexCells.texts, htells.schema, htells.constraint, htells.table,
      htells.type, htells.column]
  · intro htexts
    simp only [IndexCells.texts, List.forall_mem_cons,
      Option.ne_none_iff_exists'] at htexts
    obtain ⟨⟨schema, hschema⟩, ⟨constraint, hconstraint⟩, ⟨table, htable⟩,
      ⟨type, htype⟩, ⟨column, hcolumn⟩, _⟩ := htexts
    exact ⟨⟨schema, constraint, table, type, column⟩, hschema, hconstraint,
      htable, htype, hcolumn⟩

section Lists

variable {Cells Row : Type}

theorem mapM_eq_some_iff {read : Cells → Option Row} {tells : Cells → Row → Prop}
    {cells : List Cells}
    (hread : ∀ c ∈ cells, ∀ row, read c = some row ↔ tells c row)
    {rows : List Row} : cells.mapM read = some rows ↔
    List.Forall₂ tells cells rows := by
  induction cells generalizing rows with
  | nil => simp [eq_comm]
  | cons c cells ih =>
      obtain ⟨hc, hcells⟩ := List.forall_mem_cons.mp hread
      rw [List.mapM_cons, List.forall₂_cons_left_iff]
      simp only [bind, Option.bind_eq_some_iff, pure, Option.some.injEq, hc,
        ih hcells]
      constructor
      · rintro ⟨row, hrow, rest, hrest, rfl⟩
        exact ⟨row, rest, hrow, hrest, rfl⟩
      · rintro ⟨row, rest, hrow, hrest, rfl⟩
        exact ⟨row, hrow, rest, hrest, rfl⟩

theorem exists_forall₂_iff {tells : Cells → Row → Prop} {cells : List Cells} :
    (∃ rows, List.Forall₂ tells cells rows) ↔ ∀ c ∈ cells, ∃ row, tells c row := by
  induction cells with
  | nil => simp
  | cons c cells ih =>
      rw [List.forall_mem_cons, ← ih]
      constructor
      · rintro ⟨_, hrows⟩
        cases hrows with
        | cons hrow hrest => exact ⟨⟨_, hrow⟩, ⟨_, hrest⟩⟩
      · rintro ⟨⟨row, hrow⟩, rest, hrest⟩
        exact ⟨row :: rest, .cons hrow hrest⟩

theorem readRows_eq_ok_iff {read : Cells → Option Row} {tells : Cells → Row → Prop}
    {answer : Answer Cells}
    (hread : ∀ cells, answer = .ok cells → ∀ c ∈ cells, ∀ row,
      read c = some row ↔ tells c row)
    {rows : List Row} :
    readRows read answer = .ok rows ↔
      ∃ cells, answer = .ok cells ∧ List.Forall₂ tells cells rows := by
  cases answer with
  | error reason => simp [readRows]
  | ok cells =>
      simp only [Except.ok.injEq, exists_eq_left',
        ← mapM_eq_some_iff (hread cells rfl)]
      cases hrows : cells.mapM read <;> simp [readRows, hrows]

theorem discoveryFailed_of_readRows {read : Cells → Option Row}
    {answer : Answer Cells} {e : Error} (h : readRows read answer = .error e) :
    ∃ reason, e = .discoveryFailed reason := by
  cases answer with
  | error reason => exact ⟨reason, (Except.error.inj h).symm⟩
  | ok cells =>
      cases hrows : cells.mapM read with
      | none =>
          simp only [readRows, hrows, Except.error.injEq] at h
          exact ⟨_, h.symm⟩
      | some rows => simp [readRows, hrows] at h

end Lists

section Contents

variable {Flag : Type} {client : Client Flag} {reading : Reading Flag}
  {content : Content Flag}

theorem readInfo_eq_ok_iff (h : client.Follows reading) {answer : Answer InfoCells}
    {info : ServerInfo} :
    client.readInfo answer = .ok info ↔
      ∃ first rest, answer = .ok (first :: rest) ∧ reading.info first info := by
  match answer with
  | .error reason => simp [readInfo]
  | .ok [] => simp [readInfo]
  | .ok (first :: rest) =>
      have hfirst := h.info first info
      cases hread : client.info first with
      | none => simp [readInfo, hread, ← hfirst]
      | some found => simp [readInfo, hread, ← hfirst]

theorem discoveryFailed_of_readInfo {answer : Answer InfoCells} {e : Error}
    (h : client.readInfo answer = .error e) :
    ∃ reason, e = .discoveryFailed reason := by
  match answer with
  | .error reason => exact ⟨reason, (Except.error.inj h).symm⟩
  | .ok [] => exact ⟨_, (Except.error.inj h).symm⟩
  | .ok (first :: rest) =>
      cases hread : client.info first with
      | none =>
          simp only [readInfo, hread, Except.error.injEq] at h
          exact ⟨_, h.symm⟩
      | some found => simp [readInfo, hread] at h

/-- Rows are read when each of their parts is. -/
theorem rows_eq_ok_iff_parts {rows : Rows} :
    client.rows content = .ok rows ↔ client.readInfo content.info = .ok rows.info ∧
      readRows client.column? content.columns = .ok rows.columns ∧
      readRows client.function? content.functions = .ok rows.functions ∧
      readRows index? content.indexes = .ok rows.indexes := by
  simp only [Client.rows, bind_eq_ok_iff, pure, Except.pure, Except.ok.injEq]
  constructor
  · rintro ⟨info, hinfo, columns, hcolumns, functions, hfunctions, indexes,
      hindexes, rfl⟩
    exact ⟨hinfo, hcolumns, hfunctions, hindexes⟩
  · rintro ⟨hinfo, hcolumns, hfunctions, hindexes⟩
    exact ⟨_, hinfo, _, hcolumns, _, hfunctions, _, hindexes, rfl⟩

/-- A discovery that fails says that it is a discovery that failed. -/
theorem discoveryFailed_of_rows {e : Error} (h : client.rows content = .error e) :
    ∃ reason, e = .discoveryFailed reason := by
  simp only [Client.rows, bind_eq_error_iff, pure, Except.pure, reduceCtorEq,
    and_false, exists_false, or_false] at h
  rcases h with hinfo | ⟨_, _, hcolumns | ⟨_, _, hfunctions | ⟨_, _, hindexes⟩⟩⟩
  · exact discoveryFailed_of_readInfo hinfo
  · exact discoveryFailed_of_readRows hcolumns
  · exact discoveryFailed_of_readRows hfunctions
  · exact discoveryFailed_of_readRows hindexes

/-- A client reads positions as they are. -/
def KeepsPositions (client : Client Flag) (content : Content Flag) : Prop :=
  ∀ rows, content.functions = .ok rows → ∀ cells ∈ rows, ∀ n,
    cells.position = some n →
    client.position n = n

/-- What a client reads is what the cells say. -/
theorem rows_eq_ok_iff (h : client.Follows reading)
    (hpositions : client.KeepsPositions content) {rows : Rows} :
    client.rows content = .ok rows ↔ rows.Tells reading content := by
  have hcolumns : ∀ columns, readRows client.column? content.columns = .ok columns ↔
      ∃ cells, content.columns = .ok cells ∧
        List.Forall₂ (ColumnRow.Tells reading) cells columns := fun columns =>
    readRows_eq_ok_iff fun _ _ _ _ _ => column?_eq_some_iff h
  have hfunctions : ∀ functions, readRows client.function? content.functions =
    .ok functions ↔
      ∃ cells, content.functions = .ok cells ∧
        List.Forall₂ FunctionRow.Tells cells functions := fun functions =>
    readRows_eq_ok_iff fun cells hcells c hc _ =>
      function?_eq_some_iff (hpositions cells hcells c hc)
  have hindexes : ∀ indexes, readRows index? content.indexes = .ok indexes ↔
      ∃ cells, content.indexes = .ok cells ∧
        List.Forall₂ IndexRow.Tells cells indexes := fun indexes =>
    readRows_eq_ok_iff fun _ _ _ _ _ => index?_eq_some_iff
  rw [rows_eq_ok_iff_parts, readInfo_eq_ok_iff h, hcolumns, hfunctions, hindexes]
  exact ⟨fun ⟨hinfo, hcolumns, hfunctions, hindexes⟩ =>
    ⟨hinfo, hcolumns, hfunctions, hindexes⟩,
    fun htells => ⟨htells.info, htells.columns, htells.functions, htells.indexes⟩⟩

theorem info_says_iff (h : client.Follows reading) {cells : InfoCells} :
    (∃ info, reading.info cells info) ↔
    (reading.demanding = true → cells.Filled) := by
  rw [← h.info_filled, Option.ne_none_iff_exists']
  simp only [h.info]

/-- There are rows that tell what the cells say just when the cells can be read. -/
theorem exists_tells_iff (h : client.Follows reading) :
    (∃ rows, Rows.Tells reading content rows) ↔
    content.Readable reading.demanding := by
  constructor
  · rintro ⟨rows, ⟨first, rest, hinfo, hfirst⟩, ⟨columns, hcolumns, hcolumnRows⟩,
      ⟨functions, hfunctions, hfunctionRows⟩, ⟨indexes, hindexes, hindexRows⟩⟩
    constructor
    case info => exact ⟨first, rest, hinfo, (info_says_iff h).mp ⟨_, hfirst⟩⟩
    case columns =>
      refine ⟨columns, hcolumns, fun cells hcells => ?_⟩
      exact (exists_columnRow_iff h).mp
        (exists_forall₂_iff.mp ⟨_, hcolumnRows⟩ cells hcells)
    case functions =>
      refine ⟨functions, hfunctions, fun cells hcells => ?_⟩
      exact exists_functionRow_iff.mp
        (exists_forall₂_iff.mp ⟨_, hfunctionRows⟩ cells hcells)
    case indexes =>
      refine ⟨indexes, hindexes, fun cells hcells => ?_⟩
      exact exists_indexRow_iff.mp
        (exists_forall₂_iff.mp ⟨_, hindexRows⟩ cells hcells)
  · rintro ⟨⟨first, rest, hinfo, hfirst⟩, ⟨columns, hcolumns, hcolumnCells⟩,
      ⟨functions, hfunctions, hfunctionCells⟩, ⟨indexes, hindexes, hindexCells⟩⟩
    obtain ⟨info, hinfoRow⟩ := (info_says_iff h).mpr hfirst
    obtain ⟨columnRows, hcolumnRows⟩ := exists_forall₂_iff.mpr fun cells hcells =>
      (exists_columnRow_iff h).mpr (hcolumnCells cells hcells)
    obtain ⟨functionRows, hfunctionRows⟩ :=
      exists_forall₂_iff.mpr fun cells hcells =>
      exists_functionRow_iff.mpr (hfunctionCells cells hcells)
    obtain ⟨indexRows, hindexRows⟩ := exists_forall₂_iff.mpr fun cells hcells =>
      exists_indexRow_iff.mpr (hindexCells cells hcells)
    exact ⟨⟨info, columnRows, functionRows, indexRows⟩,
      ⟨first, rest, hinfo, hinfoRow⟩, ⟨columns, hcolumns, hcolumnRows⟩,
      ⟨functions, hfunctions, hfunctionRows⟩, ⟨indexes, hindexes, hindexRows⟩⟩

end Contents

end Client

/-- A discovery is the model of all rows, as the cells alone tell them, or it fails.
There is no third way for it to end. -/
structure Content.DiscoveredAs {Flag : Type} (content : Content Flag)
    (reading : Reading Flag) (kind : DatabaseKind) (blocked : String → Bool)
    (outcome : Except Error SchemaModel) : Prop where
  ends : (∃ reason, outcome = .error (.discoveryFailed reason)) ∨
    ∃ rows, Rows.Tells reading content rows ∧
      outcome = .ok (.build kind blocked rows)
  model : ∀ rows, Rows.Tells reading content rows →
    outcome = .ok (.build kind blocked rows)
  succeeds : (∃ model, outcome = .ok model) ↔ content.Readable reading.demanding

/-- Two models answer every lookup the same, and only tell of different kinds of
databases. -/
structure SchemaModel.SameButKind (model other : SchemaModel) : Prop where
  version : model.version = other.version
  schema : model.schema = other.schema
  name : model.name = other.name
  tables : model.tables = other.tables
  functions : model.functions = other.functions
  table : ∀ schema name, model.table schema name = other.table schema name
  column : ∀ schema table name, model.column schema table name =
    other.column schema table name
  findTable? : ∀ name, model.findTable? name = other.findTable? name
  function? : ∀ name, model.function? name = other.function? name

theorem SchemaModel.sameButKind_build (kind other : DatabaseKind)
    (blocked : String → Bool) (rows : Rows) :
    (build kind blocked rows).SameButKind (build other blocked rows) :=
  ⟨rfl, rfl, rfl, rfl, rfl, fun _ _ => rfl, fun _ _ _ => rfl, fun _ => rfl,
    fun _ => rfl⟩

namespace Client

section Discovery

variable {Flag : Type} {client : Client Flag} {reading : Reading Flag}
  {content : Content Flag}

theorem discoveredAs (h : client.Follows reading)
    (hpositions : client.KeepsPositions content) (blocked : String → Bool) :
    content.DiscoveredAs reading client.kind blocked
      (client.discover blocked content) := by
  have hmodel : ∀ rows, Rows.Tells reading content rows →
      client.discover blocked content = .ok (.build client.kind blocked rows) := by
    intro rows htells
    rw [discover, (rows_eq_ok_iff h hpositions).mpr htells]
    rfl
  have hends : (∃ reason, client.discover blocked content =
    .error (.discoveryFailed reason)) ∨
      ∃ rows, Rows.Tells reading content rows ∧
        client.discover blocked content =
          .ok (.build client.kind blocked rows) := by
    cases hrows : client.rows content with
    | error e =>
        obtain ⟨reason, rfl⟩ := discoveryFailed_of_rows hrows
        refine Or.inl ⟨reason, ?_⟩
        rw [discover, hrows]
        rfl
    | ok rows =>
        have htells := (rows_eq_ok_iff h hpositions).mp hrows
        exact Or.inr ⟨rows, htells, hmodel rows htells⟩
  refine ⟨hends, hmodel, ?_⟩
  rw [← exists_tells_iff h]
  constructor
  · rintro ⟨model, hok⟩
    rcases hends with ⟨reason, herror⟩ | ⟨rows, htells, _⟩
    · rw [hok] at herror
      cases herror
    · exact ⟨rows, htells⟩
  · rintro ⟨rows, htells⟩
    exact ⟨_, hmodel rows htells⟩

end Discovery

theorem keepsPositions_postgres (content : Content Bool) :
    postgres.KeepsPositions content :=
  fun _ _ _ _ _ _ => rfl

theorem keepsPositions_mysql {content : Content Int} (h : content.PositionsFit) :
    mysql.KeepsPositions content := by
  intro rows hrows cells hcells n hn
  obtain ⟨hlow, hhigh⟩ := h rows hrows cells hcells n hn
  exact position_mysql hlow hhigh

/-- A discovery through either client is the model of rows that tell just what the
cells say, and it succeeds unless a query fails, the server is not told, or a cell
is empty that has to be filled. Of the rows about the server only the first one is
looked at. Where both clients are told the same rows, their models differ in the
kind only. -/
theorem discover_faithful (blocked : String → Bool) :
    (∀ content : Content Bool,
      content.DiscoveredAs .literal .postgres blocked
        (postgres.discover blocked content)) ∧
    (∀ content : Content Int, content.PositionsFit →
      content.DiscoveredAs .numeric .mysql blocked
        (mysql.discover blocked content)) ∧
    ∀ (first : Content Bool) (second : Content Int) (rows : Rows),
      second.PositionsFit →
      Rows.Tells .literal first rows → Rows.Tells .numeric second rows →
        ∃ model other, postgres.discover blocked first = .ok model ∧
          mysql.discover blocked second = .ok other ∧ model.kind = .postgres ∧
          other.kind = .mysql ∧ model.SameButKind other := by
  have hpostgres : ∀ content : Content Bool,
      content.DiscoveredAs .literal .postgres blocked
        (postgres.discover blocked content) :=
    fun content =>
      discoveredAs follows_postgres (keepsPositions_postgres content) blocked
  have hmysql : ∀ content : Content Int, content.PositionsFit →
      content.DiscoveredAs .numeric .mysql blocked
        (mysql.discover blocked content) :=
    fun content hfit => discoveredAs follows_mysql
      (keepsPositions_mysql hfit) blocked
  refine ⟨hpostgres, hmysql, fun first second rows hfit hfirst hsecond => ?_⟩
  exact ⟨_, _, (hpostgres first).model rows hfirst,
    (hmysql second hfit).model rows hsecond, rfl, rfl,
    SchemaModel.sameButKind_build _ _ blocked rows⟩

namespace TwoServers

/-- A database of a table with a column and a function with a parameter. -/
def content {Flag : Type} (yes : Flag) (no : Option Flag) : Content Flag where
  info := .ok [⟨some 14, some "public", some "app"⟩]
  columns :=
    .ok [⟨some "public", some "users", some "id", some "bigint", some "table",
      some yes,
    some yes, no, no, no, some "", some "", some ""⟩]
  functions := .ok [⟨some "f1", some "rank", some 1, none, some "bigint"⟩]
  indexes := .ok []

def rows : Rows where
  info := ⟨14, "public", "app"⟩
  columns :=
    [⟨"public", "users", "id", "bigint", "table", ⟨true, true, false, false, false⟩,
    ⟨"", "", ""⟩⟩]
  functions := [⟨"f1", "rank", some 1, none, "bigint"⟩]
  indexes := []

/-- One server says of flags that they are not set, the other one leaves them empty.
Both are told the same rows. -/
theorem discover_faithful_empty :
    Rows.Tells .literal (content true (some false)) rows ∧
      Rows.Tells .numeric (content (1 : Int) none) rows ∧
      ∃ model other,
        postgres.discover (fun _ => false) (content true (some false)) = .ok model ∧
        mysql.discover (fun _ => false) (content 1 none) = .ok other ∧
        model.kind = .postgres ∧
        other.kind = .mysql ∧ model.SameButKind other := by
  obtain ⟨_, _, hboth⟩ := discover_faithful fun _ => false
  have hfit : (content (1 : Int) none).PositionsFit := by
    intro functions hfunctions cells hcells n hn
    cases hfunctions
    cases List.mem_singleton.mp hcells
    cases hn
    decide
  have hfunction : List.Forall₂ FunctionRow.Tells
      [⟨some "f1", some "rank", some 1, none, some "bigint"⟩] rows.functions :=
    .cons ⟨rfl, rfl, rfl, rfl, rfl⟩ .nil
  have hfirst : Rows.Tells .literal (content true (some false)) rows := by
    refine ⟨⟨_, [], rfl, rfl, rfl, rfl⟩, ⟨_, rfl, .cons ?_ .nil⟩,
      ⟨_, rfl, hfunction⟩, ⟨_, rfl, .nil⟩⟩
    constructor <;> rfl
  have hsecond : Rows.Tells .numeric (content (1 : Int) none) rows := by
    refine ⟨⟨_, [], rfl, .inl rfl, .inl rfl, .inl rfl⟩, ⟨_, rfl, .cons ?_ .nil⟩,
      ⟨_, rfl, hfunction⟩, ⟨_, rfl, .nil⟩⟩
    -- Of the flags, two are one and three are empty.
    constructor <;> simp [Reading.numeric]
  exact ⟨hfirst, hsecond, hboth _ _ rows hfit hfirst hsecond⟩

end TwoServers

namespace SecondServer

/-- Every row about the server can be read, not only the first one. -/
def AllFilled {Flag : Type} (content : Content Flag) : Prop :=
  ∀ rows, content.info = .ok rows → ∀ cells ∈ rows, cells.Filled

def content : Content Bool where
  info := .ok [⟨some 14, some "public", some "app"⟩, ⟨none, none, none⟩]
  columns := .ok []
  functions := .ok []
  indexes := .ok []

/-- A discovery also succeeds where a row about the server is empty that is not the
first one. -/
theorem discover_emptyServer :
    ¬ ∀ content : Content Bool,
      (∃ model, postgres.discover (fun _ => false) content = .ok model) ↔
        content.Readable true ∧ AllFilled content := by
  intro hall
  obtain ⟨_, hfilled⟩ := (hall content).mp ⟨_, rfl⟩
  obtain ⟨hversion, _⟩ := hfilled _ rfl ⟨none, none, none⟩ (by simp)
  exact hversion rfl

end SecondServer

end Client

end QueryGate.Catalog
