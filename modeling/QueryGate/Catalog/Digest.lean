import QueryGate.Catalog.Model

/-!
The number that is shown for the structure of a database.

A digest is made of data by a hasher, which may be any function from data to 64-bit
words, and is a parameter of all that shows digests. What has no order is digested
word by word; the words are combined by their count, their sum and the exclusive or
of their rotations, none of which depends on their order.
-/

namespace QueryGate.Catalog

/-- Data that is digested. -/
inductive Datum where
  | text (value : String)
  | int (value : Int)
  | flag (value : Bool)
  | word (value : UInt64)
  | list (items : List Datum)
deriving Repr

/-- A function from data to words. -/
abbrev Hasher : Type := Datum → UInt64

/-- Moves every bit 29 places up; those that leave at the top come back at the
bottom. -/
def rotate (word : UInt64) : UInt64 :=
  (word <<< 29) ||| (word >>> 35)

namespace Hasher

/-- The digest of words without an order. -/
def ofWords (hash : Hasher) (words : List UInt64) : UInt64 :=
  hash (.list [.word (UInt64.ofNat words.length), .word (words.foldl (· + ·) 0),
    .word (words.foldl (fun acc word => acc ^^^ rotate word) 0)])

/-- The digest of data without an order. -/
def ofSet (hash : Hasher) (items : List Datum) : UInt64 :=
  hash.ofWords (items.map hash)

end Hasher

def ForeignKey.datum (key : ForeignKey) : Datum :=
  .list [.text key.schema, .text key.table, .text key.column]

/-- Everything about a column except its number. -/
def Column.datum (column : Column) : Datum :=
  .list [.text column.schema, .text column.table, .text column.name,
    .text column.type, .flag column.flags.array, .flag column.flags.notNull,
    .flag column.flags.primaryKey, .flag column.flags.uniqueKey,
    .flag column.flags.fullText,
    .list (column.foreignKey.map ForeignKey.datum).toList, .flag column.blocked]

def IndexEntry.datum (entry : IndexEntry) : Datum :=
  .list [.text entry.schema, .text entry.constraint, .text entry.table,
    .text entry.type, .text entry.column, .flag entry.composite]

def Param.datum (param : Param) : Datum :=
  .list [.int param.position, .text param.name, .text param.type]

def Function.datum (function : Function) : Datum :=
  .list [.text function.name, .list (function.params.map Param.datum)]

def Table.datum (hash : Hasher) (table : Table) : Datum :=
  .list [.text table.schema, .text table.name, .text table.kind.identifier,
    .word (hash.ofSet (table.columns.map Column.datum)),
    .word (hash.ofSet (table.indexes.entries.map IndexEntry.datum)),
    .flag table.blocked]

/-- The digest of a model. -/
def SchemaModel.digest (hash : Hasher) (model : SchemaModel) : UInt64 :=
  hash (.list [.text model.kind.name, .int model.version, .text model.schema,
    .text model.name, .word (hash.ofSet (model.tables.map (Table.datum hash))),
    .word (hash.ofSet (model.functions.map Function.datum))])

/-- The bytes of a word, lowest first. -/
def bytesOfWord (word : UInt64) : List UInt8 :=
  (List.range 8).map fun i => (word >>> UInt64.ofNat (8 * i)).toUInt8

mutual

/-- The bytes of data. Every part begins with what it is and how long it is. -/
def Datum.bytes : Datum → List UInt8
  | .text value =>
      let content := value.toUTF8.toList
      1 :: bytesOfWord (UInt64.ofNat content.length) ++ content
  | .int value =>
      (if value < 0 then 2 else 3) :: bytesOfWord (UInt64.ofNat value.natAbs)
  | .flag value => [if value then 4 else 5]
  | .word value => 6 :: bytesOfWord value
  | .list items =>
      7 :: bytesOfWord (UInt64.ofNat items.length) ++ Datum.bytesOfAll items

def Datum.bytesOfAll : List Datum → List UInt8
  | [] => []
  | item :: rest => item.bytes ++ Datum.bytesOfAll rest

end

/-- Multiplies by a prime after each byte is mixed in. -/
def standardHash : Hasher := fun datum =>
  datum.bytes.foldl (fun acc byte => (acc ^^^ byte.toUInt64) * 0x100000001B3)
    0xCBF29CE484222325

/-- The hasher of the digests that are shown. -/
class Hashing where
  hasher : Hasher

-- For those who bring no hasher of their own.
instance (priority := low) : Hashing :=
  ⟨standardHash⟩

/-- A word as sixteen hexadecimal digits. -/
def hexadecimal (word : UInt64) : String :=
  String.ofList ((List.range 16).map fun i =>
    Nat.digitChar ((word >>> UInt64.ofNat (4 * (15 - i))) &&& 15).toNat)

/-- The digest that is shown for a model. -/
def SchemaModel.shownDigest [Hashing] (model : SchemaModel) : String :=
  hexadecimal (model.digest Hashing.hasher)

end QueryGate.Catalog
