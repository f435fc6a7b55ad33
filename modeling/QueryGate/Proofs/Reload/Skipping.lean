import QueryGate.Proofs.Catalog.RowOrder
import QueryGate.Proofs.Reload.Runs

/-!
Reloads that are skipped.

A look at the schema that finds no other structure does not reload. So requests go
on to be answered with the model of the active snapshot, and that does no harm as
far as it answers like the model that was found. It does, but for what the digest
does not tell: which of several columns of a primary key is the first one, and which
of several functions of one name.
-/

namespace QueryGate.Reload

open Catalog Engine

namespace Service

variable {State Plan : Type}

/-- What is discovered is built of rows. -/
theorem build_of_discover {world : World} {blocklist : Blocklist}
    {found : SchemaModel} (h : world.discover blocklist = .ok found) :
    ∃ rows, found = .build world.kind blocklist.blocks rows := by
  rw [World.discover] at h
  cases hrows : world.rows with
  | error e =>
      rw [hrows] at h
      cases h
  | ok rows =>
      rw [hrows] at h
      exact ⟨rows, (Except.ok.inj h).symm⟩

section Hashed

variable [Hashing]

/-- A look at the schema that finds no other structure has found a model. -/
theorem discover_of_skipped {service : Service State Plan} {seen later : World}
    (h : (service.checkSchemaThen seen later).1 = .ok false) :
    ∃ found, seen.discover service.active.snapshot.blocklist = .ok found ∧
      found.sameStructure service.active.snapshot.schema = true := by
  cases hseen : seen.discover service.active.snapshot.blocklist with
  | error e =>
      rw [checkSchemaThen_of_error hseen] at h
      cases h
  | ok found =>
      cases hsame : found.sameStructure service.active.snapshot.schema with
      | true => exact ⟨found, rfl, hsame⟩
      | false =>
          obtain ⟨looked, _, _, hthen⟩ := checkSchemaThen_of_other hseen hsame later
          rw [hthen] at h
          cases hreload : (looked.reload later).1 <;>
            simp [hreload, Except.map] at h

/-- Whatever a service went through, the model of its active snapshot answers like a
model that is found when a reload is skipped, and like any model of the same digest
where the hasher keeps the two apart. -/
theorem skipped_answersLike {world : World} {state : State}
    {first : Service State Plan} (hstart : start world state = .ok first)
    (backend : Backend State Plan) (events : List Event) (seen later : World) :
    let service := first.run backend events
    let current := service.active.snapshot
    ((service.checkSchemaThen seen later).1 = .ok false →
      ∃ found, seen.discover current.blocklist = .ok found ∧
        current.schema.AnswersLike found) ∧
    ∀ found, seen.discover current.blocklist = .ok found →
      ∀ hash : Hasher, hash.KeepsApart found current.schema →
        found.digest hash = current.schema.digest hash →
        current.schema.AnswersLike found := by
  intro service current
  obtain ⟨hcurrent, _⟩ := current_start hstart
  obtain ⟨published, _, hbuilt⟩ := (hcurrent.run backend events).built
  obtain ⟨rows, _, hschema⟩ := hbuilt.schema
  change current.schema = _ at hschema
  constructor
  · intro hskipped
    obtain ⟨found, hfound, hsame⟩ := discover_of_skipped hskipped
    obtain ⟨rows', rfl⟩ := build_of_discover hfound
    change SchemaModel.sameStructure _ current.schema = true at hsame
    rw [hschema, SchemaModel.sameStructure_build_iff] at hsame
    refine ⟨_, hfound, ?_⟩
    rw [hschema]
    exact SchemaModel.answersLike_of_shape_build_eq hsame.symm
  · intro found hfound hash happart hdigest
    obtain ⟨rows', rfl⟩ := build_of_discover hfound
    have hshape := happart.shape_eq_of_digest_eq hdigest
    rw [hschema] at hshape ⊢
    exact SchemaModel.answersLike_of_shape_build_eq hshape.symm

end Hashed

namespace TwoOfEach

def column (name : String) : ColumnRow :=
  ⟨"public", "keys", name, "int", "r", ⟨true, true, false, false, false⟩,
    ⟨"", "", ""⟩⟩

def area (id type : String) : FunctionRow :=
  ⟨id, "area", some 1, some "side", type⟩

def rows : Rows where
  info := ⟨14, "public", "app"⟩
  columns := [column "a", column "b"]
  functions := [area "1" "int", area "2" "text"]
  indexes := []

def swapped : Rows where
  info := ⟨14, "public", "app"⟩
  columns := [column "b", column "a"]
  functions := [area "2" "text", area "1" "int"]
  indexes := []

def world (rows : Rows) : World :=
  ⟨.postgres, .ok rows, .ok .default, .ok []⟩

theorem rearranged_rows : rows.Rearranged swapped where
  info := rfl
  columns := Rearranged.swap (by decide) [] []
  functions := Rearranged.swap (by decide) [] []
  indexes := List.Perm.refl _

theorem oneKind_rows : ColumnRow.OneKind rows.columns := by
  unfold ColumnRow.OneKind
  decide +kernel

/-- The models of both orders have the same structure. -/
theorem sameStructure_swapped (blocked : String → Bool) :
    (SchemaModel.build .postgres blocked swapped).sameStructure
      (SchemaModel.build .postgres blocked rows) = true := by
  rw [SchemaModel.sameStructure_build_iff]
  exact (SchemaModel.shape_build_of_rearranged _ _ rearranged_rows
    oneKind_rows).symm

/-- A service that was started with one order skips the reload when it finds the
other one. -/
theorem skips_swapped :
    ∃ first : Service Unit String, start (world rows) () = .ok first ∧
      first.active.snapshot.schema = .build .postgres Blocklist.none.blocks rows ∧
      (world swapped).discover first.active.snapshot.blocklist =
        .ok (.build .postgres Blocklist.none.blocks swapped) ∧
      (first.checkSchemaThen (world swapped) (world swapped)).1 = .ok false := by
  refine ⟨_, rfl, rfl, rfl, ?_⟩
  rw [checkSchemaThen_of_same rfl (sameStructure_swapped _)]

/-- The model that was found answers like the active one. -/
theorem skipped_answersLike_swapped :
    ∃ first : Service Unit String, start (world rows) () = .ok first ∧
      ∃ found,
        (world swapped).discover first.active.snapshot.blocklist = .ok found ∧
        first.active.snapshot.schema.AnswersLike found := by
  obtain ⟨first, hstart, _, _, hskipped⟩ := skips_swapped
  obtain ⟨hsound, _⟩ :=
    skipped_answersLike hstart .echo [] (world swapped) (world swapped)
  exact ⟨first, hstart, hsound hskipped⟩

/-- The primary column and the function of the name are other ones, as others come
first. -/
theorem skipped_other_primary :
    ∃ first : Service Unit String, start (world rows) () = .ok first ∧
      (first.checkSchemaThen (world swapped) (world swapped)).1 = .ok false ∧
      ∃ found,
        (world swapped).discover first.active.snapshot.blocklist = .ok found ∧
        ((first.active.snapshot.schema.table "public" "keys").map fun table =>
          table.primaryColumn?.map Column.name) = .ok (some "a") ∧
        ((found.table "public" "keys").map fun table =>
          table.primaryColumn?.map Column.name) = .ok (some "b") ∧
        first.active.snapshot.schema.function? "area" =
          some ⟨"area", [⟨1, "side", "int"⟩]⟩ ∧
        found.function? "area" = some ⟨"area", [⟨1, "side", "text"⟩]⟩ := by
  obtain ⟨first, hstart, hschema, hfound, hskipped⟩ := skips_swapped
  refine ⟨first, hstart, hskipped, _, hfound, ?_⟩
  rw [hschema]
  refine ⟨?_, ?_, ?_, ?_⟩
  · rw [SchemaModel.table, SchemaModel.table?, SchemaModel.build,
      SchemaModel.buildTables_of_one_group rfl (by decide +kernel)]
    rfl
  · rw [SchemaModel.table, SchemaModel.table?, SchemaModel.build,
      SchemaModel.buildTables_of_one_group rfl (by decide +kernel)]
    rfl
  · decide +kernel
  · decide +kernel

end TwoOfEach

end Service

end QueryGate.Reload
