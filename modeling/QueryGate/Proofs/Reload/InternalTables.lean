import QueryGate.Proofs.Catalog.SameStructure
import QueryGate.Proofs.Catalog.Unnumbered
import QueryGate.Proofs.Reload.Runs

/-!
Tables that belong to the engine itself.

The engine writes to its own tables while it runs, so that it must not take what it
wrote for a change of the database. It does not: a model is the same, but for the
numbers of its columns, whatever rows about internal tables there are, and a look at
the schema that finds other ones finds nothing.
-/

namespace QueryGate.Reload

open Catalog Engine

variable {State Plan : Type}

/-- Nothing is asked for but looks at a database that shows what it showed before,
and requests. Of the rows that are looked at, those about internal tables may be
any. -/
def Event.AltersInternalOnly (kind : DatabaseKind) (rows : Rows) : Event → Prop
  | .reload _ => False
  | .checkSchema seen _ =>
      seen.kind = kind ∧ ∃ found, seen.rows = .ok found ∧ found.shown = rows.shown
  | .compile _ => True
  | .compileHeld _ _ => True

namespace Service

section Quiet

variable {service : Service State Plan} {kind : DatabaseKind} {rows : Rows}

/-- The model of the active snapshot was built of rows. -/
def ModelOf (service : Service State Plan) (kind : DatabaseKind)
    (rows : Rows) : Prop :=
  service.active.snapshot.schema =
    .build kind service.active.snapshot.blocklist.blocks rows

theorem ModelOf.of_snapshot_eq (h : service.ModelOf kind rows)
    {after : Service State Plan}
    (hsame : after.active.snapshot = service.active.snapshot) :
    after.ModelOf kind rows := by
  rw [ModelOf, hsame]
  exact h

variable [Hashing]

/-- A look that finds other rows about internal tables finds nothing. -/
theorem ModelOf.checkSchemaThen_eq (h : service.ModelOf kind rows) {seen : World}
    (hkind : seen.kind = kind) {found : Rows} (hfound : seen.rows = .ok found)
    (hshown : found.shown = rows.shown) (later : World) :
    service.checkSchemaThen seen later = (.ok false, service.look 1) := by
  have hdiscover : seen.discover service.active.snapshot.blocklist =
      .ok (.build kind service.active.snapshot.blocklist.blocks found) := by
    rw [World.discover, hfound, hkind]
    rfl
  apply checkSchemaThen_of_same hdiscover
  have hsame :=
    SchemaModel.sameButNumbers_build kind service.active.snapshot.blocklist.blocks
      hshown
  rw [h, SchemaModel.sameStructure_build_iff, ← SchemaModel.shape_unnumbered,
    hsame.unnumbered, SchemaModel.shape_unnumbered]

theorem ModelOf.snapshot_handle (h : service.ModelOf kind rows)
    (backend : Backend State Plan) {event : Event}
    (hevent : event.AltersInternalOnly kind rows) :
    (service.handle backend event).2.active.snapshot = service.active.snapshot := by
  cases event with
  | reload world => exact hevent.elim
  | checkSchema seen later =>
      obtain ⟨hkind, found, hfound, hshown⟩ := hevent
      simp only [handle, h.checkSchemaThen_eq hkind hfound hshown later]
      rfl
  | compile request => exact (service.snapshot_compileWith service.active request).1
  | compileHeld generation request =>
      simp only [handle]
      cases service.live? generation with
      | none => rfl
      | some live => exact (service.snapshot_compileWith live request).1

theorem ModelOf.snapshot_run (h : service.ModelOf kind rows)
    (backend : Backend State Plan) {events : List Event}
    (hevents : ∀ event ∈ events, event.AltersInternalOnly kind rows) :
    (service.run backend events).active.snapshot = service.active.snapshot := by
  induction events generalizing service with
  | nil => rfl
  | cons event rest ih =>
      have hfirst := h.snapshot_handle backend (hevents event List.mem_cons_self)
      have hrest := ih (h.of_snapshot_eq hfirst) fun other hother =>
        hevents other (List.mem_cons_of_mem event hother)
      exact hrest.trans hfirst

end Quiet

section Hashed

variable [Hashing]

/-- Whatever a service went through, the model of its active snapshot was built of
the rows of the world of the last success. -/
theorem exists_modelOf {world : World} {state : State} {first : Service State Plan}
    (hstart : start world state = .ok first) (backend : Backend State Plan)
    (events : List Event) :
    ∃ latest rows,
      (world :: first.publications backend events).getLast? = some latest ∧
      latest.rows = .ok rows ∧ (first.run backend events).ModelOf latest.kind
        rows := by
  obtain ⟨hcurrent, _⟩ := current_start hstart
  obtain ⟨latest, hlatest, hbuilt⟩ := (hcurrent.run backend events).built
  obtain ⟨rows, hrows, hschema⟩ := hbuilt.schema
  exact ⟨latest, rows, hlatest, hrows, hschema⟩

/-- The rows about internal tables decide nothing but the numbers of columns. So
models that are built with and without them are the same but for these numbers, and
so are models of rows that differ only there; and after anything that a service went
through, looks at a database that has changed nothing but its internal tables since
the last success find nothing and reload nothing. -/
theorem internal_invisible (kind : DatabaseKind) (blocked : String → Bool)
    (rows : Rows) :
    (SchemaModel.build kind blocked rows).SameButNumbers
        (SchemaModel.build kind blocked rows.shown) ∧
      (∀ rows' : Rows, rows'.shown = rows.shown →
        (SchemaModel.build kind blocked rows).SameButNumbers
          (SchemaModel.build kind blocked rows')) ∧
      ∀ (world : World) (state : State) (first : Service State Plan)
        (backend : Backend State Plan) (earlier : List Event),
        start world state = .ok first →
          ∃ latest found,
            (world :: first.publications backend earlier).getLast? = some latest ∧
            latest.rows = .ok found ∧
            ∀ events : List Event,
              (∀ event ∈ events, event.AltersInternalOnly latest.kind found) →
                ∀ before seen later after,
                  events = before ++ .checkSchema seen later :: after →
                  let service := (first.run backend earlier).run backend before
                  service.checkSchemaThen seen later =
                    (.ok false, service.look 1) := by
  refine ⟨?_, ?_, ?_⟩
  · exact SchemaModel.sameButNumbers_build kind blocked rows.shown_shown.symm
  · intro rows' hshown
    exact SchemaModel.sameButNumbers_build kind blocked hshown.symm
  · intro world state first backend earlier hstart
    obtain ⟨latest, found, hlatest, hfound, hmodel⟩ :=
      exists_modelOf hstart backend earlier
    refine ⟨latest, found, hlatest, hfound, ?_⟩
    rintro events hevents before seen later after rfl
    have hbefore := hmodel.snapshot_run backend fun event hevent =>
      hevents event (List.mem_append_left _ hevent)
    obtain ⟨hkind, rows', hrows', hshown⟩ :=
      hevents (.checkSchema seen later)
        (List.mem_append_right before List.mem_cons_self)
    exact (hmodel.of_snapshot_eq hbefore).checkSchemaThen_eq hkind hrows'
      hshown later

end Hashed

namespace AuditLog

def column (table name : String) : ColumnRow :=
  ⟨"public", table, name, "text", "r", ⟨false, false, false, false, false⟩,
    ⟨"", "", ""⟩⟩

/-- The columns of the log are reported before and between those of the users. -/
def rows (log : List ColumnRow) : Rows where
  info := ⟨14, "public", "app"⟩
  columns := log ++ [column "users" "id"] ++ log ++ [column "users" "email"]
  functions := []
  indexes := log.map fun row => ⟨"public", "log_key", row.table, "UNIQUE", row.name⟩

def world (log : List ColumnRow) : World :=
  ⟨.postgres, .ok (rows log), .ok .default, .ok []⟩

def begun : List ColumnRow :=
  [column "_qy_log" "entry"]

def written : List ColumnRow :=
  [column "_qy_log" "entry", column "_qy_log" "author"]

theorem shown_rows_begun : (rows begun).shown = rows [] := by
  decide +kernel

theorem shown_rows_written : (rows written).shown = rows [] := by
  decide +kernel

/-- Neither the log nor what is written to it makes the service reload. -/
theorem internal_invisible_log :
    (SchemaModel.build .postgres Blocklist.none.blocks (rows begun)).SameButNumbers
        (SchemaModel.build .postgres Blocklist.none.blocks (rows [])) ∧
      ∃ first : Service Unit String, start (world []) () = .ok first ∧
        ((first.run .echo [.checkSchema (world begun)
          (world begun)]).checkSchemaThen (world written) (world written)).1 =
            .ok false := by
  obtain ⟨hdeleted, _, hquiet⟩ := @internal_invisible Unit String _ .postgres
    Blocklist.none.blocks (rows begun)
  rw [shown_rows_begun] at hdeleted
  obtain ⟨first, hstart⟩ :
      ∃ first : Service Unit String, start (world []) () = .ok first :=
    ⟨_, rfl⟩
  refine ⟨hdeleted, first, hstart, ?_⟩
  obtain ⟨latest, found, hlatest, hfound, hlooks⟩ :=
    hquiet (world []) () first .echo [] hstart
  obtain rfl : world [] = latest := Option.some.inj hlatest
  obtain rfl : rows [] = found := Except.ok.inj hfound
  have hempty : (rows []).shown = rows [] := by decide +kernel
  have hskipped := hlooks
    [.checkSchema (world begun) (world begun),
      .checkSchema (world written) (world written)]
    (by
      intro event hevent
      rcases List.mem_pair.mp hevent with rfl | rfl
      · exact ⟨rfl, rows begun, rfl, shown_rows_begun.trans hempty.symm⟩
      · exact ⟨rfl, rows written, rfl, shown_rows_written.trans hempty.symm⟩)
    [.checkSchema (world begun) (world begun)] (world written)
    (world written) [] rfl
  exact congrArg Prod.fst hskipped

end AuditLog

end Service

end QueryGate.Reload
