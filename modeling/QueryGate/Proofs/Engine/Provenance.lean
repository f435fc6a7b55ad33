import QueryGate.Proofs.Engine.Assembly
import QueryGate.Proofs.Engine.Trace

/-!
Where the statements of a restricted engine come from.

A restricted engine compiles nothing but registered documents, each for a role of
its table, and answers a request with the statement of the document that was
registered last under the name of the request, compiled for the role of the request
and for the value that the request gives the order variable. What was answered
before makes no difference: `Sourced` is what the cells keep of it, and every answer
preserves it.
-/

namespace QueryGate.Engine

open Access

variable {State Plan : Type}

/-- A call is made to compile a target: the registered text, for the role of the
target, against the structure of the snapshot and with the value that the target has
for its order variable. -/
def Call.Compiles (call : Call) (snapshot : Snapshot) (target : Target) : Prop :=
  call.text = target.entry.text ∧ snapshot.roles.role? target.role =
    some call.role ∧
    call.schema = snapshot.schema ∧ ∃ vars, call.vars = withOrder vars target.order

/-- The statement of a target comes from one of the calls, which was made to compile
the target. -/
def Statement.ComesFrom (statement : Statement (Traced Plan)) (calls : List Call)
    (snapshot : Snapshot) (target : Target) : Prop :=
  statement.origin ∈ calls ∧ statement.origin.Compiles snapshot target ∧
    statement.role = statement.origin.role

/-- Every call was made to compile a registered target, and the cell of a target
keeps a statement of this target only. -/
structure Sourced (snapshot : Snapshot) (cache : QueryCache)
    (bench : Bench (State × List Call) (Traced Plan)) : Prop where
  calls : ∀ call ∈ bench.workshop.calls, ∃ target, cache.Serves target ∧
    call.Compiles snapshot target
  cells : ∀ key statement, (bench.cells.get key).statement = some statement →
    ∃ target, cache.Serves target ∧ target.key = key ∧
      statement.ComesFrom bench.workshop.calls snapshot target

theorem Statement.ComesFrom.mono {statement : Statement (Traced Plan)}
    {calls more : List Call} {snapshot : Snapshot} {target : Target}
    (h : statement.ComesFrom calls snapshot target) (hsubset : calls ⊆ more) :
    statement.ComesFrom more snapshot target :=
  ⟨hsubset h.1, h.2⟩

theorem sourced_fresh (snapshot : Snapshot) (cache : QueryCache) (state : State) :
    Sourced snapshot cache
      (.fresh (state, []) : Bench (State × List Call) (Traced Plan)) := by
  constructor
  · intro call hcall
    simp [Bench.fresh, Workshop.calls] at hcall
  · intro key statement hstatement
    simp [Bench.fresh, Cell.empty] at hstatement

section Target

variable {backend : Backend State Plan} {snapshot : Snapshot} {cache : QueryCache}
  {target : Target} {vars : Variables}

/-- Making the statement of a target adds at most one call, which is made to compile
the target, and the statement comes from that call. -/
theorem makeTarget_traced (backend : Backend State Plan) (snapshot : Snapshot)
    (target : Target) (vars : Variables) (workshop : Workshop (State × List Call)) :
    ∃ added, (makeTarget backend.traced snapshot target vars workshop).2.calls =
        workshop.calls ++ added ∧
      (∀ call ∈ added, call.Compiles snapshot target) ∧
      ∀ statement,
        (makeTarget backend.traced snapshot target vars workshop).1 =
          .ok statement →
          statement.ComesFrom (workshop.calls ++ added) snapshot target := by
  unfold makeTarget
  cases hrole : snapshot.roles.role? target.role with
  | none =>
      rw [make_of_no_role hrole]
      refine ⟨[], by simp, by simp, ?_⟩
      intro statement h
      cases h
  | some role =>
      obtain ⟨answer, after, htraced, _, hcalls, horigin⟩ :=
        makeFor_traced backend snapshot role
        target.entry.text (withOrder vars target.order) workshop
      rw [make_of_role hrole, htraced]
      have hcompiles : Call.Compiles
          ⟨target.entry.text, withOrder vars target.order, role, snapshot.schema⟩
          snapshot target :=
        ⟨rfl, hrole, rfl, vars, rfl⟩
      refine ⟨_, hcalls, ?_, ?_⟩
      · intro call hcall
        rw [List.mem_singleton.mp hcall]
        exact hcompiles
      · intro statement hanswer
        obtain ⟨hmark, hfor⟩ := horigin statement hanswer
        refine ⟨?_, ?_, ?_⟩
        · rw [hmark]
          simp
        · rw [hmark]
          exact hcompiles
        · rw [hmark, hfor]

/-- Serving a registered target preserves where everything comes from, and answers
with a statement of that target. -/
theorem Sourced.serve {bench : Bench (State × List Call) (Traced Plan)}
    (hsourced : Sourced snapshot cache bench) (hserves : cache.Serves target) :
    Sourced snapshot cache (serve backend.traced snapshot target vars bench).2 ∧
      ∀ statement, (Engine.serve backend.traced snapshot target vars bench).1 =
        .ok statement →
        statement.ComesFrom
          (Engine.serve backend.traced snapshot target vars bench).2.workshop.calls
            snapshot target := by
  cases hcell : (bench.cells.get target.key).statement with
  | some kept =>
      rw [serve_of_filled hcell]
      refine ⟨⟨hsourced.calls, ?_⟩, ?_⟩
      · intro key statement hstatement
        rw [Cells.statement_storeVars] at hstatement
        exact hsourced.cells key statement hstatement
      · intro statement hanswer
        cases hanswer
        obtain ⟨owner, howner, hkey, hfrom⟩ := hsourced.cells target.key kept hcell
        rw [howner.eq_of_key_eq hserves hkey] at hfrom
        exact hfrom
  | none =>
      obtain ⟨added, hcalls, hcompiles, hmade⟩ :=
        makeTarget_traced backend snapshot target vars bench.workshop
      have hmore : ∀ call ∈ bench.workshop.calls ++ added, ∃ target,
        cache.Serves target ∧
          call.Compiles snapshot target := by
        intro call hcall
        rcases List.mem_append.mp hcall with hold | hnew
        · exact hsourced.calls call hold
        · exact ⟨target, hserves, hcompiles call hnew⟩
      have hold : ∀ key statement, (bench.cells.get key).statement =
        some statement →
          ∃ target, cache.Serves target ∧ target.key = key ∧
            statement.ComesFrom (bench.workshop.calls ++ added) snapshot
              target := by
        intro key statement hstatement
        obtain ⟨owner, howner, hkey, hfrom⟩ :=
          hsourced.cells key statement hstatement
        exact ⟨owner, howner, hkey, hfrom.mono (List.subset_append_left _ _)⟩
      rcases hmake : makeTarget backend.traced snapshot target vars
        bench.workshop with
        ⟨e | made, workshop⟩
      · rw [hmake] at hcalls
        rw [serve_of_failed hcell hmake]
        refine ⟨⟨?_, ?_⟩, ?_⟩
        · rw [hcalls]
          exact hmore
        · rw [hcalls]
          intro key statement hstatement
          rw [Cells.statement_storeVars] at hstatement
          exact hold key statement hstatement
        · intro statement hanswer
          cases hanswer
      · rw [hmake] at hcalls hmade
        rw [serve_of_made hcell hmake]
        have hfrom := hmade made rfl
        refine ⟨⟨?_, ?_⟩, ?_⟩
        · rw [hcalls]
          exact hmore
        · rw [hcalls]
          intro key statement hstatement
          rw [Cells.statement_storeStatement,
            Cells.statement_storeVars] at hstatement
          by_cases hkey : key = target.key
          · rw [if_pos hkey] at hstatement
            cases hstatement
            exact ⟨target, hserves, hkey.symm, hfrom⟩
          · rw [if_neg hkey] at hstatement
            exact hold key statement hstatement
        · rw [hcalls]
          intro statement hanswer
          cases hanswer
          exact hfrom

end Target

section Restricted

variable {backend : Backend State Plan} {snapshot : Snapshot} {cache : QueryCache}

/-- Every answer of a restricted engine preserves where everything comes from. -/
theorem Sourced.compile (hgate : snapshot.gate? = some cache) (request : Request)
    {bench : Bench (State × List Call) (Traced Plan)}
    (hsourced : Sourced snapshot cache bench) :
    Sourced snapshot cache (compile backend.traced snapshot request bench).2 := by
  rcases compile_restricted_cases backend.traced hgate request bench with
    ⟨e, hanswer⟩ | ⟨vars, target, _, hadmitted, hanswer⟩
  · rw [hanswer]
    exact hsourced
  · rw [hanswer]
    exact (hsourced.serve (QueryCache.serves_of_admit hadmitted)).1

theorem sourced_benchAfter (backend : Backend State Plan)
    (hgate : snapshot.gate? = some cache) (requests : List Request)
    (state : State) :
    Sourced snapshot cache
      (benchAfter backend.traced snapshot requests (.fresh (state, []))) :=
  benchAfter_induction (P := Sourced snapshot cache)
    (fun request _ hsourced => hsourced.compile hgate request) requests
    (sourced_fresh snapshot cache state)

/-- A statement is answered for the target that the request is admitted to. -/
theorem Sourced.comesFrom_of_compile (hgate : snapshot.gate? = some cache)
    {request : Request} {bench : Bench (State × List Call) (Traced Plan)}
    (hsourced : Sourced snapshot cache bench) {compiled : Compiled (Traced Plan)}
    (hok : (Engine.compile backend.traced snapshot request bench).1 =
      .ok compiled) :
    ∃ target, request.readVars = .ok compiled.vars ∧
      cache.admit snapshot.roles request compiled.vars = .ok target ∧
      compiled.statement.ComesFrom
        (Engine.compile backend.traced snapshot request bench).2.workshop.calls
          snapshot target := by
  rcases compile_restricted_cases backend.traced hgate request bench with
    ⟨e, hanswer⟩ | ⟨vars, target, hvars, hadmitted, hanswer⟩
  · rw [hanswer] at hok
    cases hok
  · rw [hanswer] at hok ⊢
    cases hserved : (Engine.serve backend.traced snapshot target vars bench).1 with
    | error e =>
        rw [hserved] at hok
        cases hok
    | ok statement =>
        rw [hserved] at hok
        cases hok
        exact ⟨target, hvars, hadmitted,
          (hsourced.serve (QueryCache.serves_of_admit hadmitted)).2
            statement hserved⟩

end Restricted

/-- Whatever was asked before, a restricted engine hands nothing to its backend but
documents of its registrations, each with a role of its table, and answers a request
with a statement of the document that was registered last under the name of the
request, made for the role of the request and for the value that the request gives
the order variable. The account of the calls is kept by the traced backend, which
answers as the backend itself does. -/
theorem restricted_provenance (backend : Backend State Plan) {readings : Readings}
    {generation : Nat} {snapshot : Snapshot}
    (hbuilt : readings.snapshot generation = .ok snapshot)
    (hrestricted : snapshot.restricted = true) (state : State)
    (earlier : List Request) (request : Request) :
    let before := benchAfter backend.traced snapshot earlier (.fresh (state, []))
    let answer := (compile backend.traced snapshot request before).1
    let after := (compile backend.traced snapshot request before).2
    compile backend snapshot request
      (benchAfter backend snapshot earlier (.fresh state)) =
        (answer.map Compiled.erase, after.erase) ∧
      (∀ call ∈ after.workshop.calls, ∃ cache r, snapshot.cache = some cache ∧
        r ∈ cache.registrations ∧ call.text = r.entry.text ∧
        call.role.name = r.role ∧
        call.role ∈ snapshot.roles.roles) ∧
      ∀ compiled, answer = .ok compiled →
        request.readVars = .ok compiled.vars ∧
          ∃ entry,
            (AllowList.ofRecords readings.records).lastNamed?
              request.lookupName = some entry ∧
              compiled.statement.origin ∈ after.workshop.calls ∧
              compiled.statement.origin.text = entry.text ∧
              compiled.statement.origin.role.name = request.role ∧
              compiled.statement.role = compiled.statement.origin.role ∧
              ∀ order, entry.item.order = some order →
                ∃ value, compiled.vars.get? order.var = some (.text value) ∧
                  compiled.statement.origin.vars.get? order.var =
                    some (.text value) := by
  obtain ⟨hgate, hcache⟩ := Readings.gate_of_restricted hbuilt hrestricted
  have hsourced := sourced_benchAfter backend hgate earlier state
  refine ⟨?_, ?_, ?_⟩
  · rw [← compile_traced, ← benchAfter_traced]
    rfl
  · intro call hcall
    obtain ⟨target, ⟨r, hfind, hmem⟩, htext, hrole, _⟩ :=
      (hsourced.compile hgate request).calls call hcall
    refine ⟨_, r, hcache.trans hgate, List.mem_of_find?_eq_some hfind, ?_, ?_,
      RoleTable.mem_of_role? hrole⟩
    · rw [htext, (Registration.eq_of_mem_targets hmem).1]
    · rw [RoleTable.name_of_role? hrole, (Registration.eq_of_mem_targets hmem).2]
  · intro compiled hok
    obtain ⟨target, hvars, hadmitted, hin, ⟨htext, hrole, _, vars, hfed⟩, hfor⟩ :=
      hsourced.comesFrom_of_compile hgate hok
    obtain ⟨_, r, hfind, _, hresolve⟩ := QueryCache.admit_eq_ok_iff.mp hadmitted
    have hmem := Registration.mem_targets_of_resolve hresolve
    have hregistered := (QueryCache.isFor_of_find? hfind).2
    rw [QueryCache.find?_ofAllowList] at hfind
    split at hfind
    · obtain ⟨entry, hlast, rfl⟩ := Option.map_eq_some_iff.mp hfind
      refine ⟨hvars, entry, hlast, hin, ?_, ?_, hfor, ?_⟩
      · rw [htext, (Registration.eq_of_mem_targets hmem).1]
      · rw [RoleTable.name_of_role? hrole, (Registration.eq_of_mem_targets hmem).2]
      · intro order horder
        obtain ⟨value, hvalue, hselected⟩ :=
          Registration.order_of_resolve hresolve horder
        refine ⟨value, hvalue, ?_⟩
        rw [hfed, hselected]
        exact Json.Fields.get?_insert_self vars order.var (.text value)
    · cases hfind

namespace SortedUsers

def document : String :=
  "# @order sort: asc, desc\nquery users { users(by: $sort) { id } }"

/-- The name `users` is registered twice; the later document declares an order
variable. -/
def readings : Readings where
  settings := { Settings.default with production := true }
  blocklist := .none
  schema := ⟨.postgres, 0, "public", "app", [], []⟩
  records :=
    [⟨"users", "", "query users { users { email } }", ""⟩,
      ⟨"users", "", document, ""⟩]

def roles : RoleTable :=
  .ofConfigs [] false

def snapshot : Snapshot :=
  ⟨readings.settings, readings.blocklist, readings.schema, roles,
    some (.ofAllowList (.ofRecords readings.records) ["anon", "user"]), 0⟩

theorem names_roles : roles.names = ["anon", "user"] := by
  have hroles : roles.roles.map Role.name = ["user", "anon"] := rfl
  rw [RoleTable.names, hroles, Text.sorted, List.mergeSort]
  simp

theorem snapshot_readings : readings.snapshot 0 = .ok snapshot := by
  rw [snapshot, ← names_roles]
  rfl

def ask (role vars : String) : Request :=
  ⟨"users", document, some vars, role, none⟩

/-- A user asks for the users in descending order. -/
def descending : Request :=
  ask "user" "\x7b\"sort\": \"desc\"\x7d"

def earlier : List Request :=
  [ask "user" "\x7b\"sort\": \"asc\"\x7d", ask "anon" "\x7b\"sort\": \"desc\"\x7d",
    ask "root" "null"]

/-- After the other value was asked for, and the other role asked for this value,
the statement is still the one for this role and this value. -/
theorem restricted_provenance_descending :
    readings.snapshot 0 = .ok snapshot ∧ snapshot.restricted = true ∧
      ∃ compiled,
        (compile Backend.echo.traced snapshot descending
          (benchAfter Backend.echo.traced snapshot earlier (.fresh ((), [])))).1 =
            .ok compiled ∧
        compiled.statement.origin.text = document ∧
        compiled.statement.origin.role.name = "user" ∧
        compiled.statement.origin.vars.get? "sort" = some (.text "desc") := by
  have hrestricted : snapshot.restricted = true := rfl
  obtain ⟨_, _, hanswers⟩ :=
    restricted_provenance .echo snapshot_readings hrestricted () earlier
    descending
  have hok : (compile Backend.echo.traced snapshot descending
      (benchAfter Backend.echo.traced snapshot earlier (.fresh ((), [])))).1.isOk =
        true := by
    decide +kernel
  have hlast : ((AllowList.ofRecords readings.records).lastNamed? "users").map
      (fun entry => (entry.text, entry.item.order)) =
        some (document, some ⟨"sort", ["asc", "desc"]⟩) := by
    decide +kernel
  have hread : descending.readVars = .ok [("sort", .text "desc")] := by
    with_unfolding_all rfl
  cases hanswer : (compile Backend.echo.traced snapshot descending
      (benchAfter Backend.echo.traced snapshot earlier (.fresh ((), [])))).1 with
  | error e =>
      rw [hanswer] at hok
      cases hok
  | ok compiled =>
      obtain ⟨hvars, entry, hentry, _, htext, hrole, _, horder⟩ :=
        hanswers compiled hanswer
      have hname : descending.lookupName = "users" := rfl
      rw [hname] at hentry
      rw [hentry, Option.map_some, Option.some.injEq, Prod.mk.injEq] at hlast
      obtain ⟨value, hvalue, hfed⟩ := horder _ hlast.2
      rw [hread, Except.ok.injEq] at hvars
      have hdesc : value = "desc" := by
        rw [← hvars] at hvalue
        have hlookup : Json.text value = Json.text "desc" :=
          (Option.some.inj hvalue).symm
        exact Json.text.inj hlookup
      exact ⟨snapshot_readings, hrestricted, compiled, rfl, htext.trans hlast.1,
        hrole, hdesc ▸ hfed⟩

end SortedUsers

end QueryGate.Engine
