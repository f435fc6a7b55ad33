import QueryGate.Proofs.Engine.Agreement
import QueryGate.Proofs.Engine.Registering

/-!
What an answer changes.

To serve a target writes to the cell of the target and to no other: the variables
are kept in any case, and a statement that was made is kept where there was none. A
request that is turned away, or that an unrestricted engine answers, writes to no
cell at all. Main statement: this is the effect of each answer, and so after any run
a cell has the variables of the latest request for its target.
-/

namespace QueryGate

/-- The error turns a request away before a statement is asked for. -/
def Error.turnsAway : Error → Bool
  | .invalidVariables _ => true
  | .roleNotDefined _ => true
  | .notFound => true
  | .invalidVariableValue _ _ => true
  | _ => false

namespace Engine

open Access Catalog Document

variable {State Plan : Type} {backend : Backend State Plan} {snapshot : Snapshot}

theorem get_serve_of_error {target : Target} {vars : Variables}
    {bench : Bench State Plan} {e : Error}
    (herror : (serve backend snapshot target vars bench).1 = .error e) :
    (bench.cells.get target.key).statement = none ∧
      (serve backend snapshot target vars bench).2.cells.get target.key =
        ⟨none, some vars⟩ := by
  rw [get_serve, if_pos rfl, herror]
  cases hcell : (bench.cells.get target.key).statement with
  | none => exact ⟨rfl, rfl⟩
  | some kept =>
      rw [serve_of_filled hcell] at herror
      cases herror

theorem get_serve_of_ok {target : Target} {vars : Variables}
    {bench : Bench State Plan} {statement : Statement Plan}
    (hok : (serve backend snapshot target vars bench).1 = .ok statement) :
    (serve backend snapshot target vars bench).2.cells.get target.key =
        ⟨some statement, some vars⟩ ∧
      ∀ kept, (bench.cells.get target.key).statement = some kept →
        statement = kept := by
  rw [get_serve, if_pos rfl, hok]
  cases hcell : (bench.cells.get target.key).statement with
  | none => exact ⟨rfl, fun _ hkept => nomatch hkept⟩
  | some kept =>
      rw [serve_of_filled hcell] at hok
      obtain rfl : kept = statement := Except.ok.inj hok
      exact ⟨rfl, fun _ hkept => Option.some.inj hkept⟩

theorem turnsAway_of_admit {cache : QueryCache} {request : Request}
    {vars : Variables} {e : Error}
    (h : cache.admit snapshot.roles request vars = .error e) :
    e.turnsAway = true := by
  unfold QueryCache.admit at h
  split at h
  · split at h
    · next r _ =>
        obtain ⟨order, fault, _, _, rfl⟩ := Registration.choosesNone_of_resolve h
        rfl
    · cases h
      rfl
  · cases h
    rfl

/-- All that a restricted engine does with a request: it turns it away and changes
nothing, or it lets the request in for a target and serves that. -/
theorem compile_let_in_cases (backend : Backend State Plan)
    (hrestricted : snapshot.restricted = true) (request : Request)
    (bench : Bench State Plan) :
    (∃ e, e.turnsAway = true ∧ compile backend snapshot request bench =
      (.error e, bench) ∧
      ∀ target vars, ¬snapshot.Admits request target vars) ∨
    ∃ target vars, snapshot.Admits request target vars ∧
      compile backend snapshot request bench =
        ((serve backend snapshot target vars bench).1.map fun statement =>
          ⟨statement, vars⟩,
          (serve backend snapshot target vars bench).2) := by
  obtain ⟨cache, hgate⟩ := Snapshot.exists_gate hrestricted
  cases hvars : request.readVars with
  | error e =>
      obtain ⟨fault, rfl⟩ := Request.invalidVariables_of_readVars hvars
      refine Or.inl ⟨_, rfl, by rw [compile, hvars], ?_⟩
      rintro target vars ⟨hreads, _⟩
      rw [hvars] at hreads
      cases hreads
  | ok vars =>
      cases hadmitted : cache.admit snapshot.roles request vars with
      | error e =>
          refine Or.inl ⟨e, turnsAway_of_admit hadmitted, ?_, ?_⟩
          · simp [compile, hvars, compileWith, hgate, hadmitted, Except.map]
          · rintro target other ⟨hreads, known, hknown, hlet⟩
            obtain rfl : vars = other := Except.ok.inj (hvars.symm.trans hreads)
            obtain rfl : cache = known := Option.some.inj (hgate.symm.trans hknown)
            rw [hadmitted] at hlet
            cases hlet
      | ok target =>
          refine Or.inr ⟨target, vars, ⟨hvars, cache, hgate, hadmitted⟩, ?_⟩
          simp [compile, hvars, compileWith, hgate, hadmitted]

theorem not_admits (hplain : snapshot.restricted = false) {request : Request}
    {target : Target} {vars : Variables} :
    ¬snapshot.Admits request target vars := by
  rintro ⟨_, cache, hgate, _⟩
  rw [Snapshot.gate?_eq_none_iff.mpr hplain] at hgate
  cases hgate

/-- An engine that is not restricted writes to no cell. -/
theorem cells_compile (hplain : snapshot.restricted = false) (request : Request)
    (bench : Bench State Plan) :
    (compile backend snapshot request bench).2.cells = bench.cells := by
  rw [compile]
  cases request.readVars with
  | error e => rfl
  | ok vars =>
      simp [compileWith, Snapshot.gate?_eq_none_iff.mpr hplain, compileFresh]

/-- What it answers does not depend on what was asked before, where this is so for
its backend. -/
theorem answer_independent (hfunctional : backend.Functional)
    (hplain : snapshot.restricted = false) (request : Request)
    (bench other : Bench State Plan) :
    (compile backend snapshot request bench).1.map Compiled.unnumbered =
      (compile backend snapshot request other).1.map Compiled.unnumbered := by
  rw [compile, compile]
  cases request.readVars with
  | error e => rfl
  | ok vars =>
      simp only [compileWith, Snapshot.gate?_eq_none_iff.mpr hplain, compileFresh]
      exact map_unnumbered_congr
        (make_unnumbered_eq hfunctional rfl rfl
          (fun _ _ => rfl) bench.workshop other.workshop) vars

/-- What the answer to a request is, and what it changes. A request that is not
turned away has a target. Where its statement cannot be made, the cell of the target
has none, and the variables are kept. A statement that is answered is the one in the
cell of the target, which keeps the one that it has. -/
structure Effect (backend : Backend State Plan) (snapshot : Snapshot)
    (request : Request) (bench : Bench State Plan)
    (answer : Except Error (Compiled Plan)) (after : Bench State Plan) : Prop where
  unrestricted : snapshot.restricted = false → after.cells = bench.cells
  independent : snapshot.restricted = false → backend.Functional → ∀ other,
    (compile backend snapshot request other).1.map Compiled.unnumbered =
      answer.map Compiled.unnumbered
  turnedAway : snapshot.restricted = true → ∀ e, answer = .error e →
    e.turnsAway = true →
    after = bench
  failed : snapshot.restricted = true → ∀ e, answer = .error e →
    e.turnsAway = false →
    ∃ reason target vars, e = .compileFailed reason ∧
      snapshot.Admits request target vars ∧
      (bench.cells.get target.key).statement = none ∧
      after.cells.get target.key = ⟨none, some vars⟩ ∧
      ∀ key, key ≠ target.key → after.cells.get key = bench.cells.get key
  answered : snapshot.restricted = true → ∀ compiled, answer = .ok compiled →
    ∃ target, snapshot.Admits request target compiled.vars ∧
      after.cells.get target.key = ⟨some compiled.statement, some compiled.vars⟩ ∧
      (∀ kept, (bench.cells.get target.key).statement = some kept →
        compiled.statement = kept) ∧
      ∀ key, key ≠ target.key → after.cells.get key = bench.cells.get key

theorem effect_compile (backend : Backend State Plan) (snapshot : Snapshot)
    (request : Request) (bench : Bench State Plan) :
    Effect backend snapshot request bench (compile backend snapshot request bench).1
      (compile backend snapshot request bench).2 where
  unrestricted hplain := cells_compile hplain request bench
  independent hplain hfunctional other :=
    answer_independent hfunctional hplain request other bench
  turnedAway hrestricted e he hturns := by
    rcases compile_let_in_cases backend hrestricted request bench with
      ⟨e', _, hanswer, _⟩ | ⟨target, vars, hadmits, hanswer⟩
    · rw [hanswer]
    · obtain ⟨reason, rfl⟩ := compileFailed_of_admits hadmits he
      cases hturns
  failed hrestricted e he hturns := by
    rcases compile_let_in_cases backend hrestricted request bench with
      ⟨e', hturns', hanswer, _⟩ | ⟨target, vars, hadmits, hanswer⟩
    · rw [hanswer] at he
      cases he
      rw [hturns] at hturns'
      cases hturns'
    · obtain ⟨reason, rfl⟩ := compileFailed_of_admits hadmits he
      rw [hanswer] at he ⊢
      cases hserved : (serve backend snapshot target vars bench).1 with
      | ok statement =>
          rw [hserved] at he
          cases he
      | error e =>
          obtain ⟨hempty, hcell⟩ := get_serve_of_error hserved
          exact ⟨reason, target, vars, rfl, hadmits, hempty, hcell,
            fun key hne => get_serve_of_ne hne vars bench⟩
  answered hrestricted compiled hok := by
    rcases compile_let_in_cases backend hrestricted request bench with
      ⟨e', _, hanswer, _⟩ | ⟨target, vars, hadmits, hanswer⟩
    · rw [hanswer] at hok
      cases hok
    · rw [hanswer] at hok ⊢
      cases hserved : (serve backend snapshot target vars bench).1 with
      | error e =>
          rw [hserved] at hok
          cases hok
      | ok statement =>
          rw [hserved] at hok
          cases hok
          obtain ⟨hcell, hkept⟩ := get_serve_of_ok hserved
          exact ⟨target, hadmits, hcell, hkept,
            fun key hne => get_serve_of_ne hne vars bench⟩

/-- A request is let in for a target with the key. -/
def Snapshot.AdmitsTo (snapshot : Snapshot) (request : Request) (key : TargetKey)
    (vars : Variables) : Prop :=
  ∃ target, snapshot.Admits request target vars ∧ target.key = key

/-- An answer writes to a cell when the request is let in for its target. -/
theorem get_compile_cases (backend : Backend State Plan) (snapshot : Snapshot)
    (request : Request) (bench : Bench State Plan) (key : TargetKey) :
    (∃ vars, snapshot.AdmitsTo request key vars ∧
      ((compile backend snapshot request bench).2.cells.get key).lastVars =
        some vars) ∨
    (∀ vars, ¬snapshot.AdmitsTo request key vars) ∧
      (compile backend snapshot request bench).2.cells.get key =
        bench.cells.get key := by
  cases hrestricted : snapshot.restricted with
  | false =>
      refine Or.inr ⟨fun vars ⟨target, hadmits, _⟩ =>
        not_admits hrestricted hadmits, ?_⟩
      rw [cells_compile hrestricted]
  | true =>
      rcases compile_let_in_cases backend hrestricted request bench with
        ⟨e, _, hanswer, hnone⟩ | ⟨target, vars, hadmits, hanswer⟩
      · exact Or.inr ⟨fun vars ⟨target, hadmits, _⟩ => hnone target vars hadmits,
          by rw [hanswer]⟩
      · rw [hanswer]
        by_cases hkey : key = target.key
        · exact Or.inl ⟨vars, ⟨target, hadmits, hkey.symm⟩,
            by rw [get_serve, if_pos hkey]⟩
        · refine Or.inr ⟨?_, get_serve_of_ne hkey vars bench⟩
          rintro other ⟨known, hknown, rfl⟩
          exact hkey (congrArg Target.key (hknown.eq hadmits))

/-- Of the requests that are let in for a target with the key, the latest one
brought the variables. -/
def Snapshot.Latest (snapshot : Snapshot) (requests : List Request)
    (key : TargetKey) (vars : Variables) : Prop :=
  ∃ before request later, requests = before ++ request :: later ∧
    snapshot.AdmitsTo request key vars ∧
    ∀ other ∈ later, ∀ others, ¬snapshot.AdmitsTo other key others

section Latest

variable {requests : List Request} {request : Request} {key : TargetKey}
  {vars other : Variables}

theorem Snapshot.AdmitsTo.eq (hvars : snapshot.AdmitsTo request key vars)
    (hother : snapshot.AdmitsTo request key other) : vars = other := by
  obtain ⟨_, ⟨hreads, _⟩, _⟩ := hvars
  obtain ⟨_, ⟨hreads', _⟩, _⟩ := hother
  exact Except.ok.inj (hreads.symm.trans hreads')

theorem latest_concat_iff :
    snapshot.Latest (requests ++ [request]) key vars ↔
      snapshot.AdmitsTo request key vars ∨
        (∀ others, ¬snapshot.AdmitsTo request key others) ∧
        snapshot.Latest requests key vars := by
  constructor
  · rintro ⟨before, known, later, hsplit, hknown, hlater⟩
    rcases List.eq_nil_or_concat' later with rfl | ⟨later, last, rfl⟩
    · obtain ⟨_, hsame⟩ := List.append_inj' hsplit rfl
      exact Or.inl (List.singleton_inj.mp hsame ▸ hknown)
    · rw [← List.cons_append, ← List.append_assoc] at hsplit
      obtain ⟨rfl, hsame⟩ := List.append_inj' hsplit rfl
      obtain rfl : request = last := List.singleton_inj.mp hsame
      exact Or.inr ⟨hlater request (by simp), before, known, later, rfl, hknown,
        fun other hother => hlater other (by simp [hother])⟩
  · rintro (hadmits | ⟨hnone, before, known, later, rfl, hknown, hlater⟩)
    · exact ⟨requests, request, [], rfl, hadmits, fun _ hother => nomatch hother⟩
    · refine ⟨before, known, later ++ [request], by simp, hknown,
        fun other hother => ?_⟩
      rcases List.mem_append.mp hother with hearlier | hlast
      · exact hlater other hearlier
      · rw [List.mem_singleton.mp hlast]
        exact hnone

/-- After a run a cell has the variables of the latest request for its target, and
where there was none it is empty. -/
theorem lastVars_benchAfter (backend : Backend State Plan) (snapshot : Snapshot)
    (state : State) (requests : List Request) (key : TargetKey) :
    let cell := (benchAfter backend snapshot requests (.fresh state)).cells.get key
    (∀ vars, cell.lastVars = some vars ↔ snapshot.Latest requests key vars) ∧
      (cell.lastVars = none → cell = .empty) := by
  -- From the end: the last request writes to the cell, or leaves what the others
  -- left there.
  induction requests using List.reverseRecOn with
  | nil =>
      refine ⟨fun vars => ⟨fun hkept => ?_, ?_⟩, fun _ => rfl⟩
      · cases hkept
      · rintro ⟨before, request, later, hsplit, _⟩
        simp at hsplit
  | append_singleton requests request ih =>
      simp only [benchAfter_concat, latest_concat_iff]
      rcases get_compile_cases backend snapshot request
          (benchAfter backend snapshot requests (.fresh state)) key with
        ⟨vars, hadmits, hcell⟩ | ⟨hnone, hcell⟩
      · refine ⟨fun other => ?_, fun h => ?_⟩
        · rw [hcell, Option.some_inj]
          constructor
          · rintro rfl
            exact Or.inl hadmits
          · rintro (hother | ⟨hnone, _⟩)
            · exact hadmits.eq hother
            · exact absurd hadmits (hnone vars)
        · rw [hcell] at h
          cases h
      · rw [hcell]
        refine ⟨fun vars => (ih.1 vars).trans ?_, ih.2⟩
        exact ⟨fun hlatest => Or.inr ⟨hnone, hlatest⟩, fun h =>
          h.elim (fun hadmits => absurd hadmits (hnone vars)) And.right⟩

end Latest

/-- What cells have after a run. Without variables there is no statement either. A
query with an order variable has nothing in a cell of its own, only in those of the
values that it declares. -/
structure Kept (snapshot : Snapshot) (requests : List Request)
    (cells : Cells Plan) : Prop where
  lastVars : ∀ key vars,
    (cells.get key).lastVars = some vars ↔ snapshot.Latest requests key vars
  untouched : ∀ key, (cells.get key).lastVars = none → cells.get key = .empty
  target : ∀ key, cells.get key ≠ .empty →
    ∃ cache target, snapshot.cache = some cache ∧ cache.Serves target ∧
      target.key = key
  ordered : ∀ cache name role r order, snapshot.cache = some cache →
    cache.find? name role = some r → r.entry.item.order = some order →
    ∀ value?, cells.get ⟨name, role, value?⟩ ≠ .empty →
      ∃ value ∈ order.values, value? = some value

theorem serves_of_latest {requests : List Request} {key : TargetKey}
    {vars : Variables} (h : snapshot.Latest requests key vars) :
    ∃ cache target, snapshot.cache = some cache ∧ cache.Serves target ∧
      target.key = key := by
  obtain ⟨_, _, _, _, ⟨target, ⟨_, cache, hgate, hadmitted⟩, hkey⟩, _⟩ := h
  exact ⟨cache, target, (Snapshot.cache_of_gate? hgate).1,
    QueryCache.serves_of_admit hadmitted, hkey⟩

/-- The targets of a query with an order variable have one of the declared values in
their keys. -/
theorem value_of_serves {cache : QueryCache} {target : Target} {r : Registration}
    {order : Order} (hserves : cache.Serves target)
    (hfind : cache.find? target.key.name target.key.role = some r)
    (horder : r.entry.item.order = some order) :
    ∃ value ∈ order.values, target.key.value = some value := by
  obtain ⟨known, hknown, hmem⟩ := hserves
  obtain rfl : r = known := Option.some.inj (hfind.symm.trans hknown)
  obtain ⟨hentry, _, hdeclared⟩ := Registration.mem_targets_iff.mp hmem
  rw [Target.Declared, hentry, horder] at hdeclared
  obtain ⟨value, hvalue, hchosen⟩ := hdeclared
  exact ⟨value, hvalue, by rw [Target.key, hchosen, Option.map_some]⟩

theorem kept_benchAfter (backend : Backend State Plan) (snapshot : Snapshot)
    (state : State) (requests : List Request) :
    Kept snapshot requests
      (benchAfter backend snapshot requests (.fresh state)).cells := by
  have hlast := lastVars_benchAfter backend snapshot state requests
  have htarget : ∀ key,
      (benchAfter backend snapshot requests (.fresh state)).cells.get key ≠ .empty →
      ∃ cache target, snapshot.cache = some cache ∧ cache.Serves target ∧
        target.key = key := by
    intro key hfilled
    obtain ⟨hvars, hempty⟩ := hlast key
    obtain ⟨vars, hkept⟩ := Option.ne_none_iff_exists'.mp (mt hempty hfilled)
    exact serves_of_latest ((hvars vars).mp hkept)
  refine ⟨fun key => (hlast key).1, fun key => (hlast key).2, htarget, ?_⟩
  intro cache name role r order hcache hfind horder value? hfilled
  obtain ⟨known, target, hknown, hserves, hkey⟩ := htarget _ hfilled
  obtain rfl : cache = known := Option.some.inj (hcache.symm.trans hknown)
  have hvalue := value_of_serves hserves (by rw [hkey]; exact hfind) horder
  rwa [hkey] at hvalue

/-- The effect of every answer of an engine, from whatever cells, and what the cells
of an engine have after whatever was asked of it. -/
theorem compile_effects (backend : Backend State Plan) (snapshot : Snapshot) :
    (∀ request bench,
      Effect backend snapshot request bench
        (compile backend snapshot request bench).1
        (compile backend snapshot request bench).2) ∧
    ∀ state requests,
      Kept snapshot requests
        (benchAfter backend snapshot requests (.fresh state)).cells :=
  ⟨effect_compile backend snapshot, kept_benchAfter backend snapshot⟩

end Engine

end QueryGate
