import QueryGate.Proofs.Document.NormalForms
import QueryGate.Proofs.Engine.Provenance

/-!
What a restricted engine answers, exactly.

A request is turned away for its variables, for its role, for its document or for
the value of its order variable, in this order. What is left is answered with a
statement, unless there is none yet and the backend fails to make it. `Verdict` says
when each of these is the answer; the conditions are about the request, the roles,
the registered documents and the backend, and not about the functions that look at
them.
-/

namespace QueryGate

namespace Access.RoleTable

theorem mem_names_iff {table : RoleTable} {name : String} :
    name ∈ table.names ↔ ∃ role, table.role? name = some role := by
  rw [names, Text.sorted, List.mem_mergeSort, List.mem_map,
    ← Option.isSome_iff_exists, role?, List.find?_isSome]
  simp

end Access.RoleTable

namespace Document

/-- Two documents have the same letters and digits in their operations, and define
fragments of the same names with the same letters and digits, equally often and in
any order. -/
def Item.Alike (a b : Item) : Prop :=
  Text.alphanumerics a.query.toList = Text.alphanumerics b.query.toList ∧
    (a.fragments.map fun f => (f.name, Text.alphanumerics f.value.toList)).Perm
      (b.fragments.map fun f => (f.name, Text.alphanumerics f.value.toList))

end Document

namespace Engine

open Access Catalog Document

namespace Request

/-- The variables that a request brings: none, or those of the JSON object that its
text spells. -/
inductive Brings (request : Request) : Variables → Prop
  | absent (h : request.vars = none) : Brings request []
  | blank {text : String} (h : request.vars = some text)
      (hblank : Text.isBlankText text = true) :
      Brings request []
  | null {text : String} (h : request.vars = some text)
      (hnull : Json.ofText? (Text.trim text.toList) = some .null) :
      Brings request []
  | object {text : String} {fields : Variables} (h : request.vars = some text)
      (hobject : Json.ofText? (Text.trim text.toList) = some (.object fields)) :
      Brings request fields

/-- A blank text spells no value. -/
theorem ofText?_of_blank {text : String} (hblank : Text.isBlankText text = true) :
    Json.ofText? (Text.trim text.toList) = none := by
  rw [Text.trim_eq_nil_of_all_blank hblank]
  with_unfolding_all rfl

theorem brings_iff {request : Request} {vars : Variables} :
    request.Brings vars ↔ request.readVars = .ok vars := by
  constructor
  · intro hbrings
    cases hbrings with
    | absent h => rw [readVars, h]
    | blank h hblank => simp [readVars, h, readVariables, hblank]
    | @null text h hnull =>
        have hfull : ¬ Text.isBlankText text = true := by
          intro hblank
          rw [ofText?_of_blank hblank] at hnull
          cases hnull
        simp [readVars, h, readVariables, hfull, hnull]
    | @object text fields h hobject =>
        have hfull : ¬ Text.isBlankText text = true := by
          intro hblank
          rw [ofText?_of_blank hblank] at hobject
          cases hobject
        simp [readVars, h, readVariables, hfull, hobject]
  · intro hread
    rw [readVars] at hread
    split at hread
    · next text htext =>
        rw [readVariables] at hread
        split at hread
        · next hblank =>
            cases hread
            exact .blank htext hblank
        · split at hread
          · next fields hobject =>
              cases hread
              exact .object htext hobject
          · next hnull =>
              cases hread
              exact .null htext hnull
          · cases hread
          · cases hread
    · next habsent =>
        cases hread
        exact .absent habsent

/-- Variables that cannot be read are all that reading them can complain about. -/
theorem invalidVariables_of_readVars {request : Request} {e : Error}
    (h : request.readVars = .error e) : ∃ fault, e = .invalidVariables fault := by
  rw [readVars] at h
  split at h
  · rw [readVariables] at h
    split at h
    · cases h
    · split at h <;> cases h <;> exact ⟨_, rfl⟩
  · cases h

theorem complies_iff {request : Request} {registered : Item} :
    request.complies registered = true ↔
    (Item.ofText request.query).Alike registered := by
  rw [complies, Bool.and_eq_true, sameText_iff, Item.sameFragments_iff,
    Item.Alike, item]

/-- The name under which a request looks for a query: its own where it has one, or
else that of the operation in its document. -/
inductive LooksUnder (request : Request) : String → Prop
  | own (hnamed : request.name ≠ "") : LooksUnder request request.name
  | operation (hunnamed : request.name = "") :
      LooksUnder request (Item.ofText request.query).name

theorem looksUnder_iff {request : Request} {name : String} :
    request.LooksUnder name ↔ request.lookupName = name := by
  by_cases hname : request.name = ""
  · have hlookup : request.lookupName = (Item.ofText request.query).name := by
      rw [lookupName, hname]
      rfl
    rw [hlookup]
    constructor
    · rintro (hnamed | _)
      · exact absurd hname hnamed
      · rfl
    · rintro rfl
      exact .operation hname
  · have hlookup : request.lookupName = request.name := by
      rw [lookupName, if_neg (by simpa using hname)]
    rw [hlookup]
    constructor
    · rintro (_ | hunnamed)
      · rfl
      · exact absurd hunnamed hname
    · rintro rfl
      exact .own hname

/-- A request asks for a query: it is the one that was registered last under the
name under which the request looks for it, and the documents are alike. -/
def AsksFor (request : Request) (list : AllowList) (entry : AllowEntry) : Prop :=
  (∃ name, request.LooksUnder name ∧ list.lastNamed? name = some entry) ∧
    (Item.ofText request.query).Alike entry.item

theorem asksFor_iff_lookupName {request : Request} {list : AllowList}
    {entry : AllowEntry} :
    request.AsksFor list entry ↔
      list.lastNamed? request.lookupName = some entry ∧
      request.item.Alike entry.item := by
  simp [AsksFor, looksUnder_iff, item]

theorem asksFor_iff {request : Request} {list : AllowList} {roles : List String}
    (hrole : request.role ∈ roles) {entry : AllowEntry} :
    request.AsksFor list entry ↔
      (QueryCache.ofAllowList list roles).match? request =
        some ⟨entry, request.role⟩ := by
  rw [QueryCache.match?, QueryCache.find?_ofAllowList, if_pos hrole,
    asksFor_iff_lookupName, Option.filter_eq_some_iff, complies_iff,
    Option.map_eq_some_iff, item]
  constructor
  · rintro ⟨hlast, halike⟩
    exact ⟨⟨entry, hlast, rfl⟩, halike⟩
  · rintro ⟨⟨found, hlast, hfound⟩, halike⟩
    cases hfound
    exact ⟨hlast, halike⟩

end Request

/-- Variables choose among the statements of a query: where it declares an order
variable, they give it one of the declared values. -/
inductive Chooses (vars : Variables) (entry : AllowEntry) :
    Option (String × String) → Prop
  | plain (horder : entry.item.order = none) : Chooses vars entry none
  | value {order : Order} {value : String} (horder : entry.item.order = some order)
      (hvalue : vars.get? order.var = some (.text value)) (hnonempty : value ≠ "")
      (hdeclared : value ∈ order.values) :
      Chooses vars entry (some (order.var, value))

/-- Variables choose nothing: the order variable is not there, holds no text or the
empty one, or a value that is not declared. -/
inductive ChoosesNone (vars : Variables) (order : Order) : OrderFault → Prop
  | absent (h : vars.get? order.var = none) : ChoosesNone vars order .missing
  | other {json : Json} (h : vars.get? order.var = some json)
      (hother : ∀ text, json ≠ .text text) :
      ChoosesNone vars order .missing
  | empty (h : vars.get? order.var = some (.text "")) :
      ChoosesNone vars order .missing
  | undeclared {value : String} (h : vars.get? order.var = some (.text value))
      (hnonempty : value ≠ "") (hundeclared : value ∉ order.values) :
      ChoosesNone vars order (.unknown value)

namespace Registration

theorem mem_orderValues {entry : AllowEntry} {role : String} {order : Order}
    (horder : entry.item.order = some order) {value : String} :
    value ∈ (Registration.mk entry role).orderValues ↔ value ∈ order.values := by
  rw [orderValues, horder, List.mem_eraseDups]
  rfl

theorem resolve_of_order {r : Registration} {order : Order}
    (horder : r.entry.item.order = some order) (vars : Variables) :
    r.resolve vars = r.select order.var (vars.get? order.var) := by
  rw [resolve, orderVariable?, horder]
  rfl

theorem resolve_of_no_order {r : Registration} (horder : r.entry.item.order = none)
    (vars : Variables) : r.resolve vars = .ok r.plainTarget := by
  rw [resolve, orderVariable?, horder]
  rfl

theorem chooses_iff {entry : AllowEntry} {role : String} {vars : Variables}
    {order? : Option (String × String)} :
    Chooses vars entry order? ↔
      (Registration.mk entry role).resolve vars = .ok ⟨entry, role, order?⟩ := by
  cases horder : entry.item.order with
  | none =>
      rw [resolve_of_no_order horder]
      constructor
      · rintro (_ | ⟨hother, _⟩)
        · rfl
        · rw [horder] at hother
          cases hother
      · intro h
        cases h
        exact .plain horder
  | some order =>
      rw [resolve_of_order horder, select_eq_ok_iff]
      constructor
      · intro h
        cases h with
        | plain hnone =>
            rw [horder] at hnone
            cases hnone
        | value hsome hvalue hnonempty hdeclared =>
            cases horder.symm.trans hsome
            exact ⟨_, hvalue, by simpa using hnonempty,
              (mem_orderValues horder).mpr hdeclared, rfl⟩
      · rintro ⟨value, hvalue, hnonempty, hdeclared, htarget⟩
        cases htarget
        have hvalues := (mem_orderValues horder).mp hdeclared
        exact .value horder hvalue (by simpa using hnonempty) hvalues

theorem choosesNone_of_resolve {entry : AllowEntry} {role : String}
    {vars : Variables} {e : Error}
    (h : (Registration.mk entry role).resolve vars = .error e) :
    ∃ order fault, entry.item.order = some order ∧ ChoosesNone vars order fault ∧
      e = .invalidVariableValue order.var fault := by
  cases horder : entry.item.order with
  | none =>
      rw [resolve_of_no_order horder] at h
      cases h
  | some order =>
      rw [resolve_of_order horder] at h
      unfold select at h
      split at h
      · next value hvalue =>
          split at h
          · next hempty =>
              obtain rfl : value = "" := by simpa using hempty
              cases h
              exact ⟨order, .missing, rfl, .empty hvalue, rfl⟩
          · next hnonempty =>
              split at h
              · cases h
              · next hundeclared =>
                  cases h
                  have hnot : value ∉ order.values := by
                    rw [← mem_orderValues horder]
                    simpa using hundeclared
                  exact ⟨order, .unknown value, rfl,
                    .undeclared hvalue (by simpa using hnonempty) hnot, rfl⟩
      · next hother =>
          cases h
          refine ⟨order, .missing, rfl, ?_, rfl⟩
          cases hvalue : vars.get? order.var with
          | none => exact .absent hvalue
          | some json =>
              exact .other hvalue fun text htext => hother text (htext ▸ hvalue)

theorem resolve_of_choosesNone {entry : AllowEntry} {role : String}
    {vars : Variables} {order : Order} {fault : OrderFault}
    (horder : entry.item.order = some order) (h : ChoosesNone vars order fault) :
    (Registration.mk entry role).resolve vars =
      .error (.invalidVariableValue order.var fault) := by
  rw [resolve_of_order horder]
  cases h with
  | absent h =>
      rw [h]
      rfl
  | @other json h hother =>
      rw [h]
      cases json with
      | text text => exact absurd rfl (hother text)
      | _ => rfl
  | empty h =>
      rw [h]
      rfl
  | @undeclared value h hnonempty hundeclared =>
      have hnot : value ∉ (Registration.mk entry role).orderValues :=
        mt (mem_orderValues horder).mp hundeclared
      rw [h]
      simp [select, hnonempty, hnot]

theorem choosesNone_iff {entry : AllowEntry} {role : String} {vars : Variables}
    {var : String} {fault : OrderFault} :
    (∃ order, entry.item.order = some order ∧ ChoosesNone vars order fault ∧
      var = order.var) ↔
      (Registration.mk entry role).resolve vars =
        .error (.invalidVariableValue var fault) := by
  constructor
  · rintro ⟨order, horder, hnone, rfl⟩
    exact resolve_of_choosesNone horder hnone
  · intro h
    obtain ⟨order, _, horder, hnone, heq⟩ := choosesNone_of_resolve h
    cases heq
    exact ⟨order, horder, hnone, rfl⟩

end Registration

section Making

variable {State Plan : Type}

/-- A backend refuses a document: it does not compile it, or writes nothing for its
plan. -/
def Backend.Refuses (backend : Backend State Plan) (text : String)
    (vars : Variables) (role : Role) (schema : SchemaModel) (state : State)
    (reason : String) : Prop :=
  let compiled := backend.compile text vars role schema state
  compiled.1 = .error reason ∨
    ∃ plan, compiled.1 = .ok plan ∧
      (backend.generate plan schema compiled.2).1 = .error reason

/-- There is no statement of a target yet, and the backend refuses to make one with
the variables, where the order variable is given its value. -/
def Unmade (backend : Backend State Plan) (snapshot : Snapshot)
    (bench : Bench State Plan) (role : Role) (target : Target) (vars : Variables)
    (reason : String) : Prop :=
  (bench.cells.get target.key).statement = none ∧
    backend.Refuses target.entry.text
      (target.order.elim vars fun (var, value) => vars.insert var (.text value))
      role snapshot.schema bench.workshop.backend reason

theorem makeFor_eq_error_iff {backend : Backend State Plan} {snapshot : Snapshot}
    {role : Role} {text : String} {vars : Variables} {workshop : Workshop State}
    {e : Error} :
    (makeFor backend snapshot role text vars workshop).1 = .error e ↔
      ∃ reason,
        backend.Refuses text vars role snapshot.schema workshop.backend reason ∧
        e = .compileFailed reason := by
  rcases makeFor_cases backend snapshot role text vars workshop with
    ⟨reason, after, hcompile⟩ | ⟨plan, middle, hcompile,
      ⟨reason, after, hgenerate⟩ |
      ⟨written, after, hgenerate⟩⟩
  · rw [makeFor_of_refused hcompile, Except.error.injEq]
    simpa [Backend.Refuses, hcompile] using eq_comm
  · rw [makeFor_of_unwritten hcompile hgenerate, Except.error.injEq]
    simpa [Backend.Refuses, hcompile, hgenerate] using eq_comm
  · rw [makeFor_of_written hcompile hgenerate]
    simp [Backend.Refuses, hcompile, hgenerate]

/-- Serving a target fails only where there is no statement yet, and as the backend
fails. -/
theorem serve_eq_error_iff {backend : Backend State Plan} {snapshot : Snapshot}
    {target : Target} {vars : Variables} {bench : Bench State Plan} {role : Role}
    (hrole : snapshot.roles.role? target.role = some role) {e : Error} :
    (serve backend snapshot target vars bench).1 = .error e ↔
      ∃ reason, Unmade backend snapshot bench role target vars reason ∧
        e = .compileFailed reason := by
  cases hcell : (bench.cells.get target.key).statement with
  | some statement =>
      rw [serve_of_filled hcell]
      simp [Unmade, hcell]
  | none =>
      have hmake : makeTarget backend snapshot target vars bench.workshop =
          makeFor backend snapshot role target.entry.text
            (withOrder vars target.order) bench.workshop := make_of_role hrole _ _
      rw [serve_of_empty hcell, hmake, makeFor_eq_error_iff, withOrder_eq_elim]
      simp [Unmade, hcell]

theorem unmade_iff {backend : Backend State Plan} {snapshot : Snapshot}
    {target : Target} {vars : Variables} {bench : Bench State Plan} {role : Role}
    (hrole : snapshot.roles.role? target.role = some role) {reason : String} :
    Unmade backend snapshot bench role target vars reason ↔
      (serve backend snapshot target vars bench).1 =
        .error (.compileFailed reason) := by
  rw [serve_eq_error_iff hrole]
  simp

theorem compileFailed_of_serve {backend : Backend State Plan} {snapshot : Snapshot}
    {target : Target} {vars : Variables} {bench : Bench State Plan} {role : Role}
    (hrole : snapshot.roles.role? target.role = some role) {e : Error}
    (h : (serve backend snapshot target vars bench).1 = .error e) :
    ∃ reason, e = .compileFailed reason := by
  obtain ⟨reason, _, he⟩ := (serve_eq_error_iff hrole).mp h
  exact ⟨reason, he⟩

end Making

/-- When a restricted engine gives which answer to a request: exactly where the
variables cannot be read; otherwise, exactly where there is no such role; otherwise,
exactly where the document is not the registered one; otherwise, exactly where the
order variable selects nothing; otherwise, exactly where there is no statement yet
and the backend fails. Otherwise there is a statement. There is no other answer. -/
structure Verdict {State Plan : Type} (backend : Backend State Plan)
    (snapshot : Snapshot) (list : AllowList) (bench : Bench State Plan)
    (request : Request) (answer : Except Error (Compiled Plan)) : Prop where
  invalidVariables : (∃ fault, answer = .error (.invalidVariables fault)) ↔
    ¬ ∃ vars, request.Brings vars
  roleNotDefined : ∀ name, answer = .error (.roleNotDefined name) ↔
    (∃ vars, request.Brings vars) ∧ request.role ∉ snapshot.roles.names ∧
      request.role = name
  notFound : answer = .error .notFound ↔
    (∃ vars, request.Brings vars) ∧ request.role ∈ snapshot.roles.names ∧
      ¬ ∃ entry, request.AsksFor list entry
  invalidVariableValue : ∀ var fault,
    answer = .error (.invalidVariableValue var fault) ↔
      ∃ vars entry order, request.Brings vars ∧
        request.role ∈ snapshot.roles.names ∧ request.AsksFor list entry ∧
        entry.item.order = some order ∧ ChoosesNone vars order fault ∧
        var = order.var
  compileFailed : ∀ reason, answer = .error (.compileFailed reason) ↔
    ∃ vars role entry order?, request.Brings vars ∧
      snapshot.roles.role? request.role = some role ∧ request.AsksFor list entry ∧
      Chooses vars entry order? ∧
      Unmade backend snapshot bench role ⟨entry, request.role, order?⟩ vars reason
  ok : (∃ compiled, answer = .ok compiled) ↔
    ∃ vars role entry order?, request.Brings vars ∧
      snapshot.roles.role? request.role = some role ∧ request.AsksFor list entry ∧
      Chooses vars entry order? ∧
      ¬ ∃ reason,
        Unmade backend snapshot bench role ⟨entry, request.role, order?⟩ vars reason
  others : ∀ e, answer = .error e →
    e.ofRequest = true ∧ ∀ name, e ≠ .missingVariable name

section Restricted

variable {State Plan : Type} {backend : Backend State Plan} {snapshot : Snapshot}
  {cache : QueryCache} {list : AllowList} {request : Request}
  {bench : Bench State Plan}

/-- A restricted engine reads the variables, asks its gate for a target, and serves
it. -/
theorem answer_of_gate (hgate : snapshot.gate? = some cache) :
    (compile backend snapshot request bench).1 =
      request.readVars.bind fun vars =>
        cache.admit snapshot.roles request vars |>.bind fun target =>
          (serve backend snapshot target vars bench).1.map fun statement =>
            ⟨statement, vars⟩ := by
  unfold compile
  cases request.readVars with
  | error e => rfl
  | ok vars =>
      cases hadmitted : cache.admit snapshot.roles request vars with
      | error e => simp [compileWith, hgate, hadmitted, Except.bind, Except.map]
      | ok target => simp [compileWith, hgate, hadmitted, Except.bind]

/-- Nothing that a restricted engine does looks at the order of a request. -/
theorem compile_order_irrelevant (hgate : snapshot.gate? = some cache)
    (order : Option (String × String)) :
    compile backend snapshot { request with order := order } bench =
      compile backend snapshot request bench := by
  unfold compile compileWith
  rw [hgate]
  rfl

theorem admit_of_no_role (hrole : snapshot.roles.role? request.role = none)
    (vars : Variables) :
    cache.admit snapshot.roles request vars =
      .error (.roleNotDefined request.role) := by
  simp [RoleTable.contains, QueryCache.admit, hrole]

theorem admit_of_no_match {role : Role}
    (hrole : snapshot.roles.role? request.role = some role)
    (hmatch : cache.match? request = none) (vars : Variables) :
    cache.admit snapshot.roles request vars = .error .notFound := by
  simp [RoleTable.contains, QueryCache.admit, hrole, hmatch]

theorem admit_of_match {role : Role} {r : Registration}
    (hrole : snapshot.roles.role? request.role = some role)
    (hmatch : cache.match? request = some r) (vars : Variables) :
    cache.admit snapshot.roles request vars = r.resolve vars := by
  simp [RoleTable.contains, QueryCache.admit, hrole, hmatch]

theorem role_of_match? {r : Registration} (hmatch : cache.match? request = some r) :
    r.role = request.role := by
  rw [QueryCache.match?, Option.filter_eq_some_iff] at hmatch
  exact (QueryCache.isFor_of_find? hmatch.1).2

/-- A request that asks for a registered document is answered as its order variable
and the backend have it. -/
theorem verdict_of_asked {vars : Variables} {role : Role} {entry : AllowEntry}
    (hbrings : ∀ other, request.Brings other ↔ vars = other)
    (hrole : snapshot.roles.role? request.role = some role)
    (hasked : ∀ other, request.AsksFor list other ↔ entry = other) :
    Verdict backend snapshot list bench request
      (((Registration.mk entry request.role).resolve vars).bind fun target =>
        (serve backend snapshot target vars bench).1.map fun statement =>
          ⟨statement, vars⟩) := by
  have hknown : request.role ∈ snapshot.roles.names :=
    RoleTable.mem_names_iff.mpr ⟨role, hrole⟩
  have hchooses : ∀ order?, Chooses vars entry order? ↔
      (Registration.mk entry request.role).resolve vars =
        .ok ⟨entry, request.role, order?⟩ :=
    fun order? => Registration.chooses_iff
  have hfaulty : ∀ var fault, (∃ order, entry.item.order = some order ∧
      ChoosesNone vars order fault ∧ var = order.var) ↔
      (Registration.mk entry request.role).resolve vars =
        .error (.invalidVariableValue var fault) :=
    fun var fault => Registration.choosesNone_iff
  cases hresolve : (Registration.mk entry request.role).resolve vars with
  | error e =>
      obtain ⟨order, fault, _, _, rfl⟩ :=
        Registration.choosesNone_of_resolve hresolve
      constructor <;>
        simp [hbrings, hknown, hasked, hchooses, hfaulty, hresolve, Except.bind,
          Error.ofRequest]
  | ok target =>
      obtain ⟨hentry, hfor⟩ := Registration.eq_of_mem_targets
        (Registration.mem_targets_of_resolve hresolve)
      obtain ⟨known, name, order?⟩ := target
      obtain rfl : known = entry := hentry
      obtain rfl : name = request.role := hfor
      have hunmade : ∀ reason,
        Unmade backend snapshot bench role ⟨known, request.role, order?⟩
          vars reason ↔
          (serve backend snapshot ⟨known, request.role, order?⟩ vars bench).1 =
            .error (.compileFailed reason) :=
        fun reason => unmade_iff hrole
      cases hserved :
        (serve backend snapshot ⟨known, request.role, order?⟩ vars bench).1 with
      | error e =>
          obtain ⟨reason, rfl⟩ := compileFailed_of_serve hrole hserved
          constructor <;>
            simp [hbrings, hknown, hasked, hchooses, hfaulty, hresolve, hrole,
              hunmade, hserved, Except.bind, Except.map, Error.ofRequest]
      | ok statement =>
          constructor <;>
            simp [hbrings, hknown, hasked, hchooses, hfaulty, hresolve, hrole,
              hunmade, hserved, Except.bind, Except.map]

/-- The gate asks for one thing after the other, so that each answer excludes the
others. -/
theorem verdict_of_gate
    (hgate : snapshot.gate? = some (.ofAllowList list snapshot.roles.names)) :
    Verdict backend snapshot list bench request
      (compile backend snapshot request bench).1 := by
  rw [answer_of_gate hgate]
  cases hvars : request.readVars with
  | error e =>
      obtain ⟨fault, rfl⟩ := Request.invalidVariables_of_readVars hvars
      constructor <;> simp [Request.brings_iff, hvars, Except.bind, Error.ofRequest]
  | ok vars =>
      have hbrings : ∀ other, request.Brings other ↔ vars = other := by
        simp [Request.brings_iff, hvars]
      cases hrole : snapshot.roles.role? request.role with
      | none =>
          have hunknown : request.role ∉ snapshot.roles.names := by
            rw [RoleTable.mem_names_iff, hrole]
            simp
          simp only [Except.bind, admit_of_no_role hrole]
          constructor <;> simp [hbrings, hunknown, hrole, Error.ofRequest]
      | some role =>
          have hknown : request.role ∈ snapshot.roles.names :=
            RoleTable.mem_names_iff.mpr ⟨role, hrole⟩
          have hasks : ∀ entry, request.AsksFor list entry ↔
              (QueryCache.ofAllowList list snapshot.roles.names).match? request =
                some ⟨entry, request.role⟩ :=
            fun entry => Request.asksFor_iff hknown
          cases hmatch : (QueryCache.ofAllowList list snapshot.roles.names).match?
            request with
          | none =>
              simp only [Except.bind, admit_of_no_match hrole hmatch]
              constructor <;> simp [hbrings, hknown, hasks, hmatch, Error.ofRequest]
          | some r =>
              obtain ⟨entry, name⟩ := r
              obtain rfl : name = request.role := role_of_match? hmatch
              simp only [Except.bind, admit_of_match hrole hmatch]
              exact verdict_of_asked hbrings hrole (by simp [hasks, hmatch])

end Restricted

/-- Whatever was asked before, a restricted engine answers a request as its
variables, its role, its document and the value of its order variable deserve, in
this order, and only the making of a statement may fail then. The order of the
request makes no difference. -/
theorem restricted_verdict {State Plan : Type} (backend : Backend State Plan)
    {readings : Readings} {generation : Nat} {snapshot : Snapshot}
    (hbuilt : readings.snapshot generation = .ok snapshot)
    (hrestricted : snapshot.restricted = true) (request : Request)
    (bench : Bench State Plan) :
    Verdict backend snapshot (.ofRecords readings.records) bench request
        (compile backend snapshot request bench).1 ∧
      ∀ order, compile backend snapshot { request with order := order } bench =
        compile backend snapshot request bench := by
  obtain ⟨hgate, _⟩ := Readings.gate_of_restricted hbuilt hrestricted
  exact ⟨verdict_of_gate hgate, compile_order_irrelevant hgate⟩

namespace SortedUsers

/-- The registration that declares an order variable. -/
def sorted : AllowEntry :=
  ⟨"users", "", .query, document, "", .ofText document⟩

/-- A user asks for the users in an order that is not declared. -/
def newest : Request :=
  ask "user" "\x7b\"sort\": \"newest\"\x7d"

theorem asksFor_newest : newest.AsksFor (.ofRecords readings.records) sorted :=
  ⟨⟨"users", .own (by decide), by decide +kernel⟩, rfl, .refl _⟩

theorem restricted_verdict_newest :
    readings.snapshot 0 = .ok snapshot ∧ snapshot.restricted = true ∧
      (compile Backend.echo snapshot newest (.fresh ())).1 =
        .error (.invalidVariableValue "sort" (.unknown "newest")) := by
  have hrestricted : snapshot.restricted = true := rfl
  obtain ⟨verdict, _⟩ :=
    restricted_verdict .echo snapshot_readings hrestricted newest (.fresh ())
  have hbrings : newest.Brings [("sort", .text "newest")] :=
    .object rfl (by with_unfolding_all rfl)
  have hrole : newest.role ∈ snapshot.roles.names := by
    show "user" ∈ roles.names
    simp [names_roles]
  have horder : sorted.item.order = some ⟨"sort", ["asc", "desc"]⟩ := by
    decide +kernel
  refine ⟨snapshot_readings, hrestricted, (verdict.invalidVariableValue _ _).mpr
    ⟨_, sorted, _, hbrings, hrole, asksFor_newest, horder,
      .undeclared rfl ?_ ?_, rfl⟩⟩
  · decide
  · decide

end SortedUsers

end Engine

end QueryGate
