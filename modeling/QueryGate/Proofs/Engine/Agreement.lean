import Mathlib.Data.List.Induction
import QueryGate.Proofs.Engine.Verdict

/-!
The restricted engine and the unrestricted one.

Where the answers of a backend depend on nothing but what it is given, a restricted
engine answers a request as the unrestricted engine answers the registered document
with the variables of the first request that was answered for the same target. The
cells of the cache are what makes it the first request and not the latest one:
`Remembers` says what the cell of a target keeps of a run, and every answer
preserves it. The value that is put in for the order variable is the one that is
there.
-/

namespace QueryGate.Engine

open Access Catalog Document

variable {State Plan : Type}

/-- The answers of a backend do not depend on its state. -/
structure Backend.Functional (backend : Backend State Plan) : Prop where
  compile : ∀ text vars role schema state other,
    (backend.compile text vars role schema state).1 =
      (backend.compile text vars role schema other).1
  generate : ∀ plan schema state other,
    (backend.generate plan schema state).1 = (backend.generate plan schema other).1

/-- Of the variables, a backend reads but one when it compiles a document, or
none. -/
def Backend.ReadsOnly (backend : Backend State Plan) (text : String)
    (var? : Option String) : Prop :=
  ∀ vars other role schema state,
    (∀ var, var? = some var → vars.get? var = other.get? var) →
    (backend.compile text vars role schema state).1 =
      (backend.compile text other role schema state).1

/-- A statement without its number. -/
def Statement.unnumbered (statement : Statement Plan) : Statement Plan :=
  { statement with number := 0 }

/-- An answer whose statement has no number. -/
def Compiled.unnumbered (compiled : Compiled Plan) : Compiled Plan :=
  { compiled with statement := compiled.statement.unnumbered }

/-- The plan of a document and what is written for it. -/
def Backend.outcome (backend : Backend State Plan) (text : String)
    (vars : Variables) (role : Role) (schema : SchemaModel) (state : State) :
    Except String (Plan × Generated) :=
  let compiled := backend.compile text vars role schema state
  compiled.1.bind fun plan =>
    (backend.generate plan schema compiled.2).1.map fun written => (plan, written)

/-- What an outcome makes an engine answer, but for the number. -/
def answerOf (role : Role) :
    Except String (Plan × Generated) → Except Error (Statement Plan)
  | .ok (plan, written) => .ok ⟨0, role, plan, written.params, written.sql⟩
  | .error reason => .error (.compileFailed reason)

section Making

variable {backend : Backend State Plan} {snapshot plain : Snapshot} {role : Role}
  {text : String} {vars other : Variables}

theorem makeFor_unnumbered (backend : Backend State Plan) (snapshot : Snapshot)
    (role : Role) (text : String) (vars : Variables) (workshop : Workshop State) :
    (makeFor backend snapshot role text vars workshop).1.map Statement.unnumbered =
      answerOf role
        (backend.outcome text vars role snapshot.schema workshop.backend) := by
  rcases makeFor_cases backend snapshot role text vars workshop with
    ⟨reason, after, hcompile⟩ | ⟨plan, middle, hcompile,
      ⟨reason, after, hgenerate⟩ |
      ⟨written, after, hgenerate⟩⟩
  · rw [makeFor_of_refused hcompile, Backend.outcome, hcompile]
    rfl
  · simp only [makeFor_of_unwritten hcompile hgenerate, Backend.outcome, hcompile,
      Except.bind, hgenerate]
    rfl
  · simp only [makeFor_of_written hcompile hgenerate, Backend.outcome, hcompile,
      Except.bind, hgenerate]
    rfl

/-- Variables that the backend cannot tell apart have one outcome, in all states. -/
theorem outcome_eq (hfunctional : backend.Functional) {schema : SchemaModel}
    (hcompile : ∀ state, (backend.compile text vars role schema state).1 =
      (backend.compile text other role schema state).1) (state state' : State) :
    backend.outcome text vars role schema state =
      backend.outcome text other role schema state' := by
  have hcompiled : (backend.compile text vars role schema state).1 =
      (backend.compile text other role schema state').1 :=
    (hcompile state).trans (hfunctional.compile _ _ _ _ _ _)
  simp only [Backend.outcome, hcompiled]
  cases (backend.compile text other role schema state').1 with
  | error reason => rfl
  | ok plan => exact congrArg (Except.map _) (hfunctional.generate plan schema _ _)

/-- Statements that are made of the same, by engines of one structure and one table
of roles, differ in nothing but their numbers. -/
theorem make_unnumbered_eq (hfunctional : backend.Functional)
    (hschema : plain.schema = snapshot.schema)
    (hroles : plain.roles = snapshot.roles) {name : String}
    (hcompile : ∀ role state,
      (backend.compile text vars role snapshot.schema state).1 =
        (backend.compile text other role snapshot.schema state).1)
    (workshop workshop' : Workshop State) :
    (make backend snapshot name text vars workshop).1.map Statement.unnumbered =
      (make backend plain name text other workshop').1.map
        Statement.unnumbered := by
  cases hrole : snapshot.roles.role? name with
  | none => rw [make_of_no_role hrole, make_of_no_role (hroles ▸ hrole)]
  | some role =>
      rw [make_of_role hrole, make_of_role (hroles ▸ hrole), makeFor_unnumbered,
        makeFor_unnumbered, hschema, outcome_eq hfunctional (hcompile role)]

end Making

/-- The request for another document, with the same variables and role and without
an order. -/
def Request.forText (request : Request) (text : String) : Request :=
  { request with query := text, order := none }

/-- An engine that is not restricted makes a statement for every request. -/
theorem compile_plain (backend : Backend State Plan) {plain : Snapshot}
    (hplain : plain.restricted = false) {request : Request} {vars : Variables}
    (hvars : request.readVars = .ok vars) (text : String)
    (bench : Bench State Plan) :
    (compile backend plain (request.forText text) bench).1 =
      (make backend plain request.role text vars bench.workshop).1.map
        fun statement => ⟨statement, vars⟩ := by
  have hgate : plain.gate? = none := Snapshot.gate?_eq_none_iff.mpr hplain
  have hread : (request.forText text).readVars = .ok vars := hvars
  simp only [compile, hread, compileWith, hgate, compileFresh]
  rfl

section Run

variable (backend : Backend State Plan) (snapshot : Snapshot) (state : State)
  (target : Target)

/-- After some requests a request is let in for a target and answered with a
statement. -/
structure Obtains (done : List Request) (request : Request) : Prop where
  admitted : ∃ vars, snapshot.Admits request target vars
  answered : ∃ compiled,
    (compile backend snapshot request
      (benchAfter backend snapshot done (.fresh state))).1 =
      .ok compiled

/-- One of the requests of a run is let in for a target and answered with a
statement. -/
def Obtained (requests : List Request) : Prop :=
  ∃ done request, done ++ [request] <+: requests ∧
    Obtains backend snapshot state target done request

/-- The first one of them. -/
structure FirstObtains (requests done : List Request) (first : Request) : Prop where
  within : done ++ [first] <+: requests
  obtains : Obtains backend snapshot state target done first
  earliest : ¬ Obtained backend snapshot state target done

/-- What the cell of a target keeps of a run. -/
structure Remembers (requests : List Request)
    (cell : Option (Statement Plan)) : Prop where
  empty : cell = none → ¬ Obtained backend snapshot state target requests
  filled : ∀ statement, cell = some statement → ∃ done first vars workshop,
    FirstObtains backend snapshot state target requests done first ∧
      snapshot.Admits first target vars ∧
      (makeTarget backend snapshot target vars workshop).1 = .ok statement

end Run

section Remembering

variable {backend : Backend State Plan} {snapshot : Snapshot} {state : State}
  {target : Target} {cache : QueryCache}

theorem FirstObtains.mono {requests more done : List Request} {first : Request}
    (h : FirstObtains backend snapshot state target requests done first)
    (hmore : requests <+: more) :
    FirstObtains backend snapshot state target more done first :=
  { h with within := h.within.trans hmore }

theorem FirstObtains.obtained {requests done : List Request} {first : Request}
    (h : FirstObtains backend snapshot state target requests done first) :
    Obtained backend snapshot state target requests :=
  ⟨done, first, h.within, h.obtains⟩

theorem obtained_concat_iff {requests : List Request} {request : Request} :
    Obtained backend snapshot state target (requests ++ [request]) ↔
      Obtained backend snapshot state target requests ∨
        Obtains backend snapshot state target requests request := by
  constructor
  · rintro ⟨done, other, hwithin, hobtains⟩
    rcases List.prefix_concat_iff.mp hwithin with hall | hearlier
    · obtain ⟨rfl, hsame⟩ := List.append_inj' hall rfl
      obtain rfl : other = request := List.singleton_inj.mp hsame
      exact Or.inr hobtains
    · exact Or.inl ⟨done, other, hearlier, hobtains⟩
  · rintro (⟨done, other, hwithin, hobtains⟩ | hobtains)
    · exact ⟨done, other, hwithin.trans (List.prefix_append _ _), hobtains⟩
    · exact ⟨requests, request, List.prefix_rfl, hobtains⟩

/-- An answer leaves the cell of a target as it is, unless the request is let in for
the target, the cell is empty, and a statement is made. -/
theorem compile_cell_cases (hgate : snapshot.gate? = some cache)
    (hserves : cache.Serves target) (request : Request) (bench : Bench State Plan) :
    let before := (bench.cells.get target.key).statement
    let after :=
      ((compile backend snapshot request bench).2.cells.get target.key).statement
    (after = before ∧ (before = none → ¬ ∃ vars compiled,
      snapshot.Admits request target vars ∧
        (compile backend snapshot request bench).1 = .ok compiled)) ∨
      ∃ vars statement, before = none ∧ after = some statement ∧
        snapshot.Admits request target vars ∧
        (compile backend snapshot request bench).1 = .ok ⟨statement, vars⟩ ∧
        (makeTarget backend snapshot target vars bench.workshop).1 =
          .ok statement := by
  intro before after
  rcases compile_restricted_cases backend hgate request bench with
    ⟨e, hanswer⟩ | ⟨vars, served, hvars, hadmitted, hanswer⟩
  · refine Or.inl ⟨by rw [show after = before from by
      simp only [after, hanswer, before]], ?_⟩
    rintro - ⟨vars, compiled, -, hok⟩
    rw [hanswer] at hok
    cases hok
  · have hin : snapshot.Admits request served vars :=
      ⟨hvars, cache, hgate, hadmitted⟩
    by_cases hkey : target.key = served.key
    · obtain rfl : target = served :=
        hserves.eq_of_key_eq (QueryCache.serves_of_admit hadmitted) hkey
      cases hcell : (bench.cells.get target.key).statement with
      | some kept =>
          refine Or.inl ⟨?_, fun hempty => ?_⟩
          · simp only [after, before, hanswer, serve_of_filled hcell,
              Cells.statement_storeVars]
          · simp only [before, hcell] at hempty
            cases hempty
      | none =>
          rcases hmade : makeTarget backend snapshot target vars bench.workshop with
            ⟨e | statement, workshop⟩
          · refine Or.inl ⟨?_, ?_⟩
            · simp only [after, before, hanswer, serve_of_failed hcell hmade,
                Cells.statement_storeVars]
            · rintro - ⟨other, compiled, -, hok⟩
              rw [hanswer, serve_of_failed hcell hmade] at hok
              cases hok
          · refine Or.inr ⟨vars, statement, hcell, ?_, hin, ?_, by rw [hmade]⟩
            · simp only [after, hanswer, serve_of_made hcell hmade,
                Cells.statement_storeStatement, if_true]
            · rw [hanswer, serve_of_made hcell hmade]
              rfl
    · refine Or.inl ⟨?_, ?_⟩
      · simp only [after, hanswer, get_serve_of_ne hkey]
        rfl
      · rintro - ⟨other, compiled, hother, -⟩
        exact hkey (congrArg Target.key (hother.eq hin))

/-- A cell is empty until the first request for its target is answered, and then
keeps the statement that was made for this request. -/
theorem remembers_benchAfter (hgate : snapshot.gate? = some cache)
    (hserves : cache.Serves target) (requests : List Request) :
    Remembers backend snapshot state target requests
      ((benchAfter backend snapshot requests (.fresh state)).cells.get
        target.key).statement := by
  induction requests using List.reverseRecOn with
  | nil =>
      constructor
      · rintro - ⟨done, request, hwithin, -⟩
        simp at hwithin
      · rintro statement hcell
        cases hcell
  | append_singleton requests request ih =>
      rw [benchAfter_concat]
      rcases @compile_cell_cases _ _ backend _ _ _ hgate hserves request
          (benchAfter backend snapshot requests (.fresh state)) with
        ⟨hsame, hother⟩ | ⟨vars, statement, hempty, hfilled, hadmits,
          hanswer, hmade⟩
      · rw [hsame]
        constructor
        · intro hnone hobtained
          rcases obtained_concat_iff.mp hobtained with hearlier
            | ⟨⟨vars, hin⟩, compiled, hok⟩
          · exact ih.empty hnone hearlier
          · exact hother hnone ⟨vars, compiled, hin, hok⟩
        · intro statement hcell
          obtain ⟨done, first, vars, workshop, hfirst, hmade⟩ :=
            ih.filled statement hcell
          exact ⟨done, first, vars, workshop,
            hfirst.mono (List.prefix_append _ _), hmade⟩
      · rw [hfilled]
        constructor
        · intro hnone
          cases hnone
        · rintro made hmadeHere
          obtain rfl : statement = made := Option.some.inj hmadeHere
          exact ⟨requests, request, vars, _,
            ⟨List.prefix_rfl, ⟨⟨vars, hadmits⟩, _, hanswer⟩, ih.empty hempty⟩,
            hadmits, hmade⟩

end Remembering

/-- What is known of a request that is let in. -/
structure LetIn (snapshot : Snapshot) (request : Request) (target : Target)
    (vars : Variables) : Prop where
  reads : request.readVars = .ok vars
  role : target.role = request.role
  known : ∃ role, snapshot.roles.role? target.role = some role
  chooses : Chooses vars target.entry target.order

theorem Snapshot.Admits.letIn {snapshot : Snapshot} {request : Request}
    {target : Target} {vars : Variables} (h : snapshot.Admits request target vars) :
    LetIn snapshot request target vars := by
  obtain ⟨hreads, cache, _, hadmitted⟩ := h
  obtain ⟨hknown, ⟨entry, name⟩, hfind, _, hresolve⟩ :=
    QueryCache.admit_eq_ok_iff.mp hadmitted
  obtain ⟨_, rfl⟩ := QueryCache.isFor_of_find? hfind
  obtain ⟨hentry, hrole⟩ :=
    Registration.eq_of_mem_targets (Registration.mem_targets_of_resolve hresolve)
  obtain ⟨registered, role, order?⟩ := target
  obtain rfl : registered = entry := hentry
  obtain rfl : role = request.role := hrole
  exact
    { reads := hreads
      role := rfl
      known := Option.isSome_iff_exists.mp hknown
      chooses := Registration.chooses_iff.mpr hresolve }

/-- The variables that choose a value hold it already. -/
theorem withOrder_of_chooses {vars : Variables} {entry : AllowEntry}
    {order? : Option (String × String)} (h : Chooses vars entry order?) :
    withOrder vars order? = vars := by
  cases h with
  | plain _ => rfl
  | value _ hvalue _ _ => exact Json.Fields.insert_of_get? hvalue

/-- The variables hold what they choose for the declared order variable. -/
theorem get?_of_chooses {vars : Variables} {entry : AllowEntry}
    {order? : Option (String × String)} (h : Chooses vars entry order?)
    {var : String} (hvar : entry.item.order.map Order.var = some var) :
    vars.get? var = order?.map fun order => .text order.2 := by
  cases h with
  | plain hnone =>
      rw [hnone] at hvar
      cases hvar
  | value horder hvalue _ _ =>
      rw [horder] at hvar
      cases hvar
      exact hvalue

/-- Answers that differ in the numbers of their statements are the same for the same
variables. -/
theorem map_unnumbered_congr {a b : Except Error (Statement Plan)}
    (h : a.map Statement.unnumbered = b.map Statement.unnumbered)
    (vars : Variables) :
    (a.map fun statement => Compiled.mk statement vars).map Compiled.unnumbered =
      (b.map fun statement => Compiled.mk statement vars).map
        Compiled.unnumbered := by
  have hanswer : ∀ answer : Except Error (Statement Plan),
      (answer.map fun statement => Compiled.mk statement vars).map
      Compiled.unnumbered =
        (answer.map Statement.unnumbered).map fun statement =>
          Compiled.mk statement vars := by
    intro answer
    cases answer <;> rfl
  rw [hanswer, hanswer, h]

/-- A request that is let in is answered as its target is served. -/
theorem compile_of_admits {backend : Backend State Plan} {snapshot : Snapshot}
    {target : Target} {request : Request} {vars : Variables}
    (hadmits : snapshot.Admits request target vars) (bench : Bench State Plan) :
    (compile backend snapshot request bench).1 =
      (serve backend snapshot target vars bench).1.map fun statement =>
        ⟨statement, vars⟩ := by
  obtain ⟨hreads, cache, hgate, hadmitted⟩ := hadmits
  rw [answer_of_gate hgate, hreads, Except.bind, hadmitted]
  rfl

/-- A request that is let in has a statement made for it, or is answered with the
statement that was made for the first request of its target. -/
theorem answer_cases (backend : Backend State Plan) {snapshot : Snapshot}
    (state : State) (earlier : List Request) {request : Request} {target : Target}
    {vars : Variables} (hadmits : snapshot.Admits request target vars) :
    let bench := benchAfter backend snapshot earlier (.fresh state)
    (¬ Obtained backend snapshot state target earlier ∧
      (compile backend snapshot request bench).1 =
        (makeTarget backend snapshot target vars bench.workshop).1.map
          fun statement => ⟨statement, vars⟩) ∨
    ∃ done first known workshop statement,
      FirstObtains backend snapshot state target earlier done first ∧
        snapshot.Admits first target known ∧
        (makeTarget backend snapshot target known workshop).1 = .ok statement ∧
        (compile backend snapshot request bench).1 = .ok ⟨statement, vars⟩ := by
  intro bench
  obtain ⟨_, cache, hgate, hadmitted⟩ := id hadmits
  have hremembers : Remembers backend snapshot state target earlier
      (bench.cells.get target.key).statement :=
    remembers_benchAfter hgate (QueryCache.serves_of_admit hadmitted) earlier
  rw [compile_of_admits hadmits]
  cases hcell : (bench.cells.get target.key).statement with
  | none => exact Or.inl ⟨hremembers.empty hcell, by rw [serve_of_empty hcell]⟩
  | some kept =>
      obtain ⟨done, first, known, workshop, hfirst, hin, hmade⟩ :=
        hremembers.filled kept hcell
      exact Or.inr ⟨done, first, known, workshop, kept, hfirst, hin, hmade,
        by rw [serve_of_filled hcell]; rfl⟩

/-- The unrestricted engine in the place of a restricted one: it has the same
structure of the database and the same roles. -/
structure Snapshot.Unrestricts (plain snapshot : Snapshot) : Prop where
  unrestricted : plain.restricted = false
  schema : plain.schema = snapshot.schema
  roles : plain.roles = snapshot.roles

section Agreement

variable {backend : Backend State Plan} {snapshot plain : Snapshot}
  {target : Target} {request : Request} {vars : Variables}

/-- The statement of a target, made for a request that is let in, is the one that
the unrestricted engine makes of the registered document for the same variables, or
for others that the backend cannot tell from them. -/
theorem makeTarget_agrees (hfunctional : backend.Functional)
    (hplain : plain.Unrestricts snapshot) {other : Variables}
    (hadmits : snapshot.Admits request target vars)
    (hcompile : ∀ role state,
      (backend.compile target.entry.text vars role snapshot.schema state).1 =
        (backend.compile target.entry.text other role snapshot.schema state).1)
    (workshop workshop' : Workshop State) :
    (makeTarget backend snapshot target vars workshop).1.map Statement.unnumbered =
      (make backend plain target.role target.entry.text other workshop').1.map
        Statement.unnumbered := by
  rw [makeTarget, withOrder_of_chooses hadmits.letIn.chooses]
  exact make_unnumbered_eq hfunctional hplain.schema hplain.roles hcompile
    workshop workshop'

theorem compile_forText (hplain : plain.Unrestricts snapshot)
    (hadmits : snapshot.Admits request target vars) (bench : Bench State Plan) :
    (compile backend plain (request.forText target.entry.text) bench).1 =
      (make backend plain target.role target.entry.text vars bench.workshop).1.map
        fun statement => ⟨statement, vars⟩ := by
  rw [compile_plain backend hplain.unrestricted hadmits.letIn.reads,
    hadmits.letIn.role]

/-- Where a statement is made for a request, the unrestricted engine makes it,
too. -/
theorem exists_plain_of_made (hfunctional : backend.Functional)
    (hplain : plain.Unrestricts snapshot)
    (hadmits : snapshot.Admits request target vars) {workshop : Workshop State}
    {statement : Statement Plan}
    (hmade : (makeTarget backend snapshot target vars workshop).1 = .ok statement)
    (bench : Bench State Plan) :
    ∃ other,
      (compile backend plain (request.forText target.entry.text) bench).1 =
        .ok other ∧
      statement.unnumbered = other.statement.unnumbered := by
  have hagrees :=
    makeTarget_agrees hfunctional hplain hadmits (fun _ _ => rfl) workshop
    bench.workshop
  rw [compile_forText hplain hadmits]
  rw [hmade] at hagrees
  cases hplainMade :
    (make backend plain target.role target.entry.text vars bench.workshop).1 with
  | error e =>
      rw [hplainMade] at hagrees
      cases hagrees
  | ok other =>
      rw [hplainMade] at hagrees
      exact ⟨⟨other, vars⟩, rfl, Except.ok.inj hagrees⟩

/-- Every statement that is answered is the one of the registered document for the
variables of the first request of the run that was answered for the same target. -/
theorem exists_first_of_answered (hfunctional : backend.Functional)
    (hplain : plain.Unrestricts snapshot)
    (hadmits : snapshot.Admits request target vars) {state : State}
    {earlier : List Request} {compiled : Compiled Plan}
    (hok : (compile backend snapshot request
      (benchAfter backend snapshot earlier (.fresh state))).1 = .ok compiled)
    (bench : Bench State Plan) :
    ∃ done first other,
      FirstObtains backend snapshot state target (earlier ++ [request]) done first ∧
        first.role = request.role ∧
        (compile backend plain (first.forText target.entry.text) bench).1 =
          .ok other ∧
        compiled.statement.unnumbered = other.statement.unnumbered := by
  rcases answer_cases backend state earlier hadmits with
    ⟨hnone, hanswer⟩ | ⟨done, first, known, workshop, statement, hfirst, hin, hmade,
      hanswer⟩
  · cases hmade : (makeTarget backend snapshot target vars
        (benchAfter backend snapshot earlier (.fresh state)).workshop).1 with
    | error e =>
        rw [hanswer, hmade] at hok
        cases hok
    | ok statement =>
        have hfirst : FirstObtains backend snapshot state target
            (earlier ++ [request]) earlier request :=
          ⟨List.prefix_rfl, ⟨⟨vars, hadmits⟩, compiled, hok⟩, hnone⟩
        obtain ⟨other, hother, hsame⟩ :=
          exists_plain_of_made hfunctional hplain hadmits hmade bench
        rw [hanswer, hmade] at hok
        cases hok
        exact ⟨earlier, request, other, hfirst, rfl, hother, hsame⟩
  · obtain ⟨other, hother, hsame⟩ :=
      exists_plain_of_made hfunctional hplain hin hmade bench
    have hrole : first.role = request.role :=
      hin.letIn.role.symm.trans hadmits.letIn.role
    rw [hanswer] at hok
    cases hok
    exact ⟨done, first, other, hfirst.mono (List.prefix_append _ _), hrole,
      hother, hsame⟩

/-- The first request of a target is answered as the registered document is, for its
variables. -/
theorem answer_of_not_obtained (hfunctional : backend.Functional)
    (hplain : plain.Unrestricts snapshot)
    (hadmits : snapshot.Admits request target vars) {state : State}
    {earlier : List Request}
    (hnone : ¬ Obtained backend snapshot state target earlier)
    (bench : Bench State Plan) :
    (compile backend snapshot request
        (benchAfter backend snapshot earlier (.fresh state))).1.map
        Compiled.unnumbered =
      (compile backend plain (request.forText target.entry.text) bench).1.map
        Compiled.unnumbered := by
  rcases answer_cases backend state earlier hadmits with
    ⟨_, hanswer⟩ | ⟨_, _, _, _, _, hfirst, _⟩
  · rw [hanswer, compile_forText hplain hadmits]
    exact map_unnumbered_congr
      (makeTarget_agrees hfunctional hplain hadmits (fun _ _ => rfl) _ _) vars
  · exact absurd hfirst.obtained hnone

/-- Where the backend reads the order variable alone, it cannot tell a request from
the first one of its target. -/
theorem answer_of_readsOnly (hfunctional : backend.Functional)
    (hplain : plain.Unrestricts snapshot)
    (hadmits : snapshot.Admits request target vars)
    (hreads : backend.ReadsOnly target.entry.text
      (target.entry.item.order.map Order.var))
    (state : State) (earlier : List Request) (bench : Bench State Plan) :
    (compile backend snapshot request
        (benchAfter backend snapshot earlier (.fresh state))).1.map
        Compiled.unnumbered =
      (compile backend plain (request.forText target.entry.text) bench).1.map
        Compiled.unnumbered := by
  rcases answer_cases backend state earlier hadmits with
    ⟨hnone, _⟩ | ⟨_, _, known, workshop, statement, _, hin, hmade, hanswer⟩
  · exact answer_of_not_obtained hfunctional hplain hadmits hnone bench
  · have hcompile : ∀ role state,
        (backend.compile target.entry.text known role snapshot.schema state).1 =
          (backend.compile target.entry.text vars role snapshot.schema state).1 :=
      fun role state => hreads _ _ _ _ _ fun var hvar =>
        (get?_of_chooses hin.letIn.chooses hvar).trans
          (get?_of_chooses hadmits.letIn.chooses hvar).symm
    have hagrees :=
      makeTarget_agrees hfunctional hplain hin hcompile workshop bench.workshop
    rw [hmade] at hagrees
    rw [hanswer, compile_forText hplain hadmits]
    exact map_unnumbered_congr hagrees vars

/-- A request that is let in fails only with its backend. -/
theorem compileFailed_of_admits (hadmits : snapshot.Admits request target vars)
    {bench : Bench State Plan} {e : Error}
    (herror : (compile backend snapshot request bench).1 = .error e) :
    ∃ reason, e = .compileFailed reason := by
  obtain ⟨role, hrole⟩ := hadmits.letIn.known
  rw [compile_of_admits hadmits] at herror
  cases hserved : (serve backend snapshot target vars bench).1 with
  | error e' =>
      rw [hserved] at herror
      cases herror
      exact compileFailed_of_serve hrole hserved
  | ok statement =>
      rw [hserved] at herror
      cases herror

end Agreement

/-- How the answer of a restricted engine to a request that is let in for a target
compares with what the unrestricted engine answers for the registered document. A
statement is the one for the request of the run that first obtained one for the
target. This is the request itself as long as no other one obtained a statement, and
which one it was makes no difference where only the order variable counts. -/
structure Agrees (backend : Backend State Plan) (snapshot : Snapshot)
    (state : State) (earlier : List Request) (request : Request) (target : Target)
    (plainAnswer : Request → Except Error (Compiled Plan))
    (answer : Except Error (Compiled Plan)) : Prop where
  first : ∀ compiled, answer = .ok compiled → ∃ done first other,
    FirstObtains backend snapshot state target (earlier ++ [request]) done first ∧
      first.role = request.role ∧
      plainAnswer (first.forText target.entry.text) = .ok other ∧
      compiled.statement.unnumbered = other.statement.unnumbered
  fresh : ¬ Obtained backend snapshot state target earlier →
    answer.map Compiled.unnumbered =
      (plainAnswer (request.forText target.entry.text)).map Compiled.unnumbered
  readsOnly : backend.ReadsOnly target.entry.text
    (target.entry.item.order.map Order.var) →
    answer.map Compiled.unnumbered =
      (plainAnswer (request.forText target.entry.text)).map Compiled.unnumbered
  failure : ∀ e, answer = .error e → ∃ reason, e = .compileFailed reason

/-- A restricted engine agrees with the unrestricted one of the same structure and
the same roles, whatever was asked of either of them before, where the answers of
the backend do not depend on its state. Only requests that are let in for a target
are answered with a statement. -/
theorem restricted_agrees (backend : Backend State Plan)
    (hfunctional : backend.Functional) {snapshot plain : Snapshot}
    (hrestricted : snapshot.restricted = true) (hplain : plain.Unrestricts snapshot)
    (state : State) (earlier : List Request) (request : Request)
    (bench : Bench State Plan) : let answer :=
      (compile backend snapshot request
        (benchAfter backend snapshot earlier (.fresh state))).1
    (∀ compiled, answer = .ok compiled → ∃ target vars,
      snapshot.Admits request target vars) ∧
      ∀ target vars, snapshot.Admits request target vars →
        Agrees backend snapshot state earlier request target
          (fun other => (compile backend plain other bench).1) answer := by
  intro answer
  constructor
  · intro compiled hok
    obtain ⟨cache, hgate⟩ := Snapshot.exists_gate hrestricted
    rcases compile_restricted_cases backend hgate request
        (benchAfter backend snapshot earlier (.fresh state)) with
      ⟨e, hanswer⟩ | ⟨vars, target, hreads, hadmitted, _⟩
    · have herror : answer = .error e := congrArg Prod.fst hanswer
      rw [hok] at herror
      cases herror
    · exact ⟨target, vars, hreads, cache, hgate, hadmitted⟩
  · intro target vars hadmits
    exact
      { first := fun _ hok =>
          exists_first_of_answered hfunctional hplain hadmits hok bench
        fresh := fun hnone =>
          answer_of_not_obtained hfunctional hplain hadmits hnone bench
        readsOnly := fun hreads =>
          answer_of_readsOnly hfunctional hplain hadmits hreads state earlier bench
        failure := fun _ herror => compileFailed_of_admits hadmits herror }

namespace SortedUsers

theorem functional_echo : Backend.echo.Functional where
  compile _ _ _ _ _ _ := rfl
  generate _ _ _ _ := rfl

theorem readsOnly_echo (text : String) (var? : Option String) :
    Backend.echo.ReadsOnly text var? :=
  fun _ _ _ _ _ _ => rfl

/-- The same engine while it is developed. -/
def development : Snapshot :=
  { snapshot with settings := { snapshot.settings with production := false } }

theorem unrestricts_development : development.Unrestricts snapshot :=
  ⟨rfl, rfl, rfl⟩

theorem admits_descending :
    snapshot.Admits descending ⟨sorted, "user", some ("sort", "desc")⟩
      [("sort", .text "desc")] := by
  have hreads : descending.readVars = .ok [("sort", .text "desc")] := by
    with_unfolding_all rfl
  exact ⟨hreads, .ofAllowList (.ofRecords readings.records) ["anon", "user"], rfl,
    by decide +kernel⟩

/-- After the other value was asked for, the answer is the one of an engine that was
never asked. -/
theorem restricted_agrees_descending :
    Backend.echo.Functional ∧ snapshot.restricted = true ∧
    development.Unrestricts snapshot ∧
      snapshot.Admits descending ⟨sorted, "user", some ("sort", "desc")⟩
        [("sort", .text "desc")] ∧
      (compile Backend.echo snapshot descending
        (benchAfter Backend.echo snapshot earlier (.fresh ()))).1.isOk = true ∧
      (compile Backend.echo snapshot descending
          (benchAfter Backend.echo snapshot earlier (.fresh ()))).1.map
          Compiled.unnumbered =
        (compile Backend.echo development (descending.forText document)
          (.fresh ())).1.map Compiled.unnumbered := by
  have hrestricted : snapshot.restricted = true := rfl
  obtain ⟨_, hagrees⟩ := restricted_agrees .echo functional_echo hrestricted
    unrestricts_development () earlier descending (.fresh ())
  exact ⟨functional_echo, hrestricted, unrestricts_development, admits_descending,
    by decide +kernel,
    (hagrees _ _ admits_descending).readsOnly (readsOnly_echo _ _)⟩

end SortedUsers

end QueryGate.Engine
