import QueryGate.Proofs.Engine.Agreement
import QueryGate.Proofs.Engine.Trace

/-!
What validation sees.

A statement is validated against the variables of its request, and it was compiled
with these and the order value. Main statement: the verdict names the first
parameter that the variables of the request do not hold, and it is the verdict that
the variables of the compilation give unless the parameter that it names is the
order variable.
-/

namespace QueryGate.Engine

open Access Catalog

variable {State Plan : Type}

theorem find?_eraseDups {κ : Type} [DecidableEq κ] (wanted : κ → Bool)
    (xs : List κ) : xs.eraseDups.find? wanted = xs.find? wanted := by
  induction xs using List.reverseRecOn with
  | nil => rfl
  | append_singleton xs x ih =>
      rw [eraseDups_concat, List.find?_append]
      by_cases hmem : x ∈ xs
      · rw [if_pos hmem, ih]
        -- What repeats is wanted only where something before it was.
        cases hfound : xs.find? wanted with
        | some y => rfl
        | none =>
            have hunwanted : ¬wanted x = true := List.find?_eq_none.mp hfound x hmem
            rw [Option.none_or, List.find?_cons_of_neg hunwanted, List.find?_nil]
      · rw [if_neg hmem, List.find?_append, ih]

/-- Of the names of parameters, the first one that variables do not hold. -/
structure FirstMissing (vars : Variables) (params : List Placeholder)
    (name : String) : Prop where
  missing : vars.contains name = false
  first : ∃ before p after, params = before ++ p :: after ∧ p.name = name ∧
    ∀ q ∈ before, vars.contains q.name = true

/-- A verdict says what variables hold of parameters: it is a failure where one of
them is missing, and names the first one then. -/
structure Tells (params : List Placeholder) (vars : Variables)
    (verdict : Except Error Unit) : Prop where
  fails_iff : (∃ e, verdict = .error e) ↔ ∃ p ∈ params, vars.contains p.name = false
  names : ∀ e, verdict = .error e → ∃ name, e = .missingVariable name ∧
    FirstMissing vars params name

section Verdicts

variable {params : List Placeholder} {vars : Variables} {name other : String}

theorem FirstMissing.exists_mem (h : FirstMissing vars params name) :
    ∃ p ∈ params, p.name = name := by
  obtain ⟨before, p, after, rfl, hname, _⟩ := h.first
  exact ⟨p, by simp, hname⟩

theorem firstMissing_iff :
    FirstMissing vars params name ↔
      (params.map Placeholder.name).find? (fun name => !vars.contains name) =
        some name := by
  rw [List.find?_eq_some_iff_append]
  simp only [List.map_eq_append_iff, List.map_eq_cons_iff]
  constructor
  · rintro ⟨hmissing, before, p, after, rfl, hname, hbefore⟩
    refine ⟨by simp [hmissing], before.map Placeholder.name,
      after.map Placeholder.name,
      ⟨before, p :: after, rfl, rfl, p, after, rfl, hname, rfl⟩, ?_⟩
    simpa using hbefore
  · rintro ⟨hmissing, _, _, ⟨before, _, rfl, rfl, p, after, rfl, hname, _⟩, hbefore⟩
    exact ⟨by simpa using hmissing, before, p, after, rfl, hname,
      by simpa using hbefore⟩

theorem FirstMissing.unique (h : FirstMissing vars params name)
    (hother : FirstMissing vars params other) : name = other :=
  Option.some.inj ((firstMissing_iff.mp h).symm.trans (firstMissing_iff.mp hother))

theorem tells_ok (hall : ∀ p ∈ params, vars.contains p.name = true) :
    Tells params vars (.ok ()) where
  fails_iff := by
    constructor
    · rintro ⟨e, he⟩
      cases he
    · rintro ⟨p, hp, hmissing⟩
      exact absurd (hmissing.symm.trans (hall p hp)) Bool.false_ne_true
  names e he := nomatch he

theorem FirstMissing.tells (h : FirstMissing vars params name) :
    Tells params vars (.error (.missingVariable name)) where
  fails_iff := by
    obtain ⟨p, hp, rfl⟩ := h.exists_mem
    exact ⟨fun _ => ⟨p, hp, h.missing⟩, fun _ => ⟨_, rfl⟩⟩
  names e he := by
    cases he
    exact ⟨name, rfl, h⟩

/-- Validation finds all parameters among the variables, or it names the first that
is missing. -/
theorem Statement.validate_cases (statement : Statement Plan) (vars : Variables) :
    (statement.validate vars = .ok () ∧
      ∀ p ∈ statement.params, vars.contains p.name = true) ∨
    ∃ name, statement.validate vars = .error (.missingVariable name) ∧
      FirstMissing vars statement.params name := by
  rw [validate, required, find?_eraseDups]
  cases hfound : (statement.params.map Placeholder.name).find? fun name =>
    !vars.contains name with
  | none =>
      rw [List.find?_eq_none] at hfound
      refine Or.inl ⟨rfl, fun p hp => ?_⟩
      simpa using hfound p.name (List.mem_map_of_mem hp)
  | some name => exact Or.inr ⟨name, rfl, firstMissing_iff.mpr hfound⟩

theorem Statement.tells_validate (statement : Statement Plan) (vars : Variables) :
    Tells statement.params vars (statement.validate vars) := by
  rcases statement.validate_cases vars with ⟨hok, hall⟩ | ⟨name, herror, hfirst⟩
  · rw [hok]
    exact tells_ok hall
  · rw [herror]
    exact hfirst.tells

end Verdicts

section Ordered

variable {params : List Placeholder} {vars : Variables}
  {order : Option (String × String)} {name : String}

/-- The order value adds the order variable to the variables, and no other name. -/
theorem contains_withOrder :
    (withOrder vars order).contains name = true ↔
      vars.contains name = true ∨ order.map Prod.fst = some name := by
  cases order with
  | none => simp [withOrder]
  | some chosen =>
      obtain ⟨var, value⟩ := chosen
      by_cases hname : name = var
      · subst hname
        simp [withOrder, Json.Fields.contains, Json.Fields.get?_insert_self]
      · simp [withOrder, Json.Fields.contains,
          Json.Fields.get?_insert_of_ne _ _ hname, Ne.symm hname]

/-- Unless it is the order variable, what is missing at first is so with the order
value as well. -/
theorem FirstMissing.withOrder (h : FirstMissing vars params name)
    (hother : order.map Prod.fst ≠ some name) :
    FirstMissing (withOrder vars order) params name where
  missing := by
    rw [Bool.eq_false_iff, ne_eq, contains_withOrder, not_or, h.missing]
    exact ⟨Bool.false_ne_true, hother⟩
  first := by
    obtain ⟨before, p, after, hsplit, hname, hbefore⟩ := h.first
    exact ⟨before, p, after, hsplit, hname,
      fun q hq => contains_withOrder.mpr (Or.inl (hbefore q hq))⟩

/-- The verdict on variables is the one on the variables with the order value,
unless the order variable is what is missing at first. -/
theorem Statement.tells_withOrder_iff (statement : Statement Plan) :
    Tells statement.params (withOrder vars order) (statement.validate vars) ↔
      ∀ var, order.map Prod.fst = some var →
        ¬FirstMissing vars statement.params var := by
  constructor
  · intro htells var hvar hfirst
    rcases statement.validate_cases vars with ⟨_, hall⟩ | ⟨name, herror, hname⟩
    · obtain ⟨p, hp, rfl⟩ := hfirst.exists_mem
      exact Bool.false_ne_true (hfirst.missing.symm.trans (hall p hp))
    · obtain ⟨_, hsame, hmissing⟩ := htells.names _ herror
      cases hsame
      have hheld : (Engine.withOrder vars order).contains var = true :=
        contains_withOrder.mpr (Or.inr hvar)
      rw [hfirst.unique hname] at hheld
      exact Bool.false_ne_true (hmissing.missing.symm.trans hheld)
  · intro hother
    rcases statement.validate_cases vars with ⟨hok, hall⟩ | ⟨name, herror, hfirst⟩
    · rw [hok]
      exact tells_ok fun p hp => contains_withOrder.mpr (Or.inl (hall p hp))
    · rw [herror]
      exact (hfirst.withOrder fun hvar => hother name hvar hfirst).tells

/-- Where all parameters are among the variables and the order variable, only that
one can be missing. -/
theorem Statement.validate_of_available (statement : Statement Plan)
    (hall : ∀ p ∈ statement.params, (withOrder vars order).contains p.name = true) :
    statement.validate vars = .ok () ∨
      ∃ var, order.map Prod.fst = some var ∧ vars.contains var = false ∧
        statement.validate vars = .error (.missingVariable var) := by
  rcases statement.validate_cases vars with ⟨hok, _⟩ | ⟨name, herror, hfirst⟩
  · exact Or.inl hok
  · obtain ⟨p, hp, rfl⟩ := hfirst.exists_mem
    rcases contains_withOrder.mp (hall p hp) with hheld | hvar
    · exact absurd (hfirst.missing.symm.trans hheld) Bool.false_ne_true
    · exact Or.inr ⟨p.name, hvar, hfirst.missing, herror⟩

end Ordered

/-- A statement that an unrestricted engine answers with was compiled for the
request, with its variables and its order value. -/
theorem origin_of_compile (backend : Backend State Plan) {snapshot : Snapshot}
    (hplain : snapshot.restricted = false) {request : Request}
    {bench : Bench (State × List Call) (Traced Plan)}
    {compiled : Compiled (Traced Plan)}
    (hok : (compile backend.traced snapshot request bench).1 = .ok compiled) :
    request.readVars = .ok compiled.vars ∧
      compiled.statement.origin =
        ⟨request.query, withOrder compiled.vars request.order,
          compiled.statement.role, snapshot.schema⟩ := by
  have hgate : snapshot.gate? = none := Snapshot.gate?_eq_none_iff.mpr hplain
  unfold compile at hok
  cases hvars : request.readVars with
  | error e =>
      rw [hvars] at hok
      cases hok
  | ok vars =>
      simp only [hvars, compileWith, hgate, compileFresh] at hok
      cases hrole : snapshot.roles.role? request.role with
      | none =>
          rw [make_of_no_role hrole] at hok
          cases hok
      | some role =>
          obtain ⟨answer, after, hmade, _, _, horigin⟩ :=
            makeFor_traced backend snapshot role request.query
              (withOrder vars request.order) bench.workshop
          rw [make_of_role hrole, hmade] at hok
          cases answer with
          | error e => cases hok
          | ok statement =>
              cases hok
              obtain ⟨hcall, hstatement⟩ := horigin statement rfl
              exact ⟨rfl, hcall.trans (by rw [hstatement])⟩

/-- Of what an unrestricted engine answers with, the verdict is that of the
variables that the request brings. The statement was compiled with these and, where
the request has an order, with the order variable at its value. The verdict is that
of the variables that the statement was compiled with, unless the order variable of
the request is what its own variables miss at first. Where all parameters were there
to compile with, the verdict is good or it names the order variable. -/
theorem compile_validated (backend : Backend State Plan) {snapshot : Snapshot}
    (hplain : snapshot.restricted = false) {request : Request}
    {bench : Bench (State × List Call) (Traced Plan)}
    {compiled : Compiled (Traced Plan)}
    (hok : (compile backend.traced snapshot request bench).1 = .ok compiled) :
    request.Brings compiled.vars ∧
      compiled.statement.origin =
        ⟨request.query,
          request.order.elim compiled.vars
            fun (var, value) => compiled.vars.insert var (.text value),
          compiled.statement.role, snapshot.schema⟩ ∧
      Tells compiled.statement.params compiled.vars compiled.validate ∧
      (Tells compiled.statement.params compiled.statement.origin.vars
        compiled.validate ↔
        ∀ var, request.order.map Prod.fst = some var →
          ¬FirstMissing compiled.vars compiled.statement.params var) ∧
      ((∀ p ∈ compiled.statement.params,
          compiled.statement.origin.vars.contains p.name = true) →
        compiled.validate = .ok () ∨
          ∃ var, request.order.map Prod.fst = some var ∧
            compiled.vars.contains var = false ∧
            compiled.validate = .error (.missingVariable var)) := by
  obtain ⟨hvars, horigin⟩ := origin_of_compile backend hplain hok
  have horiginVars : compiled.statement.origin.vars =
      withOrder compiled.vars request.order := by rw [horigin]
  rw [← withOrder_eq_elim]
  refine ⟨Request.brings_iff.mpr hvars, horigin,
    compiled.statement.tells_validate _, ?_, ?_⟩
  · rw [horiginVars]
    exact compiled.statement.tells_withOrder_iff
  · rw [horiginVars]
    exact compiled.statement.validate_of_available

/-- A backend that echoes documents, and whose statements have a parameter for the
order. -/
def Backend.sorting : Backend Unit String where
  compile text _ _ _ state := (.ok text, state)
  generate plan _ state := (.ok ⟨plan, [⟨"sort", "text"⟩]⟩, state)

namespace SortedUsers

/-- The users in descending order, for a caller who may bring the order variable as
well. -/
def listing (vars : Option String) : Request :=
  ⟨"", document, vars, "user", some ("sort", "desc")⟩

/-- What the caller gets who brings some variables. -/
def listed (vars : Variables) : Compiled (Traced String) where
  statement :=
    { number := 0
      role := ⟨"user", "", [], false⟩
      plan :=
        ⟨document, document, withOrder vars (some ("sort", "desc")),
          ⟨"user", "", [], false⟩,
        development.schema⟩
      params := [⟨"sort", "text"⟩]
      sql := document }
  vars := vars

/-- A caller who brings the order variable, even with another value, gets a good
verdict. -/
theorem compile_validated_ascending :
    development.restricted = false ∧
      (compile Backend.sorting.traced development
        (listing (some "\x7b\"sort\": \"asc\"\x7d")) (.fresh ((), []))).1 =
          .ok (listed [("sort", .text "asc")]) ∧
      (listed [("sort", .text "asc")]).validate = .ok () := by
  have hok : (compile Backend.sorting.traced development
      (listing (some "\x7b\"sort\": \"asc\"\x7d")) (.fresh ((), []))).1 =
        .ok (listed [("sort", .text "asc")]) := by
    with_unfolding_all rfl
  obtain ⟨_, _, _, _, havailable⟩ := compile_validated Backend.sorting rfl hok
  refine ⟨rfl, hok, ?_⟩
  rcases havailable (by decide) with hgood | ⟨var, hvar, hmissing, _⟩
  · exact hgood
  · cases hvar
    cases hmissing

/-- To a caller who does not, the order variable is missing, though the statement
was compiled with it. -/
theorem validate_misses_order :
    development.restricted = false ∧
      (compile Backend.sorting.traced development (listing none)
        (.fresh ((), []))).1 =
        .ok (listed []) ∧
      (∀ p ∈ (listed []).statement.params,
        (listed []).statement.origin.vars.contains p.name = true) ∧
      (listed []).validate = .error (.missingVariable "sort") ∧
      ¬Tells (listed []).statement.params (listed []).statement.origin.vars
        (listed []).validate := by
  have herror : (listed []).validate = .error (.missingVariable "sort") := by decide
  refine ⟨rfl, by with_unfolding_all rfl, by decide, herror, fun htells => ?_⟩
  obtain ⟨p, hp, hmissing⟩ := htells.fails_iff.mp ⟨_, herror⟩
  obtain rfl : p = ⟨"sort", "text"⟩ := List.mem_singleton.mp hp
  cases hmissing

end SortedUsers

end QueryGate.Engine
