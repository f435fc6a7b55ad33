import QueryGate.Proofs.Engine.Verdict

/-!
What a restricted engine shows to those who do not have its documents.

A request that brings no registered document is answered from the request itself and
the names of the roles, and it changes nothing. So two engines with the same role
names cannot be told apart by such requests, however many are made, whatever is
registered with either of them.
-/

namespace QueryGate

/-- The errors that are about a registered query: of its order variable, and of its
making. -/
inductive Error.Telling : Error → Prop
  | invalidVariableValue (var : String) (fault : OrderFault) :
      Telling (.invalidVariableValue var fault)
  | compileFailed (reason : String) : Telling (.compileFailed reason)

namespace Engine

open Access Document

/-- The document of a request is not the one that is registered under its name, if
any is. -/
def Request.AsksForNothing (request : Request) (list : AllowList) : Prop :=
  ∀ entry, ¬ request.AsksFor list entry

/-- The answer to a request that asks for nothing. -/
def Request.refusal (request : Request) (roles : List String) : Error :=
  match request.readVars with
  | .ok _ =>
      if request.role ∈ roles then .notFound else .roleNotDefined request.role
  | .error e => e

namespace Request

variable {request : Request}

theorem refusal_congr {roles others : List String}
    (h : ∀ name, name ∈ roles ↔ name ∈ others) :
    request.refusal roles = request.refusal others := by
  simp only [refusal, h]

theorem not_telling_refusal (roles : List String) :
    ¬ (request.refusal roles).Telling := by
  intro htelling
  cases hvars : request.readVars with
  | error e =>
      obtain ⟨fault, rfl⟩ := invalidVariables_of_readVars hvars
      rw [refusal, hvars] at htelling
      cases htelling
  | ok vars =>
      simp only [refusal, hvars] at htelling
      split at htelling <;> cases htelling

theorem AsksForNothing.match?_eq_none {list : AllowList} {roles : List String}
    (h : request.AsksForNothing list) (hrole : request.role ∈ roles) :
    (QueryCache.ofAllowList list roles).match? request = none := by
  apply Option.eq_none_iff_forall_ne_some.mpr
  rintro ⟨entry, role⟩ hmatch
  obtain rfl : role = request.role := role_of_match? hmatch
  exact h entry ((asksFor_iff hrole).mpr hmatch)

end Request

variable {State Plan : Type}

/-- The answers to requests that are made one after the other. -/
def answersTo (backend : Backend State Plan) (snapshot : Snapshot) :
    List Request → Bench State Plan → List (Except Error (Compiled Plan))
  | [], _ => []
  | request :: rest, bench =>
      let (answer, after) := compile backend snapshot request bench
      answer :: answersTo backend snapshot rest after

section Refusing

variable {snapshot : Snapshot} {list : AllowList}

/-- A request that asks for nothing is refused, and nothing remains of it. -/
theorem compile_of_asksForNothing (backend : Backend State Plan)
    (hgate : snapshot.gate? = some (.ofAllowList list snapshot.roles.names))
    {request : Request} (hnothing : request.AsksForNothing list)
    (bench : Bench State Plan) :
    compile backend snapshot request bench =
      (.error (request.refusal snapshot.roles.names), bench) := by
  unfold compile
  cases hvars : request.readVars with
  | error e => simp only [Request.refusal, hvars]
  | ok vars =>
      cases hrole : snapshot.roles.role? request.role with
      | none =>
          have hunknown : request.role ∉ snapshot.roles.names := by
            rw [RoleTable.mem_names_iff, hrole]
            simp
          simp [compileWith, hgate, admit_of_no_role hrole, Request.refusal, hvars,
            hunknown, Except.map]
      | some role =>
          have hknown : request.role ∈ snapshot.roles.names :=
            RoleTable.mem_names_iff.mpr ⟨role, hrole⟩
          have hmatch := hnothing.match?_eq_none hknown
          simp [compileWith, hgate, admit_of_no_match hrole hmatch, Request.refusal,
            hvars, hknown, Except.map]

/-- Any number of such requests are refused one by one, and nothing remains of
them. -/
theorem answersTo_of_asksForNothing (backend : Backend State Plan)
    (hgate : snapshot.gate? = some (.ofAllowList list snapshot.roles.names))
    {requests : List Request}
    (hnothing : ∀ request ∈ requests, request.AsksForNothing list)
    (bench : Bench State Plan) :
    answersTo backend snapshot requests bench =
        requests.map (fun request =>
          .error (request.refusal snapshot.roles.names)) ∧
      benchAfter backend snapshot requests bench = bench := by
  induction requests with
  | nil => exact ⟨rfl, rfl⟩
  | cons request rest ih =>
      obtain ⟨hhead, hrest⟩ := List.forall_mem_cons.mp hnothing
      have hstep := compile_of_asksForNothing backend hgate hhead bench
      obtain ⟨hanswers, hbench⟩ := ih hrest
      constructor
      · rw [answersTo, hstep, List.map_cons, ← hanswers]
      · rw [benchAfter, List.foldl_cons, hstep]
        exact hbench

theorem exists_asksFor_of_telling {backend : Backend State Plan}
    (hgate : snapshot.gate? = some (.ofAllowList list snapshot.roles.names))
    {request : Request} {bench : Bench State Plan} {e : Error}
    (hanswer : (compile backend snapshot request bench).1 = .error e)
    (htelling : e.Telling) : ∃ entry, request.AsksFor list entry := by
  apply Classical.byContradiction
  intro hnone
  have hnothing : request.AsksForNothing list :=
    fun entry hasked => hnone ⟨entry, hasked⟩
  rw [compile_of_asksForNothing backend hgate hnothing,
    Except.error.injEq] at hanswer
  rw [← hanswer] at htelling
  exact Request.not_telling_refusal _ htelling

end Refusing

/-- What two engines have in common for those who do not have the documents of
either of them. Requests that ask neither of them for anything get the same answers
from both, and both are as before. Errors about a registered query reach nobody who
did not bring its document. -/
structure Indistinguishable {Other : Type} (backend : Backend State Plan)
    (otherBackend : Backend Other Plan) (first second : Snapshot)
    (list others : AllowList) : Prop where
  answer : ∀ request : Request, request.AsksForNothing list →
    request.AsksForNothing others →
    ∀ bench otherBench, ∃ e, compile backend first request bench =
      (.error e, bench) ∧
      compile otherBackend second request otherBench = (.error e, otherBench)
  answers : ∀ requests : List Request,
    (∀ request ∈ requests, request.AsksForNothing list ∧
      request.AsksForNothing others) →
      ∀ bench otherBench,
        answersTo backend first requests bench =
            answersTo otherBackend second requests otherBench ∧
          benchAfter backend first requests bench = bench ∧
          benchAfter otherBackend second requests otherBench = otherBench
  telling : ∀ request bench e, (compile backend first request bench).1 = .error e →
    e.Telling → ∃ entry, request.AsksFor list entry
  otherTelling : ∀ request bench e,
    (compile otherBackend second request bench).1 = .error e →
    e.Telling → ∃ entry, request.AsksFor others entry

/-- Two restricted engines with the same role names cannot be told apart without a
registered document, at whatever moments they are asked, and whatever else they are
made of: an altered document is answered as one that was never registered. -/
theorem unregistered_indistinguishable {Other : Type} (backend : Backend State Plan)
    (otherBackend : Backend Other Plan) {readings otherReadings : Readings}
    {generation otherGeneration : Nat} {first second : Snapshot}
    (hfirst : readings.snapshot generation = .ok first)
    (hrestricted : first.restricted = true)
    (hsecond : otherReadings.snapshot otherGeneration = .ok second)
    (hotherRestricted : second.restricted = true)
    (hroles : ∀ name, name ∈ first.roles.names ↔ name ∈ second.roles.names) :
    Indistinguishable backend otherBackend first second
      (.ofRecords readings.records) (.ofRecords otherReadings.records) := by
  obtain ⟨hgate, _⟩ := Readings.gate_of_restricted hfirst hrestricted
  obtain ⟨hotherGate, _⟩ := Readings.gate_of_restricted hsecond hotherRestricted
  constructor
  case answer =>
    intro request hnothing hotherNothing bench otherBench
    refine ⟨_, compile_of_asksForNothing backend hgate hnothing bench, ?_⟩
    rw [compile_of_asksForNothing otherBackend hotherGate hotherNothing,
      Request.refusal_congr hroles]
  case answers =>
    intro requests hnothing bench otherBench
    obtain ⟨hanswers, hbench⟩ := answersTo_of_asksForNothing backend hgate
      (fun request hrequest => (hnothing request hrequest).1) bench
    obtain ⟨hotherAnswers, hotherBench⟩ :=
      answersTo_of_asksForNothing otherBackend hotherGate
      (fun request hrequest => (hnothing request hrequest).2) otherBench
    refine ⟨?_, hbench, hotherBench⟩
    rw [hanswers, hotherAnswers]
    simp only [Request.refusal_congr hroles]
  case telling =>
    intro request bench e hanswer htelling
    exact exists_asksFor_of_telling hgate hanswer htelling
  case otherTelling =>
    intro request bench e hanswer htelling
    exact exists_asksFor_of_telling hotherGate hanswer htelling

namespace SortedUsers

/-- The same engine with nothing registered. -/
def bare : Readings :=
  { readings with records := [] }

def bareSnapshot : Snapshot :=
  { snapshot with cache := some (.ofAllowList (.ofRecords []) ["anon", "user"]) }

theorem snapshot_bare : bare.snapshot 0 = .ok bareSnapshot := by
  rw [bareSnapshot, snapshot, ← names_roles]
  rfl

/-- Somebody guesses that there is a query for the phone numbers of the users, and
how they can be sorted. -/
def guess : Request :=
  ⟨"users", "query users { users(by: $sort) { phone } }",
    some "\x7b\"sort\": \"asc\"\x7d", "user", none⟩

theorem asksForNothing_guess :
    guess.AsksForNothing (.ofRecords readings.records) := by
  intro entry hasked
  obtain ⟨hlast, halike⟩ := Request.asksFor_iff_lookupName.mp hasked
  have hsorted : (AllowList.ofRecords readings.records).lastNamed?
    guess.lookupName =
      some sorted := by
    decide +kernel
  rw [hsorted, Option.some.injEq] at hlast
  have hother : Text.alphanumerics guess.item.query.toList ≠
      Text.alphanumerics sorted.item.query.toList := by
    decide +kernel
  rw [hlast] at hother
  exact hother halike.1

theorem asksForNothing_bare (request : Request) :
    request.AsksForNothing (.ofRecords bare.records) := by
  rintro entry ⟨⟨name, _, hlast⟩, _⟩
  cases hlast

/-- The guess is answered as it is where nothing is registered. -/
theorem unregistered_indistinguishable_guess :
    readings.snapshot 0 = .ok snapshot ∧ bare.snapshot 0 = .ok bareSnapshot ∧
      guess.AsksForNothing (.ofRecords readings.records) ∧
      ∃ e, compile Backend.echo snapshot guess (.fresh ()) = (.error e, .fresh ()) ∧
        compile Backend.echo bareSnapshot guess (.fresh ()) =
          (.error e, .fresh ()) := by
  have h :=
    unregistered_indistinguishable .echo .echo snapshot_readings rfl
      snapshot_bare rfl
    (fun _ => Iff.rfl)
  exact ⟨snapshot_readings, snapshot_bare, asksForNothing_guess,
    h.answer guess asksForNothing_guess (asksForNothing_bare guess) _ _⟩

end SortedUsers

end Engine

end QueryGate
