import QueryGate.Proofs.Engine.Verdict

/-!
Every registration that counts can be used.

Of the usable records under a name the last one counts. A request that brings its
document is let in by the gate, whatever its role, when its variables give the order
variable one of the declared values: after that only the making of the statement may
fail. So may a request with another form of the document. Where it has no name, the
operation of its document must not have one either, as the request would go by that
name.
-/

namespace QueryGate

open Document

namespace Document

/-- An order variable never has the empty value. -/
theorem Order.ne_empty_of_ofLine {line : List Char} {order : Order}
    (h : Order.ofLine line = some order) {value : String}
    (hvalue : value ∈ order.values) : value ≠ "" := by
  simp only [Order.ofLine] at h
  split at h
  · obtain ⟨⟨var, values⟩, _, h⟩ := Option.bind_eq_some_iff.mp h
    split at h
    · cases h
    · cases h
      obtain ⟨piece, hpiece, rfl⟩ := List.mem_map.mp hvalue
      have hnonempty := (List.mem_filter.mp hpiece).2
      intro hempty
      rw [String.ofList_eq_empty_iff.mp hempty] at hnonempty
      cases hnonempty
  · cases h

theorem Item.ne_empty_of_order {text : String} {order : Order}
    (h : (Item.ofText text).order = some order) {value : String}
    (hvalue : value ∈ order.values) : value ≠ "" := by
  obtain ⟨line, _, hline⟩ := List.exists_of_findSome?_eq_some h
  exact Order.ne_empty_of_ofLine hline hvalue

end Document

/-- Of the entries under one name the last one is found. -/
theorem AllowList.lastNamed?_append {before after : List AllowEntry}
    {entry : AllowEntry} {name : String} (hname : entry.name = name)
    (hafter : ∀ later ∈ after, later.name ≠ name) :
    (AllowList.mk (before ++ entry :: after)).lastNamed? name = some entry := by
  have hnone : after.reverse.find?
      (fun later => decide (later.name = name)) = none := by
    simpa [List.find?_eq_none] using hafter
  rw [lastNamed?, List.findRev?_eq_find?_reverse, List.reverse_append,
    List.find?_append, List.reverse_cons, List.find?_append, hnone, Option.none_or,
    List.find?_singleton]
  simp [hname]

namespace AllowRecord

/-- A record can be registered: its document is not blank and has an operation. -/
structure Usable (record : AllowRecord) : Prop where
  written : Text.isBlankText record.query = false
  operation : ∃ operation, (Item.ofText record.query).operation = some operation

/-- The name that a record is registered under: its own, or else the one in its
document. -/
def registeredName (record : AllowRecord) : String :=
  if record.name.isEmpty then (Item.ofText record.query).name else record.name

/-- The record is the last one of all that can be registered under a name. -/
structure LastUnder (record : AllowRecord) (name : String)
    (records : List AllowRecord) : Prop where
  usable : record.Usable
  named : record.registeredName = name
  last : ∃ before after, records = before ++ record :: after ∧
    ∀ later ∈ after, later.Usable → later.registeredName ≠ name

/-- The entry of a record whose document has an operation. -/
def entryOf (record : AllowRecord) (operation : Operation) : AllowEntry where
  name := record.registeredName
  service := record.service
  operation := operation
  text := record.query
  vars := if Text.isBlankText record.vars then (Item.ofText record.query).vars
    else record.vars
  item := Item.ofText record.query

/-- An entry is the one of a record. -/
structure Enters (record : AllowRecord) (entry : AllowEntry) : Prop where
  name : entry.name = record.registeredName
  text : entry.text = record.query
  item : entry.item = Item.ofText record.query

/-- A record has an entry exactly if it can be registered. -/
theorem entry?_cases (record : AllowRecord) :
    (¬ record.Usable ∧ record.entry? = none) ∨
      ∃ entry, record.Usable ∧ record.entry? = some entry ∧
        record.Enters entry := by
  cases hblank : Text.isBlankText record.query with
  | true =>
      refine Or.inl ⟨fun husable => ?_, by simp [hblank, entry?]⟩
      exact absurd (hblank.symm.trans husable.written) (by simp)
  | false =>
      cases hoperation : (Item.ofText record.query).operation with
      | none =>
          refine Or.inl ⟨fun husable => ?_, by simp [hoperation, entry?]⟩
          obtain ⟨operation, hsome⟩ := husable.operation
          exact absurd (hoperation.symm.trans hsome) (by simp)
      | some operation =>
          refine Or.inr ⟨record.entryOf operation, ⟨hblank, operation, hoperation⟩,
            ?_, ⟨rfl, rfl, rfl⟩⟩
          simp [hblank, hoperation, entryOf, registeredName, entry?]

/-- A record is the last one under a name, or no record can be registered under
it. -/
theorem exists_lastUnder_or (records : List AllowRecord) (name : String) :
    (∃ record : AllowRecord, record.LastUnder name records) ∨
      ∀ record ∈ records, record.Usable → record.registeredName ≠ name := by
  induction records with
  | nil => exact Or.inr fun _ h => nomatch h
  | cons head rest ih =>
      rcases ih with
        ⟨record, husable, hnamed, before, after, hsplit, hlater⟩ | hnone
      · exact Or.inl ⟨record, husable, hnamed, head :: before, after,
          by rw [hsplit]; rfl, hlater⟩
      · by_cases hhead : head.Usable ∧ head.registeredName = name
        · exact Or.inl ⟨head, hhead.1, hhead.2, [], rest, rfl, hnone⟩
        · refine Or.inr (List.forall_mem_cons.mpr ⟨fun husable hname => ?_, hnone⟩)
          exact hhead ⟨husable, hname⟩

/-- Where no record can be registered under a name, nothing is. -/
theorem lastNamed?_ofRecords_eq_none {records : List AllowRecord} {name : String}
    (h : ∀ record ∈ records, record.Usable → record.registeredName ≠ name) :
    (AllowList.ofRecords records).lastNamed? name = none := by
  rw [AllowList.lastNamed?, List.findRev?_eq_find?_reverse, List.find?_eq_none]
  intro entry hentry
  obtain ⟨record, hrecord, hrecorded⟩ :=
    List.mem_filterMap.mp (List.mem_reverse.mp hentry)
  rcases record.entry?_cases with ⟨_, hnone⟩ | ⟨found, husable, hfound, henters⟩
  · rw [hnone] at hrecorded
    cases hrecorded
  · cases hfound.symm.trans hrecorded
    rw [decide_eq_true_eq, henters.name]
    exact h record hrecord husable

/-- What is registered last under a name is the last record that can be. -/
theorem LastUnder.lastNamed?_eq {record : AllowRecord} {name : String}
    {records : List AllowRecord} (h : record.LastUnder name records) :
    (AllowList.ofRecords records).lastNamed? name = record.entry? := by
  obtain ⟨before, after, rfl, hlater⟩ := h.last
  rcases record.entry?_cases with ⟨hunusable, _⟩ | ⟨entry, _, hentry, henters⟩
  · exact absurd h.usable hunusable
  · rw [hentry, AllowList.ofRecords, List.filterMap_append,
      List.filterMap_cons_some hentry]
    refine AllowList.lastNamed?_append (henters.name.trans h.named)
      fun other hother => ?_
    obtain ⟨later, hmem, hother⟩ := List.mem_filterMap.mp hother
    rcases later.entry?_cases with ⟨_, hnone⟩ | ⟨found, husable, hfound, hof⟩
    · rw [hnone] at hother
      cases hother
    · cases hfound.symm.trans hother
      rw [hof.name]
      exact hlater later hmem husable

theorem LastUnder.lastNamed? {record : AllowRecord} {name : String}
    {records : List AllowRecord} (h : record.LastUnder name records) :
    ∃ entry, (AllowList.ofRecords records).lastNamed? name = some entry ∧
      record.Enters entry := by
  rw [h.lastNamed?_eq]
  rcases record.entry?_cases with ⟨hunusable, _⟩ | ⟨entry, _, hentry, henters⟩
  · exact absurd h.usable hunusable
  · exact ⟨entry, hentry, henters⟩

end AllowRecord

namespace Engine

open Access

/-- Variables give the order variable of a document one of the declared values. -/
def Variables.FitOrder (vars : Variables) (item : Item) : Prop :=
  ∀ order, item.order = some order →
    ∃ value ∈ order.values, vars.get? order.var = some (.text value)

/-- A request brings the document of a record that is registered under a name. It
has the name, and the very document; or neither the request nor the record has a
name of its own; or it has the name, and the document in another form. Where this is
no name at all, the operation of the document has none either. -/
inductive Request.Carries (request : Request) (record : AllowRecord)
    (name : String) : Prop
  | named (hname : request.name = name) (hquery : request.query = record.query)
  | unnamed (hname : request.name = "") (hrecord : record.name = "")
      (hquery : request.query = record.query)
  | alike (hname : request.name = name)
      (halike : request.item.Alike (Item.ofText record.query))
      (hanonymous : name = "" → request.item.name = "")

theorem Request.Carries.alike_item {request : Request} {record : AllowRecord}
    {name : String} (h : request.Carries record name) :
    request.item.Alike (Item.ofText record.query) := by
  cases h with
  | named _ hquery =>
      rw [Request.item, hquery]
      exact ⟨rfl, .refl _⟩
  | unnamed _ _ hquery =>
      rw [Request.item, hquery]
      exact ⟨rfl, .refl _⟩
  | alike _ halike _ => exact halike

/-- Such a request goes by the name that the record is registered under. -/
theorem Request.Carries.lookupName {request : Request} {record : AllowRecord}
    {name : String} (h : request.Carries record name)
    (hnamed : record.registeredName = name) : request.lookupName = name := by
  cases h with
  | named hname hquery =>
      rw [Request.lookupName, hname]
      split
      · next hempty =>
          -- The name is empty only where the record has none and its document gave
          -- it.
          have hunnamed : record.name.isEmpty = true := by
            apply Classical.byContradiction
            intro hown
            rw [AllowRecord.registeredName, if_neg hown] at hnamed
            exact hown (hnamed ▸ hempty)
          rw [AllowRecord.registeredName, if_pos hunnamed] at hnamed
          rw [Request.item, hquery, hnamed]
      · rfl
  | unnamed hname hrecord hquery =>
      rw [Request.lookupName, hname, Request.item, hquery, ← hnamed,
        AllowRecord.registeredName, hrecord]
  | alike hname _ hanonymous =>
      rw [Request.lookupName, hname]
      split
      · next hempty =>
          have hnone : name = "" := by simpa using hempty
          rw [hanonymous hnone, hnone]
      · rfl

variable {State Plan : Type}

/-- There is a statement, or the document could not be compiled. -/
def Served (answer : Except Error (Compiled Plan)) : Prop :=
  (∃ compiled, answer = .ok compiled) ∨
    ∃ reason, answer = .error (.compileFailed reason)

theorem chooses_of_fitOrder {vars : Variables} {entry : AllowEntry} {text : String}
    (hitem : entry.item = Item.ofText text) (h : vars.FitOrder (Item.ofText text)) :
    ∃ order?, Chooses vars entry order? := by
  cases horder : (Item.ofText text).order with
  | none => exact ⟨none, .plain (hitem ▸ horder)⟩
  | some order =>
      obtain ⟨value, hdeclared, hvalue⟩ := h order horder
      exact ⟨some (order.var, value),
        .value (hitem ▸ horder) hvalue (Item.ne_empty_of_order horder hdeclared)
          hdeclared⟩

/-- What is asked for with a declared value is served. -/
theorem served_of_chooses {backend : Backend State Plan} {snapshot : Snapshot}
    {list : AllowList}
    (hgate : snapshot.gate? = some (.ofAllowList list snapshot.roles.names))
    {request : Request} {vars : Variables} {role : Role} {entry : AllowEntry}
    {order? : Option (String × String)} (hbrings : request.Brings vars)
    (hrole : snapshot.roles.role? request.role = some role)
    (hasked : request.AsksFor list entry) (hchooses : Chooses vars entry order?)
    (bench : Bench State Plan) :
    Served (compile backend snapshot request bench).1 := by
  have hverdict : Verdict backend snapshot list bench request
      (compile backend snapshot request bench).1 := verdict_of_gate hgate
  by_cases hunmade : ∃ reason,
      Unmade backend snapshot bench role ⟨entry, request.role, order?⟩ vars reason
  · obtain ⟨reason, hunmade⟩ := hunmade
    exact Or.inr ⟨reason, (hverdict.compileFailed reason).mpr
      ⟨vars, role, entry, order?, hbrings, hrole, hasked, hchooses, hunmade⟩⟩
  · exact Or.inl (hverdict.ok.mpr
      ⟨vars, role, entry, order?, hbrings, hrole, hasked, hchooses, hunmade⟩)

/-- Whoever has a role, and brings the document that counts under a name and a
declared value of its order variable, is served by a restricted engine, whatever was
asked before. -/
theorem last_usable_served (backend : Backend State Plan) {readings : Readings}
    {generation : Nat} {snapshot : Snapshot}
    (hbuilt : readings.snapshot generation = .ok snapshot)
    (hrestricted : snapshot.restricted = true) {record : AllowRecord}
    {name : String} (hlast : record.LastUnder name readings.records)
    {request : Request} (hrole : request.role ∈ snapshot.roles.names)
    {vars : Variables} (hbrings : request.Brings vars)
    (horder : vars.FitOrder (Item.ofText record.query))
    (hcarries : request.Carries record name) (bench : Bench State Plan) :
    Served (compile backend snapshot request bench).1 := by
  obtain ⟨hgate, _⟩ := Readings.gate_of_restricted hbuilt hrestricted
  obtain ⟨role, hrole⟩ := RoleTable.mem_names_iff.mp hrole
  obtain ⟨entry, hentry, henters⟩ := hlast.lastNamed?
  obtain ⟨order?, hchooses⟩ := chooses_of_fitOrder henters.item horder
  have hasked : request.AsksFor (.ofRecords readings.records) entry := by
    rw [Request.asksFor_iff_lookupName]
    constructor
    · rw [hcarries.lookupName hlast.named, hentry]
    · rw [henters.item]
      exact hcarries.alike_item
  exact served_of_chooses hgate hbrings hrole hasked hchooses bench

namespace SortedUsers

theorem lastUnder_sorted :
    AllowRecord.LastUnder ⟨"users", "", document, ""⟩ "users" readings.records where
  usable := ⟨by decide +kernel, .query, by decide +kernel⟩
  named := rfl
  last := ⟨[⟨"users", "", "query users { users { email } }", ""⟩], [], rfl, by simp⟩

theorem last_usable_served_descending :
    readings.snapshot 0 = .ok snapshot ∧ snapshot.restricted = true ∧
      descending.role ∈ snapshot.roles.names ∧
      Served (compile Backend.echo snapshot descending
        (benchAfter .echo snapshot earlier (.fresh ()))).1 := by
  have hrole : descending.role ∈ snapshot.roles.names := by
    show "user" ∈ roles.names
    simp [names_roles]
  have hbrings : descending.Brings [("sort", .text "desc")] :=
    .object rfl (by with_unfolding_all rfl)
  have horder : Variables.FitOrder [("sort", .text "desc")]
      (Item.ofText document) := by
    have hdeclared : (Item.ofText document).order =
        some ⟨"sort", ["asc", "desc"]⟩ := by
      decide +kernel
    intro order hsome
    cases hdeclared.symm.trans hsome
    exact ⟨"desc", by simp, rfl⟩
  exact ⟨snapshot_readings, rfl, hrole,
    last_usable_served .echo snapshot_readings rfl lastUnder_sorted hrole
      hbrings horder (.named rfl rfl) _⟩

end SortedUsers

namespace Unnamed

def record : AllowRecord :=
  ⟨"", "", "query { users { id } }", ""⟩

def readings : Readings :=
  { SortedUsers.readings with records := [record] }

def snapshot : Snapshot :=
  { SortedUsers.snapshot with
    cache := some (.ofAllowList (.ofRecords [record]) ["anon", "user"]) }

theorem snapshot_readings : readings.snapshot 0 = .ok snapshot := by
  rw [snapshot, SortedUsers.snapshot, ← SortedUsers.names_roles]
  rfl

theorem lastUnder_record : record.LastUnder "" readings.records where
  usable := ⟨by decide +kernel, .query, by decide +kernel⟩
  named := by decide +kernel
  last := ⟨[], [], rfl, by simp⟩

/-- The same letters, and no name; but here the last word before the brace is
one. -/
def request : Request :=
  ⟨"", "query users { id }", none, "user", none⟩

theorem alike_request : request.item.Alike (Item.ofText record.query) :=
  ⟨by decide +kernel, by decide +kernel⟩

/-- The request goes by the name of its operation, under which nothing is
registered. -/
theorem alike_unnamed_not_found :
    readings.snapshot 0 = .ok snapshot ∧ snapshot.restricted = true ∧
      record.LastUnder "" readings.records ∧ request.role ∈ snapshot.roles.names ∧
      request.Brings [] ∧ Variables.FitOrder [] (Item.ofText record.query) ∧
      request.name = "" ∧ request.item.Alike (Item.ofText record.query) ∧
      (compile Backend.echo snapshot request (.fresh ())).1 = .error .notFound := by
  have hrole : request.role ∈ snapshot.roles.names := by
    show "user" ∈ SortedUsers.roles.names
    simp [SortedUsers.names_roles]
  have hbrings : request.Brings [] := .absent rfl
  have horder : Variables.FitOrder [] (Item.ofText record.query) := by
    have hnone : (Item.ofText record.query).order = none := by decide +kernel
    intro order hsome
    cases hnone.symm.trans hsome
  obtain ⟨hgate, _⟩ := Readings.gate_of_restricted snapshot_readings rfl
  have hunknown : (AllowList.ofRecords readings.records).lastNamed?
      request.lookupName = none := by
    decide +kernel
  have hverdict : Verdict Backend.echo snapshot (.ofRecords readings.records)
    (.fresh ()) request
      (compile Backend.echo snapshot request (.fresh ())).1 := verdict_of_gate hgate
  refine ⟨snapshot_readings, rfl, lastUnder_record, hrole, hbrings, horder, rfl,
    alike_request, hverdict.notFound.mpr ⟨⟨[], hbrings⟩, hrole, ?_⟩⟩
  rintro ⟨entry, hasked⟩
  obtain ⟨hlast, _⟩ := Request.asksFor_iff_lookupName.mp hasked
  cases hunknown.symm.trans hlast

end Unnamed

end Engine

end QueryGate
