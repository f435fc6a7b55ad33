import QueryGate.Engine.Gate

/-!
What is found in a cache of registered queries.

The query that was registered last under a name is found for every role, and nothing
else is. The key of a target names its query, its role and the value of its order
variable, so that a cache serves at most one target under a key.
-/

namespace QueryGate

/-- The query that was registered last under a name. -/
def AllowList.lastNamed? (list : AllowList) (name : String) : Option AllowEntry :=
  list.entries.findRev? (·.name = name)

namespace Engine

open Access

namespace Registration

@[simp] theorem isFor_iff {r : Registration} {name role : String} :
    r.isFor name role = true ↔ r.name = name ∧ r.role = role := by
  simp [isFor]

/-- Selecting by an order variable succeeds when the variable has a declared text
that is not empty. -/
theorem select_eq_ok_iff {r : Registration} {var : String} {value? : Option Json}
    {target : Target} :
    r.select var value? = .ok target ↔
      ∃ value, value? = some (.text value) ∧ value.isEmpty = false ∧
        value ∈ r.orderValues ∧
        target = r.variant var value := by
  constructor
  · intro h
    unfold select at h
    split at h
    · rename_i value
      split at h
      · cases h
      · rename_i hempty
        split at h
        · rename_i hdeclared
          refine ⟨value, rfl, by simpa using hempty, by simpa using hdeclared, ?_⟩
          exact (Except.ok.inj h).symm
        · cases h
    · cases h
  · rintro ⟨value, rfl, hempty, hdeclared, rfl⟩
    simp [select, hempty, hdeclared]

/-- What a registration resolves to is one of its targets. -/
theorem mem_targets_of_resolve {r : Registration} {vars : Variables}
    {target : Target} (h : r.resolve vars = .ok target) : target ∈ r.targets := by
  unfold resolve at h
  unfold targets
  cases hvar : r.orderVariable? with
  | none =>
      simp only [hvar, Except.ok.injEq] at h
      simp [h]
  | some var =>
      simp only [hvar] at h
      obtain ⟨value, _, _, hdeclared, rfl⟩ := select_eq_ok_iff.mp h
      exact List.mem_map.mpr ⟨value, hdeclared, rfl⟩

/-- The targets of a registration are for its query and its role. -/
theorem eq_of_mem_targets {r : Registration} {target : Target}
    (h : target ∈ r.targets) : target.entry = r.entry ∧ target.role = r.role := by
  unfold targets at h
  cases hvar : r.orderVariable? with
  | none =>
      simp only [hvar, List.mem_singleton] at h
      rw [h]
      exact ⟨rfl, rfl⟩
  | some var =>
      simp only [hvar, List.mem_map] at h
      obtain ⟨value, _, rfl⟩ := h
      exact ⟨rfl, rfl⟩

/-- Targets of one registration differ in the value of the order variable. -/
theorem eq_of_key_eq_of_mem_targets {r : Registration} {first second : Target}
    (hfirst : first ∈ r.targets) (hsecond : second ∈ r.targets)
    (hkey : first.key = second.key) : first = second := by
  unfold targets at hfirst hsecond
  cases hvar : r.orderVariable? with
  | none =>
      simp only [hvar, List.mem_singleton] at hfirst hsecond
      rw [hfirst, hsecond]
  | some var =>
      simp only [hvar, List.mem_map] at hfirst hsecond
      obtain ⟨left, _, rfl⟩ := hfirst
      obtain ⟨right, _, rfl⟩ := hsecond
      have hvalue : left = right := by
        simpa [Target.key, variant] using hkey
      rw [hvalue]

/-- A target is resolved for the text that the variables give its order variable. -/
theorem order_of_resolve {r : Registration} {vars : Variables} {target : Target}
    (h : r.resolve vars = .ok target) {order : Document.Order}
    (horder : r.entry.item.order = some order) :
    ∃ value, vars.get? order.var = some (.text value) ∧
      target.order = some (order.var, value) := by
  have hvar : r.orderVariable? = some order.var := by
    simp [orderVariable?, horder]
  simp only [resolve, hvar] at h
  obtain ⟨value, hvalue, _, _, rfl⟩ := select_eq_ok_iff.mp h
  exact ⟨value, hvalue, rfl⟩

end Registration

namespace QueryCache

theorem find?_put (r : Registration) (rs : List Registration) (name role : String) :
    (put r rs).find? (·.isFor name role) =
      if r.isFor name role then some r else rs.find? (·.isFor name role) := by
  induction rs with
  | nil =>
      rw [put, List.find?_singleton]
      rfl
  | cons known rest ih =>
      by_cases hsame : known.isFor r.name r.role = true
      · have hagree : known.isFor name role = r.isFor name role := by
          obtain ⟨hname, hrole⟩ := Registration.isFor_iff.mp hsame
          simp [Registration.isFor, hname, hrole]
        rw [put, if_pos hsame, List.find?_cons, List.find?_cons, hagree]
        cases r.isFor name role <;> rfl
      · rw [put, if_neg hsame, List.find?_cons, List.find?_cons, ih]
        by_cases hfor : r.isFor name role = true
        · have hknown : known.isFor name role = false := by
            obtain ⟨hname, hrole⟩ := Registration.isFor_iff.mp hfor
            rw [← hname, ← hrole]
            exact Bool.eq_false_iff.mpr hsame
          rw [hknown, hfor]
        · rw [if_neg hfor, if_neg hfor]

theorem find?_register (cache : QueryCache) (r : Registration)
    (name role : String) :
    (cache.register r).find? name role =
      if r.isFor name role then some r else cache.find? name role :=
  find?_put r cache.registrations name role

/-- Of the registrations that are made one after the other, the last one is
found. -/
theorem find?_foldl_register (rs : List Registration) (cache : QueryCache)
    (name role : String) :
    (rs.foldl register cache).find? name role =
      (rs.findRev? (·.isFor name role)).or (cache.find? name role) := by
  induction rs generalizing cache with
  | nil => rfl
  | cons r rest ih =>
      rw [List.foldl_cons, ih, find?_register, List.findRev?]
      cases rest.findRev? (·.isFor name role) with
      | some found => rfl
      | none => by_cases hfor : r.isFor name role = true <;> simp [hfor]

/-- The registrations of one query are found under its name, for each of the
roles. -/
theorem findRev?_map_registration (entry : AllowEntry) (roles : List String)
    (name role : String) :
    ((roles.map fun role => (⟨entry, role⟩ : Registration)).findRev?
      (·.isFor name role)) =
      if entry.name = name ∧ role ∈ roles then some ⟨entry, role⟩ else none := by
  induction roles with
  | nil => simp
  | cons head rest ih =>
      rw [List.map_cons, List.findRev?, ih]
      by_cases hname : entry.name = name
      · by_cases hrest : role ∈ rest
        · simp [hname, hrest]
        · by_cases hhead : head = role
          · subst hhead
            simp [hname, hrest, Registration.name]
          · have hother : ¬ role = head := fun h => hhead h.symm
            simp [hrest, hhead, hother]
      · simp [hname, Registration.name]

theorem findRev?_registrationsOf (entries : List AllowEntry) (roles : List String)
    (name role : String) :
    (registrationsOf ⟨entries⟩ roles).findRev? (·.isFor name role) =
      if role ∈ roles then
        ((AllowList.mk entries).lastNamed? name).map fun entry => ⟨entry, role⟩
      else none := by
  induction entries with
  | nil => simp [registrationsOf, AllowList.lastNamed?]
  | cons entry rest ih =>
      have hsplit : registrationsOf ⟨entry :: rest⟩ roles =
          (roles.map fun role => ⟨entry, role⟩) ++ registrationsOf ⟨rest⟩ roles :=
            rfl
      have happend : (registrationsOf ⟨entry :: rest⟩ roles).findRev?
        (·.isFor name role) =
          ((registrationsOf ⟨rest⟩ roles).findRev? (·.isFor name role)).or
            ((roles.map fun role => (⟨entry, role⟩ : Registration)).findRev?
              (·.isFor name role)) := by
        rw [hsplit]
        simp only [List.findRev?_eq_find?_reverse, List.reverse_append,
          List.find?_append]
      rw [happend, ih, findRev?_map_registration]
      simp only [AllowList.lastNamed?, List.findRev?]
      by_cases hrole : role ∈ roles
      · cases rest.findRev? fun entry => decide (entry.name = name) with
        | some found => simp [hrole]
        | none => by_cases hname : entry.name = name <;> simp [hrole, hname]
      · simp [hrole]

/-- For every role, the query that was registered last under a name is found. -/
theorem find?_ofAllowList (list : AllowList) (roles : List String)
    (name role : String) :
    (ofAllowList list roles).find? name role =
      if role ∈ roles then (list.lastNamed? name).map fun entry => ⟨entry, role⟩
      else none := by
  obtain ⟨entries⟩ := list
  rw [ofAllowList, find?_foldl_register, findRev?_registrationsOf]
  simp [empty, find?]

theorem isFor_of_find? {cache : QueryCache} {name role : String} {r : Registration}
    (h : cache.find? name role = some r) : r.entry.name = name ∧ r.role = role := by
  have hfor : r.isFor name role = true :=
    List.find?_some (p := fun r : Registration => r.isFor name role) h
  exact Registration.isFor_iff.mp hfor

/-- A target belongs to the registration that is found for its query and its
role. -/
def Serves (cache : QueryCache) (target : Target) : Prop :=
  ∃ r, cache.find? target.entry.name target.role = some r ∧ target ∈ r.targets

/-- Under a key a cache serves at most one target. -/
theorem Serves.eq_of_key_eq {cache : QueryCache} {first second : Target}
    (hfirst : cache.Serves first) (hsecond : cache.Serves second)
    (hkey : first.key = second.key) : first = second := by
  obtain ⟨left, hleft, hmemLeft⟩ := hfirst
  obtain ⟨right, hright, hmemRight⟩ := hsecond
  have hname : first.entry.name = second.entry.name := congrArg TargetKey.name hkey
  have hrole : first.role = second.role := congrArg TargetKey.role hkey
  rw [hname, hrole, hright] at hleft
  have hsame : right = left := Option.some.inj hleft
  subst hsame
  exact Registration.eq_of_key_eq_of_mem_targets hmemLeft hmemRight hkey

/-- A request is admitted when its role is known and when it complies with the
registration for its role, which then has a target for its variables. -/
theorem admit_eq_ok_iff {cache : QueryCache} {roles : RoleTable} {request : Request}
    {vars : Variables} {target : Target} :
    cache.admit roles request vars = .ok target ↔
      roles.contains request.role = true ∧
        ∃ r, cache.find? request.lookupName request.role = some r ∧
          request.complies r.entry.item = true ∧ r.resolve vars = .ok target := by
  unfold QueryCache.admit QueryCache.match?
  by_cases hrole : roles.contains request.role = true
  · cases hfind : cache.find? request.lookupName request.role with
    | none => simp [hrole]
    | some r =>
        by_cases hcomplies : request.complies r.entry.item = true
        · simp [hrole, Option.filter, hcomplies]
        · simp [hrole, Option.filter, hcomplies]
  · simp [hrole]

theorem serves_of_admit {cache : QueryCache} {roles : RoleTable} {request : Request}
    {vars : Variables} {target : Target}
    (h : cache.admit roles request vars = .ok target) : cache.Serves target := by
  obtain ⟨_, r, hfind, _, hresolve⟩ := admit_eq_ok_iff.mp h
  have hmem := Registration.mem_targets_of_resolve hresolve
  obtain ⟨hname, hrole⟩ := isFor_of_find? hfind
  obtain ⟨hentry, hsame⟩ := Registration.eq_of_mem_targets hmem
  refine ⟨r, ?_, hmem⟩
  rw [hentry, hsame, hname, hrole]
  exact hfind

end QueryCache

theorem Snapshot.gate?_eq_none_iff {snapshot : Snapshot} :
    snapshot.gate? = none ↔ snapshot.restricted = false := by
  rw [← snapshot.gate?_isSome, Option.isSome_eq_false_iff,
    Option.isNone_iff_eq_none]

theorem Snapshot.exists_gate {snapshot : Snapshot}
    (hrestricted : snapshot.restricted = true) :
    ∃ cache, snapshot.gate? = some cache :=
  Option.isSome_iff_exists.mp (snapshot.gate?_isSome.trans hrestricted)

theorem Snapshot.cache_of_gate? {snapshot : Snapshot} {cache : QueryCache}
    (h : snapshot.gate? = some cache) :
    snapshot.cache = some cache ∧ snapshot.restricted = true := by
  refine ⟨?_, by rw [← snapshot.gate?_isSome, h]; rfl⟩
  rw [Snapshot.gate?] at h
  split at h
  · exact h
  · cases h

/-- The gate of a snapshot lets a request in for a target. -/
def Snapshot.Admits (snapshot : Snapshot) (request : Request) (target : Target)
    (vars : Variables) : Prop :=
  request.readVars = .ok vars ∧
    ∃ cache, snapshot.gate? = some cache ∧
      cache.admit snapshot.roles request vars = .ok target

/-- A request is let in for one target. -/
theorem Snapshot.Admits.eq {snapshot : Snapshot} {request : Request}
    {first second : Target} {left right : Variables}
    (hfirst : snapshot.Admits request first left)
    (hsecond : snapshot.Admits request second right) : first = second := by
  obtain ⟨hleft, cache, hcache, hadmitted⟩ := hfirst
  obtain ⟨hright, other, hother, hadmitted'⟩ := hsecond
  obtain rfl : left = right := Except.ok.inj (hleft.symm.trans hright)
  obtain rfl : cache = other := Option.some.inj (hcache.symm.trans hother)
  exact Except.ok.inj (hadmitted.symm.trans hadmitted')

end Engine

end QueryGate
