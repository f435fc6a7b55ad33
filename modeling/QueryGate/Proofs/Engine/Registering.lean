import Mathlib.Data.List.Nodup
import Mathlib.Data.List.ProdSigma
import QueryGate.Proofs.Catalog.Collecting
import QueryGate.Proofs.Engine.Verdict

/-!
The registering of queries.

Each query is registered for each role, and a registration takes the place of an
earlier one of the same name and role. In the end there is one registration for each
pair of a distinct name and a role, of the query that bears the name last, and there
are as many notices as there were registrations more than that. Main statement: this
is what is registered by a pass over queries and roles that fills a map of maps.
-/

namespace QueryGate

/-- The names of registered queries, each once. -/
def AllowList.names (list : AllowList) : List String :=
  (list.entries.map AllowEntry.name).eraseDups

theorem AllowList.mem_names {list : AllowList} {name : String} :
    name ∈ list.names ↔ name ∈ list.entries.map AllowEntry.name :=
  List.mem_eraseDups

theorem AllowList.isSome_lastNamed? {list : AllowList} {name : String} :
    (list.lastNamed? name).isSome ↔ name ∈ list.entries.map AllowEntry.name := by
  rw [lastNamed?, List.findRev?_eq_find?_reverse]
  simp

namespace Engine

open Access Catalog Document

/-- Where a registration is found. -/
def Registration.place (r : Registration) : String × String :=
  (r.name, r.role)

theorem Registration.isFor_iff_place {r : Registration} {name role : String} :
    r.isFor name role = true ↔ r.place = (name, role) := by
  rw [isFor_iff, place, Prod.mk.injEq]

/-- Registrations are collected by name and role, and the latest one stays. -/
def registrationCollection :
    Collection Registration Registration (String × String) where
  rowKey := Registration.place
  groupKey := Registration.place
  begin? := some
  add known r := if known.place = r.place then r else known
  key_begin h := by cases h; rfl
  key_add known r := by
    split
    · next hsame => exact hsame.symm
    · rfl

namespace QueryCache

theorem put_eq_put (r : Registration) (rs : List Registration) :
    put r rs = registrationCollection.put r rs := by
  induction rs with
  | nil => rfl
  | cons known rest ih =>
      by_cases hsame : known.place = r.place
      · have hfor : known.isFor r.name r.role = true :=
          Registration.isFor_iff_place.mpr hsame
        simp [put, Collection.put, registrationCollection, hfor, hsame]
      · have hfor : ¬known.isFor r.name r.role = true :=
          mt Registration.isFor_iff_place.mp hsame
        rw [put, if_neg hfor, ih, Collection.put]
        exact (if_neg hsame).symm

theorem registrations_foldl_register (rs : List Registration) (cache : QueryCache) :
    (rs.foldl register cache).registrations =
      rs.foldl (fun known r => registrationCollection.put r known)
        cache.registrations := by
  induction rs generalizing cache with
  | nil => rfl
  | cons r rest ih =>
      rw [List.foldl_cons, List.foldl_cons, ih, register, put_eq_put]

theorem isSome_find?_iff {cache : QueryCache} {name role : String} :
    (cache.find? name role).isSome ↔
    (name, role) ∈ cache.registrations.map Registration.place := by
  simp [find?, List.find?_isSome, Registration.place]

/-- A registration adds its name unless the name is there. -/
theorem names_register (cache : QueryCache) (r : Registration) :
    (cache.register r).names =
      if r.name ∈ cache.names then cache.names else cache.names ++ [r.name] := by
  have hnames : ∀ rs : List Registration,
      rs.map Registration.name = (rs.map Registration.place).map Prod.fst :=
        fun rs => by
    rw [List.map_map]
    rfl
  rw [names, names, register, put_eq_put, hnames, hnames]
  rcases registrationCollection.keys_put r cache.registrations
    with hsame | ⟨hnew, _⟩
  -- In the place of another registration, a registration has the name of that one.
  · have hsame : (registrationCollection.put r cache.registrations).map
      Registration.place =
        cache.registrations.map Registration.place := hsame
    have hplace : r.place ∈ (registrationCollection.put r cache.registrations).map
        Registration.place := registrationCollection.mem_keys_put (fun _ => rfl) r _
    rw [hsame] at hplace ⊢
    have hname : r.name ∈ (cache.registrations.map Registration.place).map
        Prod.fst :=
      List.mem_map_of_mem hplace
    rw [if_pos (List.mem_eraseDups.mpr hname)]
  · have hnew : (registrationCollection.put r cache.registrations).map
      Registration.place =
        cache.registrations.map Registration.place ++ [r.place] := hnew
    rw [hnew, List.map_append, List.map_singleton, eraseDups_concat]
    simp only [List.mem_eraseDups]
    rfl

variable {list : AllowList} {roles : List String} {name role : String}

/-- Registrations of one list differ in their name or their role. -/
theorem nodup_places (list : AllowList) (roles : List String) :
    ((ofAllowList list roles).registrations.map Registration.place).Nodup := by
  rw [ofAllowList, registrations_foldl_register]
  exact registrationCollection.nodup_keys_collect _

/-- What is registered is every name for every role. -/
theorem isSome_find?_ofAllowList :
    ((ofAllowList list roles).find? name role).isSome ↔
      name ∈ list.entries.map AllowEntry.name ∧ role ∈ roles := by
  rw [find?_ofAllowList, ← AllowList.isSome_lastNamed?]
  by_cases hrole : role ∈ roles <;> simp [hrole]

theorem places_perm (list : AllowList) (hroles : roles.Nodup) :
    ((ofAllowList list roles).registrations.map Registration.place).Perm
      (list.names ×ˢ roles) := by
  have hproduct : (list.names ×ˢ roles).Nodup := (nodup_eraseDups _).product hroles
  refine (List.perm_ext_iff_of_nodup (nodup_places list roles) hproduct).mpr
    fun (name, role) => ?_
  rw [← isSome_find?_iff, isSome_find?_ofAllowList, List.mem_product,
    AllowList.mem_names]

theorem length_registrations (list : AllowList) (hroles : roles.Nodup) :
    (ofAllowList list roles).registrations.length =
      list.names.length * roles.length := by
  rw [← List.length_map Registration.place, (places_perm list hroles).length_eq,
    List.length_product]

/-- Every registration is found where it belongs. -/
theorem find?_of_mem {r : Registration}
    (hr : r ∈ (ofAllowList list roles).registrations) :
    (ofAllowList list roles).find? r.name r.role = some r := by
  rw [← find?_key_of_mem (nodup_places list roles) hr, find?]
  refine congrArg (List.find? · _) (funext fun known => ?_)
  rw [Bool.eq_iff_iff, Registration.isFor_iff_place, decide_eq_true_iff]
  rfl

theorem mem_names_iff {cache : QueryCache} :
    name ∈ cache.names ↔ ∃ role, (cache.find? name role).isSome := by
  simp only [names, List.mem_eraseDups, List.mem_map, find?, List.find?_isSome,
    Registration.isFor_iff]
  constructor
  · rintro ⟨r, hr, hname⟩
    exact ⟨r.role, r, hr, hname, rfl⟩
  · rintro ⟨_, r, hr, hname, _⟩
    exact ⟨r, hr, hname⟩

/-- Where there are roles at all, the names in a cache are those of the queries
registered in it. -/
theorem mem_names_ofAllowList {known : String} (hknown : known ∈ roles)
    (name : String) :
    name ∈ (ofAllowList list roles).names ↔
    name ∈ list.entries.map AllowEntry.name := by
  simp only [mem_names_iff, isSome_find?_ofAllowList]
  exact ⟨fun ⟨_, hname, _⟩ => hname, fun hname => ⟨known, hname, hknown⟩⟩

theorem length_names_ofAllowList {known : String} (hknown : known ∈ roles) :
    (ofAllowList list roles).names.length = list.names.length := by
  refine List.Perm.length_eq ((List.perm_ext_iff_of_nodup (nodup_eraseDups _)
    (nodup_eraseDups _)).mpr fun name => ?_)
  exact (mem_names_ofAllowList hknown name).trans AllowList.mem_names.symm

end QueryCache

section Notices

variable {cache : QueryCache} {list : AllowList} {roles : List String}

theorem length_put (r : Registration) (rs : List Registration) :
    (QueryCache.put r rs).length =
      if (rs.find? (·.isFor r.name r.role)).isSome then rs.length
      else rs.length + 1 := by
  induction rs with
  | nil => rfl
  | cons known rest ih =>
      rw [QueryCache.put, List.find?_cons]
      by_cases hfor : known.isFor r.name r.role = true
      · simp [hfor]
      · simp only [hfor, if_false, List.length_cons, ih, Bool.false_eq_true]
        split <;> rfl

/-- A registration either takes the place of another one, with a notice, or it is
one more. -/
theorem length_register (cache : QueryCache) (r : Registration) :
    ((cache.find? r.name r.role).map r.replaces).toList.length +
      (cache.register r).registrations.length = cache.registrations.length + 1 := by
  rw [QueryCache.register, length_put, ← QueryCache.find?]
  cases cache.find? r.name r.role with
  | none => exact Nat.zero_add _
  | some previous => exact Nat.add_comm _ _

theorem length_replacements (cache : QueryCache) (rs : List Registration) :
    (replacements cache rs).length +
    (rs.foldl QueryCache.register cache).registrations.length =
      cache.registrations.length + rs.length := by
  induction rs generalizing cache with
  | nil => simp [replacements]
  | cons r rest ih =>
      have hregister := length_register cache r
      have hrest := ih (cache.register r)
      rw [replacements, List.foldl_cons, List.length_append, List.length_cons]
      omega

/-- What there is to report are registrations that take the place of another one. -/
theorem exists_of_mem_replacements {rs : List Registration} {notice : Notice}
    (h : notice ∈ replacements cache rs) :
    ∃ r ∈ rs, ∃ previous : Registration, previous.place = r.place ∧
      notice = r.replaces previous := by
  induction rs generalizing cache with
  | nil => cases h
  | cons r rest ih =>
      rw [replacements, List.mem_append, Option.mem_toList,
        Option.map_eq_some_iff] at h
      rcases h with ⟨previous, hfind, rfl⟩ | hrest
      · obtain ⟨hname, hrole⟩ := QueryCache.isFor_of_find? hfind
        exact ⟨r, List.mem_cons_self, previous, Prod.ext hname hrole, rfl⟩
      · obtain ⟨other, hother, hreplaced⟩ := ih hrest
        exact ⟨other, List.mem_cons_of_mem _ hother, hreplaced⟩

theorem entry_mem_of_mem {r : Registration} (h : r ∈ registrationsOf list roles) :
    r.entry ∈ list.entries := by
  obtain ⟨entry, hentry, hr⟩ := List.mem_flatMap.mp h
  obtain ⟨role, _, rfl⟩ := List.mem_map.mp hr
  exact hentry

theorem length_registrationsOf (list : AllowList) (roles : List String) :
    (registrationsOf list roles).length = list.entries.length * roles.length := by
  simp [registrationsOf, List.length_flatMap]

/-- There is one notice for each role and each query that bears the name of another
one. -/
theorem length_notices (list : AllowList) (hroles : roles.Nodup) :
    (QueryCache.notices list roles).length =
      (list.entries.length - list.names.length) * roles.length := by
  -- Of the registrations that were made, those without a notice are the ones that
  -- are left.
  have hcount := length_replacements .empty (registrationsOf list roles)
  have hregistrations := QueryCache.length_registrations list hroles
  rw [QueryCache.ofAllowList] at hregistrations
  rw [hregistrations, length_registrationsOf] at hcount
  have hempty : QueryCache.empty.registrations.length = 0 := rfl
  rw [QueryCache.notices, Nat.sub_mul]
  omega

end Notices

/-- A target and what is kept for it. -/
structure Slot (Plan : Type) where
  target : Target
  cell : Cell Plan

/-- The variants of a query, by the value of its order variable. -/
structure Variants (Plan : Type) where
  var : String
  slots : Std.HashMap String (Slot Plan)

/-- A query that is stored for a role, with its variants where it declares an order
variable. -/
structure Stored (Plan : Type) where
  slot : Slot Plan
  variants : Option (Variants Plan)

/-- What is stored by name and by role, and what there was to report. -/
structure Shelf (Plan : Type) where
  entries : Std.HashMap String (Std.HashMap String (Stored Plan))
  notices : List Notice

variable {Plan : Type}

/-- What is stored for a registration: nothing is compiled for it yet. -/
def Stored.of (r : Registration) : Stored Plan where
  slot := ⟨r.plainTarget, .empty⟩
  variants := r.entry.item.order.map fun order =>
    ⟨order.var, order.values.foldl
      (fun slots value => slots.insert value ⟨r.variant order.var value, .empty⟩) ∅⟩

/-- Of what is stored by the declared values, something is found for exactly
these. -/
theorem getElem?_foldl_insert {β : Type} (f : String → β) (values : List String)
    (slots : Std.HashMap String β) (value : String) :
    (values.foldl (fun slots value => slots.insert value (f value)) slots)[value]? =
      if value ∈ values then some (f value) else slots[value]? := by
  induction values generalizing slots with
  | nil => rfl
  | cons head rest ih =>
      rw [List.foldl_cons, ih, Std.HashMap.getElem?_insert]
      by_cases hrest : value ∈ rest
      · rw [if_pos hrest, if_pos (List.mem_cons_of_mem _ hrest)]
      · by_cases hhead : head = value
        · subst hhead
          simp
        · simp [hrest, hhead, Ne.symm hhead]

/-- The variants of a registration: one for each value that is declared. -/
theorem Stored.variants_of {r : Registration} {order : Order}
    (horder : r.entry.item.order = some order) :
    ∃ slots, (Stored.of r : Stored Plan).variants = some ⟨order.var, slots⟩ ∧
      ∀ value slot, slots[value]? = some slot ↔
        value ∈ order.values ∧ slot = ⟨r.variant order.var value, .empty⟩ := by
  refine ⟨_, by rw [of, horder, Option.map_some], fun value slot => ?_⟩
  rw [getElem?_foldl_insert]
  by_cases hdeclared : value ∈ order.values
  · simp [hdeclared, eq_comm]
  · simp [hdeclared]

namespace Shelf

def empty : Shelf Plan :=
  ⟨∅, []⟩

/-- What is stored under a name for a role. -/
def get? (shelf : Shelf Plan) (name role : String) : Option (Stored Plan) :=
  shelf.entries[name]?.bind fun byRole => byRole[role]?

/-- Stores a registration, with a notice when there is one in its place. -/
def take (shelf : Shelf Plan) (r : Registration) : Shelf Plan where
  entries :=
    shelf.entries.insert r.name
      ((shelf.entries.getD r.name ∅).insert r.role (.of r))
  notices := shelf.notices ++ ((shelf.get? r.name r.role).map fun previous =>
    .registrationReplaced r.name r.role r.entry.service
      previous.slot.target.entry.service).toList

/-- Stores each query for each role. -/
def ofAllowList (list : AllowList) (roles : List String) : Shelf Plan :=
  list.entries.foldl
    (fun shelf entry => roles.foldl
      (fun shelf role => shelf.take ⟨entry, role⟩) shelf) empty

/-- A shelf and a cache hold the same. -/
structure Holds (shelf : Shelf Plan) (cache : QueryCache) : Prop where
  get : ∀ name role, shelf.get? name role = (cache.find? name role).map Stored.of
  mem : ∀ name, name ∈ shelf.entries ↔ name ∈ cache.names
  size : shelf.entries.size = cache.names.length

theorem get?_take (shelf : Shelf Plan) (r : Registration) (name role : String) :
    (shelf.take r).get? name role =
      if r.isFor name role = true then some (.of r) else shelf.get? name role := by
  rw [get?, take, Std.HashMap.getElem?_insert]
  by_cases hname : r.name = name
  · rw [if_pos (beq_iff_eq.mpr hname), Option.bind_some,
      Std.HashMap.getElem?_insert]
    by_cases hrole : r.role = role
    · rw [if_pos (beq_iff_eq.mpr hrole),
        if_pos (Registration.isFor_iff.mpr ⟨hname, hrole⟩)]
    · have hfor : ¬r.isFor name role = true :=
        fun h => hrole (Registration.isFor_iff.mp h).2
      rw [if_neg (mt beq_iff_eq.mp hrole), if_neg hfor,
        Std.HashMap.getD_eq_getD_getElem?, hname, get?]
      cases shelf.entries[name]? with
      | none => exact Std.HashMap.getElem?_empty
      | some byRole => rfl
  · have hfor : ¬r.isFor name role = true :=
      fun h => hname (Registration.isFor_iff.mp h).1
    rw [if_neg (mt beq_iff_eq.mp hname), if_neg hfor, get?]

theorem holds_empty : (empty : Shelf Plan).Holds .empty where
  get _ _ := by rw [get?, empty, Std.HashMap.getElem?_empty]; rfl
  mem _ := by simp [empty, QueryCache.empty, QueryCache.names]
  size := Std.HashMap.size_empty

/-- To store a registration is to register it. -/
theorem Holds.take {shelf : Shelf Plan} {cache : QueryCache} (h : shelf.Holds cache)
    (r : Registration) : (shelf.take r).Holds (cache.register r) where
  get name role := by
    rw [get?_take, QueryCache.find?_register, h.get]
    split <;> rfl
  mem name := by
    rw [Shelf.take, Std.HashMap.mem_insert, h.mem, QueryCache.names_register,
      beq_iff_eq]
    by_cases hknown : r.name ∈ cache.names
    · rw [if_pos hknown]
      exact ⟨fun hname => hname.elim (fun hsame => hsame ▸ hknown) id, Or.inr⟩
    · rw [if_neg hknown, List.mem_append, List.mem_singleton, or_comm, eq_comm]
  size := by
    rw [Shelf.take, Std.HashMap.size_insert, h.size, QueryCache.names_register]
    by_cases hknown : r.name ∈ cache.names
    · rw [if_pos hknown, if_pos ((h.mem _).mpr hknown)]
    · rw [if_neg hknown, if_neg (mt (h.mem _).mp hknown), List.length_append,
        List.length_singleton]

/-- What there is to report of storing a registration. -/
theorem Holds.notices_take {shelf : Shelf Plan} {cache : QueryCache}
    (h : shelf.Holds cache) (r : Registration) :
    (shelf.take r).notices =
      shelf.notices ++ ((cache.find? r.name r.role).map r.replaces).toList := by
  rw [Shelf.take, h.get, Option.map_map]
  rfl

theorem Holds.foldl {shelf : Shelf Plan} {cache : QueryCache}
    (h : shelf.Holds cache) (rs : List Registration) :
    (rs.foldl Shelf.take shelf).Holds (rs.foldl QueryCache.register cache) ∧
      (rs.foldl Shelf.take shelf).notices = shelf.notices ++
        replacements cache rs := by
  induction rs generalizing shelf cache with
  | nil => exact ⟨h, (List.append_nil _).symm⟩
  | cons r rest ih =>
      obtain ⟨hholds, hnotices⟩ := ih (h.take r)
      refine ⟨hholds, ?_⟩
      rw [List.foldl_cons, hnotices, h.notices_take, replacements,
        List.append_assoc]

theorem ofAllowList_eq (list : AllowList) (roles : List String) :
    (ofAllowList list roles : Shelf Plan) =
      (registrationsOf list roles).foldl take empty := by
  rw [ofAllowList, registrationsOf, List.foldl_flatMap]
  simp only [List.foldl_map]

/-- The pass stores what is registered, with the same notices. -/
theorem holds_ofAllowList (Plan : Type) (list : AllowList) (roles : List String) :
    (ofAllowList list roles : Shelf Plan).Holds (.ofAllowList list roles) ∧
      (ofAllowList list roles : Shelf Plan).notices =
        QueryCache.notices list roles := by
  rw [ofAllowList_eq]
  exact holds_empty.foldl (registrationsOf list roles)

theorem get?_ofAllowList_eq_some_iff {list : AllowList} {roles : List String}
    {name role : String} {stored : Stored Plan} :
    (ofAllowList list roles).get? name role = some stored ↔
      ∃ entry, list.lastNamed? name = some entry ∧ role ∈ roles ∧
        stored = .of ⟨entry, role⟩ := by
  rw [(holds_ofAllowList Plan list roles).1.get, QueryCache.find?_ofAllowList]
  by_cases hrole : role ∈ roles
  · rw [if_pos hrole, Option.map_map, Option.map_eq_some_iff]
    simp [hrole, eq_comm]
  · simp [hrole]

end Shelf

/-- A target is the query itself, or where that declares an order variable, the
variant for one of the declared values. -/
def Target.Declared (target : Target) : Prop :=
  match target.entry.item.order with
  | some order => ∃ value ∈ order.values, target.order = some (order.var, value)
  | none => target.order = none

theorem Registration.mem_targets_iff {r : Registration} {target : Target} :
    target ∈ r.targets ↔ target.entry = r.entry ∧ target.role = r.role ∧
    target.Declared := by
  obtain ⟨entry, role⟩ := r
  obtain ⟨other, otherRole, chosen⟩ := target
  cases horder : entry.item.order with
  | none =>
      have hvar : (Registration.mk entry role).orderVariable? = none := by
        simp [orderVariable?, horder]
      rw [targets, hvar, List.mem_singleton, plainTarget, Target.mk.injEq]
      refine and_congr_right fun hentry => and_congr_right fun _ => ?_
      rw [Target.Declared, hentry, horder]
  | some order =>
      have hvar : (Registration.mk entry role).orderVariable? = some order.var := by
        simp [orderVariable?, horder]
      simp only [targets, hvar, List.mem_map, variant, Target.mk.injEq,
        mem_orderValues horder]
      constructor
      · rintro ⟨value, hvalue, rfl, rfl, rfl⟩
        refine ⟨rfl, rfl, ?_⟩
        rw [Target.Declared, horder]
        exact ⟨value, hvalue, rfl⟩
      · rintro ⟨rfl, rfl, hdeclared⟩
        rw [Target.Declared, horder] at hdeclared
        obtain ⟨value, hvalue, rfl⟩ := hdeclared
        exact ⟨value, hvalue, rfl, rfl, rfl⟩

/-- Of the queries of a list, the last one of each name is served for every role,
and no other. -/
theorem QueryCache.serves_ofAllowList_iff {list : AllowList} {roles : List String}
    {target : Target} :
    (ofAllowList list roles).Serves target ↔
      list.lastNamed? target.entry.name = some target.entry ∧ target.role ∈ roles ∧
        target.Declared := by
  rw [Serves, find?_ofAllowList]
  by_cases hrole : target.role ∈ roles
  · rw [if_pos hrole]
    constructor
    · rintro ⟨r, hfind, hmem⟩
      obtain ⟨hentry, _, hdeclared⟩ := Registration.mem_targets_iff.mp hmem
      obtain ⟨entry, hlast, rfl⟩ := Option.map_eq_some_iff.mp hfind
      exact ⟨hlast.trans (congrArg some hentry.symm), hrole, hdeclared⟩
    · rintro ⟨hlast, _, hdeclared⟩
      refine ⟨⟨target.entry, target.role⟩, by rw [hlast, Option.map_some], ?_⟩
      exact Registration.mem_targets_iff.mpr ⟨rfl, rfl, hdeclared⟩
  · rw [if_neg hrole]
    constructor
    · rintro ⟨r, hfind, _⟩
      cases hfind
    · rintro ⟨_, hmem, _⟩
      exact absurd hmem hrole

/-- What a shelf keeps of a list of queries for the roles of a table. Something is
stored for every name of the list and every role of the table, namely the last query
of the name. It has variants where the query declares an order variable, one for
each value that is declared. Nothing is compiled for any of them. Every query that
bears the name of an earlier one is reported, for every role. -/
structure Shelf.Registered (shelf : Shelf Plan) (list : AllowList)
    (table : RoleTable) : Prop where
  stored : ∀ name role, (shelf.get? name role).isSome ↔
    name ∈ list.entries.map AllowEntry.name ∧ table.contains role = true
  source : ∀ name role stored, shelf.get? name role = some stored →
    ∃ entry, list.lastNamed? name = some entry ∧
      stored.slot = ⟨⟨entry, role, none⟩, .empty⟩
  variants_isSome : ∀ name role stored, shelf.get? name role = some stored →
    (stored.variants.isSome ↔ stored.slot.target.entry.item.order.isSome)
  variants : ∀ name role stored order, shelf.get? name role = some stored →
    stored.slot.target.entry.item.order = some order →
    ∃ slots, stored.variants = some ⟨order.var, slots⟩ ∧
      ∀ value slot, slots[value]? = some slot ↔ value ∈ order.values ∧
        slot = ⟨⟨stored.slot.target.entry, role, some (order.var, value)⟩, .empty⟩
  size : shelf.entries.size = list.names.length
  reported : shelf.notices.length =
    (list.entries.length - list.names.length) * table.names.length
  notices : ∀ notice ∈ shelf.notices, ∃ r previous : Registration,
    r.entry ∈ list.entries ∧ previous.place = r.place ∧ notice = r.replaces previous

/-- What a cache serves of a list of queries for the roles of a table. No
registration is kept but those that are found. -/
structure QueryCache.Registered (cache : QueryCache) (list : AllowList)
    (table : RoleTable) : Prop where
  found : ∀ r ∈ cache.registrations, cache.find? r.name r.role = some r
  served : ∀ target, cache.Serves target ↔
    list.lastNamed? target.entry.name = some target.entry ∧
    table.contains target.role = true ∧
      target.Declared
  distinct : ∀ first second, cache.Serves first → cache.Serves second →
    first.key = second.key → first = second

section Registered

variable {configs : List RoleConfig} {defaultBlock : Bool} {table : RoleTable}

theorem contains_iff_mem_names {role : String} :
    table.contains role = true ↔ role ∈ table.names :=
  RoleTable.role?_isSome_iff

theorem Shelf.registered_ofAllowList
    (hbuild : RoleTable.build configs defaultBlock = .ok table) (list : AllowList) :
    (ofAllowList list table.names : Shelf Plan).Registered list table := by
  obtain ⟨hholds, hnotices⟩ := holds_ofAllowList Plan list table.names
  have hknown : Access.anonymous ∈ table.names :=
    RoleTable.default_mem_names hbuild (by decide)
  have hnodup : table.names.Nodup := by
    obtain ⟨hconfigs, rfl⟩ := RoleTable.build_eq_ok_iff.mp hbuild
    exact RoleTable.nodup_names_ofConfigs defaultBlock hconfigs
  exact
    { stored := fun name role => by
        rw [hholds.get, Option.isSome_map, QueryCache.isSome_find?_ofAllowList,
          contains_iff_mem_names]
      source := fun name role stored hstored => by
        obtain ⟨entry, hlast, _, rfl⟩ := get?_ofAllowList_eq_some_iff.mp hstored
        exact ⟨entry, hlast, rfl⟩
      variants_isSome := fun name role stored hstored => by
        obtain ⟨entry, _, _, rfl⟩ := get?_ofAllowList_eq_some_iff.mp hstored
        exact Eq.to_iff (congrArg (· = true) Option.isSome_map)
      variants := fun name role stored order hstored horder => by
        obtain ⟨entry, _, _, rfl⟩ := get?_ofAllowList_eq_some_iff.mp hstored
        exact Stored.variants_of horder
      size := hholds.size.trans (QueryCache.length_names_ofAllowList hknown)
      reported := by rw [hnotices, length_notices list hnodup]
      notices := fun notice hnotice => by
        rw [hnotices] at hnotice
        obtain ⟨r, hr, previous, hplace, hreplaces⟩ :=
          exists_of_mem_replacements hnotice
        exact ⟨r, previous, entry_mem_of_mem hr, hplace, hreplaces⟩ }

theorem QueryCache.registered_ofAllowList (list : AllowList) (table : RoleTable) :
    (ofAllowList list table.names).Registered list table where
  found _ hr := find?_of_mem hr
  served target := by rw [serves_ofAllowList_iff, contains_iff_mem_names]
  distinct _ _ := Serves.eq_of_key_eq

/-- After queries are registered for the roles of a table, the last query of each
name is what is found and served for every role, and nothing is compiled. The cache
holds what is stored in the map of maps, and both report the same. -/
theorem ofAllowList_registered (Plan : Type)
    (hbuild : RoleTable.build configs defaultBlock = .ok table) (list : AllowList) :
    let shelf : Shelf Plan := .ofAllowList list table.names
    let cache := QueryCache.ofAllowList list table.names
    shelf.Registered list table ∧ shelf.Holds cache ∧
      shelf.notices = QueryCache.notices list table.names ∧
      cache.Registered list table := by
  obtain ⟨hholds, hnotices⟩ := Shelf.holds_ofAllowList Plan list table.names
  exact ⟨Shelf.registered_ofAllowList hbuild list, hholds, hnotices,
    QueryCache.registered_ofAllowList list table⟩

end Registered

namespace SortedUsers

/-- Of the two documents the one with an order variable is served, and the other one
is reported for both of the roles. -/
theorem ofAllowList_registered_users :
    RoleTable.build [] false = .ok roles ∧
      (Shelf.ofAllowList (.ofRecords readings.records) roles.names :
        Shelf String).entries.size = 1 ∧
      (QueryCache.notices (.ofRecords readings.records) roles.names).length = 2 ∧
      (QueryCache.ofAllowList (.ofRecords readings.records) roles.names).Serves
        ⟨sorted, "anon", some ("sort", "desc")⟩ := by
  have hbuild : RoleTable.build [] false = .ok roles := rfl
  obtain ⟨hshelf, _, hnotices, hcache⟩ :=
    ofAllowList_registered String hbuild (.ofRecords readings.records)
  have horder : sorted.item.order = some ⟨"sort", ["asc", "desc"]⟩ := by
    decide +kernel
  have hdeclared : Target.Declared ⟨sorted, "anon", some ("sort", "desc")⟩ := by
    rw [Target.Declared, horder]
    exact ⟨"desc", by decide, rfl⟩
  refine ⟨hbuild, ?_, ?_, (hcache.served _).mpr ⟨?_, by decide, hdeclared⟩⟩
  · rw [hshelf.size]
    decide +kernel
  · rw [← hnotices, hshelf.reported, names_roles]
    decide +kernel
  · decide +kernel

end SortedUsers

end Engine

end QueryGate
