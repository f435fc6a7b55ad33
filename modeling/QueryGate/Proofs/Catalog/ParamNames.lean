import QueryGate.Proofs.Catalog.FunctionGrouping
import QueryGate.Proofs.Text.Spelling

/-!
The names of parameters.

A parameter without a name of its own goes by its rank, and a declared name may be
spelled like a number. Main statement: of a function whose positions and declared
names are distinct, all names are distinct, and every parameter is found by its
name, exactly if no declared name spells the rank of a parameter that has none.
-/

namespace QueryGate.Catalog

open Text

namespace ParamRow

/-- The name that a parameter was declared with. -/
def declared? (param : ParamRow) : Option String :=
  param.name.filter (· ≠ "")

/-- The rank of a parameter: how many of the parameters come no later. -/
def rankAmong (params : List ParamRow) (param : ParamRow) : Nat :=
  params.countP fun other => other.position ≤ param.position

/-- A parameter under its declared name, or else under its rank. -/
def namedAmong (params : List ParamRow) (param : ParamRow) : Param :=
  ⟨param.position, param.declared?.getD (toString (param.rankAmong params)),
    param.type⟩

end ParamRow

/-- The declared name of a parameter spells the rank of one that has none. -/
def SpellsRank (params : List ParamRow) : Prop :=
  ∃ plain ∈ params, ∃ param ∈ params, plain.declared? = none ∧
    param.declared? = some (toString (plain.rankAmong params))

section Ranks

variable {params ordered : List ParamRow}

/-- In ascending order the parameters that come no later are those up to the
parameter itself. -/
theorem countP_getElem
    (hascending : ordered.Pairwise fun a b => a.position < b.position) {i : Nat}
    (hi : i < ordered.length) :
    ordered.countP (fun other => other.position ≤ ordered[i].position) = i + 1 := by
  induction ordered generalizing i with
  | nil => cases hi
  | cons head rest ih =>
      obtain ⟨hhead, hrest⟩ := List.pairwise_cons.mp hascending
      cases i with
      | zero =>
          have hlater :
              rest.countP (fun other => other.position ≤ head.position) = 0 := by
            rw [List.countP_eq_zero]
            intro other hother
            have := hhead other hother
            simpa using this
          simp [hlater]
      | succ i =>
          have hi : i < rest.length := Nat.lt_of_succ_lt_succ hi
          have hearlier : head.position ≤ rest[i].position :=
            (hhead _ (List.getElem_mem hi)).le
          simp [hearlier, ih hrest hi]

theorem pairwise_byPosition (hpositions : (params.map ParamRow.position).Nodup) :
    (byPosition params).Pairwise fun a b => a.position < b.position := by
  have hperm : (byPosition params).Perm params := List.mergeSort_perm _ _
  have hdistinct : ((byPosition params).map ParamRow.position).Nodup :=
    (hperm.map _).nodup_iff.mpr hpositions
  rw [List.Nodup, List.pairwise_map] at hdistinct
  exact (inPositionOrder_byPosition params).ascending.imp₂
    (fun _ _ => lt_of_le_of_ne) hdistinct

theorem rankAmong_getElem (hpositions : (params.map ParamRow.position).Nodup)
    {i : Nat} (hi : i < (byPosition params).length) :
    ((byPosition params)[i]).rankAmong params = i + 1 := by
  have hperm : (byPosition params).Perm params := List.mergeSort_perm _ _
  rw [ParamRow.rankAmong, ← hperm.countP_eq,
    countP_getElem (pairwise_byPosition hpositions)]

theorem rankAmong_inj (hpositions : (params.map ParamRow.position).Nodup)
    {a b : ParamRow} (ha : a ∈ params) (hb : b ∈ params)
    (hrank : a.rankAmong params = b.rankAmong params) : a = b := by
  have hperm : (byPosition params).Perm params := List.mergeSort_perm _ _
  obtain ⟨i, hi, rfl⟩ := List.getElem_of_mem (hperm.mem_iff.mpr ha)
  obtain ⟨j, hj, rfl⟩ := List.getElem_of_mem (hperm.mem_iff.mpr hb)
  rw [rankAmong_getElem hpositions, rankAmong_getElem hpositions,
    Nat.add_right_cancel_iff] at hrank
  simp only [hrank]

theorem orderParams_eq_named (hpositions : (params.map ParamRow.position).Nodup) :
    orderParams params = (byPosition params).map (ParamRow.namedAmong params) := by
  rw [orderParams_eq]
  refine List.ext_getElem (by simp) fun i hi _ => ?_
  have hi : i < (byPosition params).length := by simpa using hi
  simp [ParamRow.namedAmong, ParamRow.declared?, rankAmong_getElem hpositions hi]

end Ranks

/-- What a function tells of parameters, and what is found by their names. It has
each of the parameters under its declared name or else under its rank, and by the
name of a parameter it finds the first one of that name. -/
structure Function.Finds (function : Function) (params : List ParamRow) : Prop where
  named : function.params.Perm (params.map (ParamRow.namedAmong params))
  ascending : function.params.Pairwise fun a b => a.position < b.position
  distinct_iff : (function.params.map Param.name).Nodup ↔ ¬SpellsRank params
  found_iff : (∀ p ∈ function.params, function.param? p.name = some p) ↔
    ¬SpellsRank params
  first : ∀ p ∈ function.params, ∃ found ∈ function.params,
    function.param? p.name = some found ∧ found.name = p.name ∧
    found.position ≤ p.position

section Finding

variable {function : Function} {params : List ParamRow}

theorem eq_of_declared (hnames : (params.filterMap ParamRow.declared?).Nodup)
    {a b : ParamRow} (ha : a ∈ params) (hb : b ∈ params) {name : String}
    (hname : a.declared? = some name)
    (hsame : b.declared? = some name) : a = b := by
  rw [List.Nodup, List.pairwise_filterMap, List.pairwise_iff_getElem] at hnames
  obtain ⟨i, hi, rfl⟩ := List.getElem_of_mem ha
  obtain ⟨j, hj, rfl⟩ := List.getElem_of_mem hb
  rcases lt_trichotomy i j with hlt | rfl | hgt
  · exact absurd rfl (hnames i j hi hj hlt name hname name hsame)
  · rfl
  · exact absurd rfl (hnames j i hj hi hgt name hsame name hname)

/-- Two parameters of one name are one, unless a declared name spells a rank. -/
theorem nodup_names_iff (hpositions : (params.map ParamRow.position).Nodup)
    (hnames : (params.filterMap ParamRow.declared?).Nodup) :
    ((params.map (ParamRow.namedAmong params)).map Param.name).Nodup ↔
    ¬SpellsRank params := by
  rw [List.map_map, List.nodup_map_iff_inj_on hpositions.of_map]
  constructor
  · rintro hinj ⟨plain, hplain, param, hparam, hnone, hspells⟩
    have hsame : plain = param := hinj plain hplain param hparam (by
      simp [ParamRow.namedAmong, hnone, hspells])
    rw [hsame, hspells] at hnone
    cases hnone
  · intro hapart a ha b hb hsame
    simp only [Function.comp_apply, ParamRow.namedAmong] at hsame
    cases hdeclared : a.declared? with
    | none =>
        cases hdeclared' : b.declared? with
        | none =>
            simp only [hdeclared, hdeclared', Option.getD_none] at hsame
            exact rankAmong_inj hpositions ha hb (toString_nat_injective hsame)
        | some name =>
            simp only [hdeclared, hdeclared', Option.getD_none,
              Option.getD_some] at hsame
            exact absurd ⟨a, ha, b, hb, hdeclared, hsame ▸ hdeclared'⟩ hapart
    | some name =>
        cases hdeclared' : b.declared? with
        | none =>
            simp only [hdeclared, hdeclared', Option.getD_none,
              Option.getD_some] at hsame
            exact absurd ⟨b, hb, a, ha, hdeclared', hsame ▸ hdeclared⟩ hapart
        | some other =>
            simp only [hdeclared, hdeclared', Option.getD_some] at hsame
            exact eq_of_declared hnames ha hb hdeclared (hsame ▸ hdeclared')

/-- Every parameter is found by its name exactly if no two have one name. -/
theorem found_iff_nodup
    (hascending : function.params.Pairwise fun a b => a.position < b.position) :
    (∀ p ∈ function.params, function.param? p.name = some p) ↔
      (function.params.map Param.name).Nodup := by
  constructor
  · intro hfound
    have hnodup : function.params.Nodup := hascending.imp fun hlt hsame => by
      rw [hsame] at hlt
      exact lt_irrefl _ hlt
    refine (List.nodup_map_iff_inj_on hnodup).mpr fun a ha b hb hsame => ?_
    exact Option.some.inj ((hfound a ha).symm.trans (hsame ▸ hfound b hb))
  · exact fun hnodup p hp => find?_key_of_mem hnodup hp

theorem exists_first
    (hascending : function.params.Pairwise fun a b => a.position < b.position)
    {p : Param} (hp : p ∈ function.params) :
    ∃ found ∈ function.params, function.param? p.name = some found ∧
      found.name = p.name ∧
      found.position ≤ p.position := by
  have hsome : (function.param? p.name).isSome := by
    rw [Function.param?, find?_key_isSome]
    exact List.mem_map_of_mem hp
  obtain ⟨found, hfound⟩ := Option.isSome_iff_exists.mp hsome
  obtain ⟨hname, before, after, hsplit, hbefore⟩ :=
    List.find?_eq_some_iff_append.mp hfound
  have hname : found.name = p.name := by simpa using hname
  refine ⟨found, by simp [hsplit], hfound, hname, ?_⟩
  rw [hsplit] at hp hascending
  rcases List.mem_append.mp hp with hearlier | hlater
  · simpa using hbefore p hearlier
  · rcases List.mem_cons.mp hlater with rfl | hlater
    · exact le_rfl
    · exact (List.rel_of_pairwise_cons (List.pairwise_append.mp hascending).2.1
        hlater).le

theorem finds_of_orderParams (hpositions : (params.map ParamRow.position).Nodup)
    (hnames : (params.filterMap ParamRow.declared?).Nodup)
    (hparams : function.params = orderParams params) : function.Finds params := by
  rw [orderParams_eq_named hpositions] at hparams
  have hperm : function.params.Perm (params.map (ParamRow.namedAmong params)) := by
    rw [hparams]
    exact (List.mergeSort_perm _ _).map _
  have hascending : function.params.Pairwise fun a b =>
      a.position < b.position := by
    rw [hparams, List.pairwise_map]
    exact pairwise_byPosition hpositions
  have hdistinct : (function.params.map Param.name).Nodup ↔ ¬SpellsRank params :=
    (hperm.map Param.name).nodup_iff.trans (nodup_names_iff hpositions hnames)
  exact ⟨hperm, hascending, hdistinct, (found_iff_nodup hascending).trans hdistinct,
    fun p hp => exists_first hascending hp⟩

end Finding

/-- The rows of each function have distinct positions and distinct declared
names. -/
structure FunctionRow.Distinct (rows : List FunctionRow) : Prop where
  positions : ∀ id, ((functionRows id rows).filterMap FunctionRow.position).Nodup
  names : ∀ id,
    (((functionRows id rows).filterMap FunctionRow.param).filterMap
      ParamRow.declared?).Nodup

/-- A function is made of the rows of an identifier. Where these have distinct
positions and distinct declared names, its names are distinct and lead to their
parameters exactly if no declared name spells the rank of a parameter that has
none. -/
theorem groupFunctions_finds (blocked : String → Bool) {rows : List FunctionRow}
    (hdistinct : FunctionRow.Distinct rows) {function : Function}
    (hfunction : function ∈ groupFunctions blocked rows) :
    ∃ id, function = .ofRows (fromOpen blocked (functionRows id rows)) ∧
      function.Finds
        ((fromOpen blocked (functionRows id rows)).filterMap
          FunctionRow.param) := by
  obtain ⟨group, hgroup, rfl⟩ := List.mem_map.mp hfunction
  have hrows : fromOpen blocked (functionRows group.id rows) |>.Sublist
      (functionRows group.id rows) := List.dropWhile_sublist _
  have hparams : group.params =
      (fromOpen blocked (functionRows group.id rows)).filterMap FunctionRow.param :=
    congrArg FunctionGroup.params (eq_ofRows_of_mem hgroup)
  have hpositions : (group.params.map ParamRow.position).Nodup := by
    rw [hparams, Function.map_position_params]
    exact (hdistinct.positions group.id).sublist (hrows.filterMap _)
  have hnames : (group.params.filterMap ParamRow.declared?).Nodup := by
    rw [hparams]
    exact (hdistinct.names group.id).sublist ((hrows.filterMap _).filterMap _)
  refine ⟨group.id, ?_, hparams ▸ finds_of_orderParams hpositions hnames rfl⟩
  have hname : group.name =
      ((fromOpen blocked (functionRows group.id rows)).head?.map
        FunctionRow.name).getD "" :=
    congrArg FunctionGroup.name (eq_ofRows_of_mem hgroup)
  rw [Function.ofRows, ← hname, ← hparams]

namespace SecondNamed

/-- The rows of a function whose first parameter has no name, and whose second one
has a name of its own. -/
def rows (name : String) : List FunctionRow :=
  [⟨"1", "add", some 2, some name, "text"⟩, ⟨"1", "add", some 1, none, "int"⟩]

def function (name : String) : Function :=
  ⟨"add", [⟨1, "1", "int"⟩, ⟨2, name, "text"⟩]⟩

theorem distinct_rows (name : String) : FunctionRow.Distinct (rows name) where
  positions id := by
    by_cases hid : "1" = id <;> simp [functionRows, rows, hid]
  names id := by
    by_cases hid : "1" = id
    · by_cases hempty : name = "" <;>
        simp [functionRows, rows, hid, FunctionRow.param, List.filterMap_cons,
          ParamRow.declared?, Option.filter, hempty]
    · simp [functionRows, rows, hid]

theorem groupFunctions_rows {name : String} (hname : name ≠ "") :
    groupFunctions (fun _ => false) (rows name) = [function name] := by
  have hrank : Nat.repr 1 = "1" := by decide
  simp [groupFunctions, rows, function, addFunctionRow, FunctionRow.param,
    orderParams, List.mergeSort, ParamRow.nameAt, hname, hrank]

/-- The number two is nobody's rank among those without a name, so it is a name like
any other. -/
theorem groupFunctions_finds_two :
    FunctionRow.Distinct (rows "2") ∧
      function "2" ∈ groupFunctions (fun _ => false) (rows "2") ∧
      ∀ p ∈ (function "2").params, (function "2").param? p.name = some p := by
  have hmem : function "2" ∈ groupFunctions (fun _ => false) (rows "2") := by
    rw [groupFunctions_rows (by decide)]
    exact List.mem_singleton.mpr rfl
  refine ⟨distinct_rows "2", hmem, ?_⟩
  obtain ⟨id, _, hfinds⟩ :=
    groupFunctions_finds (fun _ => false) (distinct_rows "2") hmem
  exact (hfinds.found_iff).mpr (hfinds.distinct_iff.mp (by decide))

/-- The number one is the rank of the other parameter, which is found in the place
of the one that bears it as its name. -/
theorem one_found_elsewhere :
    FunctionRow.Distinct (rows "1") ∧
      groupFunctions (fun _ => false) (rows "1") = [function "1"] ∧
      (⟨2, "1", "text"⟩ : Param) ∈ (function "1").params ∧
      (function "1").param? "1" = some ⟨1, "1", "int"⟩ ∧
      ¬((function "1").params.map Param.name).Nodup ∧
      ¬∀ p ∈ (function "1").params, (function "1").param? p.name = some p :=
  ⟨distinct_rows "1", groupFunctions_rows (by decide), by decide, by decide,
    by decide, by decide⟩

end SecondNamed

end QueryGate.Catalog
