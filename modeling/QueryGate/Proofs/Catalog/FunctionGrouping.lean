import QueryGate.Proofs.Catalog.Blocking
import QueryGate.Proofs.Catalog.Positions

/-!
Functions taken from their rows.

Rows are taken in one pass that keeps the position of each function by its
identifier. A row of a function that is known adds a parameter where the function
stands; any other row begins a function, unless its name is blocked. Main statement:
where the rows of a function have one name, there is one function for each
identifier whose name is not blocked, in order of first appearance, and its
parameters are those of its rows in the order of their positions.
-/

namespace QueryGate.Catalog

namespace Collection

variable {α γ κ : Type} [DecidableEq κ] (c : Collection α γ κ) {row : α}
  {groups : List γ}

theorem put_of_notMem (hnew : c.rowKey row ∉ groups.map c.groupKey) :
    c.put row groups = groups ++ (c.begin? row).toList := by
  induction groups with
  | nil => rfl
  | cons group rest ih =>
      rw [List.map_cons, List.mem_cons, not_or] at hnew
      rw [put, if_neg (Ne.symm hnew.1), ih hnew.2, List.cons_append]

/-- Where there is one group of each key, a row is added to the one of its key. -/
theorem put_of_getElem (hnodup : (groups.map c.groupKey).Nodup) {i : Nat}
    (hi : i < groups.length) (hkey : c.groupKey groups[i] = c.rowKey row) :
    c.put row groups = groups.modify i (c.add · row) := by
  induction groups generalizing i with
  | nil => cases hi
  | cons group rest ih =>
      rw [List.map_cons, List.nodup_cons] at hnodup
      cases i with
      | zero =>
          have hsame : c.groupKey group = c.rowKey row := hkey
          rw [put, if_pos hsame, List.modify_zero_cons]
      | succ i =>
          have hi : i < rest.length := Nat.lt_of_succ_lt_succ hi
          have hkey : c.groupKey rest[i] = c.rowKey row := hkey
          have hother : c.groupKey group ≠ c.rowKey row := fun hsame => hnodup.1 (by
            rw [hsame, ← hkey]
            exact List.mem_map_of_mem (List.getElem_mem _))
          rw [put, if_neg hother, List.modify_succ_cons, ih hnodup.2 _ hkey]

/-- A row that finds its group changes no key. -/
theorem keys_put_of_mem (hknown : c.rowKey row ∈ groups.map c.groupKey) :
    (c.put row groups).map c.groupKey = groups.map c.groupKey := by
  rcases c.keys_put row groups with hsame | ⟨_, hnew⟩
  · exact hsame
  · exact absurd hknown hnew

end Collection

/-- Functions while rows are taken, and the position of each by its identifier. -/
structure IndexedFunctions where
  groups : List FunctionGroup
  positions : Std.HashMap String Nat

namespace IndexedFunctions

/-- Takes the next row: its parameter joins the function where that stands, or it
begins one. -/
def take (blocked : String → Bool) (functions : IndexedFunctions)
    (row : FunctionRow) : IndexedFunctions :=
  match functions.positions[row.id]? with
  | some i =>
      { functions with
        groups := functions.groups.modify i fun group =>
          { group with params := group.params ++ row.param.toList } }
  | none =>
      if blocked row.name then functions
      else
        { groups := functions.groups ++ [⟨row.id, row.name, row.param.toList⟩]
          positions := functions.positions.insert row.id functions.groups.length }

/-- Takes rows from first to last. -/
def pass (blocked : String → Bool) (rows : List FunctionRow) : IndexedFunctions :=
  rows.foldl (take blocked) ⟨[], ∅⟩

/-- The functions with their parameters in order. -/
def finish (functions : IndexedFunctions) : List Function :=
  functions.groups.map fun group => ⟨group.name, orderParams group.params⟩

/-- Groups with their positions. -/
def of (groups : List FunctionGroup) : IndexedFunctions :=
  ⟨groups, byName.record FunctionGroup.id groups⟩

section Pass

variable (blocked : String → Bool) {groups : List FunctionGroup}

theorem take_of_some {i : Nat} {functions : IndexedFunctions} {row : FunctionRow}
    (hposition : functions.positions[row.id]? = some i) :
    functions.take blocked row =
      ⟨functions.groups.modify i ((functionCollection blocked).add · row),
        functions.positions⟩ := by
  rw [take, hposition]
  rfl

theorem take_of_none {functions : IndexedFunctions} {row : FunctionRow}
    (hposition : functions.positions[row.id]? = none) :
    functions.take blocked row =
      if blocked row.name then functions
      else
        ⟨functions.groups ++ [⟨row.id, row.name, row.param.toList⟩],
          functions.positions.insert row.id functions.groups.length⟩ := by
  rw [take, hposition]

/-- The next row is put to the groups, and the index stays that of the groups. -/
theorem take_of (hnodup : (groups.map FunctionGroup.id).Nodup) (row : FunctionRow) :
    (of groups).take blocked row =
      of ((functionCollection blocked).put row groups) := by
  cases hposition : (of groups).positions[row.id]? with
  | some i =>
      obtain ⟨hi, hkey⟩ := byName.getElem_of_get?_record _ hposition
      have hknown : row.id ∈ groups.map FunctionGroup.id :=
        List.mem_map.mpr ⟨_, List.getElem_mem hi, hkey⟩
      have hput := (functionCollection blocked).put_of_getElem hnodup hi hkey
      -- A parameter changes no identifier, and the index is made of nothing but
      -- these.
      have hkeys := (functionCollection blocked).keys_put_of_mem hknown
      rw [hput] at hkeys
      rw [take_of_some blocked hposition, hput]
      exact congrArg _ (byName.record_congr FunctionGroup.id hkeys.symm)
  | none =>
      have hnew : row.id ∉ groups.map FunctionGroup.id := fun hmem => by
        have hknown := (byName.isSome_get?_record FunctionGroup.id).mpr hmem
        exact Option.isSome_iff_ne_none.mp hknown hposition
      rw [take_of_none blocked hposition,
        (functionCollection blocked).put_of_notMem hnew]
      by_cases hblocked : blocked row.name = true
      · simp [functionCollection, hblocked]
      · have hbegin : ((functionCollection blocked).begin? row).toList =
            [⟨row.id, row.name, row.param.toList⟩] := by
          simp [functionCollection, hblocked]
        have hrecord := byName.record_concat FunctionGroup.id groups
          ⟨row.id, row.name, row.param.toList⟩
        rw [if_neg hblocked, hbegin]
        exact congrArg _ hrecord.symm

/-- The pass keeps the groups that rows are collected into. -/
theorem pass_eq (rows : List FunctionRow) :
    pass blocked rows = of ((functionCollection blocked).collect rows) := by
  induction rows using List.reverseRecOn with
  | nil => rfl
  | append_singleton rows row ih =>
      have hpass : pass blocked (rows ++ [row]) =
          (pass blocked rows).take blocked row :=
        List.foldl_concat _ _ _ _
      have hcollect : (functionCollection blocked).collect (rows ++ [row]) =
          (functionCollection blocked).put row
            ((functionCollection blocked).collect rows) :=
        List.foldl_concat _ _ _ _
      rw [hpass, ih, take_of blocked
        ((functionCollection blocked).nodup_keys_collect rows), hcollect]

theorem finish_pass (rows : List FunctionRow) :
    (pass blocked rows).finish = groupFunctions blocked rows := by
  rw [pass_eq, groupFunctions_eq_map_collect]
  rfl

end Pass

end IndexedFunctions

/-- The rows of a function. -/
def functionRows (id : String) (rows : List FunctionRow) : List FunctionRow :=
  rows.filter (·.id = id)

/-- The function that rows are about. -/
def Function.ofRows (rows : List FunctionRow) : Function where
  name := (rows.head?.map FunctionRow.name).getD ""
  params := orderParams (rows.filterMap FunctionRow.param)

/-- Parameters in the order of their positions, those of one position in the order
in which they came. -/
structure InPositionOrder (params ordered : List ParamRow) : Prop where
  perm : ordered.Perm params
  ascending : ordered.Pairwise fun a b => a.position ≤ b.position
  stable : ∀ position,
    ordered.filter (·.position = position) = params.filter (·.position = position)

/-- A function as its rows tell of it. There is a parameter for each row with a
position. They are in the order of their positions, each under the name that it was
declared with or else under its rank. -/
structure Function.Told (function : Function) (rows : List FunctionRow) : Prop where
  name : ∀ row ∈ rows, function.name = row.name
  params : ∃ ordered,
    InPositionOrder (rows.filterMap fun row =>
      row.position.map fun position =>
        ⟨position, row.paramName, row.paramType⟩) ordered ∧
    function.params = ordered.zipIdx.map fun (param, i) =>
      ⟨param.position, (param.name.filter (· ≠ "")).getD (toString (i + 1)),
        param.type⟩

theorem ParamRow.nameAt_eq (param : ParamRow) (rank : Nat) :
    param.nameAt rank = (param.name.filter (· ≠ "")).getD (toString rank) := by
  cases hname : param.name with
  | none => simp [nameAt, hname]
  | some name =>
      by_cases hempty : name = "" <;> simp [nameAt, hname, hempty, Option.filter]

section Sorting

/-- The parameters by position. -/
def byPosition (params : List ParamRow) : List ParamRow :=
  params.mergeSort fun a b => decide (a.position ≤ b.position)

theorem byPosition_trans (a b c : ParamRow)
    (hab : decide (a.position ≤ b.position) = true)
    (hbc : decide (b.position ≤ c.position) = true) :
    decide (a.position ≤ c.position) = true :=
  decide_eq_true ((of_decide_eq_true hab).trans (of_decide_eq_true hbc))

theorem byPosition_total (a b : ParamRow) :
    (decide (a.position ≤ b.position) || decide (b.position ≤ a.position)) =
      true := by
  simpa using Int.le_total a.position b.position

theorem inPositionOrder_byPosition (params : List ParamRow) :
    InPositionOrder params (byPosition params) where
  perm := List.mergeSort_perm _ _
  ascending :=
    (List.pairwise_mergeSort byPosition_trans byPosition_total params).imp fun h =>
    of_decide_eq_true h
  stable position := by
    let tied := params.filter (·.position = position)
    have hsame : ∀ param ∈ tied, param.position = position := fun param hparam => by
      simpa using (List.mem_filter.mp hparam).2
    have htied : tied.Pairwise fun a b => decide (a.position ≤ b.position) = true :=
      List.pairwise_of_forall_mem_list fun a ha b hb =>
        decide_eq_true ((hsame a ha).trans (hsame b hb).symm).le
    -- Parameters of one position are in order as they are, so sorting keeps them as
    -- they are.
    have hsublist : tied.Sublist (byPosition params) :=
      List.sublist_mergeSort byPosition_trans byPosition_total htied
        List.filter_sublist
    have hfilter := hsublist.filter (·.position = position)
    have hkept : tied.filter (·.position = position) = tied :=
      List.filter_eq_self.mpr fun param hparam =>
        decide_eq_true (hsame param hparam)
    rw [hkept] at hfilter
    exact (hfilter.eq_of_length
      (((List.mergeSort_perm _ _).filter _).length_eq).symm).symm

/-- There is one order where no two parameters have one position. -/
theorem InPositionOrder.unique {params params' ordered ordered' : List ParamRow}
    (h : InPositionOrder params ordered) (h' : InPositionOrder params' ordered')
    (hperm : params.Perm params')
    (hdistinct : (params.map ParamRow.position).Nodup) : ordered = ordered' := by
  refine List.Perm.eq_of_pairwise
    (fun a b ha hb hab hba => ?_) h.ascending h'.ascending
    (h.perm.trans (hperm.trans h'.perm.symm))
  have hmem : b ∈ params := hperm.mem_iff.mpr (h'.perm.mem_iff.mp hb)
  exact List.inj_on_of_nodup_map hdistinct (h.perm.mem_iff.mp ha) hmem
    (Int.le_antisymm hab hba)

theorem orderParams_eq (params : List ParamRow) :
    orderParams params = (byPosition params).zipIdx.map fun (param, i) =>
      ⟨param.position, (param.name.filter (· ≠ "")).getD (toString (i + 1)),
        param.type⟩ := by
  refine List.map_congr_left fun (param, i) _ => ?_
  show (⟨_, param.nameAt (i + 1), _⟩ : Param) = _
  rw [ParamRow.nameAt_eq]

theorem orderParams_eq_of_perm {params params' : List ParamRow}
    (hperm : params.Perm params')
    (hdistinct : (params.map ParamRow.position).Nodup) :
    orderParams params = orderParams params' := by
  rw [orderParams_eq, orderParams_eq, (inPositionOrder_byPosition params).unique
    (inPositionOrder_byPosition params') hperm hdistinct]

end Sorting

/-- The group that the rows of a function come to. -/
def FunctionGroup.ofRows (id : String) (rows : List FunctionRow) :
    FunctionGroup where
  id
  name := (rows.head?.map FunctionRow.name).getD ""
  params := rows.filterMap FunctionRow.param

theorem foldl_add_functionCollection (blocked : String → Bool)
    (group : FunctionGroup) (rows : List FunctionRow) :
    rows.foldl (functionCollection blocked).add group =
      { group with params := group.params ++
        rows.filterMap FunctionRow.param } := by
  induction rows generalizing group with
  | nil => simp
  | cons row rest ih =>
      rw [List.foldl_cons, ih]
      cases hparam : row.param <;> simp [functionCollection, hparam]

theorem functionGroups_eq_collect (blocked : String → Bool)
    (rows : List FunctionRow) :
    functionGroups blocked rows = (functionCollection blocked).collect rows := by
  simp only [functionGroups, Collection.collect, addFunctionRow_eq_put]

/-- Of the rows of a function, those that it is made of: the first one whose name is
not blocked and all behind it. -/
def fromOpen (blocked : String → Bool) (rows : List FunctionRow) :
    List FunctionRow :=
  rows.dropWhile fun row => blocked row.name

theorem fromOpen_unblocked (rows : List FunctionRow) :
    fromOpen (fun _ => false) rows = rows := by
  cases rows <;> rfl

theorem group?_functionCollection (blocked : String → Bool)
    (rows : List FunctionRow) :
    (functionCollection blocked).group? rows =
      (functionCollection blocked).group? (fromOpen blocked rows) := by
  induction rows with
  | nil => rfl
  | cons row rest ih =>
      by_cases hblocked : blocked row.name = true
      · -- A blocked row begins nothing, and so there is still no group after it.
        have hnone : (functionCollection blocked).extend none row = none :=
          if_pos hblocked
        have hskip : fromOpen blocked (row :: rest) = fromOpen blocked rest :=
          List.dropWhile_cons_of_pos hblocked
        rw [hskip, ← ih, Collection.group?, List.foldl_cons, hnone,
          Collection.group?]
      · have hkeep : fromOpen blocked (row :: rest) = row :: rest :=
          List.dropWhile_cons_of_neg hblocked
        rw [hkeep]

/-- A group is what the rows of its identifier come to. -/
theorem eq_ofRows_of_mem {blocked : String → Bool} {rows : List FunctionRow}
    {group : FunctionGroup} (hgroup : group ∈ functionGroups blocked rows) :
    group = .ofRows group.id (fromOpen blocked (functionRows group.id rows)) := by
  let c := functionCollection blocked
  rw [functionGroups_eq_collect] at hgroup
  have hfound := find?_key_of_mem (c.nodup_keys_collect rows) hgroup
  have hrows : (rows.filter fun row => c.rowKey row = c.groupKey group) =
      functionRows group.id rows := rfl
  rw [c.find?_collect, hrows, group?_functionCollection,
    Collection.group?] at hfound
  cases hcase : fromOpen blocked (functionRows group.id rows) with
  | nil =>
      rw [hcase] at hfound
      cases hfound
  | cons first rest =>
      have hid : first.id = group.id := by
        have hmem : first ∈ fromOpen blocked (functionRows group.id rows) :=
          hcase ▸ List.mem_cons_self
        have hmem : first ∈ functionRows group.id rows :=
          (List.dropWhile_sublist _).subset hmem
        simpa using (List.mem_filter.mp hmem).2
      have hopen : ¬blocked first.name = true := by
        have hhead := List.head?_dropWhile_not (fun row => blocked row.name)
          (functionRows group.id rows)
        rw [← fromOpen, hcase] at hhead
        simpa using hhead
      have hbegin : c.extend none first =
          some ⟨first.id, first.name, first.param.toList⟩ :=
        if_neg hopen
      rw [hcase, List.foldl_cons, hbegin, c.foldl_extend_some,
        foldl_add_functionCollection] at hfound
      rw [← Option.some.inj hfound, FunctionGroup.ofRows]
      cases hparam : first.param <;> simp [hid, hparam]

section Unblocked

variable (rows : List FunctionRow)

/-- Under no policy there is a group for each identifier. -/
theorem functionGroups_eq_map :
    functionGroups (fun _ => false) rows =
      (rows.map FunctionRow.id).eraseDups.map fun id =>
        .ofRows id (functionRows id rows) := by
  let c := functionCollection fun _ => false
  have hkeys : (functionGroups (fun _ => false) rows).map FunctionGroup.id =
      (rows.map FunctionRow.id).eraseDups := by
    rw [functionGroups_eq_collect]
    exact c.keys_collect (fun _ => rfl) rows
  rw [← hkeys, List.map_map]
  refine (List.map_id'' (fun _ => rfl) _).symm.trans
    (List.map_congr_left fun group hgroup => ?_)
  have hrows := eq_ofRows_of_mem hgroup
  rwa [fromOpen_unblocked] at hrows

end Unblocked

section Told

variable (blocked : String → Bool) {rows : List FunctionRow}

/-- The rows that are not of a blocked name. -/
def openRows (blocked : String → Bool) (rows : List FunctionRow) :
    List FunctionRow :=
  rows.filter fun row => !blocked row.name

/-- The identifiers of the functions whose name is not blocked, in order of first
appearance. -/
def openIds (blocked : String → Bool) (rows : List FunctionRow) : List String :=
  ((openRows blocked rows).map FunctionRow.id).eraseDups

/-- To leave out the functions of blocked names is to leave out their rows. -/
theorem functionGroups_openRows (hone : FunctionRow.OneName rows) :
    functionGroups blocked rows = functionGroups
      (fun _ => false) (openRows blocked rows) := by
  let keep (id : String) : Bool :=
    rows.any fun row => decide (row.id = id) && !blocked row.name
  have hrow : ∀ row ∈ rows, keep row.id = !blocked row.name := by
    intro row hrow
    rw [Bool.eq_iff_iff, List.any_eq_true]
    constructor
    · rintro ⟨other, hother, hkept⟩
      rw [Bool.and_eq_true, decide_eq_true_eq] at hkept
      rw [hone row hrow other hother hkept.1.symm]
      exact hkept.2
    · exact fun hkept => ⟨row, hrow, by simpa using hkept⟩
  have hgroup : ∀ group ∈ functionGroups (fun _ => false) rows,
      (!blocked group.name) = keep group.id := by
    intro group hgroup
    obtain ⟨row, hmem, hid, hname⟩ := exists_row_of_mem_functionGroups hgroup
    rw [← hid, ← hname, hrow row hmem]
  have hfilter := (functionCollection fun _ => false).filter_collect keep rows
  rw [functionGroups_blocked blocked hone, List.filter_congr hgroup,
    functionGroups_eq_collect, functionGroups_eq_collect, openRows,
    ← List.filter_congr hrow]
  exact hfilter

/-- All rows of a function are kept if one is. -/
theorem functionRows_openRows (hone : FunctionRow.OneName rows) {id : String}
    (hid : id ∈ (openRows blocked rows).map FunctionRow.id) :
    functionRows id (openRows blocked rows) = functionRows id rows := by
  obtain ⟨known, hknown, rfl⟩ := List.mem_map.mp hid
  obtain ⟨hmem, hopen⟩ := List.mem_filter.mp hknown
  rw [functionRows, functionRows, openRows, List.filter_filter]
  refine List.filter_congr fun row hrow => ?_
  by_cases hsame : row.id = known.id
  · rw [hone row hrow known hmem hsame, hopen, Bool.and_true]
  · simp [hsame]

theorem groupFunctions_eq_map (hone : FunctionRow.OneName rows) :
    groupFunctions blocked rows =
      (openIds blocked rows).map fun id => .ofRows (functionRows id rows) := by
  have hgroups : groupFunctions blocked rows =
    (functionGroups blocked rows).map fun group =>
      ⟨group.name, orderParams group.params⟩ := rfl
  rw [hgroups, functionGroups_openRows blocked hone, functionGroups_eq_map,
    List.map_map]
  refine List.map_congr_left fun id hid => ?_
  rw [Function.comp_apply,
    functionRows_openRows blocked hone (List.mem_eraseDups.mp hid)]
  rfl

end Told

namespace Function

theorem told_ofRows {id : String} {rows : List FunctionRow}
    (hone : FunctionRow.OneName rows) :
    (ofRows (functionRows id rows)).Told (functionRows id rows) where
  name row hrow := by
    cases hrows : functionRows id rows with
    | nil =>
        rw [hrows] at hrow
        cases hrow
    | cons first rest =>
        have hfirst : first ∈ functionRows id rows := hrows ▸ List.mem_cons_self
        obtain ⟨hmem, hid⟩ := List.mem_filter.mp hfirst
        obtain ⟨hmem', hid'⟩ := List.mem_filter.mp hrow
        exact hone first hmem row hmem'
          ((of_decide_eq_true hid).trans (of_decide_eq_true hid').symm)
  params := ⟨_, inPositionOrder_byPosition _, orderParams_eq _⟩

theorem map_position_params (rows : List FunctionRow) :
    (rows.filterMap FunctionRow.param).map ParamRow.position =
      rows.filterMap FunctionRow.position := by
  rw [List.map_filterMap]
  refine List.filterMap_congr fun row _ => ?_
  rw [FunctionRow.param, Option.map_map]
  exact Option.map_id'

/-- Where no two rows have one position, their order is of no account. -/
theorem ofRows_eq_of_perm {id : String} {rows rows' : List FunctionRow}
    (hone : FunctionRow.OneName rows) (hperm : rows.Perm rows')
    (hdistinct : ((functionRows id rows).filterMap FunctionRow.position).Nodup) :
    ofRows (functionRows id rows) = ofRows (functionRows id rows') := by
  have hrows : (functionRows id rows).Perm (functionRows id rows') := hperm.filter _
  have hone' := hone.of_subset hperm.symm.subset
  have hname : (ofRows (functionRows id rows)).name =
      (ofRows (functionRows id rows')).name := by
    cases hcase : functionRows id rows with
    | nil =>
        have hnil : functionRows id rows' = [] := List.nil_perm.mp (hcase ▸ hrows)
        rw [hnil]
    | cons first rest =>
        have hfirst : first ∈ functionRows id rows := hcase ▸ List.mem_cons_self
        rw [← hcase, (told_ofRows hone).name first hfirst,
          (told_ofRows hone').name first (hrows.mem_iff.mp hfirst)]
  rw [← map_position_params] at hdistinct
  have hparams :=
    orderParams_eq_of_perm (hrows.filterMap FunctionRow.param) hdistinct
  exact congrArg₂ Function.mk hname hparams

end Function

/-- Where the rows of a function have one name, there is one function for each
identifier whose name is not blocked, in order of first appearance. It has the name
of its rows, and its parameters are theirs by position. For a function whose rows
have different positions, their order is of no account. -/
theorem groupFunctions_told (blocked : String → Bool) {rows : List FunctionRow}
    (hone : FunctionRow.OneName rows) :
    (IndexedFunctions.pass blocked rows).finish = groupFunctions blocked rows ∧
    groupFunctions blocked rows =
      (openIds blocked rows).map (fun id => .ofRows (functionRows id rows)) ∧
    (∀ id, (Function.ofRows (functionRows id rows)).Told (functionRows id rows)) ∧
    ∀ rows', rows.Perm rows' →
      groupFunctions blocked rows' =
        (openIds blocked rows').map (fun id => .ofRows (functionRows id rows')) ∧
      ∀ id, ((functionRows id rows).filterMap FunctionRow.position).Nodup →
        Function.ofRows (functionRows id rows') =
          .ofRows (functionRows id rows) := by
  refine ⟨IndexedFunctions.finish_pass blocked rows,
    groupFunctions_eq_map blocked hone, fun _ =>
      Function.told_ofRows hone, fun rows' hperm => ⟨?_, fun id hdistinct => ?_⟩⟩
  · exact groupFunctions_eq_map blocked (hone.of_subset hperm.symm.subset)
  · exact (Function.ofRows_eq_of_perm hone hperm hdistinct).symm

namespace Overloads

/-- Rows of two overloads, of a function without parameters and of a blocked one. -/
def rows : List FunctionRow :=
  [⟨"1", "add", some 2, some "b", "int"⟩, ⟨"2", "sleep", some 1, none, "int"⟩,
    ⟨"3", "add", some 1, some "", "text"⟩, ⟨"1", "add", some 1, none, "int"⟩,
    ⟨"2", "sleep", some 2, some "unit", "text"⟩, ⟨"4", "now", none, none, ""⟩]

theorem groupFunctions_told_overloads :
    FunctionRow.OneName rows ∧
      groupFunctions (· == "sleep") rows =
        [⟨"add", [⟨1, "1", "int"⟩, ⟨2, "b", "int"⟩]⟩, ⟨"add", [⟨1, "1", "text"⟩]⟩,
          ⟨"now", []⟩] := by
  have hone : FunctionRow.OneName rows := by
    simp [FunctionRow.OneName, rows]
  have hids : openIds (· == "sleep") rows = ["1", "3", "4"] := by decide +kernel
  refine ⟨hone, (groupFunctions_told (· == "sleep") hone).2.1.trans ?_⟩
  have hrank : Nat.repr 1 = "1" := by decide
  rw [hids]
  simp [rows, functionRows, Function.ofRows, FunctionRow.param, orderParams,
    List.mergeSort, List.filterMap_cons, ParamRow.nameAt, hrank]

end Overloads

end QueryGate.Catalog
