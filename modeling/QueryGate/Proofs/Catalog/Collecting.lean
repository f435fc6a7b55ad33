import Mathlib.Data.List.Induction
import Mathlib.Data.List.Nodup

/-!
Rows that are collected by a key.

Columns, tables and functions are all put together in one way: a row is added to the
group of its key, and begins a new group at the end when there is none. So what is
collected for a key depends on the rows of that key alone, and the rows of other
keys decide only where it stands.
-/

namespace QueryGate.Catalog

section Keys

variable {α β κ : Type} [DecidableEq κ] {key : α → κ} {xs ys : List α}

/-- What has a key is found by it where no two things have one key. -/
theorem find?_key_of_mem (hnodup : (xs.map key).Nodup) {x : α} (hx : x ∈ xs) :
    xs.find? (fun y => key y = key x) = some x := by
  induction xs with
  | nil => cases hx
  | cons head tail ih =>
      rw [List.map_cons, List.nodup_cons] at hnodup
      obtain ⟨hnew, htail⟩ := hnodup
      rcases List.mem_cons.mp hx with rfl | hmem
      · simp
      · have hne : key head ≠ key x := by
          intro hsame
          exact hnew (hsame ▸ List.mem_map_of_mem hmem)
        rw [List.find?_cons_of_neg (by simpa using hne)]
        exact ih htail hmem

theorem find?_key_isSome {k : κ} :
    (xs.find? (fun y => key y = k)).isSome = true ↔ k ∈ xs.map key := by
  rw [List.find?_isSome, List.mem_map]
  simp

/-- The order of things is of no account for what is found by a key. -/
theorem find?_key_of_perm (hperm : xs.Perm ys) (hnodup : (xs.map key).Nodup)
    (k : κ) : xs.find? (fun y => key y = k) = ys.find? (fun y => key y = k) := by
  have hnodup' : (ys.map key).Nodup := (hperm.map key).nodup_iff.mp hnodup
  cases hfound : xs.find? (fun y => key y = k) with
  | none =>
      symm
      rw [List.find?_eq_none] at hfound ⊢
      exact fun y hy => hfound y (hperm.mem_iff.mpr hy)
  | some x =>
      have hkey : key x = k := by simpa using List.find?_some hfound
      have hmem : x ∈ ys := hperm.mem_iff.mp (List.mem_of_find?_eq_some hfound)
      rw [← hkey, find?_key_of_mem hnodup' hmem]

/-- Things can be listed again from their keys. -/
theorem filterMap_find?_key (hnodup : (xs.map key).Nodup) (f : α → β) :
    (xs.map key).filterMap (fun k => (xs.find? (fun y => key y = k)).map f) =
      xs.map f := by
  rw [List.filterMap_map, ← List.filterMap_eq_map]
  apply List.filterMap_congr
  intro x hx
  simp [find?_key_of_mem hnodup hx]

/-- The same things are found by the same keys in the same order. -/
theorem eq_of_find?_key (hxs : (xs.map key).Nodup) (hkeys : xs.map key = ys.map key)
    (hfound : ∀ k, xs.find? (fun y => key y = k) = ys.find? (fun y => key y = k)) :
    xs = ys := by
  rw [← List.map_id xs, ← List.map_id ys, ← filterMap_find?_key hxs id,
    ← filterMap_find?_key (hkeys ▸ hxs) id, hkeys]
  simp only [hfound]

/-- Things that are found by one another's keys, and look the same there, are the
same but for their order. -/
theorem perm_map_of_find?_key (hxs : (xs.map key).Nodup) (hys : (ys.map key).Nodup)
    {f : α → β}
    (hfound : ∀ k, (xs.find? (fun y => key y = k)).map f =
      (ys.find? (fun y => key y = k)).map f) :
    (xs.map f).Perm (ys.map f) := by
  have hkeys : (xs.map key).Perm (ys.map key) := by
    rw [List.perm_ext_iff_of_nodup hxs hys]
    intro k
    rw [← find?_key_isSome, ← find?_key_isSome,
      ← Option.isSome_map (f := f), hfound, Option.isSome_map]
  rw [← filterMap_find?_key hxs f, ← filterMap_find?_key hys f]
  simp only [hfound]
  exact hkeys.filterMap _

theorem perm_of_find?_key (hxs : (xs.map key).Nodup) (hys : (ys.map key).Nodup)
    (hfound : ∀ k, xs.find? (fun y => key y = k) = ys.find? (fun y => key y = k)) :
    xs.Perm ys := by
  have hperm := perm_map_of_find?_key (f := id) hxs hys fun k =>
    congrArg (Option.map id) (hfound k)
  rwa [List.map_id, List.map_id] at hperm

end Keys

section Distinct

variable {κ : Type} [DecidableEq κ]

theorem eraseDups_concat (xs : List κ) (x : κ) :
    (xs ++ [x]).eraseDups = if x ∈ xs then xs.eraseDups
      else xs.eraseDups ++ [x] := by
  rw [List.eraseDups_append]
  by_cases hmem : x ∈ xs <;> simp [List.removeAll, hmem, List.eraseDups_cons]

theorem nodup_eraseDups (xs : List κ) : xs.eraseDups.Nodup := by
  induction xs using List.reverseRecOn with
  | nil => exact List.nodup_nil
  | append_singleton xs x ih =>
      rw [eraseDups_concat]
      by_cases hmem : x ∈ xs
      · rw [if_pos hmem]
        exact ih
      · have hnew : x ∉ xs.eraseDups := mt List.mem_eraseDups.mp hmem
        rw [if_neg hmem, ← List.concat_eq_append]
        exact ih.concat hnew

end Distinct

/-- What a test says of the looks of things keeps the same of two lists that look
the same. -/
theorem perm_map_filter {α β : Type} {xs ys : List α} {f : α → β} {p : α → Bool}
    {q : β → Bool}
    (hq : ∀ x, q (f x) = p x) (h : (xs.map f).Perm (ys.map f)) :
    ((xs.filter p).map f).Perm ((ys.filter p).map f) := by
  have hfilter : ∀ zs : List α, (zs.filter p).map f = (zs.map f).filter q := by
    intro zs
    rw [List.filter_map]
    exact congrArg (List.map f) (List.filter_congr fun x _ => (hq x).symm)
  rw [hfilter, hfilter]
  exact h.filter q

/-- How rows are collected into groups. A row adds to the group of its key, or
begins one if it may. -/
structure Collection (α γ κ : Type) where
  rowKey : α → κ
  groupKey : γ → κ
  begin? : α → Option γ
  add : γ → α → γ
  key_begin : ∀ {row group}, begin? row = some group → groupKey group = rowKey row
  key_add : ∀ group row, groupKey (add group row) = groupKey group

namespace Collection

variable {α γ κ : Type} [DecidableEq κ] (c : Collection α γ κ)

/-- Adds a row to the group of its key, and begins one when there is none. -/
def put (row : α) : List γ → List γ
  | [] => (c.begin? row).toList
  | group :: rest =>
      if c.groupKey group = c.rowKey row then c.add group row :: rest
      else group :: put row rest

/-- The groups of rows, in order of first appearance. -/
def collect (rows : List α) : List γ :=
  rows.foldl (fun groups row => c.put row groups) []

/-- What becomes of a group, which there may not be yet, when a row of its key
arrives. -/
def extend (group? : Option γ) (row : α) : Option γ :=
  match group? with
  | some group => some (c.add group row)
  | none => c.begin? row

/-- The group of rows that have one key. -/
def group? (rows : List α) : Option γ :=
  rows.foldl c.extend none

omit [DecidableEq κ] in
theorem foldl_extend_some (group : γ) (rows : List α) :
    rows.foldl c.extend (some group) = some (rows.foldl c.add group) := by
  induction rows generalizing group with
  | nil => rfl
  | cons row rest ih => exact ih (c.add group row)

/-- A row reaches the group of its key and no other one. -/
theorem find?_put (row : α) (groups : List γ) (k : κ) :
    (c.put row groups).find? (fun group => c.groupKey group = k) =
      if c.rowKey row = k then c.extend
        (groups.find? fun group => c.groupKey group = k) row
      else groups.find? fun group => c.groupKey group = k := by
  induction groups with
  | nil =>
      cases hbegin : c.begin? row with
      | none => simp [put, extend, hbegin]
      | some group =>
          have hkey := c.key_begin hbegin
          by_cases hk : c.rowKey row = k <;> simp [put, extend, hbegin, hkey, hk]
  | cons group rest ih =>
      by_cases hsame : c.groupKey group = c.rowKey row
      · have hadd : c.groupKey (c.add group row) = c.rowKey row :=
          (c.key_add group row).trans hsame
        by_cases hk : c.rowKey row = k <;> simp [put, extend, hsame, hadd, hk]
      · rw [put, if_neg hsame]
        by_cases hgroup : c.groupKey group = k
        · have hk : c.rowKey row ≠ k := fun hk => hsame (hgroup.trans hk.symm)
          simp [hgroup, hk]
        · simp [hgroup, ih]

/-- What is collected for a key is what its rows come to. -/
theorem find?_collect (rows : List α) (k : κ) :
    (c.collect rows).find? (fun group => c.groupKey group = k) =
      c.group? (rows.filter fun row => c.rowKey row = k) := by
  have hfold : ∀ groups : List γ,
      (rows.foldl (fun groups row => c.put row groups) groups).find?
          (fun group => c.groupKey group = k) =
        (rows.filter fun row => c.rowKey row = k).foldl c.extend
          (groups.find? fun group => c.groupKey group = k) := by
    induction rows with
    | nil => exact fun _ => rfl
    | cons row rest ih =>
        intro groups
        rw [List.foldl_cons, ih, find?_put]
        by_cases hk : c.rowKey row = k <;> simp [hk]
  exact hfold []

/-- A row adds no key but its own, at the end. -/
theorem keys_put (row : α) (groups : List γ) :
    (c.put row groups).map c.groupKey = groups.map c.groupKey ∨
      (c.put row groups).map c.groupKey = groups.map c.groupKey ++ [c.rowKey row] ∧
        c.rowKey row ∉ groups.map c.groupKey := by
  induction groups with
  | nil =>
      cases hbegin : c.begin? row with
      | none => exact Or.inl (by simp [put, hbegin])
      | some group => exact Or.inr (by simp [put, hbegin, c.key_begin hbegin])
  | cons group rest ih =>
      by_cases hsame : c.groupKey group = c.rowKey row
      · exact Or.inl (by simp [put, hsame, c.key_add])
      · rw [put, if_neg hsame, List.map_cons, List.map_cons]
        rcases ih with hkeys | ⟨hkeys, hnew⟩
        · exact Or.inl (by rw [hkeys])
        · exact Or.inr ⟨by rw [hkeys, List.cons_append],
            by simp [Ne.symm hsame, hnew]⟩

/-- There is at most one group for each key. -/
theorem nodup_keys_collect (rows : List α) :
    ((c.collect rows).map c.groupKey).Nodup := by
  have hfold : ∀ groups : List γ, (groups.map c.groupKey).Nodup →
      ((rows.foldl (fun groups row => c.put row groups) groups).map
        c.groupKey).Nodup := by
    induction rows with
    | nil => exact fun _ h => h
    | cons row rest ih =>
        refine fun groups h => ih _ ?_
        rcases c.keys_put row groups with hkeys | ⟨hkeys, hnew⟩
        · rw [hkeys]
          exact h
        · rw [hkeys, List.nodup_append]
          refine ⟨h, by simp, fun key hkey other hother => ?_⟩
          rw [List.mem_singleton.mp hother]
          exact fun hsame => hnew (hsame ▸ hkey)
  exact hfold [] List.nodup_nil

theorem mem_keys_put (hbegin : ∀ row, (c.begin? row).isSome) (row : α)
    (groups : List γ) : c.rowKey row ∈ (c.put row groups).map c.groupKey := by
  rw [← find?_key_isSome, find?_put, if_pos rfl]
  cases groups.find? fun group => c.groupKey group = c.rowKey row with
  | none => exact hbegin row
  | some group => rfl

/-- Where every row may begin a group, a row adds its key unless the key is
there. -/
theorem keys_put_eq (hbegin : ∀ row, (c.begin? row).isSome) (row : α)
    (groups : List γ) :
    (c.put row groups).map c.groupKey =
      if c.rowKey row ∈ groups.map c.groupKey then groups.map c.groupKey
      else groups.map c.groupKey ++ [c.rowKey row] := by
  rcases c.keys_put row groups with hsame | ⟨hnew, hfresh⟩
  · have hmem := c.mem_keys_put hbegin row groups
    rw [hsame] at hmem
    rw [if_pos hmem, hsame]
  · rw [if_neg hfresh, hnew]

/-- Where every row may begin a group, the groups stand in the order in which their
keys were first seen. -/
theorem keys_collect (hbegin : ∀ row, (c.begin? row).isSome) (rows : List α) :
    (c.collect rows).map c.groupKey = (rows.map c.rowKey).eraseDups := by
  induction rows using List.reverseRecOn with
  | nil => rfl
  | append_singleton rows row ih =>
      have hcollect : c.collect (rows ++ [row]) = c.put row (c.collect rows) :=
        List.foldl_concat _ _ _ _
      rw [hcollect, c.keys_put_eq hbegin, ih, List.map_append, List.map_singleton,
        eraseDups_concat]
      simp only [List.mem_eraseDups]

/-- Then the keys of the rows alone tell in which order the groups are. -/
theorem keys_collect_congr (hbegin : ∀ row, (c.begin? row).isSome)
    {rows rows' : List α} (hkeys : rows.map c.rowKey = rows'.map c.rowKey) :
    (c.collect rows).map c.groupKey = (c.collect rows').map c.groupKey := by
  rw [c.keys_collect hbegin, c.keys_collect hbegin, hkeys]

theorem filter_put (keep : κ → Bool) (row : α) (groups : List γ) :
    (c.put row groups).filter (fun group => keep (c.groupKey group)) =
      if keep (c.rowKey row) then c.put row
        (groups.filter fun group => keep (c.groupKey group))
      else groups.filter fun group => keep (c.groupKey group) := by
  induction groups with
  | nil =>
      cases hbegin : c.begin? row with
      | none => simp [put, hbegin]
      | some group => by_cases hkeep : keep (c.rowKey row) <;>
          simp [put, hbegin, c.key_begin hbegin, hkeep]
  | cons group rest ih =>
      by_cases hsame : c.groupKey group = c.rowKey row
      · by_cases hkeep : keep (c.rowKey row) <;>
          simp [put, hsame, c.key_add, hkeep]
      · rw [put, if_neg hsame, List.filter_cons, List.filter_cons, ih]
        by_cases hkeep : keep (c.rowKey row) <;> by_cases hgroup :
          keep (c.groupKey group) <;>
          simp [hkeep, hgroup, put, hsame]

/-- To leave out the groups of some keys is to leave out their rows. -/
theorem filter_collect (keep : κ → Bool) (rows : List α) :
    (c.collect rows).filter (fun group => keep (c.groupKey group)) =
      c.collect (rows.filter fun row => keep (c.rowKey row)) := by
  have hfold : ∀ groups : List γ,
      (rows.foldl (fun groups row => c.put row groups) groups).filter
          (fun group => keep (c.groupKey group)) =
        (rows.filter fun row => keep (c.rowKey row)).foldl
          (fun groups row => c.put row groups)
          (groups.filter fun group => keep (c.groupKey group)) := by
    induction rows with
    | nil => exact fun _ => rfl
    | cons row rest ih =>
        intro groups
        rw [List.foldl_cons, ih, filter_put]
        by_cases hkeep : keep (c.rowKey row) <;> simp [hkeep]
  exact hfold []

end Collection

/-- One list is the other one rearranged, where things of one key keep their
order. -/
structure Rearranged {α κ : Type} [DecidableEq κ] (key : α → κ)
    (xs ys : List α) : Prop where
  perm : xs.Perm ys
  within : ∀ k, xs.filter (fun x => key x = k) = ys.filter (fun y => key y = k)

/-- Two things of different keys may change places. -/
theorem Rearranged.swap {α κ : Type} [DecidableEq κ] {key : α → κ} {x y : α}
    (hne : key x ≠ key y) (before after : List α) :
    Rearranged key (before ++ x :: y :: after) (before ++ y :: x :: after) where
  perm := (List.Perm.swap y x after).append_left before
  within k := by
    by_cases hx : key x = k
    · have hy : key y ≠ k := fun hy => hne (hx.trans hy.symm)
      simp [hx, hy]
    · simp [List.filter_cons, hx]

/-- What is kept of rearranged things is rearranged. -/
theorem Rearranged.filter {α κ : Type} [DecidableEq κ] {key : α → κ}
    {xs ys : List α} (h : Rearranged key xs ys) (keep : α → Bool) :
    Rearranged key (xs.filter keep) (ys.filter keep) where
  perm := h.perm.filter keep
  within k := by rw [List.filter_comm, h.within, List.filter_comm]

/-- Rearranged rows are collected into the same groups. -/
theorem Rearranged.perm_collect {α γ κ : Type} [DecidableEq κ]
    {c : Collection α γ κ} {rows rows' : List α}
    (h : Rearranged c.rowKey rows rows') :
    (c.collect rows).Perm (c.collect rows') := by
  apply perm_of_find?_key (c.nodup_keys_collect rows) (c.nodup_keys_collect rows')
  intro k
  rw [c.find?_collect, c.find?_collect, h.within]

end QueryGate.Catalog
