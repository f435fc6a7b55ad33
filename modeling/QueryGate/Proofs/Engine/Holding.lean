import QueryGate.Proofs.Engine.Callers

/-!
Who fills which cell.

A move of a caller leaves the cells alone, begins to fill one, works for one or
settles one. From that it follows that a cell is filled by one caller at a time,
that it is empty meanwhile, and that the record of what was done about a cell
accounts for what the cell keeps.
-/

namespace QueryGate.Engine

variable {State Plan : Type}

/-- What a move of a caller is for the cells. -/
inductive Move.Touches (caller : Nat) (floor : Floor State Plan)
    (phase : Phase Plan) (move : Move State Plan) : Prop
  | nothing (hbefore : phase.fills = none) (hafter : move.phase.fills = none)
      (hfilling : move.floor.filling = floor.filling)
      (hkept : move.floor.kept = floor.kept) (hdeed : move.deed = none)
  | begins (key : TargetKey) (hbefore : phase.fills = none)
      (hafter : move.phase.fills = some key)
      (hempty : floor.kept key = none) (hfree : floor.filling key = none)
      (hfloor : move.floor = floor.setFilling key (some caller))
      (hdeed : move.deed = some (key, .begins))
  | works (key : TargetKey) (deed : Deed Plan) (hbefore : phase.fills = some key)
      (hafter : move.phase.fills = some key)
      (hfilling : move.floor.filling = floor.filling)
      (hkept : move.floor.kept = floor.kept) (hdeed : move.deed = some (key, deed))
      (hwork : deed.isKeep = false)
  | settles (key : TargetKey) (outcome : Except Error (Statement Plan))
      (hbefore : phase.fills = some key) (hafter : move.phase.fills = none)
      (hfloor : move.floor = floor.settle key outcome)
      (hdeed : move.deed = some (key, .ofOutcome outcome))

/-- A move leaves what is kept as it is, unless it fills the cell that its caller
was filling. -/
theorem Move.Touches.kept_cases {caller : Nat} {floor : Floor State Plan}
    {phase : Phase Plan} {move : Move State Plan}
    (h : move.Touches caller floor phase) :
    move.floor.kept = floor.kept ∨
      ∃ key made, phase.fills = some key ∧
        ∀ other, move.floor.kept other = if other = key then some made
          else floor.kept other := by
  cases h with
  | nothing hbefore hafter hfilling hkept hdeed => exact Or.inl hkept
  | begins key hbefore hafter hempty hfree hfloor hdeed =>
      rw [hfloor]
      exact Or.inl rfl
  | works key deed hbefore hafter hfilling hkept hdeed hwork => exact Or.inl hkept
  | settles key outcome hbefore hafter hfloor hdeed =>
      rw [hfloor]
      cases outcome with
      | error e => exact Or.inl rfl
      | ok made =>
          exact Or.inr ⟨key, made, hbefore,
            fun other => Floor.kept_settle_ok floor key other made⟩

theorem fills_of_ask {backend : Backend State Plan} {snapshot : Snapshot}
    {job : Job} {workshop : Workshop State} :
    (ask backend snapshot job workshop).1.fills = job.key? := by
  rcases ask_cases backend snapshot job workshop with
    ⟨e, after, hask, _⟩ | ⟨role, plan, middle, hask, _⟩
  · rw [hask]
    rfl
  · rw [hask]
    rfl

/-- Every move of a caller leaves the cells alone, begins to fill one, works for one
or settles one. -/
theorem touches_of_advance {backend : Backend State Plan} {snapshot : Snapshot}
    {request : Request} {caller : Nat} {floor : Floor State Plan}
    {phase : Phase Plan} {move : Move State Plan}
    (h : advance backend snapshot request caller floor phase = some move) :
    move.Touches caller floor phase := by
  cases phase with
  | arrived =>
      cases h
      have hfills : (arrive snapshot request : Phase Plan).fills = none := by
        rcases arrive_cases Plan snapshot request with
          ⟨e, harrive⟩ | ⟨vars, _, harrive⟩ | ⟨target, vars, _, harrive⟩
        all_goals
          rw [harrive]
          rfl
      exact .nothing rfl hfills rfl rfl rfl
  | admitted target vars =>
      cases h
      refine .nothing rfl rfl rfl ?_ rfl
      funext key
      exact Floor.kept_storeVars floor target.key key vars
  | waiting target vars =>
      cases hkept : floor.kept target.key with
      | some statement =>
          rw [advance_of_kept hkept] at h
          cases h
          exact .nothing rfl rfl rfl rfl rfl
      | none =>
          cases hfilling : floor.filling target.key with
          | none =>
              rw [advance_of_free hkept hfilling] at h
              cases h
              exact .begins target.key rfl rfl hkept hfilling rfl rfl
          | some holder =>
              rw [advance_of_taken hkept hfilling] at h
              cases h
  | asking job =>
      cases h
      cases hkey : job.key? with
      | none => exact .nothing hkey (fills_of_ask.trans hkey) rfl rfl rfl
      | some key =>
          exact .works key .asks hkey (fills_of_ask.trans hkey) rfl rfl rfl rfl
  | writing job role plan =>
      cases h
      cases hkey : job.key? with
      | none => exact .nothing hkey hkey rfl rfl rfl
      | some key => exact .works key .writes hkey hkey rfl rfl rfl rfl
  | settling job outcome =>
      cases h
      cases hkey : job.key? with
      | none =>
          refine .nothing hkey rfl ?_ ?_ rfl
          · simp only [Floor.finish, hkey]
          · simp only [Floor.finish, hkey]
      | some key =>
          refine .settles key outcome hkey rfl ?_ rfl
          simp only [Floor.finish, hkey]
  | answered answer => cases h

/-- What was done about a cell, in order. -/
def Crowd.deeds (crowd : Crowd State Plan) (key : TargetKey) : List (Deed Plan) :=
  crowd.log.filterMap fun entry => if entry.1 = key then some entry.2 else none

/-- A record ends with the statement that is kept, and before that nothing was
kept. -/
def Deed.Accounts (deeds : List (Deed Plan)) : Option (Statement Plan) → Prop
  | none => ∀ deed ∈ deeds, deed.isKeep = false
  | some statement => ∃ before, deeds = before ++ [.keeps statement] ∧
      ∀ deed ∈ before, deed.isKeep = false

namespace Deed.Accounts

variable {deeds : List (Deed Plan)}

theorem append_work (h : Accounts deeds none) {deed : Deed Plan}
    (hwork : deed.isKeep = false) : Accounts (deeds ++ [deed]) none := by
  intro other hother
  rcases List.mem_append.mp hother with hold | hnew
  · exact h other hold
  · rw [List.mem_singleton.mp hnew]
    exact hwork

theorem append_keep (h : Accounts deeds none) (statement : Statement Plan) :
    Accounts (deeds ++ [.keeps statement]) (some statement) :=
  ⟨deeds, rfl, h⟩

end Deed.Accounts

namespace Crowd

theorem fills_apply (crowd : Crowd State Plan) (caller other : Nat)
    (move : Move State Plan) :
    ((crowd.apply caller move).phase other).fills =
      if other = caller then move.phase.fills else (crowd.phase other).fills := by
  by_cases h : other = caller
  · rw [h, phase_apply_self, if_pos rfl]
  · rw [phase_apply_of_ne crowd move h, if_neg h]

theorem fills_apply_of_same (crowd : Crowd State Plan) {caller : Nat} (other : Nat)
    {move : Move State Plan} (h : move.phase.fills = (crowd.phase caller).fills) :
    ((crowd.apply caller move).phase other).fills = (crowd.phase other).fills := by
  rw [fills_apply]
  by_cases hother : other = caller
  · rw [if_pos hother, hother, h]
  · rw [if_neg hother]

theorem deeds_apply_of_none (crowd : Crowd State Plan) (caller : Nat)
    {move : Move State Plan} (h : move.deed = none) (key : TargetKey) :
    (crowd.apply caller move).deeds key = crowd.deeds key := by
  simp [deeds, h]

theorem deeds_apply_of_some (crowd : Crowd State Plan) (caller : Nat)
    {move : Move State Plan} {touched : TargetKey} {deed : Deed Plan}
    (h : move.deed = some (touched, deed)) (key : TargetKey) :
    (crowd.apply caller move).deeds key =
      crowd.deeds key ++ if touched = key then [deed] else [] := by
  by_cases hkey : touched = key <;> simp [deeds, h, hkey]

/-- A cell is filled by the caller that it lets fill it, it is empty meanwhile, and
the record of a cell accounts for what it keeps. -/
structure Held (crowd : Crowd State Plan) : Prop where
  filling : ∀ key caller,
    crowd.floor.filling key = some caller ↔ (crowd.phase caller).fills = some key
  empty : ∀ key caller, crowd.floor.filling key = some caller →
    crowd.floor.kept key = none
  accounts : ∀ key, Deed.Accounts (crowd.deeds key) (crowd.floor.kept key)

namespace Held

variable {crowd : Crowd State Plan} {caller : Nat} {move : Move State Plan}

theorem empty_of_fills (h : crowd.Held) {key : TargetKey}
    (hfills : (crowd.phase caller).fills = some key) :
    crowd.floor.kept key = none :=
  h.empty key caller ((h.filling key caller).mpr hfills)

theorem eq_of_fills (h : crowd.Held) {other : Nat} {key : TargetKey}
    (hcaller : (crowd.phase caller).fills = some key)
    (hother : (crowd.phase other).fills = some key) : caller = other := by
  have hheld := (h.filling key caller).mpr hcaller
  rw [(h.filling key other).mpr hother] at hheld
  exact (Option.some.inj hheld).symm

theorem filling_apply (h : crowd.Held)
    (htouch : move.Touches caller crowd.floor (crowd.phase caller))
    (key : TargetKey) (other : Nat) :
    move.floor.filling key = some other ↔
      ((crowd.apply caller move).phase other).fills = some key := by
  cases htouch with
  | nothing hbefore hafter hfilling hkept hdeed =>
      rw [fills_apply_of_same crowd other (hafter.trans hbefore.symm), hfilling]
      exact h.filling key other
  | begins touched hbefore hafter hempty hfree hfloor hdeed =>
      rw [fills_apply, hfloor, Floor.filling_setFilling]
      by_cases hkey : key = touched
      · rw [if_pos hkey, hkey]
        by_cases hother : other = caller
        · rw [if_pos hother, hother, hafter]
          simp
        · -- The cell was free, so nobody else was filling it.
          have hnot : (crowd.phase other).fills ≠ some touched := by
            intro hfills
            have hheld := (h.filling touched other).mpr hfills
            rw [hfree] at hheld
            cases hheld
          simp [hother, hnot, Ne.symm hother]
      · rw [if_neg hkey, h.filling]
        by_cases hother : other = caller
        · rw [if_pos hother, hother, hbefore, hafter]
          simp [Ne.symm hkey]
        · rw [if_neg hother]
  | works touched deed hbefore hafter hfilling hkept hdeed hwork =>
      rw [fills_apply_of_same crowd other (hafter.trans hbefore.symm), hfilling]
      exact h.filling key other
  | settles touched outcome hbefore hafter hfloor hdeed =>
      rw [fills_apply, hfloor, Floor.filling_settle]
      by_cases hkey : key = touched
      · rw [if_pos hkey, hkey]
        by_cases hother : other = caller
        · rw [if_pos hother, hafter]
          simp
        · have hnot : (crowd.phase other).fills ≠ some touched :=
            fun hfills => hother (h.eq_of_fills hfills hbefore)
          simp [hother, hnot]
      · rw [if_neg hkey, h.filling]
        by_cases hother : other = caller
        · rw [if_pos hother, hother, hbefore, hafter]
          simp [Ne.symm hkey]
        · rw [if_neg hother]

/-- What a cell keeps, it keeps. -/
theorem kept_apply (h : crowd.Held)
    (htouch : move.Touches caller crowd.floor (crowd.phase caller))
    {key : TargetKey} {statement : Statement Plan}
    (hkept : crowd.floor.kept key = some statement) :
    move.floor.kept key = some statement := by
  rcases htouch.kept_cases with hsame | ⟨touched, made, hfills, hafter⟩
  · rw [hsame]
    exact hkept
  · have hne : key ≠ touched := by
      intro hkey
      rw [hkey, h.empty_of_fills hfills] at hkept
      cases hkept
    rw [hafter, if_neg hne]
    exact hkept

theorem empty_apply (h : crowd.Held)
    (htouch : move.Touches caller crowd.floor (crowd.phase caller))
    (key : TargetKey) (other : Nat)
    (hfilling : move.floor.filling key = some other) :
    move.floor.kept key = none := by
  cases htouch with
  | nothing hbefore hafter hsame hkept hdeed =>
      rw [hkept]
      exact h.empty key other (hsame ▸ hfilling)
  | begins touched hbefore hafter hempty hfree hfloor hdeed =>
      rw [hfloor, Floor.kept_setFilling]
      rw [hfloor, Floor.filling_setFilling] at hfilling
      by_cases hkey : key = touched
      · rw [hkey]
        exact hempty
      · rw [if_neg hkey] at hfilling
        exact h.empty key other hfilling
  | works touched deed hbefore hafter hsame hkept hdeed hwork =>
      rw [hkept]
      exact h.empty key other (hsame ▸ hfilling)
  | settles touched outcome hbefore hafter hfloor hdeed =>
      rw [hfloor, Floor.filling_settle] at hfilling
      by_cases hkey : key = touched
      · rw [if_pos hkey] at hfilling
        cases hfilling
      · rw [if_neg hkey] at hfilling
        rw [hfloor]
        cases outcome with
        | error e => exact h.empty key other hfilling
        | ok made =>
            rw [Floor.kept_settle_ok, if_neg hkey]
            exact h.empty key other hfilling

/-- Work for an empty cell is put on its record, and keeps nothing. -/
theorem accounts_of_work (h : crowd.Held) {touched : TargetKey} {deed : Deed Plan}
    (hempty : crowd.floor.kept touched = none)
    (hkept : move.floor.kept = crowd.floor.kept)
    (hdeed : move.deed = some (touched, deed)) (hwork : deed.isKeep = false)
    (key : TargetKey) :
    Deed.Accounts ((crowd.apply caller move).deeds key) (move.floor.kept key) := by
  have hold := h.accounts key
  rw [deeds_apply_of_some crowd caller hdeed, hkept]
  by_cases hkey : touched = key
  · subst hkey
    rw [if_pos rfl]
    rw [hempty] at hold ⊢
    exact hold.append_work hwork
  · rw [if_neg hkey, List.append_nil]
    exact hold

theorem accounts_apply (h : crowd.Held)
    (htouch : move.Touches caller crowd.floor (crowd.phase caller))
    (key : TargetKey) :
    Deed.Accounts ((crowd.apply caller move).deeds key) (move.floor.kept key) := by
  cases htouch with
  | nothing hbefore hafter hfilling hkept hdeed =>
      rw [deeds_apply_of_none crowd caller hdeed, hkept]
      exact h.accounts key
  | begins touched hbefore hafter hempty hfree hfloor hdeed =>
      have hkept : move.floor.kept = crowd.floor.kept := by
        rw [hfloor]
        rfl
      exact h.accounts_of_work hempty hkept hdeed rfl key
  | works touched deed hbefore hafter hfilling hkept hdeed hwork =>
      exact h.accounts_of_work (h.empty_of_fills hbefore) hkept hdeed hwork key
  | settles touched outcome hbefore hafter hfloor hdeed =>
      have hempty := h.empty_of_fills hbefore
      cases outcome with
      | error e =>
          have hkept : move.floor.kept = crowd.floor.kept := by
            rw [hfloor]
            rfl
          exact h.accounts_of_work hempty hkept hdeed rfl key
      | ok made =>
          have hold := h.accounts key
          rw [deeds_apply_of_some crowd caller hdeed, hfloor, Floor.kept_settle_ok]
          by_cases hkey : touched = key
          · subst hkey
            rw [if_pos rfl, if_pos rfl]
            rw [hempty] at hold
            exact hold.append_keep made
          · rw [if_neg hkey, if_neg (Ne.symm hkey), List.append_nil]
            exact hold

theorem apply (h : crowd.Held)
    (htouch : move.Touches caller crowd.floor (crowd.phase caller)) :
    (crowd.apply caller move).Held :=
  ⟨h.filling_apply htouch, h.empty_apply htouch, h.accounts_apply htouch⟩

end Held

end Crowd

end QueryGate.Engine
