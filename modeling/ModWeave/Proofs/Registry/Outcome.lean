import ModWeave.Registry

/-!
# What one registration can do

Registering a declared id passes it over, lets the mod keep it, gives it a number (a remembered one or the next
free one), or fails, for want of a number or at one that cannot be written.  `register_outcome` says so once for all
callers: `Outcome` has a constructor for each case, with everything that was true in front of it and the registry
behind it.  The rest of the file says what a number found by `nextFree` is like, and takes the loops over the ids of
a mod, over the mods and over what they refer to apart.
-/

namespace ModWeave.Registry

/-- The registry after a message about a changed id. -/
def noted (r : Registry) (mod : String) (id : EntityId) (owner : String) (number : Int) : Registry :=
  { r with log := r.log ++ [changeLog mod id owner number] }

/-- The registry in which a mod owns an id. -/
def own (r : Registry) (mod : String) (id : EntityId) : Registry := { r with owners := r.owners.insert id mod }

/-- The registry after a mod declared an id that is no modded id. -/
def passOver (r : Registry) (mod : String) (id : EntityId) : Registry :=
  if r.ranges.isSentinel id then r else (r.claimBase mod id).1

/-- Another mod has declared an id of the base game before. -/
def SharesBase (r : Registry) (mod : String) (id : EntityId) : Prop :=
  r.ranges.isSentinel id = false ∧ ∃ owner, OrderedMap.get? r.baseClaims id = some owner ∧ owner ≠ mod

/-! ### What the changes of a registry leave alone -/

@[simp] theorem ranges_noted (r : Registry) (mod : String) (id : EntityId) (owner : String) (n : Int) :
    (r.noted mod id owner n).ranges = r.ranges := rfl

@[simp] theorem reserved_noted (r : Registry) (mod : String) (id : EntityId) (owner : String) (n : Int) :
    (r.noted mod id owner n).reserved = r.reserved := rfl

@[simp] theorem allocations_noted (r : Registry) (mod : String) (id : EntityId) (owner : String) (n : Int) :
    (r.noted mod id owner n).allocations = r.allocations := rfl

@[simp] theorem owner?_noted (r : Registry) (mod : String) (id : EntityId) (owner : String) (n : Int)
    (j : EntityId) : (r.noted mod id owner n).owner? j = r.owner? j := rfl

@[simp] theorem ranges_own (r : Registry) (mod : String) (id : EntityId) : (r.own mod id).ranges = r.ranges := rfl

@[simp] theorem reserved_own (r : Registry) (mod : String) (id : EntityId) :
    (r.own mod id).reserved = r.reserved := rfl

@[simp] theorem allocations_own (r : Registry) (mod : String) (id : EntityId) :
    (r.own mod id).allocations = r.allocations := rfl

@[simp] theorem owner?_own (r : Registry) (mod : String) (id j : EntityId) :
    (r.own mod id).owner? j = if id = j then some mod else r.owner? j := by
  simp [own, owner?, Std.TreeMap.getElem?_insert]

@[simp] theorem ranges_give (r : Registry) (mod : String) (id : EntityId) (n : Int) :
    (r.give mod id n).ranges = r.ranges := rfl

@[simp] theorem reserved_give (r : Registry) (mod : String) (id : EntityId) (n : Int) :
    (r.give mod id n).reserved = r.reserved := rfl

@[simp] theorem allocations_give (r : Registry) (mod : String) (id : EntityId) (n : Int) :
    (r.give mod id n).allocations = OrderedMap.insert r.allocations (mod, id) n := rfl

private theorem claimBase_same (r : Registry) (mod : String) (id : EntityId) :
    (r.claimBase mod id).1.ranges = r.ranges ∧ (r.claimBase mod id).1.reserved = r.reserved ∧
      (r.claimBase mod id).1.allocations = r.allocations ∧ (r.claimBase mod id).1.owners = r.owners := by
  unfold claimBase
  repeat' split
  all_goals exact ⟨rfl, rfl, rfl, rfl⟩

@[simp] theorem ranges_passOver (r : Registry) (mod : String) (id : EntityId) :
    (r.passOver mod id).ranges = r.ranges := by
  unfold passOver; split <;> simp [claimBase_same]

@[simp] theorem reserved_passOver (r : Registry) (mod : String) (id : EntityId) :
    (r.passOver mod id).reserved = r.reserved := by
  unfold passOver; split <;> simp [claimBase_same]

@[simp] theorem allocations_passOver (r : Registry) (mod : String) (id : EntityId) :
    (r.passOver mod id).allocations = r.allocations := by
  unfold passOver; split <;> simp [claimBase_same]

@[simp] theorem owner?_passOver (r : Registry) (mod : String) (id j : EntityId) :
    (r.passOver mod id).owner? j = r.owner? j := by
  unfold passOver; split <;> simp [claimBase_same, owner?]

/-- An id of the base game belongs to the first mod that declares it. -/
theorem get?_baseClaims_passOver (r : Registry) (mod : String) (id j : EntityId) :
    OrderedMap.get? (r.passOver mod id).baseClaims j =
      if id = j ∧ r.ranges.isSentinel id = false ∧ OrderedMap.get? r.baseClaims id = none then some mod
      else OrderedMap.get? r.baseClaims j := by
  unfold passOver
  split
  · rename_i sentinel
    simp [sentinel]
  · rename_i not_sentinel
    unfold claimBase
    split
    · rename_i unclaimed
      simp [not_sentinel, unclaimed, OrderedMap.get?_insert]
    · rename_i owner claimed
      have unchanged : ¬(id = j ∧ r.ranges.isSentinel id = false ∧ OrderedMap.get? r.baseClaims id = none) := by
        simp [claimed]
      rw [if_neg unchanged]
      repeat' split
      all_goals rfl

/-! ### One registration -/

theorem exists_bounds_of_isManaged {ranges : RangeMap} {id : EntityId} (managed : ranges.isManaged id = true) :
    ∃ range b, ranges id.kind = some range ∧ range.bounds? id.number = some b := by
  obtain ⟨range, range_eq, managed_range⟩ := (Option.any_eq_true _ _).1 managed
  obtain ⟨b, bounds_eq, -⟩ := (Option.any_eq_true _ _).1 (Bool.and_eq_true_iff.1 managed_range).2
  exact ⟨range, b, range_eq, bounds_eq⟩

/-- An id in the range of its kind that belongs to some mod already. -/
structure Collides (r : Registry) (id : EntityId) (range : IdRange) (b : Bounds) (owner : String) : Prop where
  range_eq : r.ranges id.kind = some range
  bounds_eq : range.bounds? id.number = some b
  managed : r.ranges.isManaged id = true
  owner_eq : r.owner? id = some owner

/-- The ways in which the registration of an id that a mod declares can end. -/
inductive Outcome (r : Registry) (mod : String) (id : EntityId) :
    Registry × Except ResolveFault (Option Int) → Prop
  /-- The id is no modded id. -/
  | passed (unmanaged : r.ranges.isManaged id = false)
      (writable : r.SharesBase mod id → Decimal.isWritable id.number = true) :
      Outcome r mod id (r.passOver mod id, .ok none)
  /-- The id is one of the base game of which the mod has to be warned, and cannot be written. -/
  | unwritableShared (unmanaged : r.ranges.isManaged id = false) (shared : r.SharesBase mod id)
      (unwritable : Decimal.isWritable id.number = false) : Outcome r mod id (r, .error (.unwritable id.number))
  /-- Nobody has the id, and the mod keeps it. -/
  | kept (managed : r.ranges.isManaged id = true) (unowned : r.owner? id = none) :
      Outcome r mod id (r.own mod id, .ok none)
  /-- The mod gets the number that it got for this id before. -/
  | recalled {range b owner n} (collides : r.Collides id range b owner)
      (known : OrderedMap.get? r.allocations (mod, id) = some n)
      (writable : Decimal.unwritable? [id.number, n] = none) : Outcome r mod id (r.noted mod id owner n, .ok (some n))
  /-- The mod gets the next free number. -/
  | moved {range b owner n} (collides : r.Collides id range b owner)
      (unknown : OrderedMap.get? r.allocations (mod, id) = none) (free : r.nextFree range b id = some n)
      (writable : Decimal.unwritable? [id.number, n] = none) :
      Outcome r mod id ((r.give mod id n).noted mod id owner n, .ok (some n))
  /-- No number is free. -/
  | exhausted {range b owner e} (collides : r.Collides id range b owner)
      (unknown : OrderedMap.get? r.allocations (mod, id) = none) (full : r.nextFree range b id = none)
      (fault : ResolveFault.exhaustion id = e) : Outcome r mod id (r, .error e)
  /-- The id or the remembered number has too many digits. -/
  | unwritableRecalled {range b owner n k} (collides : r.Collides id range b owner)
      (known : OrderedMap.get? r.allocations (mod, id) = some n)
      (unwritable : Decimal.unwritable? [id.number, n] = some k) : Outcome r mod id (r, .error (.unwritable k))
  /-- The id or the next free number has too many digits, and the number is given away all the same. -/
  | unwritableMoved {range b owner n k} (collides : r.Collides id range b owner)
      (unknown : OrderedMap.get? r.allocations (mod, id) = none) (free : r.nextFree range b id = some n)
      (unwritable : Decimal.unwritable? [id.number, n] = some k) :
      Outcome r mod id (r.give mod id n, .error (.unwritable k))

/-- An id that is no modded one counts for nothing if it is a sentinel, and is one of the base game otherwise. -/
theorem register_of_unmanaged {r : Registry} {mod : String} {id : EntityId}
    (unmanaged : r.ranges.isManaged id = false) :
    r.register mod id = if r.ranges.isSentinel id then (r, .ok none) else r.claimBase mod id := by
  unfold register
  split
  · rename_i no_range
    rw [if_neg (by simp [RangeMap.isSentinel, no_range])]
  · rename_i range range_eq
    have sentinel_eq : r.ranges.isSentinel id = range.isSentinel id.number := by
      simp [RangeMap.isSentinel, range_eq]
    rw [sentinel_eq]
    split
    · rfl
    · rename_i not_sentinel
      split
      · rfl
      · rename_i b above
        obtain ⟨bounds_eq, low_le⟩ := Option.filter_eq_some_iff.1 above
        have managed : r.ranges.isManaged id = true := by
          simp only [RangeMap.isManaged, range_eq, Option.any_some, IdRange.isManaged, bounds_eq, low_le, Bool.and_true,
            Bool.not_eq_true', Bool.eq_false_iff.2 not_sentinel]
        rw [managed] at unmanaged
        cases unmanaged

private theorem register_eq_claim {r : Registry} {mod : String} {id : EntityId} {range : IdRange} {b : Bounds}
    (range_eq : r.ranges id.kind = some range) (bounds_eq : range.bounds? id.number = some b)
    (managed : r.ranges.isManaged id = true) : r.register mod id = r.claim range b mod id := by
  have managed_range : range.isManaged id.number = true := by simpa [RangeMap.isManaged, range_eq] using managed
  simp only [IdRange.isManaged, bounds_eq, Option.any_some, Bool.and_eq_true, Bool.not_eq_true'] at managed_range
  obtain ⟨not_sentinel, low_le⟩ := managed_range
  simp only [register, range_eq, bounds_eq, not_sentinel, Bool.false_eq_true, if_false, Option.filter, low_le, if_true]

private theorem outcome_of_unmanaged {r : Registry} {mod : String} {id : EntityId}
    (unmanaged : r.ranges.isManaged id = false) : Outcome r mod id (r.register mod id) := by
  rw [register_of_unmanaged unmanaged]
  have pass := @Outcome.passed r mod id unmanaged
  unfold passOver at pass
  split
  · rename_i sentinel
    rw [if_pos sentinel] at pass
    exact pass fun shared => absurd sentinel (by simp [shared.1])
  · rename_i not_sentinel
    rw [if_neg not_sentinel] at pass
    unfold claimBase at pass ⊢
    split
    · rename_i unclaimed
      simp only [unclaimed] at pass
      refine pass fun shared => ?_
      obtain ⟨-, owner, claimed, -⟩ := shared
      simp [unclaimed] at claimed
    · rename_i owner claimed
      simp only [claimed] at pass
      split
      · rename_i own
        rw [if_pos own] at pass
        refine pass fun shared => ?_
        obtain ⟨-, other, claimed', ne⟩ := shared
        exact absurd (by simpa [claimed, own, eq_comm] using claimed') ne
      · rename_i other
        have shared : r.SharesBase mod id := ⟨by simpa using not_sentinel, owner, claimed, other⟩
        split
        · rename_i writable
          rw [if_neg other, if_pos writable] at pass
          exact pass fun _ => writable
        · rename_i unwritable
          exact .unwritableShared unmanaged shared (by simpa using unwritable)

private theorem claim_outcome {r : Registry} {mod : String} {id : EntityId} {range : IdRange} {b : Bounds}
    (range_eq : r.ranges id.kind = some range) (bounds_eq : range.bounds? id.number = some b)
    (managed : r.ranges.isManaged id = true) : Outcome r mod id (r.claim range b mod id) := by
  unfold claim
  split
  · rename_i unowned
    exact .kept managed unowned
  · rename_i owner owned
    have collides : r.Collides id range b owner := ⟨range_eq, bounds_eq, managed, owned⟩
    unfold allocate
    cases known : OrderedMap.get? r.allocations (mod, id) with
    | some n =>
      cases writable : Decimal.unwritable? [id.number, n] with
      | none => simpa [writable, noted] using Outcome.recalled collides known writable
      | some k => simpa [writable] using Outcome.unwritableRecalled collides known writable
    | none =>
      cases free : r.nextFree range b id with
      | some n =>
        cases writable : Decimal.unwritable? [id.number, n] with
        | none => simpa [writable, noted] using Outcome.moved collides known free writable
        | some k => simpa [writable] using Outcome.unwritableMoved collides known free writable
      | none => exact Outcome.exhausted collides known free rfl

/-- A registration ends in one of the listed ways. -/
theorem register_outcome (r : Registry) (mod : String) (id : EntityId) :
    Outcome r mod id (r.register mod id) := by
  cases managed : r.ranges.isManaged id with
  | false => exact outcome_of_unmanaged managed
  | true =>
    obtain ⟨range, b, range_eq, bounds_eq⟩ := exists_bounds_of_isManaged managed
    rw [register_eq_claim range_eq bounds_eq managed]
    exact claim_outcome range_eq bounds_eq managed

/-- What a way of ending says that a registration does, the registration does. -/
theorem Outcome.register_eq {r : Registry} {mod : String} {id : EntityId}
    {result : Registry × Except ResolveFault (Option Int)} (h : Outcome r mod id result) :
    r.register mod id = result := by
  cases h with
  | passed unmanaged writable =>
    have outcome := r.register_outcome mod id
    generalize r.register mod id = result at outcome ⊢
    have not_managed : r.ranges.isManaged id ≠ true := by simp [unmanaged]
    cases outcome with
    | passed => rfl
    | unwritableShared _ shared unwritable => simp [writable shared] at unwritable
    | kept managed => exact absurd managed not_managed
    | recalled collides => exact absurd collides.managed not_managed
    | moved collides => exact absurd collides.managed not_managed
    | exhausted collides => exact absurd collides.managed not_managed
    | unwritableRecalled collides => exact absurd collides.managed not_managed
    | unwritableMoved collides => exact absurd collides.managed not_managed
  | unwritableShared unmanaged shared unwritable =>
    obtain ⟨not_sentinel, owner, claimed, other⟩ := shared
    rw [register_of_unmanaged unmanaged]
    simp [not_sentinel, claimBase, claimed, other, unwritable]
  | kept managed unowned =>
    obtain ⟨range, b, range_eq, bounds_eq⟩ := exists_bounds_of_isManaged managed
    rw [register_eq_claim range_eq bounds_eq managed, claim, unowned]
    rfl
  | recalled collides known writable =>
    rw [register_eq_claim collides.range_eq collides.bounds_eq collides.managed, claim, collides.owner_eq]
    simp [allocate, known, writable, noted]
  | moved collides unknown free writable =>
    rw [register_eq_claim collides.range_eq collides.bounds_eq collides.managed, claim, collides.owner_eq]
    simp [allocate, unknown, free, writable, noted]
  | exhausted collides unknown full fault =>
    rw [register_eq_claim collides.range_eq collides.bounds_eq collides.managed, claim, collides.owner_eq]
    simp [allocate, unknown, full, fault]
  | unwritableRecalled collides known unwritable =>
    rw [register_eq_claim collides.range_eq collides.bounds_eq collides.managed, claim, collides.owner_eq]
    simp [allocate, known, unwritable]
  | unwritableMoved collides unknown free unwritable =>
    rw [register_eq_claim collides.range_eq collides.bounds_eq collides.managed, claim, collides.owner_eq]
    simp [allocate, unknown, free, unwritable]

theorem Outcome.ranges_eq {r : Registry} {mod : String} {id : EntityId}
    {result : Registry × Except ResolveFault (Option Int)} (h : Outcome r mod id result) :
    result.1.ranges = r.ranges := by
  cases h <;> simp

/-- Only a modded id gets another number. -/
theorem Outcome.managed_of_change {r r' : Registry} {mod : String} {id : EntityId} {n : Int}
    (h : Outcome r mod id (r', .ok (some n))) : r.ranges.isManaged id = true := by
  cases h with
  | recalled collides => exact collides.managed
  | moved collides => exact collides.managed

/-! ### The next free number -/

/-- A number that may take the place of the number of an id: its magnitude lies in the range for the sign of the
id, it has that sign, and it is no sentinel. -/
def Eligible (ranges : RangeMap) (id : EntityId) (n : Int) : Prop :=
  ∃ range b m, ranges id.kind = some range ∧ range.bounds? id.number = some b ∧ b.low ≤ m ∧ m ≤ b.high ∧
    n = signOf id.number * m ∧ range.isSentinel n = false

/-- In ranges that the settings accept an eligible number has the sign of the id and a magnitude in the range. -/
theorem Eligible.sign_eq {ranges : RangeMap} {id : EntityId} {n : Int} (h : Eligible ranges id n)
    (valid : ranges.Valid) (managed : ranges.isManaged id = true) :
    ∃ range b, ranges id.kind = some range ∧ range.bounds? id.number = some b ∧ n.sign = id.number.sign ∧
      b.low ≤ n.natAbs ∧ n.natAbs ≤ b.high ∧ range.isSentinel n = false := by
  obtain ⟨range, b, m, range_eq, bounds_eq, low_le, le_high, rfl, not_sentinel⟩ := h
  have nonzero : id.number ≠ 0 := by
    rintro zero
    simp [RangeMap.isManaged, range_eq, IdRange.isManaged, IdRange.isSentinel, zero] at managed
  have bounds_valid : b.Valid := by
    have range_valid := valid _ _ range_eq
    unfold IdRange.bounds? at bounds_eq
    split at bounds_eq
    · exact range_valid.2 b bounds_eq
    · exact range_valid.1 b bounds_eq
  have low_pos : 1 ≤ b.low := bounds_valid.1
  refine ⟨range, b, range_eq, bounds_eq, ?_, ?_, ?_, not_sentinel⟩
  · unfold signOf
    split
    · rename_i negative
      rw [Int.sign_eq_neg_one_of_neg negative, Int.sign_eq_neg_one_of_neg (by omega)]
    · rw [Int.sign_eq_one_of_pos (by omega), Int.sign_eq_one_of_pos (by omega)]
  · unfold signOf; split <;> omega
  · unfold signOf; split <;> omega

/-- The next free number is eligible, belongs to nobody, and is declared by no mod of the run. -/
theorem of_nextFree_eq_some {r : Registry} {id : EntityId} {range : IdRange} {b : Bounds} {owner : String} {n : Int}
    (collides : r.Collides id range b owner) (h : r.nextFree range b id = some n) :
    Eligible r.ranges id n ∧ r.owner? (id.renumber n) = none ∧ id.renumber n ∉ r.reserved := by
  obtain ⟨m, found, rfl⟩ := Option.map_eq_some_iff.1 h
  obtain ⟨low_le, le_high, free⟩ := Bounds.of_firstInCycle_eq_some (by omega) found
  simp only [isFree, Bool.not_eq_true', Bool.or_eq_false_iff] at free
  obtain ⟨⟨unowned, unreserved⟩, not_sentinel⟩ := free
  refine ⟨⟨range, b, m, collides.range_eq, collides.bounds_eq, low_le, le_high, rfl, not_sentinel⟩, ?_, ?_⟩
  · simpa [owner?, ← Std.TreeMap.contains_iff_mem] using unowned
  · simpa [← Std.TreeSet.contains_iff_mem] using unreserved

/-! ### The loops over ids and mods -/

theorem registerAll_cons_eq_ok {r r' : Registry} {mod : String} {id : EntityId} {ids : List EntityId}
    {t : RemapTable} (h : r.registerAll mod (id :: ids) = (r', .ok t)) :
    ∃ r₁ change t', r.register mod id = (r₁, .ok change) ∧ r₁.registerAll mod ids = (r', .ok t') ∧
      t = (change.map (id, ·)).toList ++ t' := by
  unfold registerAll at h
  split at h
  · simp at h
  · rename_i r₁ change step
    cases rest : r₁.registerAll mod ids with
    | mk r₂ result =>
      cases result with
      | error e => simp [rest, Except.map] at h
      | ok t' =>
        simp only [rest, Except.map, Prod.mk.injEq, Except.ok.injEq] at h
        obtain ⟨rfl, rfl⟩ := h
        exact ⟨r₁, change, t', step, rest, rfl⟩

theorem registerAll_cons_of_eq_ok {r r₁ r' : Registry} {mod : String} {id : EntityId} {change : Option Int}
    {ids : List EntityId} {t : RemapTable} (step : r.register mod id = (r₁, .ok change))
    (rest : r₁.registerAll mod ids = (r', .ok t)) :
    r.registerAll mod (id :: ids) = (r', .ok ((change.map (id, ·)).toList ++ t)) := by
  rw [registerAll, step]
  simp only [rest, Except.map]

theorem registerMods_cons_eq_ok {r r' : Registry} {d : Definition} {ds : List Definition}
    {tables : OrderedMap String RemapTable} (h : r.registerMods (d :: ds) = (r', .ok tables)) :
    ∃ r₁ t tables', r.registerAll d.name d.declared = (r₁, .ok t) ∧ r₁.registerMods ds = (r', .ok tables') ∧
      tables = (d.name, t) :: tables' := by
  unfold registerMods at h
  split at h
  · simp at h
  · rename_i r₁ t step
    cases rest : r₁.registerMods ds with
    | mk r₂ result =>
      cases result with
      | error e => simp [rest, Except.map] at h
      | ok tables' =>
        simp only [rest, Except.map, Prod.mk.injEq, Except.ok.injEq] at h
        obtain ⟨rfl, rfl⟩ := h
        exact ⟨r₁, t, tables', step, rest, rfl⟩

/-- The registry at the beginning of a run over mods in merge order. -/
def opened (r : Registry) (ordered : List Definition) : Registry := { r with reserved := declaredBy ordered }

/-! ### What mods refer to -/

/-- The warnings about the modded ids to which a mod refers and that no mod of the run declares. -/
def danglingWarnings (r : Registry) (d : Definition) : List Warning :=
  (d.referenced.filter r.isDangling).map fun id => ⟨some d.name, .danglingReference id⟩

/-- Checking what a mod refers to adds all warnings, unless one of them is about an id that cannot be written. -/
theorem checkAll_eq (r : Registry) (mod : String) (ids : List EntityId) :
    r.checkAll mod ids =
        ({ r with warnings := r.warnings ++ (ids.filter r.isDangling).map fun id => ⟨some mod, .danglingReference id⟩ },
          .ok ()) ∨
      ∃ id ∈ ids, Decimal.isWritable id.number = false ∧
        ∃ warnings, r.checkAll mod ids = ({ r with warnings }, .error (.unwritable id.number)) := by
  induction ids generalizing r with
  | nil => exact Or.inl (by simp [checkAll])
  | cons id ids ih =>
    cases dangling : r.isDangling id with
    | false =>
      rcases ih r with all | ⟨j, hj, unwritable, some_warnings⟩
      · exact Or.inl (by simpa [checkAll, dangling] using all)
      · exact Or.inr ⟨j, List.mem_cons_of_mem id hj, unwritable, by simpa [checkAll, dangling] using some_warnings⟩
    | true =>
      cases writable : Decimal.isWritable id.number with
      | false => exact Or.inr ⟨id, by simp, writable, r.warnings, by simp [checkAll, dangling, writable]⟩
      | true =>
        have same : ∀ warnings, ({ r with warnings } : Registry).isDangling = r.isDangling := fun _ => rfl
        rcases ih { r with warnings := r.warnings ++ [⟨some mod, .danglingReference id⟩] } with
          all | ⟨j, hj, unwritable, some_warnings⟩
        · exact Or.inl (by simpa [checkAll, dangling, writable, same] using all)
        · refine Or.inr ⟨j, List.mem_cons_of_mem id hj, unwritable, ?_⟩
          simpa [checkAll, dangling, writable] using some_warnings

/-- The same for what some mods refer to. -/
theorem checkMods_eq (r : Registry) (ds : List Definition) :
    r.checkMods ds = ({ r with warnings := r.warnings ++ ds.flatMap r.danglingWarnings }, .ok ()) ∨
      ∃ d ∈ ds, ∃ id ∈ d.referenced, Decimal.isWritable id.number = false ∧
        ∃ warnings, r.checkMods ds = ({ r with warnings }, .error (.unwritable id.number)) := by
  induction ds generalizing r with
  | nil => exact Or.inl (by simp [checkMods])
  | cons d ds ih =>
    rcases r.checkAll_eq d.name d.referenced with all | ⟨id, referenced, unwritable, warnings, some_warnings⟩
    · have same : ∀ warnings, ({ r with warnings } : Registry).danglingWarnings = r.danglingWarnings := fun _ => rfl
      rcases ih { r with warnings := r.warnings ++ r.danglingWarnings d } with rest | ⟨e, he, failed⟩
      · refine Or.inl ?_
        rw [checkMods, all, List.flatMap_cons, ← List.append_assoc]
        exact rest
      · refine Or.inr ⟨e, List.mem_cons_of_mem d he, ?_⟩
        rw [checkMods, all]
        exact failed
    · exact Or.inr ⟨d, by simp, id, referenced, unwritable, warnings, by rw [checkMods, some_warnings]⟩

/-- A run that succeeds registers the mods in merge order, and then warns of ids that nobody declares. -/
theorem registerMods_of_resolve {r : Registry} {ds : List Definition} {tables : OrderedMap String RemapTable}
    (run : (r.resolve ds).2 = .ok tables) :
    ∃ r₁, (r.opened (inMergeOrder Definition.name ds)).registerMods (inMergeOrder Definition.name ds) =
        (r₁, .ok tables) ∧
      (r.resolve ds).1 =
        { r₁ with warnings := r₁.warnings ++ (inMergeOrder Definition.name ds).flatMap r₁.danglingWarnings } := by
  unfold resolve at run ⊢
  simp only at run ⊢
  split at run
  · cases run
  · rename_i r₁ tables₁ registered
    rcases r₁.checkMods_eq (inMergeOrder Definition.name ds) with checked | ⟨_, _, _, _, _, _, checked⟩
    · simp only [checked, Except.map, Except.ok.injEq] at run ⊢
      exact ⟨r₁, run ▸ registered, rfl⟩
    · simp [checked, Except.map] at run

/-- A run that fails does so when it registers the mods, or at an id that cannot be written and that a mod refers to. -/
theorem registerMods_of_resolve_eq_error {r : Registry} {ds : List Definition} {e : ResolveFault}
    (run : (r.resolve ds).2 = .error e) :
    (∃ r₁, (r.opened (inMergeOrder Definition.name ds)).registerMods (inMergeOrder Definition.name ds) =
        (r₁, .error e)) ∨
      (∃ r₁ tables, (r.opened (inMergeOrder Definition.name ds)).registerMods (inMergeOrder Definition.name ds) =
        (r₁, .ok tables)) ∧
      ∃ d ∈ ds, ∃ id ∈ d.referenced, Decimal.isWritable id.number = false ∧ e = .unwritable id.number := by
  unfold resolve at run
  simp only at run
  split at run
  · rename_i r₁ e₁ failed
    cases run
    exact Or.inl ⟨r₁, failed⟩
  · rename_i r₁ tables registered
    refine Or.inr ⟨⟨r₁, tables, registered⟩, ?_⟩
    rcases r₁.checkMods_eq (inMergeOrder Definition.name ds) with checked | ⟨d, hd, id, referenced, unwritable, _, checked⟩
    · simp [checked, Except.map] at run
    · refine ⟨d, mem_sortBy.1 hd, id, referenced, unwritable, ?_⟩
      simpa [checked, Except.map, eq_comm] using run

/-! ### Numbers that can be written -/

theorem Outcome.isWritable_of_change {r r' : Registry} {mod : String} {id : EntityId} {n : Int}
    (h : Outcome r mod id (r', .ok (some n))) : Decimal.isWritable n = true := by
  cases h with
  | recalled _ _ writable => exact Decimal.unwritable?_eq_none_iff.1 writable n (by simp)
  | moved _ _ _ writable => exact Decimal.unwritable?_eq_none_iff.1 writable n (by simp)

theorem isWritable_of_registerAll {r r' : Registry} {mod : String} {ids : List EntityId} {t : RemapTable}
    (run : r.registerAll mod ids = (r', .ok t)) : ∀ p ∈ t, Decimal.isWritable p.2 = true := by
  induction ids generalizing r t with
  | nil =>
    cases run
    nofun
  | cons id ids ih =>
    obtain ⟨r₁, change, t', step, rest, rfl⟩ := registerAll_cons_eq_ok run
    intro p hp
    rcases List.mem_append.1 hp with hp | hp
    · obtain ⟨n, rfl, rfl⟩ := Option.map_eq_some_iff.1 (Option.mem_toList.1 hp)
      have outcome := r.register_outcome mod id
      rw [step] at outcome
      exact outcome.isWritable_of_change
    · exact ih rest p hp

theorem isWritable_of_registerMods {r r' : Registry} {ds : List Definition} {tables : OrderedMap String RemapTable}
    (run : r.registerMods ds = (r', .ok tables)) : ∀ t ∈ tables, ∀ p ∈ t.2, Decimal.isWritable p.2 = true := by
  induction ds generalizing r tables with
  | nil =>
    cases run
    nofun
  | cons d ds ih =>
    obtain ⟨r₁, t, tables', first, rest, rfl⟩ := registerMods_cons_eq_ok run
    rintro _ (_ | ⟨_, later⟩)
    · exact isWritable_of_registerAll first
    · exact ih rest _ later

/-- Every number that a run gives can be written, since it is written in a message when it is given. -/
theorem isWritable_of_resolve {r : Registry} {ds : List Definition} {tables : OrderedMap String RemapTable}
    (run : (r.resolve ds).2 = .ok tables) : ∀ t ∈ tables, ∀ p ∈ t.2, Decimal.isWritable p.2 = true := by
  obtain ⟨r', registered, -⟩ := registerMods_of_resolve run
  exact isWritable_of_registerMods registered

end ModWeave.Registry
