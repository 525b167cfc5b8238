import Mathlib.Data.List.Forall2
import ModWeave.Proofs.Registry.FinalIds
import ModWeave.Proofs.Registry.IdClass
import ModWeave.Proofs.Registry.Owners
import ModWeave.Proofs.Registry.Runs

/-!
# Classes of ids do not get in each other's way

What a registration does to the ids of one class is told by the bounds, the sentinels, the owners, the declared ids,
the remembered numbers and the claims on the base game of that class.  `AgreeOn c r s` says that two registries have all these in common for the class
`c`.  The registration of an id of another class keeps a registry in agreement with what it was
(`AgreeOn.register_other`), and the registration of an id of the class itself does the same to both
(`AgreeOn.register`).  So a run does to the class what it does if all other ids are left out (`AgreeOn.registerAll`), and
two runs whose mods declare the same ids of the class, in the same order, give them the same numbers
(`resolveIds_eq_on_class`).
-/

namespace ModWeave

/-! ### Searches with tests that agree -/

theorem firstFrom_congr {test test' : Int → Bool} {start : Int} (count : Nat)
    (h : ∀ m, start ≤ m → test m = test' m) : firstFrom test start count = firstFrom test' start count := by
  induction count generalizing start with
  | zero => rfl
  | succ count ih => rw [firstFrom, firstFrom, h start (Int.le_refl _), ih fun m hm => h m (by omega)]

theorem Bounds.firstInCycle_congr {b : Bounds} {test test' : Int → Bool} {start : Int} (low_le : b.low ≤ start)
    (h : ∀ m, b.low ≤ m → test m = test' m) : b.firstInCycle test start = b.firstInCycle test' start := by
  rw [firstInCycle, firstInCycle, firstFrom_congr _ fun m hm => h m (Int.le_trans low_le hm), firstFrom_congr _ h]

namespace Registry

/-- Two registries that have in common all that is known about the ids of a class. -/
structure AgreeOn (c : IdClass) (r s : Registry) : Prop where
  bounds : c.bounds? r.ranges = c.bounds? s.ranges
  sentinel : ∀ id, c.has id = true → r.ranges.isSentinel id = s.ranges.isSentinel id
  reserved : ∀ id, c.has id = true → (id ∈ r.reserved ↔ id ∈ s.reserved)
  owner : ∀ id, c.has id = true → r.owner? id = s.owner? id
  allocation : ∀ mod id, c.has id = true →
    OrderedMap.get? r.allocations (mod, id) = OrderedMap.get? s.allocations (mod, id)
  base : ∀ id, c.has id = true → OrderedMap.get? r.baseClaims id = OrderedMap.get? s.baseClaims id

variable {c : IdClass} {r r' s s' : Registry} {mod : String} {id : EntityId}

namespace AgreeOn

theorem refl (c : IdClass) (r : Registry) : AgreeOn c r r :=
  ⟨rfl, fun _ _ => rfl, fun _ _ => Iff.rfl, fun _ _ => rfl, fun _ _ _ => rfl, fun _ _ => rfl⟩

theorem symm (h : AgreeOn c r s) : AgreeOn c s r where
  bounds := h.bounds.symm
  sentinel id in_class := (h.sentinel id in_class).symm
  reserved id in_class := (h.reserved id in_class).symm
  owner id in_class := (h.owner id in_class).symm
  allocation mod id in_class := (h.allocation mod id in_class).symm
  base id in_class := (h.base id in_class).symm

theorem trans (h : AgreeOn c r r') (h' : AgreeOn c r' s) : AgreeOn c r s where
  bounds := h.bounds.trans h'.bounds
  sentinel id in_class := (h.sentinel id in_class).trans (h'.sentinel id in_class)
  reserved id in_class := (h.reserved id in_class).trans (h'.reserved id in_class)
  owner id in_class := (h.owner id in_class).trans (h'.owner id in_class)
  allocation mod id in_class := (h.allocation mod id in_class).trans (h'.allocation mod id in_class)
  base id in_class := (h.base id in_class).trans (h'.base id in_class)

theorem noted (h : AgreeOn c r s) (mod : String) (id : EntityId) (owner : String) (n : Int) :
    AgreeOn c r (s.noted mod id owner n) := ⟨h.bounds, h.sentinel, h.reserved, h.owner, h.allocation, h.base⟩

/-! ### One registration -/

theorem register_other (valid : r.ranges.Valid) (other : c.has id = false) :
    AgreeOn c r (r.register mod id).1 := by
  -- neither the id nor the one it may get instead is of the class
  have ne : ∀ j, c.has j = true → id ≠ j := by
    rintro j in_class rfl
    rw [other] at in_class
    cases in_class
  have give : ∀ {n}, Eligible r.ranges id n → r.ranges.isManaged id = true → AgreeOn c r (r.give mod id n) := by
    intro n eligible managed
    have final_ne : ∀ j, c.has j = true → id.renumber n ≠ j := by
      rintro j in_class rfl
      rw [eligible.has_renumber valid managed, other] at in_class
      cases in_class
    refine ⟨rfl, fun _ _ => rfl, fun _ _ => Iff.rfl, fun j in_class => ?_, fun m j in_class => ?_, fun _ _ => rfl⟩
    · rw [owner?_give, if_neg (final_ne j in_class)]
    · rw [allocations_give, OrderedMap.get?_insert, if_neg fun same => ne j in_class (Prod.mk.inj same).2]
  have outcome := r.register_outcome mod id
  generalize r.register mod id = result at outcome ⊢
  cases outcome with
  | passed =>
    refine ⟨by simp, by simp, by simp, by simp, by simp, fun j in_class => ?_⟩
    rw [get?_baseClaims_passOver, if_neg fun same => ne j in_class same.1]
  | unwritableShared => exact refl c r
  | kept =>
    exact ⟨rfl, fun _ _ => rfl, fun _ _ => Iff.rfl, fun j in_class => by rw [owner?_own, if_neg (ne j in_class)],
      fun _ _ _ => rfl, fun _ _ => rfl⟩
  | recalled => exact (refl c r).noted ..
  | moved collides unknown free =>
    exact (give (of_nextFree_eq_some collides free).1 collides.managed).noted ..
  | exhausted => exact refl c r
  | unwritableRecalled => exact refl c r
  | unwritableMoved collides unknown free => exact give (of_nextFree_eq_some collides free).1 collides.managed

variable (h : AgreeOn c r s) (in_class : c.has id = true)

include h in_class

theorem isManaged_eq : r.ranges.isManaged id = s.ranges.isManaged id := by
  obtain ⟨-, rfl⟩ := IdClass.has_iff.1 in_class
  rw [RangeMap.isManaged_eq, RangeMap.isManaged_eq, h.bounds, h.sentinel id in_class]

/-- An id that belongs to some mod in one registry does in the other, which finds the same free number for it. -/
theorem collides (valid : r.ranges.Valid) {range : IdRange} {b : Bounds} {owner : String}
    (collides : r.Collides id range b owner) : ∃ range', s.Collides id range' b owner ∧
      s.nextFree range' b id = r.nextFree range b id := by
  obtain ⟨-, rfl⟩ := IdClass.has_iff.1 in_class
  have low_pos : 1 ≤ b.low := (IdClass.valid_of_bounds? valid collides.bounds?_idClass).1
  have bounds_eq := collides.bounds?_idClass
  rw [h.bounds, ← IdClass.bind_bounds?] at bounds_eq
  obtain ⟨range', range_eq, bounds_eq⟩ := Option.bind_eq_some_iff.1 bounds_eq
  have collides' : s.Collides id range' b owner :=
    ⟨range_eq, bounds_eq, (h.isManaged_eq in_class).symm.trans collides.managed,
      (h.owner id in_class).symm.trans collides.owner_eq⟩
  refine ⟨range', collides', congrArg (Option.map _) (Bounds.firstInCycle_congr (by omega) fun m low_le => ?_)⟩
  have has : id.idClass.has (id.idClass.idOf m) = true := IdClass.has_idOf (by omega)
  have declared := Bool.eq_iff_iff.2
    (Std.TreeSet.contains_iff_mem.trans ((h.reserved _ has).trans Std.TreeSet.contains_iff_mem.symm))
  rw [collides.isFree_eq, collides'.isFree_eq, h.owner _ has, declared, h.sentinel _ has]

theorem register (valid : r.ranges.Valid) {change : Option Int} (step : r.register mod id = (r', .ok change)) :
    ∃ s', s.register mod id = (s', .ok change) ∧ AgreeOn c r' s' := by
  have outcome := r.register_outcome mod id
  rw [step] at outcome
  have managed_eq := h.isManaged_eq in_class
  cases outcome with
  | passed unmanaged writable =>
    have shares_iff : s.SharesBase mod id ↔ r.SharesBase mod id := by
      rw [SharesBase, SharesBase, h.sentinel id in_class, h.base id in_class]
    refine ⟨_, (Outcome.passed (managed_eq.symm.trans unmanaged) (writable ∘ shares_iff.1)).register_eq, ?_⟩
    refine ⟨by simpa using h.bounds, by simpa using h.sentinel, by simpa using h.reserved, by simpa using h.owner,
      by simpa using h.allocation, fun j hj => ?_⟩
    rw [get?_baseClaims_passOver, get?_baseClaims_passOver, h.base j hj, h.sentinel id in_class, h.base id in_class]
  | kept managed unowned =>
    refine ⟨_, (Outcome.kept (managed_eq.symm.trans managed) ((h.owner id in_class).symm.trans unowned)).register_eq, ?_⟩
    refine ⟨h.bounds, h.sentinel, h.reserved, fun j hj => ?_, h.allocation, h.base⟩
    rw [owner?_own, owner?_own, h.owner j hj]
  | recalled collides known writable =>
    obtain ⟨range', collides', -⟩ := h.collides in_class valid collides
    refine ⟨_, (Outcome.recalled collides' ((h.allocation mod id in_class).symm.trans known) writable).register_eq, ?_⟩
    exact ((h.noted ..).symm.noted ..).symm
  | moved collides unknown free writable =>
    obtain ⟨range', collides', free_eq⟩ := h.collides in_class valid collides
    refine ⟨_, (Outcome.moved collides' ((h.allocation mod id in_class).symm.trans unknown) (free_eq.trans free)
      writable).register_eq, ?_⟩
    refine ⟨h.bounds, h.sentinel, h.reserved, fun j hj => ?_, fun m j hj => ?_, h.base⟩
    · rw [owner?_noted, owner?_noted, owner?_give, owner?_give, h.owner j hj]
    · rw [allocations_noted, allocations_noted, allocations_give, allocations_give, OrderedMap.get?_insert,
        OrderedMap.get?_insert, h.allocation m j hj]

end AgreeOn

/-! ### Runs -/

/-- The entries of a table that belong to a class. -/
def onClass (c : IdClass) (t : RemapTable) : RemapTable := t.filter fun p => c.has p.1

theorem onClass_change_append (change : Option Int) (id : EntityId) (t : RemapTable) :
    onClass c ((change.map (id, ·)).toList ++ t) =
      if c.has id then (change.map (id, ·)).toList ++ onClass c t else onClass c t := by
  cases change <;> cases in_class : c.has id <;> simp [onClass, in_class]

/-- Registering the ids of a mod does to a class what it does if the other ids are left out. -/
theorem AgreeOn.registerAll {ids : List EntityId} {t : RemapTable} (h : AgreeOn c r s) (valid : r.ranges.Valid)
    (run : r.registerAll mod ids = (r', .ok t)) :
    ∃ s', s.registerAll mod (ids.filter c.has) = (s', .ok (onClass c t)) ∧ AgreeOn c r' s' ∧ r'.ranges = r.ranges := by
  induction ids generalizing r s t with
  | nil =>
    cases run
    exact ⟨s, rfl, h, rfl⟩
  | cons id ids ih =>
    obtain ⟨r₁, change, t', step, rest, rfl⟩ := registerAll_cons_eq_ok run
    have ranges_eq := (r.register_outcome mod id).ranges_eq
    rw [step] at ranges_eq
    have valid₁ : r₁.ranges.Valid := ranges_eq ▸ valid
    rw [onClass_change_append, List.filter_cons]
    cases in_class : c.has id with
    | true =>
      obtain ⟨s₁, step', h₁⟩ := h.register in_class valid step
      obtain ⟨s', rest', h', ranges_eq'⟩ := ih h₁ valid₁ rest
      exact ⟨s', registerAll_cons_of_eq_ok step' rest', h', ranges_eq'.trans ranges_eq⟩
    | false =>
      have unchanged : AgreeOn c r (r.register mod id).1 := AgreeOn.register_other valid in_class
      rw [step] at unchanged
      obtain ⟨s', rest', h', ranges_eq'⟩ := ih (unchanged.symm.trans h) valid₁ rest
      exact ⟨s', rest', h', ranges_eq'.trans ranges_eq⟩

/-- Two definitions of mods with one name that declare the same ids of a class, in the same order. -/
def AlikeOn (c : IdClass) (d d' : Definition) : Prop :=
  d.name = d'.name ∧ d.declared.filter c.has = d'.declared.filter c.has

/-- Mods that are alike on a class get the same entries for the class. -/
theorem AgreeOn.registerMods {ds ds' : List Definition} {tables tables' : OrderedMap String RemapTable}
    (h : AgreeOn c r s) (valid : r.ranges.Valid) (valid' : s.ranges.Valid)
    (same : List.Forall₂ (AlikeOn c) ds ds')
    (run : r.registerMods ds = (r', .ok tables)) (run' : s.registerMods ds' = (s', .ok tables')) :
    List.Forall₂ (fun p p' => p.1 = p'.1 ∧ onClass c p.2 = onClass c p'.2) tables tables' := by
  induction same generalizing r s tables tables' with
  | nil =>
    cases run
    cases run'
    exact .nil
  | @cons d d' ds ds' heads _ ih =>
    obtain ⟨name_eq, declared_eq⟩ := heads
    obtain ⟨r₁, t, tables, first, rest, rfl⟩ := registerMods_cons_eq_ok run
    obtain ⟨s₁, t', tables', first', rest', rfl⟩ := registerMods_cons_eq_ok run'
    -- both runs over a mod are compared with the one over the ids of the class alone
    obtain ⟨u, alone, agree, ranges_eq⟩ := (refl c r).registerAll valid first
    obtain ⟨u', alone', agree', ranges_eq'⟩ := h.symm.registerAll valid' first'
    rw [declared_eq, name_eq, alone'] at alone
    obtain ⟨rfl, entries_eq⟩ := Prod.mk.inj alone
    exact .cons ⟨name_eq, (Except.ok.inj entries_eq).symm⟩
      (ih (agree.trans agree'.symm) (ranges_eq ▸ valid) (ranges_eq' ▸ valid') rest rest')

theorem get?_of_forall₂ {tables tables' : OrderedMap String RemapTable}
    (same : List.Forall₂ (fun p p' => p.1 = p'.1 ∧ onClass c p.2 = onClass c p'.2) tables tables') {name : String}
    {t : RemapTable} (found : OrderedMap.get? tables name = some t) :
    ∃ t', OrderedMap.get? tables' name = some t' ∧ onClass c t = onClass c t' := by
  induction same with
  | nil => cases found
  | @cons p p' tables tables' heads _ ih =>
    obtain ⟨name_eq, entries_eq⟩ := heads
    rw [OrderedMap.get?_cons] at found ⊢
    rw [← name_eq]
    split at found
    · rename_i here
      obtain rfl := Option.some.inj found
      exact ⟨p'.2, if_pos here, entries_eq⟩
    · rename_i elsewhere
      rw [if_neg elsewhere]
      exact ih found

theorem mem_declaredBy_iff {ds ds' : List Definition} (same : List.Forall₂ (AlikeOn c) ds ds')
    (in_class : c.has id = true) : id ∈ declaredBy ds ↔ id ∈ declaredBy ds' := by
  simp only [mem_declaredBy]
  induction same with
  | nil => simp
  | @cons d d' ds ds' heads _ ih =>
    have declared_iff : id ∈ d.declared ↔ id ∈ d'.declared := by
      have filter_iff : id ∈ d.declared.filter c.has ↔ id ∈ d'.declared.filter c.has := by rw [heads.2]
      simpa [in_class] using filter_iff
    simp only [List.exists_mem_cons_iff, declared_iff, ih]

/-- Mods with the same names that declare the same ids of a class are arranged alike. -/
theorem forall₂_inMergeOrder {ds ds' : List Definition} (names : (ds.map Definition.name).Nodup)
    (same_names : (ds.map Definition.name).Perm (ds'.map Definition.name))
    (same_declared : ∀ d ∈ ds, ∀ d' ∈ ds', d.name = d'.name → d.declared.filter c.has = d'.declared.filter c.has) :
    List.Forall₂ (AlikeOn c) (inMergeOrder Definition.name ds) (inMergeOrder Definition.name ds') := by
  have names_eq : (inMergeOrder Definition.name ds).map Definition.name =
      (inMergeOrder Definition.name ds').map Definition.name := by
    rw [map_name_inMergeOrder, map_name_inMergeOrder]
    exact inMergeOrder_eq_of_perm same_names (by simpa only [List.map_id'] using names)
  have by_name : List.Forall₂ (fun d d' => d.name = d'.name) (inMergeOrder Definition.name ds)
      (inMergeOrder Definition.name ds') :=
    List.forall₂_map_right_iff.1 (List.forall₂_map_left_iff.1 (names_eq ▸ List.forall₂_same.2 fun _ _ => rfl))
  obtain ⟨length_eq, by_name⟩ := List.forall₂_iff_zip.1 by_name
  refine List.forall₂_iff_zip.2 ⟨length_eq, fun {d d'} pair => ⟨by_name pair, ?_⟩⟩
  obtain ⟨hd, hd'⟩ := List.of_mem_zip pair
  exact same_declared d (mem_sortBy.1 hd) d' (mem_sortBy.1 hd') (by_name pair)

/-- The entries of a class depend on the class alone: if the mods of two runs have the same names and each declares the
same ids of the class in the same order, and the ranges agree about the bounds of the class and its sentinels, each mod
gets the same entries of the class in both, whatever else the mods declare or refer to and whatever the other ranges
are. -/
theorem resolveIds_eq_on_class (c : IdClass) {ranges ranges' : RangeMap} {ds ds' : List Definition}
    {tables tables' : OrderedMap String RemapTable} (valid : ranges.Valid) (valid' : ranges'.Valid)
    (bounds_eq : c.bounds? ranges = c.bounds? ranges')
    (sentinel_eq : ∀ id, c.has id = true → ranges.isSentinel id = ranges'.isSentinel id)
    (names : (ds.map Definition.name).Nodup) (same_names : (ds.map Definition.name).Perm (ds'.map Definition.name))
    (same_declared : ∀ d ∈ ds, ∀ d' ∈ ds', d.name = d'.name → d.declared.filter c.has = d'.declared.filter c.has)
    (run : (resolveIds ranges ds).2 = .ok tables) (run' : (resolveIds ranges' ds').2 = .ok tables') :
    ∀ d ∈ ds, ∃ t t', OrderedMap.get? tables d.name = some t ∧ OrderedMap.get? tables' d.name = some t' ∧
      t.filter (fun p => c.has p.1) = t'.filter fun p => c.has p.1 := by
  intro d hd
  obtain ⟨-, -, -, keys_eq, -⟩ := ledger_resolveIds names run
  obtain ⟨r₁, registered, -⟩ := registerMods_of_resolve run
  obtain ⟨s₁, registered', -⟩ := registerMods_of_resolve run'
  have same := forall₂_inMergeOrder names same_names same_declared
  have opened : AgreeOn c ((empty ranges).opened (inMergeOrder Definition.name ds))
      ((empty ranges').opened (inMergeOrder Definition.name ds')) :=
    ⟨bounds_eq, sentinel_eq, fun _ in_class => mem_declaredBy_iff same in_class, fun _ _ => rfl, fun _ _ _ => rfl,
      fun _ _ => rfl⟩
  have found := get?_eq_some_tableOf keys_eq hd
  obtain ⟨t', found', entries_eq⟩ := get?_of_forall₂ (opened.registerMods valid valid' same registered registered') found
  exact ⟨_, t', found, found', entries_eq⟩

/-- Mods that declare the montags of the rivals in the same order, and other ids than they do. -/
def lookalikes : List Definition :=
  [declaringAndReferring "gamma" [⟨.nation, 150⟩, ⟨.monster, -1000⟩] [⟨.weapon, 900⟩],
    declaring "beta" [⟨.monster, -1000⟩, ⟨.monster, 3500⟩],
    declaring "Alpha" [⟨.monster, 3500⟩, ⟨.monster, -1000⟩]]

/-- What the lookalikes get. -/
def lookalikeTables : OrderedMap String RemapTable :=
  [("Alpha", []), ("beta", [(⟨.monster, -1000⟩, -1001), (⟨.monster, 3500⟩, 3501)]), ("gamma", [(⟨.monster, -1000⟩, -1002)])]

theorem resolveIds_lookalikes : (resolveIds scarceRanges lookalikes).2 = .ok lookalikeTables := by decide +kernel

/-- Montags get the same numbers in a run over the rivals and in one over the lookalikes with fewer nations. -/
theorem resolveIds_eq_on_montags :
    RangeMap.default.Valid ∧ scarceRanges.Valid ∧ (rivals.map Definition.name).Nodup ∧
      (rivals.map Definition.name).Perm (lookalikes.map Definition.name) ∧
      (resolveIds RangeMap.default rivals).2 = .ok rivalTables ∧
      (resolveIds scarceRanges lookalikes).2 = .ok lookalikeTables ∧
      ∃ t, OrderedMap.get? lookalikeTables "gamma" = some t ∧
        t.filter (fun p => IdClass.has ⟨.monster, true⟩ p.1) = [(⟨.monster, -1000⟩, -1002)] := by
  have same_names : (rivals.map Definition.name).Perm (lookalikes.map Definition.name) := by decide
  have sentinel_eq : ∀ id, IdClass.has ⟨.monster, true⟩ id = true →
      RangeMap.default.isSentinel id = scarceRanges.isSentinel id := by
    intro id in_class
    have kind_eq : id.kind = .monster := congrArg IdClass.kind (IdClass.has_iff.1 in_class).2
    simp [RangeMap.isSentinel, scarceRanges, RangeMap.update, kind_eq]
  obtain ⟨t, t', found, found', entries_eq⟩ := resolveIds_eq_on_class ⟨.monster, true⟩ RangeMap.valid_default
    valid_scarceRanges rfl sentinel_eq nodup_names_rivals same_names (by decide) resolveIds_rivals resolveIds_lookalikes
    rivals[2] (by decide)
  cases found
  exact ⟨RangeMap.valid_default, valid_scarceRanges, nodup_names_rivals, same_names, resolveIds_rivals,
    resolveIds_lookalikes, t', found', entries_eq.symm⟩

end Registry

end ModWeave
