import ModWeave.Proofs.Registry.Outcome

/-!
# Classes of ids

The ids of one kind and one sign share a range of magnitudes, and a collision among them is settled by a number of
the same kind and sign.  `IdClass` names such a class.  Zero is in no class, as it is never a modded id.  Everything
that a registration looks at is told by the bounds of the class and its sentinels (`RangeMap.isManaged_eq`), and the
number that an id gets instead of its own keeps it in its class (`Registry.Eligible.has_renumber`).
-/

namespace ModWeave

/-- A kind of entity and a sign. -/
structure IdClass where
  kind : EntityKind
  negative : Bool
deriving DecidableEq, Repr

/-- The class of an id that is not zero. -/
def EntityId.idClass (id : EntityId) : IdClass := ⟨id.kind, id.number < 0⟩

namespace IdClass

/-- Whether an id is of a class. -/
def has (c : IdClass) (id : EntityId) : Bool := id.number ≠ 0 && id.idClass = c

/-- The id of a class with a given magnitude. -/
def idOf (c : IdClass) (m : Int) : EntityId := ⟨c.kind, if c.negative then -m else m⟩

/-- The bounds of the magnitudes of a class, if mods may use any. -/
def bounds? (c : IdClass) (ranges : RangeMap) : Option Bounds :=
  (ranges c.kind).bind fun range => if c.negative then range.negative else range.positive

variable {c : IdClass} {id : EntityId} {ranges : RangeMap}

theorem has_iff : c.has id = true ↔ id.number ≠ 0 ∧ id.idClass = c := by simp [has]

theorem has_idClass (nonzero : id.number ≠ 0) : id.idClass.has id = true := has_iff.2 ⟨nonzero, rfl⟩

/-- A number of the same sign keeps an id in its class. -/
theorem has_renumber {n : Int} (sign_eq : n.sign = id.number.sign) : c.has (id.renumber n) = c.has id := by
  have nonzero : n ≠ 0 ↔ id.number ≠ 0 := by
    rw [Ne, ← Int.sign_eq_zero_iff_zero, sign_eq, Int.sign_eq_zero_iff_zero]
  have negative : n < 0 ↔ id.number < 0 := by
    rw [← Int.sign_eq_neg_one_iff_neg, sign_eq, Int.sign_eq_neg_one_iff_neg]
  rw [Bool.eq_iff_iff, has_iff, has_iff]
  simp only [EntityId.renumber, EntityId.idClass, nonzero, negative]

theorem has_idOf {m : Int} (pos : 1 ≤ m) : c.has (c.idOf m) = true := by
  obtain ⟨kind, negative⟩ := c
  cases negative
  · exact has_iff.2 ⟨show m ≠ 0 by omega, by simp [idOf, EntityId.idClass]; omega⟩
  · exact has_iff.2 ⟨show -m ≠ 0 by omega, by simp [idOf, EntityId.idClass]; omega⟩

theorem natAbs_idOf {m : Int} (pos : 1 ≤ m) : ((c.idOf m).number.natAbs : Int) = m := by
  show (((if c.negative then -m else m).natAbs : Int)) = m
  split <;> omega

theorem idOf_natAbs (h : c.has id = true) : c.idOf id.number.natAbs = id := by
  obtain ⟨-, rfl⟩ := has_iff.1 h
  obtain ⟨kind, number⟩ := id
  unfold idOf EntityId.idClass
  by_cases negative : number < 0
  · simp only [negative, decide_true, if_true, EntityId.mk.injEq, true_and]
    omega
  · simp only [negative, decide_false, Bool.false_eq_true, if_false, EntityId.mk.injEq, true_and]
    omega

/-- The search for a number tries the magnitudes of the class of the id. -/
theorem renumber_signOf (m : Int) : id.renumber (Registry.signOf id.number * m) = id.idClass.idOf m := by
  unfold EntityId.renumber Registry.signOf idOf EntityId.idClass
  by_cases negative : id.number < 0
  · simp [negative]
  · simp [negative]

theorem bind_bounds? (id : EntityId) :
    ((ranges id.kind).bind fun range => range.bounds? id.number) = id.idClass.bounds? ranges := by
  unfold bounds? IdRange.bounds? EntityId.idClass
  by_cases negative : id.number < 0
  · simp [negative]
  · simp [negative]

theorem valid_of_bounds? (valid : ranges.Valid) {b : Bounds} (h : c.bounds? ranges = some b) : b.Valid := by
  obtain ⟨range, range_eq, bounds_eq⟩ := Option.bind_eq_some_iff.1 h
  obtain ⟨positive, negative⟩ := valid _ _ range_eq
  split at bounds_eq
  · exact negative b bounds_eq
  · exact positive b bounds_eq

end IdClass

theorem RangeMap.isManaged_eq (ranges : RangeMap) (id : EntityId) : ranges.isManaged id =
    (!ranges.isSentinel id && (id.idClass.bounds? ranges).any fun b => b.low ≤ (id.number.natAbs : Int)) := by
  rw [← IdClass.bind_bounds?]
  unfold RangeMap.isManaged RangeMap.isSentinel IdRange.isManaged
  cases ranges id.kind with
  | none => rfl
  | some range => rfl

theorem RangeMap.number_ne_zero_of_isManaged {ranges : RangeMap} {id : EntityId} (h : ranges.isManaged id = true) :
    id.number ≠ 0 := by
  intro zero
  obtain ⟨range, range_eq, managed⟩ := (Option.any_eq_true _ _).1 h
  simp [IdRange.isManaged, IdRange.isSentinel, zero] at managed

namespace Registry

variable {r : Registry} {id : EntityId} {range : IdRange} {b : Bounds} {owner : String}

theorem Collides.bounds?_idClass (h : r.Collides id range b owner) : id.idClass.bounds? r.ranges = some b := by
  rw [← IdClass.bind_bounds?, h.range_eq, Option.bind_some, h.bounds_eq]

theorem Collides.isSentinel_eq (h : r.Collides id range b owner) (n : Int) :
    range.isSentinel n = r.ranges.isSentinel (id.renumber n) := by
  simp [RangeMap.isSentinel, EntityId.renumber, h.range_eq]

/-- Whether a magnitude is free is told by its owner, the declared ids and the sentinels. -/
theorem Collides.isFree_eq (h : r.Collides id range b owner) (m : Int) :
    r.isFree range (id.renumber (signOf id.number * m)) = !((r.owner? (id.idClass.idOf m)).isSome ||
      r.reserved.contains (id.idClass.idOf m) || r.ranges.isSentinel (id.idClass.idOf m)) := by
  rw [← IdClass.renumber_signOf, ← h.isSentinel_eq, owner?, Std.TreeMap.isSome_getElem?_eq_contains]
  rfl

theorem Eligible.has_renumber {ranges : RangeMap} {n : Int} (h : Eligible ranges id n) (valid : ranges.Valid)
    (managed : ranges.isManaged id = true) (c : IdClass) : c.has (id.renumber n) = c.has id := by
  obtain ⟨-, -, -, -, sign_eq, -⟩ := h.sign_eq valid managed
  exact IdClass.has_renumber sign_eq

/-- The search for a number fails exactly if every magnitude of the class is owned, declared or a sentinel. -/
theorem Collides.nextFree_eq_none_iff (h : r.Collides id range b owner) : r.nextFree range b id = none ↔
    ∀ m, b.low ≤ m → m ≤ b.high → r.owner? (id.idClass.idOf m) ≠ none ∨ id.idClass.idOf m ∈ r.reserved ∨
      r.ranges.isSentinel (id.idClass.idOf m) = true := by
  rw [nextFree, Option.map_eq_none_iff, Bounds.firstInCycle_eq_none_iff (by omega)]
  simp only [h.isFree_eq, Bool.not_eq_false', Bool.or_eq_true, Std.TreeSet.contains_iff_mem,
    Option.isSome_iff_ne_none, or_assoc]

end Registry

end ModWeave
