import Mathlib.Logic.Relation
import ModWeave.Proofs.Registry.Outcome

/-!
# What registrations keep

Runs over some mods are made of registrations, whether they succeed or not: `Steps r r'` says that registrations lead
from the registry `r` to `r'`.  Two facts hold of them without any knowledge of the mods.

* Nothing is taken back (`Extends`): an id keeps its owner and a number that was given away stays given, and what is
  given makes an id that was nobody's before.
* The numbers given away are in order (`Sound`): each makes an id of the mod that got it, no two make the same id, and
  the ids that had to move are modded ids that somebody owns.

Each fact is shown for one registration (`Extends.register`, `Sound.register`) and follows for all by induction on the
steps (`Extends.of_steps`, `Sound.steps`).
-/

namespace ModWeave.Registry

/-- One declared id is registered, whether that succeeds or not. -/
def Registers (r r' : Registry) : Prop := ∃ mod id, (r.register mod id).1 = r'

/-- Some declared ids are registered, one after the other. -/
abbrev Steps : Registry → Registry → Prop := Relation.ReflTransGen Registers

/-- Whatever happens to a registry, an owner stays and a number that was given away stays given; and numbers are given
only where nobody owned the id that they make. -/
structure Extends (r r' : Registry) : Prop where
  ranges_eq : r'.ranges = r.ranges
  owner : ∀ {k m}, r.owner? k = some m → r'.owner? k = some m
  number : ∀ {p n}, OrderedMap.get? r.allocations p = some n → OrderedMap.get? r'.allocations p = some n
  given : ∀ {p n}, OrderedMap.get? r'.allocations p = some n →
    OrderedMap.get? r.allocations p = some n ∨ r.owner? (p.2.renumber n) = none

/-- What holds of the numbers that a registry has given away, whatever runs lie behind it. -/
structure Sound (r : Registry) : Prop where
  /-- The id that a number makes belongs to the mod that got it. -/
  owned : ∀ {p n}, OrderedMap.get? r.allocations p = some n → r.owner? (p.2.renumber n) = some p.1
  /-- No two of them make one id. -/
  distinct : ∀ {p q n k}, OrderedMap.get? r.allocations p = some n → OrderedMap.get? r.allocations q = some k →
    p.2.renumber n = q.2.renumber k → p = q
  /-- The id that had to move is a modded one that somebody owns. -/
  taken : ∀ {p n}, OrderedMap.get? r.allocations p = some n →
    r.ranges.isManaged p.2 = true ∧ (r.owner? p.2).isSome = true

variable {r r' r'' : Registry} {mod : String} {id : EntityId}

namespace Extends

theorem refl (r : Registry) : Extends r r := ⟨rfl, fun h => h, fun h => h, Or.inl⟩

theorem trans (h : Extends r r') (h' : Extends r' r'') : Extends r r'' where
  ranges_eq := h'.ranges_eq.trans h.ranges_eq
  owner found := h'.owner (h.owner found)
  number found := h'.number (h.number found)
  given found := by
    rcases h'.given found with found | unowned
    · exact h.given found
    · refine Or.inr (Option.eq_none_iff_forall_ne_some.2 fun m owned => ?_)
      rw [h.owner owned] at unowned
      cases unowned

theorem of_same (ranges_eq : r'.ranges = r.ranges) (owner_eq : ∀ k, r'.owner? k = r.owner? k)
    (allocations_eq : r'.allocations = r.allocations) : Extends r r' :=
  ⟨ranges_eq, fun h => (owner_eq _).trans h, fun h => allocations_eq ▸ h, fun h => Or.inl (allocations_eq ▸ h)⟩

theorem isSome_owner? (h : Extends r r') {k : EntityId} (owned : (r.owner? k).isSome = true) :
    (r'.owner? k).isSome = true := by
  obtain ⟨m, hm⟩ := Option.isSome_iff_exists.1 owned
  rw [h.owner hm, Option.isSome_some]

private theorem owner_of_unowned {k : EntityId} (unowned : r.owner? k = none)
    (owner_eq : ∀ j, r'.owner? j = if k = j then some mod else r.owner? j) {j : EntityId} {m : String}
    (owned : r.owner? j = some m) : r'.owner? j = some m := by
  rw [owner_eq, if_neg, owned]
  rintro rfl
  rw [unowned] at owned
  cases owned

theorem own (unowned : r.owner? id = none) : Extends r (r.own mod id) :=
  ⟨rfl, owner_of_unowned unowned (owner?_own r mod id), fun h => h, Or.inl⟩

theorem give {n : Int} (unknown : OrderedMap.get? r.allocations (mod, id) = none)
    (unowned : r.owner? (id.renumber n) = none) : Extends r (r.give mod id n) where
  ranges_eq := rfl
  owner := owner_of_unowned unowned fun j => owner?_give r mod id j n
  number := by
    intro p k found
    rw [allocations_give, OrderedMap.get?_insert, if_neg, found]
    rintro rfl
    rw [unknown] at found
    cases found
  given := by
    intro p k found
    rw [allocations_give, OrderedMap.get?_insert] at found
    split at found
    · rename_i same
      cases found
      exact Or.inr (same ▸ unowned)
    · exact Or.inl found

/-- A registration extends the registry. -/
theorem register (r : Registry) (mod : String) (id : EntityId) : Extends r (r.register mod id).1 := by
  have outcome := r.register_outcome mod id
  generalize r.register mod id = result at outcome ⊢
  cases outcome with
  | passed => exact of_same (by simp) (by simp) (by simp)
  | unwritableShared => exact refl r
  | kept _ unowned => exact own unowned
  | recalled => exact of_same rfl (fun _ => rfl) rfl
  | moved collides unknown free =>
    obtain ⟨-, unowned, -⟩ := of_nextFree_eq_some collides free
    exact (give unknown unowned).trans (of_same rfl (fun _ => rfl) rfl)
  | exhausted => exact refl r
  | unwritableRecalled => exact refl r
  | unwritableMoved collides unknown free =>
    obtain ⟨-, unowned, -⟩ := of_nextFree_eq_some collides free
    exact give unknown unowned

theorem of_steps (h : Steps r r') : Extends r r' := by
  induction h with
  | refl => exact refl r
  | tail _ step ih =>
    obtain ⟨mod, id, rfl⟩ := step
    exact ih.trans (register _ mod id)

end Extends

namespace Sound

theorem empty (ranges : RangeMap) : Sound (empty ranges) := by
  constructor <;> intros <;> contradiction

/-- Soundness does not hang on anything else than owners, numbers and ranges. -/
theorem of_same (h : Sound r) (ranges_eq : r'.ranges = r.ranges) (owner_eq : ∀ k, r'.owner? k = r.owner? k)
    (allocations_eq : r'.allocations = r.allocations) : Sound r' where
  owned found := (owner_eq _).trans (h.owned (allocations_eq ▸ found))
  distinct hp hq := h.distinct (allocations_eq ▸ hp) (allocations_eq ▸ hq)
  taken found := by
    rw [ranges_eq, owner_eq]
    exact h.taken (allocations_eq ▸ found)

theorem own (h : Sound r) (unowned : r.owner? id = none) : Sound (r.own mod id) where
  owned found := (Extends.own unowned).owner (h.owned found)
  distinct := h.distinct
  taken found := by
    obtain ⟨managed, owned⟩ := h.taken found
    exact ⟨managed, (Extends.own unowned).isSome_owner? owned⟩

theorem give {range : IdRange} {b : Bounds} {owner : String} {n : Int} (h : Sound r)
    (collides : r.Collides id range b owner) (unknown : OrderedMap.get? r.allocations (mod, id) = none)
    (unowned : r.owner? (id.renumber n) = none) : Sound (r.give mod id n) := by
  have grown : Extends r (r.give mod id n) := Extends.give unknown unowned
  have cases_of : ∀ {p k}, OrderedMap.get? (r.give mod id n).allocations p = some k →
      (p = (mod, id) ∧ k = n) ∨ OrderedMap.get? r.allocations p = some k := by
    intro p k found
    rw [allocations_give, OrderedMap.get?_insert] at found
    split at found
    · rename_i same
      exact Or.inl ⟨same.symm, (Option.some.inj found).symm⟩
    · exact Or.inr found
  -- the id that the new number makes was nobody's, so no number given before makes it
  have apart : ∀ {p k}, OrderedMap.get? r.allocations p = some k → p.2.renumber k ≠ id.renumber n := by
    intro p k found same
    rw [← same, h.owned found] at unowned
    cases unowned
  constructor
  · intro p k found
    rcases cases_of found with ⟨rfl, rfl⟩ | found
    · rw [owner?_give, if_pos rfl]
    · exact grown.owner (h.owned found)
  · intro p q k l hp hq same
    rcases cases_of hp with ⟨rfl, rfl⟩ | old_p <;> rcases cases_of hq with ⟨rfl, rfl⟩ | old_q
    · rfl
    · exact absurd same.symm (apart old_q)
    · exact absurd same (apart old_p)
    · exact h.distinct old_p old_q same
  · intro p k found
    rcases cases_of found with ⟨rfl, rfl⟩ | found
    · exact ⟨collides.managed, by rw [grown.owner collides.owner_eq, Option.isSome_some]⟩
    · obtain ⟨managed, owned⟩ := h.taken found
      exact ⟨managed, grown.isSome_owner? owned⟩

/-- A registration keeps the registry sound. -/
theorem register (h : Sound r) (mod : String) (id : EntityId) : Sound (r.register mod id).1 := by
  have outcome := r.register_outcome mod id
  generalize r.register mod id = result at outcome ⊢
  cases outcome with
  | passed => exact h.of_same (by simp) (by simp) (by simp)
  | unwritableShared => exact h
  | kept _ unowned => exact h.own unowned
  | recalled => exact h.of_same rfl (fun _ => rfl) rfl
  | moved collides unknown free =>
    obtain ⟨-, unowned, -⟩ := of_nextFree_eq_some collides free
    exact (h.give collides unknown unowned).of_same rfl (fun _ => rfl) rfl
  | exhausted => exact h
  | unwritableRecalled => exact h
  | unwritableMoved collides unknown free =>
    obtain ⟨-, unowned, -⟩ := of_nextFree_eq_some collides free
    exact h.give collides unknown unowned

theorem steps (h : Sound r) (more : Steps r r') : Sound r' := by
  induction more with
  | refl => exact h
  | tail _ step ih =>
    obtain ⟨mod, id, rfl⟩ := step
    exact ih.register mod id

end Sound

private theorem mem_warnings_passOver {w : Warning} (h : w ∈ (r.passOver mod id).warnings) :
    w ∈ r.warnings ∨ ∃ id owner, w.cause = .sharedEntity id owner := by
  unfold passOver claimBase at h
  split at h
  · exact Or.inl h
  · split at h
    · exact Or.inl h
    · rename_i owner _
      split at h
      · exact Or.inl h
      · split at h
        · rcases List.mem_append.1 h with old | new
          · exact Or.inl old
          · exact Or.inr ⟨id, owner, by rw [List.mem_singleton.1 new]⟩
        · exact Or.inl h

private theorem mem_warnings_register {w : Warning} (h : w ∈ (r.register mod id).1.warnings) :
    w ∈ r.warnings ∨ ∃ id owner, w.cause = .sharedEntity id owner := by
  have outcome := r.register_outcome mod id
  generalize r.register mod id = result at outcome h
  cases outcome with
  | passed => exact mem_warnings_passOver h
  | _ => exact Or.inl h

/-- A registration warns of nothing but ids of the base game that two mods declare. -/
theorem warnings_of_steps (h : Steps r r') :
    ∀ w ∈ r'.warnings, w ∈ r.warnings ∨ ∃ id owner, w.cause = .sharedEntity id owner := by
  induction h with
  | refl => exact fun w hw => Or.inl hw
  | @tail r₁ r₂ _ step ih =>
    obtain ⟨mod, id, rfl⟩ := step
    intro w hw
    rcases mem_warnings_register hw with old | new
    · exact ih w old
    · exact Or.inr new

/-! ### The loops are steps -/

theorem steps_registerAll (r : Registry) (mod : String) (ids : List EntityId) :
    Steps r (r.registerAll mod ids).1 := by
  induction ids generalizing r with
  | nil => exact .refl
  | cons id ids ih =>
    have step : Registers r (r.register mod id).1 := ⟨mod, id, rfl⟩
    unfold registerAll
    split
    · rename_i r₁ e failed
      rw [failed] at step
      exact .single step
    · rename_i r₁ change registered
      rw [registered] at step
      exact .head step (ih r₁)

theorem steps_registerMods (r : Registry) (ds : List Definition) : Steps r (r.registerMods ds).1 := by
  induction ds generalizing r with
  | nil => exact .refl
  | cons d ds ih =>
    have steps := steps_registerAll r d.name d.declared
    unfold registerMods
    split
    · rename_i r₁ e failed
      rw [failed] at steps
      exact steps
    · rename_i r₁ t registered
      rw [registered] at steps
      exact steps.trans (ih r₁)

end ModWeave.Registry
