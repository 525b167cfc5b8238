import Mathlib.Data.Finset.Card
import ModWeave.Proofs.Registry.IdClass
import ModWeave.Proofs.Registry.Runs

/-!
# When a run is out of numbers

In each class of ids every declaration that repeats one of a mod in front takes a number of its own, and it takes one
of the magnitudes that no mod declares and that are no sentinels, the vacancies of the class.  So a run fails for want
of a number only if some class has fewer vacancies than such declarations (`crowded_of_exhausted`), and a run with a
class like that cannot register all mods (`collisions_le_card_vacancies`).  Between the two stands one other fault: a
number with too many digits to be written ends a run early, which takes an id or a bound of so many digits
(`source_of_unwritable`).

The count rests on the ledger of a run, also of one that fails, up to the place where it does (`exists_failurePoint`).
-/

namespace ModWeave.Registry

/-! ### Where a run fails -/

variable {r r' : Registry} {e : ResolveFault}

theorem registerAll_eq_error {mod : String} {ids : List EntityId} (h : r.registerAll mod ids = (r', .error e)) :
    ∃ front id rest r₁ t, ids = front ++ id :: rest ∧ r.registerAll mod front = (r₁, .ok t) ∧
      r₁.register mod id = (r', .error e) := by
  induction ids generalizing r with
  | nil => cases h
  | cons id ids ih =>
    unfold registerAll at h
    split at h
    · rename_i r₁ e₁ failed
      cases h
      exact ⟨[], id, ids, r, [], rfl, rfl, failed⟩
    · rename_i r₁ change step
      have rest_failed : r₁.registerAll mod ids = (r', .error e) := by
        cases rest : r₁.registerAll mod ids with
        | mk r₂ result =>
          cases result with
          | error e₂ => simpa [rest, Except.map] using h
          | ok t => simp [rest, Except.map] at h
      obtain ⟨front, j, rest, r₂, t, rfl, before, failed⟩ := ih rest_failed
      exact ⟨id :: front, j, rest, r₂, _, rfl, registerAll_cons_of_eq_ok step before, failed⟩

theorem registerMods_eq_error {ds : List Definition} (h : r.registerMods ds = (r', .error e)) :
    ∃ front d rest r₁ tables, ds = front ++ d :: rest ∧ r.registerMods front = (r₁, .ok tables) ∧
      r₁.registerAll d.name d.declared = (r', .error e) := by
  induction ds generalizing r with
  | nil => cases h
  | cons d ds ih =>
    unfold registerMods at h
    split at h
    · rename_i r₁ e₁ failed
      cases h
      exact ⟨[], d, ds, r, [], rfl, rfl, failed⟩
    · rename_i r₁ t step
      have rest_failed : r₁.registerMods ds = (r', .error e) := by
        cases rest : r₁.registerMods ds with
        | mk r₂ result =>
          cases result with
          | error e₂ => simpa [rest, Except.map] using h
          | ok tables => simp [rest, Except.map] at h
      obtain ⟨front, c, rest, r₂, tables, rfl, before, failed⟩ := ih rest_failed
      refine ⟨d :: front, c, rest, r₂, (d.name, t) :: tables, rfl, ?_, failed⟩
      rw [registerMods, step]
      simp only [before, Except.map]

variable {ranges : RangeMap} {ds : List Definition} {tables : OrderedMap String RemapTable}

/-- The point of a run over some mods, in merge order, at which the registration of an id fails. -/
structure FailurePoint (ranges : RangeMap) (ds : List Definition) where
  /-- The mods that have been registered. -/
  front : List Definition
  mod : Definition
  rest : List Definition
  /-- The ids of the mod that have been registered. -/
  ids : List EntityId
  id : EntityId
  ids' : List EntityId
  tables : OrderedMap String RemapTable
  table : RemapTable
  registry : Registry
  ordered_eq : inMergeOrder Definition.name ds = front ++ mod :: rest
  apart : ∀ e ∈ front, e.name ≠ mod.name
  declared_eq : mod.declared = ids ++ id :: ids'
  ranges_eq : registry.ranges = ranges
  reserved_iff : ∀ j, j ∈ registry.reserved ↔ ∃ d ∈ ds, j ∈ d.declared
  /-- What has been registered makes up the ledger. -/
  ledger : Ledger registry (claims ranges front tables ++ claimsOf ranges mod.name ids table)

theorem exists_failurePoint (names : (ds.map Definition.name).Nodup)
    (registered : ((empty ranges).opened (inMergeOrder Definition.name ds)).registerMods
      (inMergeOrder Definition.name ds) = (r', .error e)) :
    ∃ f : FailurePoint ranges ds, f.registry.register f.mod.name f.id = (r', .error e) := by
  have perm : (inMergeOrder Definition.name ds).Perm ds := sortBy_perm _ _
  -- the ledger grows first by the mods in front, then by the ids in front
  obtain ⟨front, d, rest, r₁, tables, ordered_eq, before, failed⟩ := registerMods_eq_error registered
  obtain ⟨ids, id, ids', r₂, t, ids_eq, before', failed'⟩ := registerAll_eq_error failed
  have declared : ∀ c ∈ front ++ [d], ∀ j ∈ c.declared, j ∈ declaredBy (inMergeOrder Definition.name ds) := by
    refine fun c hc j hj => mem_declaredBy.2 ⟨c, ?_, hj⟩
    rw [ordered_eq, ← List.singleton_append, ← List.append_assoc]
    exact List.mem_append_left _ hc
  have ordered_names := (perm.map Definition.name).nodup_iff.2 names
  rw [ordered_eq, List.map_append, List.nodup_append, List.map_cons] at ordered_names
  obtain ⟨front_names, -, disjoint⟩ := ordered_names
  have apart : ∀ e ∈ front, e.name ≠ d.name := fun e he => disjoint _ (List.mem_map_of_mem he) _ (by simp)
  obtain ⟨ledger, ranges_eq, reserved_eq, -⟩ := (Ledger.initial ranges (declaredBy _)).registerMods before front_names
    (fun c hc => declared c (List.mem_append_left _ hc)) (by simp)
  have others : ∀ c ∈ claims ranges front tables, c.mod = d.name → c.id ∉ ids := by
    intro c hc same
    obtain ⟨f, hf, -, -, mod_eq, -⟩ := mem_claims.1 hc
    exact absurd (mod_eq.symm.trans same) (apart f hf)
  obtain ⟨ledger', ranges_eq', reserved_eq'⟩ := ledger.registerAll before'
    (d.nodup_declared.sublist (ids_eq ▸ List.sublist_append_left ..))
    (fun j hj => reserved_eq ▸ declared d (by simp) j (by simp [ids_eq, hj])) others
  rw [ranges_eq] at ledger' ranges_eq'
  have reserved_iff : ∀ j, j ∈ r₂.reserved ↔ ∃ d ∈ ds, j ∈ d.declared := by
    intro j
    rw [reserved_eq', reserved_eq]
    show j ∈ declaredBy (inMergeOrder Definition.name ds) ↔ _
    simp only [mem_declaredBy, perm.mem_iff]
  exact ⟨⟨front, d, rest, ids, id, ids', tables, t, r₂, ordered_eq, apart, ids_eq, ranges_eq', reserved_iff, ledger'⟩,
    failed'⟩

/-! ### Collisions and vacancies -/

/-- A mod in front of the given one declares the id too. -/
def DeclaredBefore (ds : List Definition) (mod : String) (id : EntityId) : Prop :=
  ∃ e ∈ ds, [e.name, mod].Sublist (mergeOrder (ds.map Definition.name)) ∧ id ∈ e.declared

instance (ds : List Definition) (mod : String) (id : EntityId) : Decidable (DeclaredBefore ds mod id) :=
  inferInstanceAs (Decidable (∃ e ∈ ds, _ ∧ _))

/-- The modded ids that mods declare, each with the name of its mod. -/
def declarations (ranges : RangeMap) (ds : List Definition) : List (String × EntityId) :=
  ds.flatMap fun d => (d.declared.filter fun id => ranges.isManaged id).map (d.name, ·)

/-- How many declarations of modded ids of a class repeat one of a mod in front. -/
def collisions (ranges : RangeMap) (ds : List Definition) (c : IdClass) : Nat :=
  (declarations ranges ds).countP fun p => c.has p.2 && decide (DeclaredBefore ds p.1 p.2)

/-- The magnitudes in a range. -/
def magnitudes (b : Bounds) : Finset Int := (Finset.range (b.high + 1 - b.low).toNat).image fun k : Nat => b.low + k

/-- The magnitudes in the range of a class that no mod declares and that are no sentinels. -/
def vacancies (ranges : RangeMap) (ds : List Definition) (c : IdClass) : Finset Int :=
  match c.bounds? ranges with
  | none => ∅
  | some b => (magnitudes b).filter fun m =>
      ranges.isSentinel (c.idOf m) = false ∧ ∀ d ∈ ds, c.idOf m ∉ d.declared

/-- A class in which mods need more new numbers than there are. -/
def Crowded (ranges : RangeMap) (ds : List Definition) (c : IdClass) : Prop :=
  (vacancies ranges ds c).card < collisions ranges ds c

instance (ranges : RangeMap) (ds : List Definition) (c : IdClass) : Decidable (Crowded ranges ds c) :=
  inferInstanceAs (Decidable (_ < _))

variable {c : IdClass}

theorem mem_magnitudes {b : Bounds} {m : Int} : m ∈ magnitudes b ↔ b.low ≤ m ∧ m ≤ b.high := by
  simp only [magnitudes, Finset.mem_image, Finset.mem_range]
  constructor
  · rintro ⟨k, lt, rfl⟩
    omega
  · rintro ⟨low_le, le_high⟩
    exact ⟨(m - b.low).toNat, by omega, by omega⟩

theorem mem_vacancies {m : Int} : m ∈ vacancies ranges ds c ↔ ∃ b, c.bounds? ranges = some b ∧ b.low ≤ m ∧
    m ≤ b.high ∧ ranges.isSentinel (c.idOf m) = false ∧ ∀ d ∈ ds, c.idOf m ∉ d.declared := by
  unfold vacancies
  cases c.bounds? ranges with
  | none => simp
  | some b => simp [mem_magnitudes, and_assoc]

theorem map_claims (ds : List Definition) (tables : OrderedMap String RemapTable) :
    (claims ranges ds tables).map (fun cl => (cl.mod, cl.id)) = declarations ranges ds := by
  simp only [claims, claimsOf, declarations, List.map_flatMap, List.map_map]
  rfl

/-! ### New numbers fill vacancies -/

/-- A claim of an id of a class that got another number. -/
def movedIn (c : IdClass) (cl : Claim) : Bool := cl.moved.isSome && c.has cl.id

section Ledger

variable {cs : List Claim} (ledger : Ledger r cs) (valid : r.ranges.Valid)
  (managed : ∀ cl ∈ cs, r.ranges.isManaged cl.id = true) (reserved : ∀ j, j ∈ r.reserved ↔ ∃ d ∈ ds, j ∈ d.declared)

include ledger valid managed reserved

/-- A new number fills a vacancy, and tells its claim. -/
theorem Ledger.vacancy_of_moved {cl : Claim} (hcl : cl ∈ cs) (moved : movedIn c cl = true) :
    c.has cl.final = true ∧ (cl.final.number.natAbs : Int) ∈ vacancies r.ranges ds c := by
  obtain ⟨some_moved, in_class⟩ := Bool.and_eq_true_iff.1 moved
  obtain ⟨n, moved_eq⟩ := Option.isSome_iff_exists.1 some_moved
  obtain ⟨eligible, undeclared, -⟩ := ledger.moved cl hcl n moved_eq
  have final_eq : cl.final = cl.id.renumber n := by rw [Claim.final, moved_eq, Option.getD_some]
  have final_class : c.has cl.final = true := by
    rw [final_eq, eligible.has_renumber valid (managed cl hcl), in_class]
  obtain ⟨range, b, range_eq, bounds_eq, -, low_le, le_high, not_sentinel⟩ := eligible.sign_eq valid (managed cl hcl)
  refine ⟨final_class, mem_vacancies.2 ⟨b, ?_, ?_, ?_, ?_, ?_⟩⟩
  · obtain ⟨-, rfl⟩ := IdClass.has_iff.1 in_class
    rw [← IdClass.bind_bounds?, range_eq, Option.bind_some, bounds_eq]
  · rw [final_eq]
    exact low_le
  · rw [final_eq]
    exact le_high
  · rw [IdClass.idOf_natAbs final_class, final_eq]
    simpa [RangeMap.isSentinel, EntityId.renumber, range_eq] using not_sentinel
  · intro d hd declared
    rw [IdClass.idOf_natAbs final_class, final_eq] at declared
    exact undeclared ((reserved _).2 ⟨d, hd, declared⟩)

/-- There are no more new numbers than vacancies. -/
theorem Ledger.countP_moved_le : cs.countP (movedIn c) ≤ (vacancies r.ranges ds c).card := by
  have moved : ∀ cl ∈ cs.filter (movedIn c), cl ∈ cs ∧ movedIn c cl = true := fun cl hcl => List.mem_filter.1 hcl
  -- no two claims end on one id, and in one class ids are told apart by their magnitudes
  have finals : ((cs.filter (movedIn c)).map Claim.final).Nodup :=
    ledger.nodup.sublist (List.filter_sublist.map _)
  have distinct : ((cs.filter (movedIn c)).map fun cl => (cl.final.number.natAbs : Int)).Nodup := by
    refine List.Nodup.of_map c.idOf ?_
    rw [List.map_map]
    refine (List.map_congr_left fun cl hcl => ?_) ▸ finals
    obtain ⟨mem, moved⟩ := moved cl hcl
    exact (IdClass.idOf_natAbs (ledger.vacancy_of_moved valid managed reserved mem moved).1).symm
  rw [List.countP_eq_length_filter, ← List.length_map, ← List.toFinset_card_of_nodup distinct]
  refine Finset.card_le_card fun m hm => ?_
  obtain ⟨cl, hcl, rfl⟩ := List.mem_map.1 (List.mem_toFinset.1 hm)
  obtain ⟨mem, moved⟩ := moved cl hcl
  exact (ledger.vacancy_of_moved valid managed reserved mem moved).2

/-- If every vacancy is owned, it was given away, so that there are as many new numbers as vacancies. -/
theorem Ledger.card_vacancies_le (full : ∀ m ∈ vacancies r.ranges ds c, r.owner? (c.idOf m) ≠ none) :
    (vacancies r.ranges ds c).card ≤ cs.countP (movedIn c) := by
  have covered : vacancies r.ranges ds c ⊆
      ((cs.filter (movedIn c)).map fun cl => (cl.final.number.natAbs : Int)).toFinset := by
    intro m hm
    obtain ⟨b, bounds_eq, low_le, -, -, undeclared⟩ := mem_vacancies.1 hm
    have pos : 1 ≤ m := (IdClass.valid_of_bounds? valid bounds_eq).1.trans low_le
    obtain ⟨owner, owned⟩ := Option.ne_none_iff_exists'.1 (full m hm)
    obtain ⟨cl, hcl, final_eq, -⟩ := (ledger.owner_iff _ _).1 owned
    refine List.mem_toFinset.2 (List.mem_map.2 ⟨cl, List.mem_filter.2 ⟨hcl, ?_⟩, ?_⟩)
    · cases moved : cl.moved with
      | none =>
        -- a claim that was kept would be a declaration of the vacancy
        rw [Claim.final, moved, Option.getD_none, EntityId.renumber_number] at final_eq
        obtain ⟨d, hd, declared⟩ := (reserved _).1 (ledger.reserved cl hcl)
        exact absurd (final_eq ▸ declared) (undeclared d hd)
      | some n =>
        obtain ⟨eligible, -, -⟩ := ledger.moved cl hcl n moved
        rw [Claim.final, moved, Option.getD_some] at final_eq
        have in_class : c.has cl.id = true := by
          rw [← eligible.has_renumber valid (managed cl hcl), final_eq, IdClass.has_idOf pos]
        simp [movedIn, moved, in_class]
    · rw [final_eq, IdClass.natAbs_idOf pos]
  calc (vacancies r.ranges ds c).card ≤ _ := Finset.card_le_card covered
    _ ≤ _ := List.toFinset_card_le _
    _ = cs.countP (movedIn c) := by rw [List.length_map, List.countP_eq_length_filter]

end Ledger

/-! ### Collisions at the point of failure -/

namespace FailurePoint

variable (f : FailurePoint ranges ds)

/-- What has been claimed before the failure. -/
def claims : List Claim := Registry.claims ranges f.front f.tables ++ claimsOf ranges f.mod.name f.ids f.table

theorem valid (h : ranges.Valid) : f.registry.ranges.Valid := by rwa [f.ranges_eq]

theorem isManaged {cl : Claim} (hcl : cl ∈ f.claims) : f.registry.ranges.isManaged cl.id = true := by
  rw [f.ranges_eq]
  rcases List.mem_append.1 hcl with hcl | hcl
  · obtain ⟨-, -, -, managed, -⟩ := mem_claims.1 hcl
    exact managed
  · exact (mem_claimsOf.1 hcl).2.1

theorem mod_mem : f.mod ∈ ds := mem_sortBy.1 (show f.mod ∈ inMergeOrder Definition.name ds by simp [f.ordered_eq])

theorem id_mem_declared : f.id ∈ f.mod.declared := by simp [f.declared_eq]

theorem mem_of_mem_front {e : Definition} (he : e ∈ f.front) : e ∈ ds := by
  have ordered : e ∈ inMergeOrder Definition.name ds := by
    rw [f.ordered_eq]
    exact List.mem_append_left _ he
  exact mem_sortBy.1 ordered

theorem declaredBefore {e : Definition} (he : e ∈ f.front) {id : EntityId} (declared : id ∈ e.declared) :
    DeclaredBefore ds f.mod.name id := by
  refine ⟨e, f.mem_of_mem_front he, ?_, declared⟩
  have pair : [e, f.mod].Sublist (f.front ++ f.mod :: f.rest) :=
    (List.singleton_sublist.2 he).append (List.singleton_sublist.2 (by simp))
  rw [← map_name_inMergeOrder, f.ordered_eq]
  exact pair.map Definition.name

/-- An id that has been claimed when its registration fails is declared by a mod in front. -/
theorem exists_front_of_claimed {cl : Claim} (hcl : cl ∈ f.claims) (same : cl.id = f.id) :
    ∃ e ∈ f.front, f.id ∈ e.declared ∧ cl.mod = e.name := by
  rcases List.mem_append.1 hcl with hcl | hcl
  · obtain ⟨e, he, declared, -, mod_eq, -⟩ := mem_claims.1 hcl
    exact ⟨e, he, same ▸ declared, mod_eq⟩
  · have nodup := f.mod.nodup_declared
    rw [f.declared_eq, List.nodup_append] at nodup
    exact absurd same (nodup.2.2 _ (mem_claimsOf.1 hcl).1 _ (by simp))

/-- An id that has moved is declared by a mod in front. -/
theorem declaredBefore_of_moved {cl : Claim} (hcl : cl ∈ f.claims) (moved : cl.moved.isSome = true) :
    DeclaredBefore ds cl.mod cl.id := by
  obtain ⟨k, hk, same, kept⟩ := f.ledger.some_kept cl hcl
  obtain ⟨later_front, -, later⟩ := List.pairwise_append.1 f.ledger.later_moved
  -- the claim that keeps the id is none of the same mod, and none behind the one that moved
  rcases List.mem_append.1 hcl with hcl | hcl <;> rcases List.mem_append.1 hk with hk | hk
  · obtain ⟨d, hd, declared, managed, mod_eq, moved_eq⟩ := mem_claims.1 hcl
    obtain ⟨e, he, declared_e, managed_e, mod_eq_e, moved_eq_e⟩ := mem_claims.1 hk
    have ne : e ≠ d := by
      rintro rfl
      rw [moved_eq, ← same, ← moved_eq_e, kept] at moved
      cases moved
    rcases pair_sublist he hd ne with first | behind
    · refine ⟨e, f.mem_of_mem_front he, ?_, same ▸ declared_e⟩
      rw [← map_name_inMergeOrder, f.ordered_eq, mod_eq]
      exact (first.trans (List.sublist_append_left ..)).map Definition.name
    · have by_mods := (List.pairwise_flatMap.1 later_front).2.sublist behind
      have k_moved := (List.pairwise_cons.1 by_mods).1 e (by simp) cl
        (mem_claimsOf.2 ⟨declared, managed, mod_eq, moved_eq⟩) k
        (mem_claimsOf.2 ⟨declared_e, managed_e, mod_eq_e, moved_eq_e⟩) same.symm
      rw [kept] at k_moved
      cases k_moved
  · have k_moved := later cl hcl k hk same.symm
    rw [kept] at k_moved
    cases k_moved
  · obtain ⟨e, he, declared_e, -⟩ := mem_claims.1 hk
    rw [(mem_claimsOf.1 hcl).2.2.1]
    exact f.declaredBefore he (same ▸ declared_e)
  · obtain ⟨-, -, -, moved_eq⟩ := mem_claimsOf.1 hcl
    obtain ⟨-, -, -, moved_eq_k⟩ := mem_claimsOf.1 hk
    rw [moved_eq, ← same, ← moved_eq_k, kept] at moved
    cases moved

/-- The claims before the failure are declarations, and the one that fails is the next. -/
theorem prefix_declarations (managed : ranges.isManaged f.id = true) :
    f.claims.map (fun cl => (cl.mod, cl.id)) ++ [(f.mod.name, f.id)] <+:
      declarations ranges (inMergeOrder Definition.name ds) := by
  have ids_eq : (claimsOf ranges f.mod.name f.ids f.table).map (fun cl => (cl.mod, cl.id)) =
      (f.ids.filter fun id => ranges.isManaged id).map (f.mod.name, ·) := by
    rw [claimsOf, List.map_map]
    rfl
  rw [claims, List.map_append, map_claims, ids_eq, f.ordered_eq]
  refine ⟨(f.ids'.filter fun id => ranges.isManaged id).map (f.mod.name, ·) ++ declarations ranges f.rest, ?_⟩
  simp [declarations, f.declared_eq, managed]

theorem declaredBefore_of_owned {owner : String} (owned : f.registry.owner? f.id = some owner) :
    DeclaredBefore ds f.mod.name f.id := by
  have declared : f.id ∈ f.registry.reserved := (f.reserved_iff _).2 ⟨f.mod, f.mod_mem, f.id_mem_declared⟩
  have claimed := mt (f.ledger.owner?_eq_none_iff declared).2 (by simp [owned])
  simp only [ne_eq, not_forall, not_not] at claimed
  obtain ⟨cl, hcl, same⟩ := claimed
  obtain ⟨e, he, declared_e, -⟩ := f.exists_front_of_claimed hcl same
  exact f.declaredBefore he declared_e

/-- The new numbers of a class before the failure are at most as many as its collisions, and fewer if a declaration of
an id of the class fails to which a mod in front has the id. -/
theorem countP_moved_lt {c : IdClass} (managed : ranges.isManaged f.id = true) (in_class : c.has f.id = true)
    (before : DeclaredBefore ds f.mod.name f.id) : f.claims.countP (movedIn c) < collisions ranges ds c := by
  have perm : (inMergeOrder Definition.name ds).Perm ds := sortBy_perm _ _
  calc f.claims.countP (movedIn c) < f.claims.countP (movedIn c) + 1 := Nat.lt_succ_self _
    _ ≤ (f.claims.map fun cl => (cl.mod, cl.id)).countP
          (fun p => c.has p.2 && decide (DeclaredBefore ds p.1 p.2)) + 1 := by
        rw [List.countP_map]
        refine Nat.succ_le_succ (List.countP_mono_left fun cl hcl moved => ?_)
        obtain ⟨some_moved, has⟩ := Bool.and_eq_true_iff.1 moved
        simp [has, f.declaredBefore_of_moved hcl some_moved]
    _ = (f.claims.map (fun cl => (cl.mod, cl.id)) ++ [(f.mod.name, f.id)]).countP
          (fun p => c.has p.2 && decide (DeclaredBefore ds p.1 p.2)) := by
        rw [List.countP_append, List.countP_singleton, in_class, decide_eq_true before]
        rfl
    _ ≤ (declarations ranges (inMergeOrder Definition.name ds)).countP _ := (f.prefix_declarations managed).countP_le
    _ = collisions ranges ds c := (perm.flatMap_right _).countP_eq _

end FailurePoint

/-! ### Crowded classes -/

section Runs

variable (valid : ranges.Valid) (names : (ds.map Definition.name).Nodup)

include valid names

theorem crowded_of_exhausted {id : EntityId} (run : (resolveIds ranges ds).2 = .error (.exhausted id)) :
    Crowded ranges ds id.idClass := by
  obtain ⟨r', registered⟩ : ∃ r', _ = (r', Except.error (ResolveFault.exhausted id)) := by
    rcases registerMods_of_resolve_eq_error run with registered | ⟨-, _, _, _, _, _, other⟩
    · exact registered
    · cases other
  obtain ⟨f, failed⟩ := exists_failurePoint names registered
  have outcome := f.registry.register_outcome f.mod.name f.id
  rw [failed] at outcome
  cases outcome with
  | exhausted collides unknown full fault =>
    obtain ⟨-, rfl⟩ := ResolveFault.exhaustion_eq_exhausted_iff.1 fault
    have managed := collides.managed
    rw [f.ranges_eq] at managed
    have in_class : f.id.idClass.has f.id = true :=
      IdClass.has_idClass (RangeMap.number_ne_zero_of_isManaged managed)
    -- the search has passed over every vacancy, so each has an owner
    have owned : ∀ m ∈ vacancies f.registry.ranges ds f.id.idClass, f.registry.owner? (f.id.idClass.idOf m) ≠ none := by
      intro m hm
      obtain ⟨b, bounds_eq, low_le, le_high, not_sentinel, undeclared⟩ := mem_vacancies.1 hm
      obtain rfl := Option.some.inj (bounds_eq.symm.trans collides.bounds?_idClass)
      rcases (collides.nextFree_eq_none_iff.1 full) m low_le le_high with owned | declared | sentinel
      · exact owned
      · obtain ⟨d, hd, declared⟩ := (f.reserved_iff _).1 declared
        exact absurd declared (undeclared d hd)
      · rw [sentinel] at not_sentinel
        cases not_sentinel
    have filled := f.ledger.card_vacancies_le (f.valid valid) (fun cl hcl => f.isManaged hcl) f.reserved_iff owned
    rw [f.ranges_eq] at filled
    exact filled.trans_lt (f.countP_moved_lt managed in_class (f.declaredBefore_of_owned collides.owner_eq))

theorem collisions_le_card_vacancies
    (registered : ((empty ranges).opened (inMergeOrder Definition.name ds)).registerMods
      (inMergeOrder Definition.name ds) = (r, .ok tables)) (c : IdClass) :
    collisions ranges ds c ≤ (vacancies ranges ds c).card := by
  obtain ⟨ledger, ranges_eq, reserved_iff, -, -⟩ := ledger_of_registered names registered
  have perm : (inMergeOrder Definition.name ds).Perm ds := sortBy_perm _ _
  have managed : ∀ cl ∈ claims ranges (inMergeOrder Definition.name ds) tables, ranges.isManaged cl.id = true := by
    intro cl hcl
    obtain ⟨-, -, -, managed, -⟩ := mem_claims.1 hcl
    exact managed
  calc collisions ranges ds c = (declarations ranges (inMergeOrder Definition.name ds)).countP
          (fun p => c.has p.2 && decide (DeclaredBefore ds p.1 p.2)) := ((perm.flatMap_right _).countP_eq _).symm
    _ = (claims ranges (inMergeOrder Definition.name ds) tables).countP
          (fun cl => c.has cl.id && decide (DeclaredBefore ds cl.mod cl.id)) := by
        rw [← map_claims, List.countP_map]
        rfl
    _ ≤ (claims ranges (inMergeOrder Definition.name ds) tables).countP (movedIn c) := by
        refine List.countP_mono_left fun cl hcl counted => ?_
        obtain ⟨in_class, before⟩ := Bool.and_eq_true_iff.1 counted
        obtain ⟨d, hd, declared, managed, mod_eq, moved_eq⟩ := mem_claims.1 hcl
        obtain ⟨e, he, first, declared_e⟩ := of_decide_eq_true before
        rw [mod_eq] at first
        have moved := isSome_of_precedes names ledger (mem_sortBy.1 hd) he first declared_e declared managed
        rw [movedIn, moved_eq, moved, in_class, Bool.and_self]
    _ ≤ (vacancies ranges ds c).card := by
        have filled := ledger.countP_moved_le (c := c) (ranges_eq.symm ▸ valid) (ranges_eq.symm ▸ managed) reserved_iff
        rwa [ranges_eq] at filled

/-- A registration fails at a number that it cannot write only if the id cannot be written, or else the bound. -/
theorem source_of_unwritable {n : Int}
    (registered : ((empty ranges).opened (inMergeOrder Definition.name ds)).registerMods
      (inMergeOrder Definition.name ds) = (r', .error (.unwritable n))) :
    Decimal.isWritable n = false ∧
      ((∃ d ∈ ds, ∃ id ∈ d.declared, id.number = n) ∨
        ∃ (c : IdClass) (b : Bounds), c.bounds? ranges = some b ∧ n.natAbs ≤ b.high) := by
  obtain ⟨f, failed⟩ := exists_failurePoint names registered
  have declared : ∃ d ∈ ds, ∃ id ∈ d.declared, id.number = f.id.number :=
    ⟨f.mod, f.mod_mem, f.id, f.id_mem_declared, rfl⟩
  have outcome := f.registry.register_outcome f.mod.name f.id
  rw [failed] at outcome
  cases outcome with
  | unwritableShared unmanaged shared unwritable => exact ⟨unwritable, Or.inl declared⟩
  | exhausted collides unknown full fault =>
    obtain ⟨unwritable, rfl⟩ := ResolveFault.exhaustion_eq_unwritable_iff.1 fault
    exact ⟨unwritable, Or.inl declared⟩
  | unwritableRecalled collides known unwritable =>
    -- a fresh run remembers numbers of the mods in front only
    obtain ⟨cl, hcl, same_mod, same_id⟩ := f.ledger.known _ _ _ known
    obtain ⟨e, he, -, mod_eq⟩ := f.exists_front_of_claimed hcl same_id
    exact absurd (mod_eq.symm.trans same_mod) (f.apart e he)
  | unwritableMoved collides unknown free unwritable =>
    obtain ⟨named, unwritable⟩ := Decimal.of_unwritable?_eq_some unwritable
    refine ⟨unwritable, ?_⟩
    rcases List.mem_cons.1 named with rfl | named
    · exact Or.inl declared
    · obtain rfl := List.mem_singleton.1 named
      obtain ⟨eligible, -, -⟩ := of_nextFree_eq_some collides free
      obtain ⟨range, b, range_eq, bounds_eq, -, -, le_high, -⟩ :=
        eligible.sign_eq (f.valid valid) collides.managed
      rw [f.ranges_eq] at range_eq
      exact Or.inr ⟨f.id.idClass, b, by rw [← IdClass.bind_bounds?, range_eq, Option.bind_some, bounds_eq], le_high⟩

/-- A run fails for want of a number exactly if some class has more declarations that repeat one of a mod in front than
magnitudes that no mod declares and that are no sentinels, unless it ends at a number that cannot be written.  That is a
number that a mod declares or refers to, or a new one, which takes a bound that cannot be written either; and if all
bounds and all that mods declare can be written, no such number is in the way. -/
theorem resolveIds_exhausted_iff_crowded :
    ((∃ id, (resolveIds ranges ds).2 = .error (.exhausted id)) ↔
      (∃ c, Crowded ranges ds c) ∧ ∀ n, (resolveIds ranges ds).2 ≠ .error (.unwritable n)) ∧
    (∀ n, (resolveIds ranges ds).2 = .error (.unwritable n) → Decimal.isWritable n = false ∧
      ((∃ d ∈ ds, ∃ id, (id ∈ d.declared ∨ id ∈ d.referenced) ∧ id.number = n) ∨
        ∃ (c : IdClass) (b : Bounds), c.bounds? ranges = some b ∧ n.natAbs ≤ b.high)) ∧
    ((∀ (c : IdClass) (b : Bounds), c.bounds? ranges = some b → Decimal.isWritable b.high = true) →
      (∀ d ∈ ds, ∀ id ∈ d.declared, Decimal.isWritable id.number = true) →
      ((∃ id, (resolveIds ranges ds).2 = .error (.exhausted id)) ↔ ∃ c, Crowded ranges ds c)) := by
  have exhausted_iff : (∃ id, (resolveIds ranges ds).2 = .error (.exhausted id)) ↔
      (∃ c, Crowded ranges ds c) ∧ ∀ n, (resolveIds ranges ds).2 ≠ .error (.unwritable n) := by
    constructor
    · rintro ⟨id, run⟩
      exact ⟨⟨_, crowded_of_exhausted valid names run⟩, by simp [run]⟩
    · rintro ⟨⟨c, crowded⟩, writable⟩
      cases run : (resolveIds ranges ds).2 with
      | ok tables =>
        obtain ⟨r, registered, -⟩ := registerMods_of_resolve run
        exact absurd crowded (Nat.not_lt.2 (collisions_le_card_vacancies valid names registered c))
      | error e =>
        cases e with
        | exhausted id => exact ⟨id, rfl⟩
        | unwritable n => exact absurd run (writable n)
  refine ⟨exhausted_iff, fun n run => ?_, fun bounds declared => ?_⟩
  · rcases registerMods_of_resolve_eq_error run with ⟨r', registered⟩ | ⟨-, d, hd, id, referenced, unwritable, fault⟩
    · obtain ⟨unwritable, source⟩ := source_of_unwritable valid names registered
      refine ⟨unwritable, source.imp_left ?_⟩
      rintro ⟨d, hd, id, declared, rfl⟩
      exact ⟨d, hd, id, Or.inl declared, rfl⟩
    · cases fault
      exact ⟨unwritable, Or.inl ⟨d, hd, id, Or.inr referenced, rfl⟩⟩
  · refine exhausted_iff.trans (and_iff_left_of_imp ?_)
    rintro ⟨c, crowded⟩ n run
    rcases registerMods_of_resolve_eq_error run with ⟨r', registered⟩ | ⟨⟨r', tables, registered⟩, -⟩
    · obtain ⟨unwritable, ⟨d, hd, id, mem, rfl⟩ | ⟨c, b, bounds_eq, le_high⟩⟩ :=
        source_of_unwritable valid names registered
      · simp [declared d hd id mem] at unwritable
      · rw [Decimal.isWritable_of_natAbs_le (by omega) (bounds c b bounds_eq)] at unwritable
        cases unwritable
    · exact absurd crowded (Nat.not_lt.2 (collisions_le_card_vacancies valid names registered c))

end Runs

/-- The crowd with a fourth mod, for whose nation no number is left. -/
def throng : List Definition := crowd ++ [declaring "delta" [⟨.nation, 150⟩]]

theorem nodup_names_throng : (throng.map Definition.name).Nodup := by decide

theorem isWritable_high_scarceRanges (c : IdClass) (b : Bounds) (h : c.bounds? scarceRanges = some b) :
    Decimal.isWritable b.high = true := by
  obtain ⟨kind, negative⟩ := c
  cases kind <;> cases negative <;> cases h <;> decide +kernel

/-- The throng declares two of three nations, one of them twice more. -/
theorem exhausted_throng :
    scarceRanges.Valid ∧ (throng.map Definition.name).Nodup ∧
      (∀ (c : IdClass) (b : Bounds), c.bounds? scarceRanges = some b → Decimal.isWritable b.high = true) ∧
      (∀ d ∈ throng, ∀ id ∈ d.declared, Decimal.isWritable id.number = true) ∧
      Crowded scarceRanges throng ⟨.nation, false⟩ ∧ ¬Crowded scarceRanges crowd ⟨.nation, false⟩ ∧
      ∃ id, (resolveIds scarceRanges throng).2 = .error (.exhausted id) := by
  obtain ⟨-, -, iff_crowded⟩ := resolveIds_exhausted_iff_crowded valid_scarceRanges nodup_names_throng
  have declared : ∀ d ∈ throng, ∀ id ∈ d.declared, Decimal.isWritable id.number = true := by decide +kernel
  have crowded : Crowded scarceRanges throng ⟨.nation, false⟩ := by decide +kernel
  exact ⟨valid_scarceRanges, nodup_names_throng, isWritable_high_scarceRanges, declared, crowded, by decide +kernel,
    (iff_crowded isWritable_high_scarceRanges declared).2 ⟨_, crowded⟩⟩

/-- The least number that cannot be written. -/
def vast : Int := Nat.pow 10 Decimal.maxDigits

/-- Ranges with two monsters for mods, of which only the first can be written. -/
def vastRanges : RangeMap := RangeMap.default.update .monster ⟨some ⟨vast - 1, vast⟩, none, [0]⟩

/-- Three mods that declare the last monster that can be written. -/
def vastMods : List Definition := ["Alpha", "beta", "gamma"].map fun name => declaring name [⟨.monster, vast - 1⟩]

/-- With a bound that cannot be written a run may fail without being out of numbers, though a class is crowded. -/
theorem not_exhausted_iff_crowded : ¬∀ (ranges : RangeMap) (ds : List Definition), ranges.Valid →
    (ds.map Definition.name).Nodup →
      ((∃ id, (resolveIds ranges ds).2 = .error (.exhausted id)) ↔ ∃ c, Crowded ranges ds c) := by
  intro exhausted_iff
  have bounds : Bounds.Valid ⟨vast - 1, vast⟩ := by decide +kernel
  have valid : vastRanges.Valid :=
    RangeMap.valid_default.update _ ⟨fun b hb => Option.mem_some.1 hb ▸ bounds, by rintro b ⟨⟩⟩
  have run : (resolveIds vastRanges vastMods).2 = .error (.unwritable vast) := by decide +kernel
  have crowded : Crowded vastRanges vastMods ⟨.monster, false⟩ := by decide +kernel
  obtain ⟨id, exhausted⟩ := (exhausted_iff vastRanges vastMods valid (by decide)).2 ⟨_, crowded⟩
  rw [run] at exhausted
  cases exhausted

end ModWeave.Registry
