import Mathlib.Data.List.Basic
import ModWeave.Proofs.Registry.Outcome

/-!
# The ledger of a run

A run registers the declared modded ids one after the other, so its history is a list of claims: which mod
declared which id, and which number the id got if the mod had to give up its own.  `Ledger r cs` ties the registry
to that history.  Its owners are exactly the final ids of the claims, no two claims end with one id, a number given
away is declared by nobody, and an id is kept by its first claim and by no later one.

`Ledger.register` says that one registration extends the ledger, `Ledger.registerAll` and `Ledger.registerMods` say
it of the loops, and `ledger_resolveIds` of a whole run, whose history can be read off its tables (`claims`).
-/

namespace ModWeave

theorem EntityId.renumber_number (id : EntityId) : id.renumber id.number = id := rfl

/-- A modded id that a mod declared. -/
structure Claim where
  mod : String
  id : EntityId
  /-- The number that the id got instead of its own. -/
  moved : Option Int

/-- The id with which the mod ends up. -/
def Claim.final (c : Claim) : EntityId := c.id.renumber (c.moved.getD c.id.number)

namespace Registry

/-- What holds of a registry after the given claims of a run, in the order in which they were made. -/
structure Ledger (r : Registry) (cs : List Claim) : Prop where
  /-- Only ids that mods of the run declare are claimed. -/
  reserved : ∀ c ∈ cs, c.id ∈ r.reserved
  /-- Whoever owns an id claimed it or got it. -/
  owner_iff : ∀ k m, r.owner? k = some m ↔ ∃ c ∈ cs, c.final = k ∧ c.mod = m
  /-- No two claims end with one id. -/
  nodup : (cs.map Claim.final).Nodup
  /-- A number that was given away is eligible, no mod declares it, and it can be written. -/
  moved : ∀ c ∈ cs, ∀ n ∈ c.moved,
    Eligible r.ranges c.id n ∧ c.id.renumber n ∉ r.reserved ∧ Decimal.isWritable n = true
  /-- Some mod keeps each id that is claimed. -/
  some_kept : ∀ c ∈ cs, ∃ e ∈ cs, e.id = c.id ∧ e.moved = none
  /-- A later claim of an id gets another number. -/
  later_moved : cs.Pairwise fun e c => e.id = c.id → c.moved.isSome = true
  /-- Numbers are remembered for claims only. -/
  known : ∀ m id n, OrderedMap.get? r.allocations (m, id) = some n → ∃ c ∈ cs, c.mod = m ∧ c.id = id

namespace Ledger

variable {r r' : Registry} {cs : List Claim} {mod : String} {id : EntityId}

/-- The ledger does not depend on the warnings, the messages and the ids of the base game. -/
theorem congr (h : Ledger r cs) (ranges_eq : r'.ranges = r.ranges) (reserved_eq : r'.reserved = r.reserved)
    (owner_eq : ∀ j, r'.owner? j = r.owner? j) (allocations_eq : r'.allocations = r.allocations) : Ledger r' cs where
  reserved := reserved_eq ▸ h.reserved
  owner_iff k m := owner_eq k ▸ h.owner_iff k m
  nodup := h.nodup
  moved := ranges_eq ▸ reserved_eq ▸ h.moved
  some_kept := h.some_kept
  later_moved := h.later_moved
  known := allocations_eq ▸ h.known

theorem initial (ranges : RangeMap) (declared : Std.TreeSet EntityId) :
    Ledger { empty ranges with reserved := declared } [] where
  reserved := by simp
  owner_iff := by simp [owner?, empty]
  nodup := by simp
  moved := by simp
  some_kept := by simp
  later_moved := List.Pairwise.nil
  known := by simp [empty, OrderedMap.get?]

/-- A declared id has an owner exactly if it was claimed: numbers that were given away do not get in its way. -/
theorem owner?_eq_none_iff (h : Ledger r cs) (declared : id ∈ r.reserved) :
    r.owner? id = none ↔ ∀ c ∈ cs, c.id ≠ id := by
  constructor
  · rintro unowned c hc rfl
    obtain ⟨e, he, same, kept⟩ := h.some_kept c hc
    have owned : r.owner? c.id = some e.mod := by
      refine (h.owner_iff _ _).2 ⟨e, he, ?_, rfl⟩
      rw [Claim.final, kept, Option.getD_none, EntityId.renumber_number, same]
    rw [unowned] at owned
    cases owned
  · intro unclaimed
    cases owned : r.owner? id with
    | none => rfl
    | some m =>
      obtain ⟨c, hc, final_eq, -⟩ := (h.owner_iff _ _).1 owned
      cases moved : c.moved with
      | none =>
        rw [Claim.final, moved, Option.getD_none, EntityId.renumber_number] at final_eq
        exact absurd final_eq (unclaimed c hc)
      | some n =>
        -- a number that was given away is declared by nobody, but `id` is declared
        have := (h.moved c hc n moved).2.1
        rw [Claim.final, moved, Option.getD_some] at final_eq
        exact absurd declared (final_eq ▸ this)

private theorem final_ne_of_unowned (h : Ledger r cs) {k : EntityId} (unowned : r.owner? k = none) :
    ∀ e ∈ cs, e.final ≠ k := fun e he same => by
  rw [(h.owner_iff _ _).2 ⟨e, he, same, rfl⟩] at unowned
  cases unowned

/-- A claim that is moved found its id taken, so that some mod keeps the id. -/
private theorem kept_of_moved (h : Ledger r cs) {c : Claim} (declared : c.id ∈ r.reserved)
    (taken : r.owner? c.id ≠ none) : ∃ e ∈ cs, e.id = c.id ∧ e.moved = none := by
  rw [Ne, h.owner?_eq_none_iff declared] at taken
  simp only [ne_eq, Classical.not_forall, Classical.not_not] at taken
  obtain ⟨e, he, same⟩ := taken
  obtain ⟨f, hf, same', kept⟩ := h.some_kept e he
  exact ⟨f, hf, same'.trans same, kept⟩

/-- A claim whose final id nobody had extends the ledger, provided that it is moved exactly if its id was taken. -/
theorem append {c : Claim} (h : Ledger r cs) (ranges_eq : r'.ranges = r.ranges)
    (reserved_eq : r'.reserved = r.reserved) (declared : c.id ∈ r.reserved) (unowned : r.owner? c.final = none)
    (owner_eq : ∀ j, r'.owner? j = if c.final = j then some c.mod else r.owner? j)
    (moved_iff : c.moved = none ↔ r.owner? c.id = none)
    (moved : ∀ n ∈ c.moved,
      Eligible r.ranges c.id n ∧ c.id.renumber n ∉ r.reserved ∧ Decimal.isWritable n = true)
    (known : ∀ m id n, OrderedMap.get? r'.allocations (m, id) = some n →
      OrderedMap.get? r.allocations (m, id) = some n ∨ (c.mod = m ∧ c.id = id)) :
    Ledger r' (cs ++ [c]) where
  reserved := by
    intro e he
    rw [reserved_eq]
    rcases List.mem_append.1 he with he | he
    · exact h.reserved e he
    · rwa [List.mem_singleton.1 he]
  owner_iff k m := by
    rw [owner_eq]
    split
    · rename_i same
      subst same
      simp only [Option.some.injEq, List.mem_append, List.mem_singleton]
      constructor
      · rintro rfl
        exact ⟨c, Or.inr rfl, rfl, rfl⟩
      · rintro ⟨e, he | rfl, same, rfl⟩
        · exact absurd same (h.final_ne_of_unowned unowned e he)
        · rfl
    · rename_i other
      rw [h.owner_iff]
      simp only [List.mem_append, List.mem_singleton]
      constructor
      · rintro ⟨e, he, same⟩
        exact ⟨e, Or.inl he, same⟩
      · rintro ⟨e, he | rfl, same, owner⟩
        · exact ⟨e, he, same, owner⟩
        · exact absurd same other
  nodup := by
    rw [List.map_append, List.map_singleton]
    refine List.nodup_append.2 ⟨h.nodup, by simp, ?_⟩
    rintro _ ha _ hb rfl
    obtain ⟨e, he, same⟩ := List.mem_map.1 ha
    exact h.final_ne_of_unowned unowned e he (same.trans (List.mem_singleton.1 hb))
  moved := by
    intro e he n hn
    rw [ranges_eq, reserved_eq]
    rcases List.mem_append.1 he with he | he
    · exact h.moved e he n hn
    · obtain rfl := List.mem_singleton.1 he
      exact moved n hn
  some_kept := by
    have new_kept : ∃ e ∈ cs ++ [c], e.id = c.id ∧ e.moved = none := by
      by_cases kept : c.moved = none
      · exact ⟨c, by simp, rfl, kept⟩
      · obtain ⟨e, he, same⟩ := h.kept_of_moved declared fun free => kept (moved_iff.2 free)
        exact ⟨e, List.mem_append_left _ he, same⟩
    intro e he
    rcases List.mem_append.1 he with he | he
    · obtain ⟨f, hf, same, kept⟩ := h.some_kept e he
      exact ⟨f, List.mem_append_left _ hf, same, kept⟩
    · rwa [List.mem_singleton.1 he]
  later_moved := by
    refine List.pairwise_append.2 ⟨h.later_moved, List.pairwise_singleton .., ?_⟩
    intro e he d hd same
    obtain rfl := List.mem_singleton.1 hd
    rw [Option.isSome_iff_ne_none, Ne, moved_iff, h.owner?_eq_none_iff declared]
    exact fun unclaimed => unclaimed e he same
  known := by
    intro m id n found
    rcases known m id n found with found | ⟨rfl, rfl⟩
    · obtain ⟨e, he, same⟩ := h.known m id n found
      exact ⟨e, List.mem_append_left _ he, same⟩
    · exact ⟨c, by simp, rfl, rfl⟩

/-- A registration extends the ledger by the claim that it makes, if the id is a modded one. -/
theorem register (h : Ledger r cs) {change : Option Int} (step : r.register mod id = (r', .ok change))
    (declared : id ∈ r.reserved) (fresh : ∀ c ∈ cs, c.mod = mod → c.id ≠ id) :
    Ledger r' (cs ++ if r.ranges.isManaged id then [⟨mod, id, change⟩] else []) ∧ r'.ranges = r.ranges ∧
      r'.reserved = r.reserved := by
  have outcome := r.register_outcome mod id
  rw [step] at outcome
  cases outcome with
  | passed unmanaged =>
    rw [unmanaged, if_neg Bool.false_ne_true, List.append_nil]
    exact ⟨h.congr (by simp) (by simp) (by simp) (by simp), by simp, by simp⟩
  | kept managed unowned =>
    rw [managed, if_pos rfl]
    refine ⟨?_, rfl, rfl⟩
    exact h.append (c := ⟨mod, id, none⟩) rfl rfl declared unowned (owner?_own r mod id) (by simp [unowned])
      (by simp) (fun m j n found => Or.inl found)
  | recalled collides known writable =>
    obtain ⟨c, hc, same_mod, same_id⟩ := h.known _ _ _ known
    exact absurd same_id (fresh c hc same_mod)
  | @moved range b owner n collides unknown free writable =>
    obtain ⟨eligible, unowned, undeclared⟩ := of_nextFree_eq_some collides free
    rw [collides.managed, if_pos rfl]
    refine ⟨?_, rfl, rfl⟩
    refine h.append (c := ⟨mod, id, some n⟩) rfl rfl declared unowned (fun j => owner?_give r mod id j n)
      (by simp [collides.owner_eq]) ?_ ?_
    · rintro _ ⟨⟩
      exact ⟨eligible, undeclared, Decimal.unwritable?_eq_none_iff.1 writable n (by simp)⟩
    · intro m j k found
      rw [allocations_noted, allocations_give, OrderedMap.get?_insert] at found
      split at found
      · rename_i same
        exact Or.inr (by simpa using same)
      · exact Or.inl found

end Ledger

/-! ### The loops -/

/-- The claims that a mod makes by declaring some ids, with the numbers of a table. -/
def claimsOf (ranges : RangeMap) (mod : String) (ids : List EntityId) (t : RemapTable) : List Claim :=
  (ids.filter fun id => ranges.isManaged id).map fun id => ⟨mod, id, OrderedMap.get? t id⟩

theorem mem_claimsOf {ranges : RangeMap} {mod : String} {ids : List EntityId} {t : RemapTable} {c : Claim} :
    c ∈ claimsOf ranges mod ids t ↔
      c.id ∈ ids ∧ ranges.isManaged c.id = true ∧ c.mod = mod ∧ c.moved = OrderedMap.get? t c.id := by
  simp only [claimsOf, List.mem_map, List.mem_filter]
  constructor
  · rintro ⟨id, ⟨declared, managed⟩, rfl⟩
    exact ⟨declared, managed, rfl, rfl⟩
  · rintro ⟨declared, managed, rfl, moved⟩
    exact ⟨c.id, ⟨declared, managed⟩, by cases c; simp_all⟩

theorem claimsOf_congr {ranges : RangeMap} {mod : String} {ids : List EntityId} {t t' : RemapTable}
    (h : ∀ id ∈ ids, OrderedMap.get? t id = OrderedMap.get? t' id) :
    claimsOf ranges mod ids t = claimsOf ranges mod ids t' := by
  refine List.map_congr_left fun id hid => ?_
  rw [h id (List.mem_filter.1 hid).1]

/-- What a table says of an id when the change of another one, or of the same, is put in front. -/
theorem get?_change_append (change : Option Int) (id j : EntityId) (t : RemapTable) :
    OrderedMap.get? ((change.map (id, ·)).toList ++ t) j =
      if id = j then change.or (OrderedMap.get? t j) else OrderedMap.get? t j := by
  cases change <;> by_cases same : id = j <;> simp [OrderedMap.get?_cons, same]

/-- The keys of the table of a mod are modded ids among those that are registered, in their order. -/
theorem keys_registerAll {r r' : Registry} {mod : String} {ids : List EntityId} {t : RemapTable}
    (run : r.registerAll mod ids = (r', .ok t)) :
    (OrderedMap.keys t).Sublist (ids.filter fun id => r.ranges.isManaged id) := by
  induction ids generalizing r t with
  | nil =>
    cases run
    exact List.Sublist.refl _
  | cons id ids ih =>
    obtain ⟨r₁, change, t', step, rest, rfl⟩ := registerAll_cons_eq_ok run
    have outcome := r.register_outcome mod id
    rw [step] at outcome
    have keys := ih rest
    rw [outcome.ranges_eq] at keys
    rw [List.filter_cons]
    cases change with
    | none =>
      split
      · exact keys.cons id
      · exact keys
    | some n =>
      rw [if_pos outcome.managed_of_change]
      exact keys.cons_cons id

/-- Registering the ids of a mod extends the ledger by the claims of the mod, whose numbers stand in its table. -/
theorem Ledger.registerAll {r r' : Registry} {cs : List Claim} {mod : String} {ids : List EntityId} {t : RemapTable}
    (h : Ledger r cs) (run : r.registerAll mod ids = (r', .ok t)) (nodup : ids.Nodup)
    (declared : ∀ id ∈ ids, id ∈ r.reserved) (fresh : ∀ c ∈ cs, c.mod = mod → c.id ∉ ids) :
    Ledger r' (cs ++ claimsOf r.ranges mod ids t) ∧ r'.ranges = r.ranges ∧ r'.reserved = r.reserved := by
  induction ids generalizing r cs t with
  | nil =>
    cases run
    exact ⟨by simpa [claimsOf] using h, rfl, rfl⟩
  | cons id ids ih =>
    obtain ⟨r₁, change, t', step, rest, rfl⟩ := registerAll_cons_eq_ok run
    obtain ⟨id_fresh, ids_nodup⟩ := List.nodup_cons.1 nodup
    obtain ⟨h₁, ranges_eq, reserved_eq⟩ :=
      h.register step (declared id (by simp)) fun c hc same e => fresh c hc same (by simp [e])
    have fresh₁ : ∀ c ∈ cs ++ (if r.ranges.isManaged id then [⟨mod, id, change⟩] else []), c.mod = mod → c.id ∉ ids := by
      intro c hc same
      rcases List.mem_append.1 hc with hc | hc
      · exact fun hid => fresh c hc same (List.mem_cons_of_mem _ hid)
      · split at hc
        · obtain rfl := List.mem_singleton.1 hc
          exact id_fresh
        · cases hc
    obtain ⟨h', ranges_eq', reserved_eq'⟩ :=
      ih h₁ rest ids_nodup (fun j hj => reserved_eq ▸ declared j (by simp [hj])) fresh₁
    rw [ranges_eq] at h' ranges_eq'
    have not_key : OrderedMap.get? t' id = none :=
      OrderedMap.get?_eq_none_iff.2 fun hk => id_fresh (List.mem_filter.1 ((keys_registerAll rest).subset hk)).1
    have others : ∀ j ∈ ids, OrderedMap.get? ((change.map (id, ·)).toList ++ t') j = OrderedMap.get? t' j := by
      intro j hj
      have : id ≠ j := fun e => id_fresh (e ▸ hj)
      rw [get?_change_append, if_neg this]
    have own : OrderedMap.get? ((change.map (id, ·)).toList ++ t') id = change := by
      rw [get?_change_append, if_pos rfl, not_key, Option.or_none]
    have claims_eq : claimsOf r.ranges mod (id :: ids) ((change.map (id, ·)).toList ++ t') =
        (if r.ranges.isManaged id then [⟨mod, id, change⟩] else []) ++ claimsOf r.ranges mod ids t' := by
      rw [← claimsOf_congr others]
      by_cases managed : r.ranges.isManaged id = true <;> simp [claimsOf, managed, own]
    refine ⟨?_, ranges_eq', reserved_eq'.trans reserved_eq⟩
    rwa [claims_eq, ← List.append_assoc]

/-- The table of a mod among some tables. -/
def tableOf (tables : OrderedMap String RemapTable) (mod : String) : RemapTable :=
  (OrderedMap.get? tables mod).getD []

/-- The claims of some mods, with the numbers of their tables. -/
def claims (ranges : RangeMap) (ds : List Definition) (tables : OrderedMap String RemapTable) : List Claim :=
  ds.flatMap fun d => claimsOf ranges d.name d.declared (tableOf tables d.name)

theorem mem_claims {ranges : RangeMap} {ds : List Definition} {tables : OrderedMap String RemapTable} {c : Claim} :
    c ∈ claims ranges ds tables ↔ ∃ d ∈ ds, c.id ∈ d.declared ∧ ranges.isManaged c.id = true ∧ c.mod = d.name ∧
      c.moved = OrderedMap.get? (tableOf tables d.name) c.id := by
  simp only [claims, List.mem_flatMap, mem_claimsOf]

/-- Registering mods extends the ledger by their claims; each mod gets a table, whose keys are modded ids that it
declares. -/
theorem Ledger.registerMods {r r' : Registry} {cs : List Claim} {ds : List Definition}
    {tables : OrderedMap String RemapTable} (h : Ledger r cs) (run : r.registerMods ds = (r', .ok tables))
    (names : (ds.map Definition.name).Nodup) (declared : ∀ d ∈ ds, ∀ id ∈ d.declared, id ∈ r.reserved)
    (fresh : ∀ c ∈ cs, ∀ d ∈ ds, c.mod ≠ d.name) :
    Ledger r' (cs ++ claims r.ranges ds tables) ∧ r'.ranges = r.ranges ∧ r'.reserved = r.reserved ∧
      OrderedMap.keys tables = ds.map Definition.name ∧
      ∀ d ∈ ds, (OrderedMap.keys (tableOf tables d.name)).Sublist (d.declared.filter fun id => r.ranges.isManaged id) := by
  induction ds generalizing r cs tables with
  | nil =>
    cases run
    exact ⟨by simpa [claims] using h, rfl, rfl, rfl, by simp⟩
  | cons d ds ih =>
    obtain ⟨r₁, t, tables', first, rest, rfl⟩ := registerMods_cons_eq_ok run
    rw [List.map_cons, List.nodup_cons] at names
    obtain ⟨h₁, ranges_eq, reserved_eq⟩ := h.registerAll first d.nodup_declared (declared d (by simp))
      fun c hc same => absurd same (fresh c hc d (by simp))
    have other_name : ∀ e ∈ ds, d.name ≠ e.name := fun e he same => names.1 (same ▸ List.mem_map_of_mem he)
    have fresh₁ : ∀ c ∈ cs ++ claimsOf r.ranges d.name d.declared t, ∀ e ∈ ds, c.mod ≠ e.name := by
      intro c hc e he
      rcases List.mem_append.1 hc with hc | hc
      · exact fresh c hc e (by simp [he])
      · rw [(mem_claimsOf.1 hc).2.2.1]
        exact other_name e he
    obtain ⟨h', ranges_eq', reserved_eq', names_eq, tables_keys⟩ :=
      ih h₁ rest names.2 (fun e he id hid => reserved_eq ▸ declared e (by simp [he]) id hid) fresh₁
    rw [ranges_eq] at h' ranges_eq' tables_keys
    have own : tableOf ((d.name, t) :: tables') d.name = t := by simp [tableOf, OrderedMap.get?_cons]
    have others : ∀ e ∈ ds, tableOf ((d.name, t) :: tables') e.name = tableOf tables' e.name := fun e he => by
      simp [tableOf, OrderedMap.get?_cons, other_name e he]
    have claims_eq : claims r.ranges (d :: ds) ((d.name, t) :: tables') =
        claimsOf r.ranges d.name d.declared t ++ claims r.ranges ds tables' := by
      rw [claims, List.flatMap_cons, own, claims]
      exact congrArg _ (List.flatMap_congr fun e he => by rw [others e he])
    refine ⟨?_, ranges_eq', reserved_eq'.trans reserved_eq, ?_, ?_⟩
    · rwa [claims_eq, ← List.append_assoc]
    · rw [OrderedMap.keys, List.map_cons, List.map_cons, ← names_eq, OrderedMap.keys]
    · intro e he
      rcases List.mem_cons.1 he with rfl | he
      · rw [own]
        exact keys_registerAll first
      · rw [others e he]
        exact tables_keys e he

/-- Once all mods are registered, the ledger holds their claims in merge order, and there is a table for every mod, whose
keys are modded ids that the mod declares. -/
theorem ledger_of_registered {ranges : RangeMap} {ds : List Definition} {tables : OrderedMap String RemapTable}
    {r₁ : Registry} (names : (ds.map Definition.name).Nodup)
    (registered : ((empty ranges).opened (inMergeOrder Definition.name ds)).registerMods
      (inMergeOrder Definition.name ds) = (r₁, .ok tables)) :
    Ledger r₁ (claims ranges (inMergeOrder Definition.name ds) tables) ∧ r₁.ranges = ranges ∧
      (∀ id, id ∈ r₁.reserved ↔ ∃ d ∈ ds, id ∈ d.declared) ∧
      OrderedMap.keys tables = (inMergeOrder Definition.name ds).map Definition.name ∧
      ∀ d ∈ ds, (OrderedMap.keys (tableOf tables d.name)).Sublist (d.declared.filter fun id => ranges.isManaged id) := by
  have perm : (inMergeOrder Definition.name ds).Perm ds := sortBy_perm _ _
  generalize inMergeOrder Definition.name ds = ordered at perm registered ⊢
  obtain ⟨h, ranges_eq, reserved_eq, names_eq, keys⟩ := (Ledger.initial ranges (declaredBy ordered)).registerMods
    registered ((perm.map _).nodup_iff.2 names) (fun d hd id hid => mem_declaredBy.2 ⟨d, hd, hid⟩) (by simp)
  refine ⟨h, ranges_eq, fun id => ?_, names_eq, fun d hd => keys d (perm.mem_iff.2 hd)⟩
  rw [reserved_eq]
  show id ∈ declaredBy ordered ↔ _
  simp only [mem_declaredBy, perm.mem_iff]

/-- A run that succeeds leaves the ledger of the claims of all mods in merge order, and a table for every mod, whose
keys are modded ids that the mod declares. -/
theorem ledger_resolveIds {ranges : RangeMap} {ds : List Definition} {tables : OrderedMap String RemapTable}
    (names : (ds.map Definition.name).Nodup) (run : (resolveIds ranges ds).2 = .ok tables) :
    Ledger (resolveIds ranges ds).1 (claims ranges (inMergeOrder Definition.name ds) tables) ∧
      (resolveIds ranges ds).1.ranges = ranges ∧
      (∀ id, id ∈ (resolveIds ranges ds).1.reserved ↔ ∃ d ∈ ds, id ∈ d.declared) ∧
      OrderedMap.keys tables = (inMergeOrder Definition.name ds).map Definition.name ∧
      ∀ d ∈ ds, (OrderedMap.keys (tableOf tables d.name)).Sublist (d.declared.filter fun id => ranges.isManaged id) := by
  obtain ⟨r₁, registered, result⟩ := registerMods_of_resolve run
  obtain ⟨h, rest⟩ := ledger_of_registered names registered
  rw [resolveIds, result]
  exact ⟨h.congr rfl rfl (fun _ => rfl) rfl, rest⟩

end Registry

end ModWeave
