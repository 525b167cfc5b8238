import ModWeave.Proofs.Registry.FinalIds
import ModWeave.Proofs.Registry.Growth

/-!
# Many runs of one registry

A registry can be used for one run after the other, and a run that fails leaves what it had registered.  A later run
meets owners that do not belong to its mods, and numbers that were given away before.  Even so
(`owners_and_numbers_ofRuns`):

* an id keeps its owner for ever;
* a number that was given for an id of a mod belongs to that mod, makes an id that no other number makes, and is given
  again whenever the mod declares the id in a run that succeeds;
* in each run that succeeds no two declarations end with one id.

The ledger of a single run does not help here, because it needs that nothing is registered in front of the run.  Instead
each declaration is traced back to the moment when it was registered (`resolve_moment`), and `Settled` collects what the
registry shows of it ever after.
-/

namespace ModWeave.Registry

variable {r r' r'' : Registry} {mod : String} {id : EntityId}

/-! ### The moment of a registration -/

/-- Each id of a mod is registered at some moment, and the table has what comes of it. -/
theorem registerAll_moment {ids : List EntityId} {t : RemapTable} (run : r.registerAll mod ids = (r', .ok t))
    (nodup : ids.Nodup) (h : id ∈ ids) :
    ∃ r₁ r₂, Steps r r₁ ∧ r₁.register mod id = (r₂, .ok (OrderedMap.get? t id)) ∧ Steps r₂ r' := by
  induction ids generalizing r t with
  | nil => cases h
  | cons j ids ih =>
    obtain ⟨r₁, change, t', step, rest, rfl⟩ := registerAll_cons_eq_ok run
    obtain ⟨j_fresh, ids_nodup⟩ := List.nodup_cons.1 nodup
    rw [get?_change_append]
    rcases List.mem_cons.1 h with rfl | h
    · have not_key : OrderedMap.get? t' id = none :=
        OrderedMap.get?_eq_none_iff.2 fun key => j_fresh (List.mem_filter.1 ((keys_registerAll rest).subset key)).1
      have later := steps_registerAll r₁ mod ids
      rw [rest] at later
      refine ⟨r, r₁, .refl, ?_, later⟩
      rw [if_pos rfl, not_key, Option.or_none, step]
    · obtain ⟨r₂, r₃, before, moment, later⟩ := ih rest ids_nodup h
      have ne : j ≠ id := fun same => j_fresh (same ▸ h)
      exact ⟨r₂, r₃, .head ⟨mod, j, by rw [step]⟩ before, by rwa [if_neg ne], later⟩

/-- The table of each mod comes of the registration of its ids. -/
theorem registerMods_moment {ds : List Definition} {tables : OrderedMap String RemapTable}
    (run : r.registerMods ds = (r', .ok tables)) (names : (ds.map Definition.name).Nodup) {d : Definition} (hd : d ∈ ds) :
    ∃ r₁ r₂, Steps r r₁ ∧ r₁.registerAll d.name d.declared = (r₂, .ok (tableOf tables d.name)) ∧ Steps r₂ r' := by
  induction ds generalizing r tables with
  | nil => cases hd
  | cons e ds ih =>
    obtain ⟨r₁, t, tables', first, rest, rfl⟩ := registerMods_cons_eq_ok run
    rw [List.map_cons, List.nodup_cons] at names
    rcases List.mem_cons.1 hd with rfl | hd
    · have later := steps_registerMods r₁ ds
      rw [rest] at later
      refine ⟨r, r₁, .refl, ?_, later⟩
      rw [first, tableOf, OrderedMap.get?_cons, if_pos rfl, Option.getD_some]
    · obtain ⟨r₂, r₃, before, moment, later⟩ := ih rest names.2 hd
      have ne : e.name ≠ d.name := fun same => names.1 (same ▸ List.mem_map_of_mem hd)
      have steps := steps_registerAll r e.name e.declared
      rw [first] at steps
      refine ⟨r₂, r₃, steps.trans before, ?_, later⟩
      rwa [tableOf, OrderedMap.get?_cons, if_neg ne, ← tableOf]

/-! ### Whole runs -/

/-- The registry behind some runs, one after the other, whether they succeed or not. -/
def after (r : Registry) (runs : List (List Definition)) : Registry := runs.foldl (fun r ds => (r.resolve ds).1) r

theorem after_append (r : Registry) (runs more : List (List Definition)) :
    r.after (runs ++ more) = (r.after runs).after more := List.foldl_append

theorem Extends.opened (r : Registry) (ordered : List Definition) : Extends r (r.opened ordered) :=
  of_same rfl (fun _ => rfl) rfl

theorem Sound.opened (h : Sound r) (ordered : List Definition) : Sound (r.opened ordered) :=
  h.of_same rfl (fun _ => rfl) rfl

/-- A run registers ids, and adds warnings. -/
theorem resolve_steps (r : Registry) (ds : List Definition) :
    ∃ r₁ warnings, Steps (r.opened (inMergeOrder Definition.name ds)) r₁ ∧ (r.resolve ds).1 = { r₁ with warnings } := by
  have steps := steps_registerMods (r.opened (inMergeOrder Definition.name ds)) (inMergeOrder Definition.name ds)
  unfold resolve
  simp only
  split
  · rename_i r₁ e failed
    rw [opened, failed] at steps
    exact ⟨r₁, _, steps, rfl⟩
  · rename_i r₁ tables registered
    rw [opened, registered] at steps
    rcases r₁.checkMods_eq (inMergeOrder Definition.name ds) with checked | ⟨_, _, _, _, _, _, checked⟩
    · exact ⟨r₁, _, steps, by rw [checked]⟩
    · exact ⟨r₁, _, steps, by rw [checked]⟩

theorem Extends.resolve (r : Registry) (ds : List Definition) : Extends r (r.resolve ds).1 := by
  obtain ⟨r₁, warnings, steps, result⟩ := resolve_steps r ds
  rw [result]
  exact ((Extends.opened r _).trans (of_steps steps)).trans (of_same rfl (fun _ => rfl) rfl)

theorem Sound.resolve (h : Sound r) (ds : List Definition) : Sound (r.resolve ds).1 := by
  obtain ⟨r₁, warnings, steps, result⟩ := resolve_steps r ds
  rw [result]
  exact ((h.opened _).steps steps).of_same rfl (fun _ => rfl) rfl

theorem Extends.after (r : Registry) (runs : List (List Definition)) : Extends r (r.after runs) := by
  induction runs generalizing r with
  | nil => exact refl r
  | cons ds runs ih => exact (resolve r ds).trans (ih _)

theorem Sound.after (h : Sound r) (runs : List (List Definition)) : Sound (r.after runs) := by
  induction runs generalizing r with
  | nil => exact h
  | cons ds runs ih => exact ih (h.resolve ds)

section Run

variable {ds : List Definition} {tables : OrderedMap String RemapTable} {d e : Definition}

/-- In a run that succeeds each id that a mod declares is registered at some moment, and the table of the mod has what
comes of it. -/
theorem resolve_moment (h : Sound r) (names : (ds.map Definition.name).Nodup) (run : (r.resolve ds).2 = .ok tables)
    (hd : d ∈ ds) (declared : id ∈ d.declared) :
    ∃ r₁ r₂, Extends r r₁ ∧ Sound r₁ ∧
      r₁.register d.name id = (r₂, .ok (OrderedMap.get? (tableOf tables d.name) id)) ∧
      Extends r₂ (r.resolve ds).1 := by
  have perm : (inMergeOrder Definition.name ds).Perm ds := sortBy_perm _ _
  obtain ⟨r', registered, result⟩ := registerMods_of_resolve run
  obtain ⟨s, s', to_mod, ids, from_mod⟩ :=
    registerMods_moment registered ((perm.map Definition.name).nodup_iff.2 names) (perm.mem_iff.2 hd)
  obtain ⟨r₁, r₂, to_id, moment, from_id⟩ := registerAll_moment ids d.nodup_declared declared
  have before := to_mod.trans to_id
  refine ⟨r₁, r₂, (Extends.opened r _).trans (.of_steps before), (h.opened _).steps before, moment, ?_⟩
  rw [result]
  exact (Extends.of_steps (from_id.trans from_mod)).trans (.of_same rfl (fun _ => rfl) rfl)

/-- The table of a mod has entries for modded ids only, which the mod declares. -/
theorem declared_of_get? {n : Int} (names : (ds.map Definition.name).Nodup) (run : (r.resolve ds).2 = .ok tables)
    (hd : d ∈ ds) (entry : OrderedMap.get? (tableOf tables d.name) id = some n) :
    id ∈ d.declared ∧ r.ranges.isManaged id = true := by
  have perm : (inMergeOrder Definition.name ds).Perm ds := sortBy_perm _ _
  obtain ⟨r', registered, -⟩ := registerMods_of_resolve run
  obtain ⟨s, s', to_mod, ids, -⟩ :=
    registerMods_moment registered ((perm.map Definition.name).nodup_iff.2 names) (perm.mem_iff.2 hd)
  have key := OrderedMap.isSome_get?_iff.1 (by rw [entry, Option.isSome_some])
  obtain ⟨declared, managed⟩ := List.mem_filter.1 ((keys_registerAll ids).subset key)
  rw [((Extends.opened r _).trans (.of_steps to_mod)).ranges_eq] at managed
  exact ⟨declared, managed⟩

/-- A mod that declares an id for which it once got a number gets the same number. -/
theorem get?_of_remembered {n : Int} (h : Sound r) (names : (ds.map Definition.name).Nodup)
    (run : (r.resolve ds).2 = .ok tables) (hd : d ∈ ds) (declared : id ∈ d.declared)
    (known : OrderedMap.get? r.allocations (d.name, id) = some n) :
    OrderedMap.get? (tableOf tables d.name) id = some n := by
  obtain ⟨r₁, r₂, before, sound, moment, -⟩ := resolve_moment h names run hd declared
  replace known := before.number known
  obtain ⟨managed, owned⟩ := sound.taken known
  have outcome := r₁.register_outcome d.name id
  rw [moment] at outcome
  generalize OrderedMap.get? (tableOf tables d.name) id = change at outcome
  cases outcome with
  | passed unmanaged =>
    rw [managed] at unmanaged
    cases unmanaged
  | kept _ unowned =>
    rw [unowned] at owned
    cases owned
  | recalled _ known' => exact known'.symm.trans known
  | moved _ unknown =>
    rw [unknown] at known
    cases known

end Run

/-! ### What became of a claim -/

/-- What a registry shows of a claim that was made some time before. -/
structure Settled (r : Registry) (c : Claim) : Prop where
  owner : r.owner? c.final = some c.mod
  moved : ∀ n ∈ c.moved, OrderedMap.get? r.allocations (c.mod, c.id) = some n
  /-- No number makes an id that a mod kept. -/
  kept : c.moved = none → ∀ p n, OrderedMap.get? r.allocations p = some n → p.2.renumber n ≠ c.id

theorem settled_of_register {change : Option Int} (h : Sound r) (step : r.register mod id = (r', .ok change))
    (managed : r.ranges.isManaged id = true) (later : Extends r' r'') : Settled r'' ⟨mod, id, change⟩ := by
  have outcome := r.register_outcome mod id
  rw [step] at outcome
  cases outcome with
  | passed unmanaged =>
    rw [managed] at unmanaged
    cases unmanaged
  | kept _ unowned =>
    have owned : (r.own mod id).owner? id = some mod := by rw [owner?_own, if_pos rfl]
    refine ⟨later.owner owned, by simp, fun _ p n found same => ?_⟩
    replace same : p.2.renumber n = id := same
    -- a number from before makes an owned id, and one from later makes an id that nobody owned
    rcases later.given found with old | fresh
    · rw [← same, h.owned old] at unowned
      cases unowned
    · rw [same, owned] at fresh
      cases fresh
  | recalled _ known =>
    refine ⟨later.owner (h.owned known), ?_, by simp⟩
    rintro _ ⟨⟩
    exact later.number known
  | @moved range b owner n collides unknown free =>
    have known : OrderedMap.get? ((r.give mod id n).noted mod id owner n).allocations (mod, id) = some n := by
      rw [allocations_noted, allocations_give, OrderedMap.get?_insert, if_pos rfl]
    refine ⟨later.owner ?_, ?_, by simp⟩
    · rw [owner?_noted]
      exact (owner?_give r mod id _ n).trans (if_pos rfl)
    · rintro _ ⟨⟩
      exact later.number known

/-- Claims that end with one id are the same. -/
theorem Settled.eq_of_final_eq {c c' : Claim} (h : Settled r c) (h' : Settled r c') (sound : Sound r)
    (same : c.final = c'.final) : c.mod = c'.mod ∧ c.id = c'.id := by
  have mods : c.mod = c'.mod := Option.some.inj (h.owner.symm.trans ((congrArg r.owner? same).trans h'.owner))
  refine ⟨mods, ?_⟩
  unfold Claim.final at same
  cases moved : c.moved with
  | none =>
    rw [moved] at same
    cases moved' : c'.moved with
    | none =>
      rw [moved'] at same
      exact same
    | some k =>
      rw [moved'] at same
      exact absurd same.symm (h.kept moved _ k (h'.moved k moved'))
  | some n =>
    rw [moved] at same
    cases moved' : c'.moved with
    | none =>
      rw [moved'] at same
      exact absurd same (h'.kept moved' _ n (h.moved n moved))
    | some k =>
      rw [moved'] at same
      exact congrArg Prod.snd (sound.distinct (h.moved n moved) (h'.moved k moved') same)

theorem settled_of_resolve {ds : List Definition} {tables : OrderedMap String RemapTable} {d : Definition} (h : Sound r)
    (names : (ds.map Definition.name).Nodup) (run : (r.resolve ds).2 = .ok tables) (hd : d ∈ ds)
    (declared : id ∈ d.declared) (managed : r.ranges.isManaged id = true) :
    Settled (r.resolve ds).1 ⟨d.name, id, OrderedMap.get? (tableOf tables d.name) id⟩ := by
  obtain ⟨r₁, r₂, before, sound, moment, later⟩ := resolve_moment h names run hd declared
  exact settled_of_register sound moment (before.ranges_eq ▸ managed) later

/-! ### Any number of runs -/

/-- The registry that has some runs behind it. -/
def ofRuns (ranges : RangeMap) (runs : List (List Definition)) : Registry := (empty ranges).after runs

/-- Whatever runs, failed ones among them, a registry has behind it: an id keeps its owner; a number that was given for
an id of a mod belongs to that mod, makes no id that another number makes, and is given again in every later run that
succeeds and in which the mod declares the id; and in each run that succeeds every new number is remembered so, and no
two declarations end with one id. -/
theorem owners_and_numbers_ofRuns (ranges : RangeMap) (runs : List (List Definition)) :
    (∀ more id mod, (ofRuns ranges runs).owner? id = some mod →
      (ofRuns ranges (runs ++ more)).owner? id = some mod) ∧
    (∀ mod id n, OrderedMap.get? (ofRuns ranges runs).allocations (mod, id) = some n →
      (ofRuns ranges runs).owner? (id.renumber n) = some mod ∧
      (∀ mod' id' n', OrderedMap.get? (ofRuns ranges runs).allocations (mod', id') = some n' →
        id'.renumber n' = id.renumber n → mod' = mod ∧ id' = id) ∧
      ∀ more ds tables, (ds.map Definition.name).Nodup → ((ofRuns ranges (runs ++ more)).resolve ds).2 = .ok tables →
        ∀ d ∈ ds, d.name = mod → id ∈ d.declared → OrderedMap.get? (tableOf tables mod) id = some n) ∧
    ∀ ds tables, (ds.map Definition.name).Nodup → ((ofRuns ranges runs).resolve ds).2 = .ok tables →
      (∀ d ∈ ds, ∀ id n, OrderedMap.get? (tableOf tables d.name) id = some n →
        OrderedMap.get? (ofRuns ranges (runs ++ [ds])).allocations (d.name, id) = some n) ∧
      ∀ d ∈ ds, ∀ e ∈ ds, ∀ i ∈ d.declared, ∀ j ∈ e.declared, ranges.isManaged i = true → ranges.isManaged j = true →
        finalId tables d.name i = finalId tables e.name j → d = e ∧ i = j := by
  have sound : ∀ runs, Sound (ofRuns ranges runs) := fun runs => (Sound.empty ranges).after runs
  have extends_more : ∀ more, Extends (ofRuns ranges runs) (ofRuns ranges (runs ++ more)) := by
    intro more
    rw [ofRuns, ofRuns, after_append]
    exact Extends.after _ more
  refine ⟨fun more id mod owned => (extends_more more).owner owned, ?_, ?_⟩
  · intro mod id n known
    refine ⟨(sound runs).owned known, ?_, ?_⟩
    · intro mod' id' n' known' same
      exact Prod.mk.inj ((sound runs).distinct known' known same)
    · rintro more ds tables names run d hd rfl declared
      exact get?_of_remembered (sound _) names run hd declared ((extends_more more).number known)
  · intro ds tables names run
    have ranges_eq : (ofRuns ranges runs).ranges = ranges := (Extends.after (empty ranges) runs).ranges_eq
    have settled : ∀ d ∈ ds, ∀ i ∈ d.declared, ranges.isManaged i = true →
        Settled ((ofRuns ranges runs).resolve ds).1 ⟨d.name, i, OrderedMap.get? (tableOf tables d.name) i⟩ :=
      fun d hd i hi managed => settled_of_resolve (sound runs) names run hd hi (ranges_eq.symm ▸ managed)
    constructor
    · intro d hd id n entry
      have next : ofRuns ranges (runs ++ [ds]) = ((ofRuns ranges runs).resolve ds).1 := after_append _ runs [ds]
      obtain ⟨declared, managed⟩ := declared_of_get? names run hd entry
      rw [next]
      exact (settled d hd id declared (ranges_eq ▸ managed)).moved n entry
    · intro d hd e he i hi j hj managed_i managed_j same
      obtain ⟨mods, ids⟩ := (settled d hd i hi managed_i).eq_of_final_eq (settled e he j hj managed_j)
        ((sound runs).resolve ds) same
      exact ⟨eq_of_name_eq names hd he mods, ids⟩

/-- Ranges with three nations for mods. -/
def scarceRanges : RangeMap := RangeMap.default.update .nation ⟨some ⟨150, 152⟩, none, [0]⟩

theorem valid_scarceRanges : scarceRanges.Valid :=
  RangeMap.valid_default.update _ ⟨by rintro b ⟨⟩; decide, by rintro b ⟨⟩⟩

/-- Two mods that declare one nation. -/
def couple : List Definition := [declaring "Alpha" [⟨.nation, 150⟩], declaring "beta" [⟨.nation, 150⟩]]

/-- The couple with a third mod, which declares the nation that the second one of them got. -/
def crowd : List Definition := couple ++ [declaring "gamma" [⟨.nation, 151⟩]]

/-- What the couple gets after a run that failed. -/
def coupleTables : OrderedMap String RemapTable :=
  [("Alpha", [(⟨.nation, 150⟩, 152)]), ("beta", [(⟨.nation, 150⟩, 151)])]

theorem nodup_names_couple : (couple.map Definition.name).Nodup := by decide

theorem resolve_couple :
    ((ofRuns scarceRanges ([couple] ++ [crowd])).resolve couple).2 = .ok coupleTables := by decide +kernel

/-- The run over the crowd fails when it has given the last free nation to the first mod, whose own it was; the number
of the second mod stays what it was. -/
theorem owners_and_numbers_couple :
    (couple.map Definition.name).Nodup ∧
      ((ofRuns scarceRanges [couple]).resolve crowd).2 = .error (.exhausted ⟨.nation, 151⟩) ∧
      ((ofRuns scarceRanges ([couple] ++ [crowd])).resolve couple).2 = .ok coupleTables ∧
      (ofRuns scarceRanges ([couple] ++ [crowd])).owner? ⟨.nation, 151⟩ = some "beta" ∧
      OrderedMap.get? (tableOf coupleTables "beta") ⟨.nation, 150⟩ = some 151 ∧
      finalId coupleTables "Alpha" ⟨.nation, 150⟩ ≠ finalId coupleTables "beta" ⟨.nation, 150⟩ := by
  obtain ⟨owner_kept, known, -⟩ := owners_and_numbers_ofRuns scarceRanges [couple]
  obtain ⟨-, -, run⟩ := owners_and_numbers_ofRuns scarceRanges ([couple] ++ [crowd])
  obtain ⟨-, -, given_again⟩ := known "beta" ⟨.nation, 150⟩ 151 (by decide +kernel)
  refine ⟨nodup_names_couple, by decide +kernel, resolve_couple, ?_, ?_, fun same => ?_⟩
  · exact owner_kept [crowd] ⟨.nation, 151⟩ "beta" (by decide +kernel)
  · exact given_again [crowd] couple coupleTables nodup_names_couple resolve_couple couple[1] (by decide) rfl (by decide)
  · have eq := (run couple coupleTables nodup_names_couple resolve_couple).2 couple[0] (by decide) couple[1] (by decide)
      _ (by decide) _ (by decide) (by decide) (by decide) same
    exact absurd eq.1 (by decide)

end ModWeave.Registry
