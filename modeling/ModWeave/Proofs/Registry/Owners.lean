import ModWeave.Proofs.Registry.FinalIds

/-!
# Whom references reach

A reference to a modded id reaches the mod that owns the id once a run has succeeded (`owner?_of_referenced`):

* if the referring mod declares the id itself, the id with which it ends up is its own, whether it moved or not;
* otherwise its table leaves the id alone, and the id belongs to the first of the mods that declare it.

Numbers that were given away cannot come between, since no mod declares them.
-/

namespace ModWeave.Registry

variable {ranges : RangeMap} {ds : List Definition} {tables : OrderedMap String RemapTable} {id : EntityId}

/-- The id with which a mod ends up belongs to that mod. -/
theorem owner?_finalId (names : (ds.map Definition.name).Nodup) (run : (resolveIds ranges ds).2 = .ok tables)
    {d : Definition} (hd : d ∈ ds) (declared : id ∈ d.declared) (managed : ranges.isManaged id = true) :
    (resolveIds ranges ds).1.owner? (finalId tables d.name id) = some d.name := by
  obtain ⟨ledger, -, -, -, -⟩ := ledger_resolveIds names run
  exact (ledger.owner_iff _ _).2 ⟨_, claim_mem hd declared managed, rfl, rfl⟩

/-- A declared id stays with the first mod that declares it, whose table leaves it alone. -/
theorem exists_first_keeper (names : (ds.map Definition.name).Nodup) (run : (resolveIds ranges ds).2 = .ok tables)
    {d : Definition} (hd : d ∈ ds) (declared : id ∈ d.declared) (managed : ranges.isManaged id = true) :
    ∃ e ∈ ds, id ∈ e.declared ∧ OrderedMap.get? (tableOf tables e.name) id = none ∧
      (∀ f ∈ ds, id ∈ f.declared → f = e ∨ Precedes ds e f) ∧ (resolveIds ranges ds).1.owner? id = some e.name := by
  obtain ⟨ledger, -, -, -, -⟩ := ledger_resolveIds names run
  obtain ⟨c, hc, rfl, kept⟩ := ledger.some_kept _ (claim_mem hd declared managed)
  obtain ⟨e, he, declared_e, -, mod_eq, moved_eq⟩ := mem_claims.1 hc
  replace he := mem_sortBy.1 he
  refine ⟨e, he, declared_e, moved_eq.symm.trans kept, fun f hf declared_f => ?_,
    (ledger.owner_iff _ _).2 ⟨c, hc, ?_, mod_eq⟩⟩
  · by_cases same : f = e
    · exact Or.inl same
    · -- a mod behind another one would have lost the id
      rcases precedes_or_precedes names he hf (Ne.symm same) with first | behind
      · exact Or.inr first
      · have moved := isSome_of_precedes names ledger he hf behind declared_f declared_e managed
        rw [← moved_eq, kept] at moved
        cases moved
  · rw [Claim.final, kept, Option.getD_none, EntityId.renumber_number]

/-- A declared id stays with the first mod that declares it. -/
theorem exists_first_declarer (names : (ds.map Definition.name).Nodup) (run : (resolveIds ranges ds).2 = .ok tables)
    {d : Definition} (hd : d ∈ ds) (declared : id ∈ d.declared) (managed : ranges.isManaged id = true) :
    ∃ e ∈ ds, id ∈ e.declared ∧ (∀ f ∈ ds, id ∈ f.declared → f = e ∨ Precedes ds e f) ∧
      (resolveIds ranges ds).1.owner? id = some e.name := by
  obtain ⟨e, he, declared_e, -, first, owner⟩ := exists_first_keeper names run hd declared managed
  exact ⟨e, he, declared_e, first, owner⟩

/-- After a run that succeeds, a modded id to which a mod refers belongs, as the mod will write it, to the mod itself
if the mod declares it, and otherwise, with no entry in the mod's table, to the first mod that declares it. -/
theorem owner?_of_referenced (names : (ds.map Definition.name).Nodup) (run : (resolveIds ranges ds).2 = .ok tables) :
    ∀ d ∈ ds, ∃ t, OrderedMap.get? tables d.name = some t ∧ ∀ id ∈ d.referenced, ranges.isManaged id = true →
      (id ∈ d.declared → (resolveIds ranges ds).1.owner? (id.renumber ((OrderedMap.get? t id).getD id.number)) =
        some d.name) ∧
      (id ∉ d.declared → (∃ e ∈ ds, id ∈ e.declared) → OrderedMap.get? t id = none ∧
        ∃ e ∈ ds, id ∈ e.declared ∧ (∀ f ∈ ds, id ∈ f.declared → f = e ∨ Precedes ds e f) ∧
          (resolveIds ranges ds).1.owner? id = some e.name) := by
  intro d hd
  obtain ⟨-, -, -, keys_eq, keys⟩ := ledger_resolveIds names run
  refine ⟨_, get?_eq_some_tableOf keys_eq hd, fun id _ managed => ⟨fun declared => ?_, ?_⟩⟩
  · exact owner?_finalId names run hd declared managed
  · rintro undeclared ⟨e, he, declared⟩
    refine ⟨OrderedMap.get?_eq_none_iff.2 fun key => ?_, exists_first_declarer names run he declared managed⟩
    exact undeclared (List.mem_filter.1 ((keys d hd).subset key)).1

/-- The definition of a mod that declares some ids and refers to others. -/
def declaringAndReferring (name : String) (declared referenced : List EntityId) : Definition :=
  ⟨ModFile.named name [], declared.map (⟨·, .declaration, 0, []⟩) ++ referenced.map (⟨·, .reference, 1, []⟩), []⟩

/-- Two mods that declare and use the same montag, a third that only uses it, and a nation that is declared last. -/
def borrowers : List Definition :=
  [declaringAndReferring "beta" [⟨.monster, -1000⟩] [⟨.monster, -1000⟩],
    declaringAndReferring "Alpha" [⟨.monster, -1000⟩] [⟨.nation, 150⟩],
    declaringAndReferring "aide" [⟨.monster, -1001⟩] [⟨.monster, -1000⟩, ⟨.nation, 150⟩],
    declaringAndReferring "gamma" [⟨.nation, 150⟩] []]

/-- What the borrowers get. -/
def borrowerTables : OrderedMap String RemapTable :=
  [("aide", []), ("Alpha", []), ("beta", [(⟨.monster, -1000⟩, -1002)]), ("gamma", [])]

theorem nodup_names_borrowers : (borrowers.map Definition.name).Nodup := by decide

theorem resolveIds_borrowers : (resolveIds RangeMap.default borrowers).2 = .ok borrowerTables := by decide +kernel

/-- The second declarer's references go to its new montag, and those of the mod without one to the first declarer. -/
theorem owner?_borrowers :
    (borrowers.map Definition.name).Nodup ∧ (resolveIds RangeMap.default borrowers).2 = .ok borrowerTables ∧
      (resolveIds RangeMap.default borrowers).1.owner? ⟨.monster, -1002⟩ = some "beta" ∧
      ∃ e ∈ borrowers, (∀ f ∈ borrowers, ⟨.monster, -1000⟩ ∈ f.declared → f = e ∨ Precedes borrowers e f) ∧
        (resolveIds RangeMap.default borrowers).1.owner? ⟨.monster, -1000⟩ = some e.name := by
  refine ⟨nodup_names_borrowers, resolveIds_borrowers, ?_, ?_⟩
  · obtain ⟨t, found, reached⟩ :=
      owner?_of_referenced nodup_names_borrowers resolveIds_borrowers borrowers[0] (by decide)
    cases found
    have own := (reached ⟨.monster, -1000⟩ (by decide) (by decide)).1 (by decide)
    have final : EntityId.renumber ⟨.monster, -1000⟩ ((OrderedMap.get? [(⟨.monster, -1000⟩, -1002)]
        (⟨.monster, -1000⟩ : EntityId)).getD (-1000)) = ⟨.monster, -1002⟩ := by decide
    rw [final] at own
    exact own
  · obtain ⟨t, found, reached⟩ :=
      owner?_of_referenced nodup_names_borrowers resolveIds_borrowers borrowers[2] (by decide)
    cases found
    obtain ⟨-, e, he, -, first, owner⟩ :=
      (reached ⟨.monster, -1000⟩ (by decide) (by decide)).2 (by decide) ⟨borrowers[0], by decide, by decide⟩
    exact ⟨e, he, first, owner⟩

end ModWeave.Registry
