import ModWeave.Proofs.Registry.Owners
import ModWeave.Proofs.Registry.Runs

/-!
# References to ids that no mod declares

A run warns of the modded ids to which a mod refers and that no mod declares (`mem_warnings_danglingReference_iff`).
Such an id need not stay without an owner: the search for a free number looks at what is declared, and not at what is
referred to, so that a moved entity can come to stand where the reference points (`owner?_danglingReference_ne`).  What
does hold is said in `owner?_danglingReference_iff`.
-/

namespace ModWeave.Registry

variable {ranges : RangeMap} {ds : List Definition} {tables : OrderedMap String RemapTable} {id : EntityId}

theorem mem_danglingWarnings {r : Registry} {d : Definition} {w : Warning} :
    w ∈ r.danglingWarnings d ↔ ∃ id ∈ d.referenced, r.ranges.isManaged id = true ∧ id ∉ r.reserved ∧
      w = ⟨some d.name, .danglingReference id⟩ := by
  simp only [danglingWarnings, isDangling, List.mem_map, List.mem_filter, Bool.and_eq_true, Bool.not_eq_true',
    ← Std.TreeSet.contains_iff_mem, Bool.not_eq_true]
  constructor
  · rintro ⟨id, ⟨referenced, managed, undeclared⟩, rfl⟩
    exact ⟨id, referenced, managed, undeclared, rfl⟩
  · rintro ⟨id, referenced, managed, undeclared, rfl⟩
    exact ⟨id, ⟨referenced, managed, undeclared⟩, rfl⟩

/-- A run that succeeds warns of the modded ids to which a mod refers and that no mod declares. -/
theorem mem_warnings_danglingReference_iff (names : (ds.map Definition.name).Nodup)
    (run : (resolveIds ranges ds).2 = .ok tables) {w : Warning} (cause : w.cause = .danglingReference id) :
    w ∈ (resolveIds ranges ds).1.warnings ↔ (∃ d ∈ ds, id ∈ d.referenced ∧ w.mod = some d.name) ∧
      ranges.isManaged id = true ∧ ∀ e ∈ ds, id ∉ e.declared := by
  obtain ⟨-, ranges_eq, reserved_iff, -, -⟩ := ledger_resolveIds names run
  obtain ⟨r₁, registered, result⟩ := registerMods_of_resolve run
  -- registrations warn of the base game only, so that the warning is one of the last part of the run
  have silent : w ∉ r₁.warnings := by
    intro hw
    have steps := steps_registerMods ((empty ranges).opened (inMergeOrder Definition.name ds))
      (inMergeOrder Definition.name ds)
    rw [registered] at steps
    rcases warnings_of_steps steps w hw with old | ⟨_, _, shared⟩
    · cases old
    · rw [cause] at shared
      cases shared
  rw [resolveIds, result] at ranges_eq reserved_iff ⊢
  simp only [List.mem_append, silent, false_or, List.mem_flatMap, mem_danglingWarnings]
  constructor
  · rintro ⟨d, hd, j, referenced, managed, undeclared, rfl⟩
    obtain rfl := Warning.Cause.danglingReference.inj cause
    refine ⟨⟨d, mem_sortBy.1 hd, referenced, rfl⟩, ranges_eq ▸ managed, fun e he declared => ?_⟩
    exact undeclared ((reserved_iff _).2 ⟨e, he, declared⟩)
  · rintro ⟨⟨d, hd, referenced, mod_eq⟩, managed, undeclared⟩
    refine ⟨d, mem_sortBy.2 hd, id, referenced, ranges_eq.symm ▸ managed, fun declared => ?_, ?_⟩
    · obtain ⟨e, he, declared⟩ := (reserved_iff _).1 declared
      exact undeclared e he declared
    · cases w
      exact congrArg₂ Warning.mk mod_eq cause

/-- What comes to own an undeclared id got it as a new number. -/
theorem owner?_of_undeclared (names : (ds.map Definition.name).Nodup) (run : (resolveIds ranges ds).2 = .ok tables)
    (undeclared : ∀ d ∈ ds, id ∉ d.declared) (m : String) :
    (resolveIds ranges ds).1.owner? id = some m ↔
      ∃ d ∈ ds, d.name = m ∧ ∃ j n, OrderedMap.get? (tableOf tables d.name) j = some n ∧ j.renumber n = id := by
  obtain ⟨ledger, -, -, -, -⟩ := ledger_resolveIds names run
  rw [ledger.owner_iff]
  constructor
  · rintro ⟨c, hc, final_eq, rfl⟩
    obtain ⟨d, hd, declared, -, mod_eq, moved_eq⟩ := mem_claims.1 hc
    replace hd := mem_sortBy.1 hd
    refine ⟨d, hd, mod_eq.symm, c.id, ?_⟩
    cases moved : c.moved with
    | none =>
      rw [Claim.final, moved, Option.getD_none, EntityId.renumber_number] at final_eq
      exact absurd (final_eq ▸ declared) (undeclared d hd)
    | some n =>
      rw [Claim.final, moved, Option.getD_some] at final_eq
      exact ⟨n, moved_eq.symm.trans moved, final_eq⟩
  · rintro ⟨d, hd, rfl, j, n, entry, rfl⟩
    obtain ⟨declared, managed⟩ := declared_of_get? names run hd entry
    refine ⟨_, claim_mem hd declared managed, ?_, rfl⟩
    rw [Claim.final, entry, Option.getD_some]

/-- A new number stands for an id that another mod in front declares too; it has the sign of the old number, and its
magnitude lies in the range for that sign. -/
theorem moved_spec (valid : ranges.Valid) (names : (ds.map Definition.name).Nodup)
    (run : (resolveIds ranges ds).2 = .ok tables) {d : Definition} (hd : d ∈ ds) {n : Int}
    (entry : OrderedMap.get? (tableOf tables d.name) id = some n) :
    id ∈ d.declared ∧ (∃ e ∈ ds, Precedes ds e d ∧ id ∈ e.declared) ∧ n.sign = id.number.sign ∧
      ∃ range b, ranges id.kind = some range ∧ range.bounds? n = some b ∧ b.low ≤ n.natAbs ∧ n.natAbs ≤ b.high := by
  obtain ⟨managed, eligible, -, -⟩ := spec_of_get? names run hd entry
  obtain ⟨declared, -⟩ := declared_of_get? names run hd entry
  obtain ⟨e, he, declared_e, kept, first, -⟩ := exists_first_keeper names run hd declared managed
  obtain ⟨range, b, range_eq, bounds_eq, sign_eq, low_le, le_high, -⟩ := eligible.sign_eq valid managed
  refine ⟨declared, ⟨e, he, ?_, declared_e⟩, sign_eq, range, b, range_eq, ?_, low_le, le_high⟩
  · refine (first d hd declared).resolve_left ?_
    rintro rfl
    rw [kept] at entry
    cases entry
  · have same_sign : n < 0 ↔ id.number < 0 := by
      rw [← Int.sign_eq_neg_one_iff_neg, sign_eq, Int.sign_eq_neg_one_iff_neg]
    rwa [IdRange.bounds?, if_congr same_sign rfl rfl]

/-- No mod declares an id of which a run warns that it is referred to only.  The id has an owner exactly if some mod got
it as the new number of another id of the kind, and then that mod owns it.  There is one such mod and one such id at
most; a mod in front declares the old id too, it has the sign of the new one, and the new one lies in the range for that
sign. -/
theorem owner?_danglingReference_iff (valid : ranges.Valid) (names : (ds.map Definition.name).Nodup)
    (run : (resolveIds ranges ds).2 = .ok tables) :
    ∀ w ∈ (resolveIds ranges ds).1.warnings, ∀ id, w.cause = .danglingReference id →
      (∀ d ∈ ds, id ∉ d.declared) ∧
      (∀ m, (resolveIds ranges ds).1.owner? id = some m ↔
        ∃ d ∈ ds, d.name = m ∧ ∃ j n, OrderedMap.get? (tableOf tables d.name) j = some n ∧ j.renumber n = id) ∧
      ∀ d ∈ ds, ∀ j n, OrderedMap.get? (tableOf tables d.name) j = some n → j.renumber n = id →
        j ∈ d.declared ∧ (∃ e ∈ ds, Precedes ds e d ∧ j ∈ e.declared) ∧ id.number.sign = j.number.sign ∧
        (∃ range b, ranges id.kind = some range ∧ range.bounds? id.number = some b ∧ b.low ≤ id.number.natAbs ∧
          id.number.natAbs ≤ b.high) ∧
        ∀ e ∈ ds, ∀ i k, OrderedMap.get? (tableOf tables e.name) i = some k → i.renumber k = id → e = d ∧ i = j := by
  intro w hw id cause
  obtain ⟨-, -, undeclared⟩ := (mem_warnings_danglingReference_iff names run cause).1 hw
  refine ⟨undeclared, owner?_of_undeclared names run undeclared, ?_⟩
  rintro d hd j n entry rfl
  obtain ⟨declared, collides, sign_eq, in_range⟩ := moved_spec valid names run hd entry
  refine ⟨declared, collides, sign_eq, in_range, fun e he i k entry' same => ?_⟩
  have settled : ∀ c ∈ ds, ∀ id n, OrderedMap.get? (tableOf tables c.name) id = some n →
      Settled (resolveIds ranges ds).1 ⟨c.name, id, some n⟩ := fun c hc id n entry => by
    obtain ⟨declared, managed⟩ := declared_of_get? names run hc entry
    rw [← entry]
    exact settled_of_resolve (Sound.empty ranges) names run hc declared managed
  obtain ⟨mods, ids⟩ := (settled e he i k entry').eq_of_final_eq (settled d hd j n entry)
    ((Sound.empty ranges).resolve ds) same
  exact ⟨eq_of_name_eq names he hd mods, ids⟩

/-- A mod that has to move its monster. -/
def mover : Definition := declaring "beta" [⟨.monster, 3500⟩]

/-- A mod that declares the same monster as the mover, and another mod that refers to monsters which no mod declares. -/
def bystanders : List Definition :=
  [declaring "Alpha" [⟨.monster, 3500⟩], mover, declaringAndReferring "gamma" [] [⟨.monster, 3501⟩, ⟨.monster, 3600⟩]]

theorem mover_mem_bystanders : mover ∈ bystanders := by simp [bystanders]

/-- What the bystanders get. -/
def bystanderTables : OrderedMap String RemapTable :=
  [("Alpha", []), ("beta", [(⟨.monster, 3500⟩, 3501)]), ("gamma", [])]

theorem nodup_names_bystanders : (bystanders.map Definition.name).Nodup := by decide

theorem resolveIds_bystanders : (resolveIds RangeMap.default bystanders).2 = .ok bystanderTables := by decide +kernel

/-- The monster that the second mod has to move comes to stand where the third mod refers to. -/
theorem owner?_danglingReference_bystanders :
    RangeMap.default.Valid ∧ (bystanders.map Definition.name).Nodup ∧
      (resolveIds RangeMap.default bystanders).2 = .ok bystanderTables ∧
      ⟨some "gamma", .danglingReference ⟨.monster, 3501⟩⟩ ∈ (resolveIds RangeMap.default bystanders).1.warnings ∧
      (∀ d ∈ bystanders, ⟨.monster, 3501⟩ ∉ d.declared) ∧
      (resolveIds RangeMap.default bystanders).1.owner? ⟨.monster, 3501⟩ = some "beta" ∧
      ∃ e ∈ bystanders, Precedes bystanders e mover ∧ ⟨.monster, 3500⟩ ∈ e.declared := by
  have warned : ⟨some "gamma", .danglingReference ⟨.monster, 3501⟩⟩ ∈
      (resolveIds RangeMap.default bystanders).1.warnings := by decide +kernel
  obtain ⟨undeclared, owner_iff, moved⟩ := owner?_danglingReference_iff RangeMap.valid_default nodup_names_bystanders
    resolveIds_bystanders _ warned _ rfl
  obtain ⟨-, collides, -⟩ := moved mover mover_mem_bystanders ⟨.monster, 3500⟩ 3501 (by decide +kernel) rfl
  refine ⟨RangeMap.valid_default, nodup_names_bystanders, resolveIds_bystanders, warned, undeclared, ?_, collides⟩
  exact (owner_iff "beta").2 ⟨mover, mover_mem_bystanders, rfl, ⟨.monster, 3500⟩, 3501, by decide +kernel, rfl⟩

/-- Not every id of which a run warns so stays without an owner. -/
theorem owner?_danglingReference_ne :
    ¬ ∀ (ranges : RangeMap) (ds : List Definition) (tables : OrderedMap String RemapTable), ranges.Valid →
      (ds.map Definition.name).Nodup → (resolveIds ranges ds).2 = .ok tables →
      ∀ w ∈ (resolveIds ranges ds).1.warnings, ∀ id, w.cause = .danglingReference id →
        (∀ d ∈ ds, ∀ j n, OrderedMap.get? (tableOf tables d.name) j = some n → j.renumber n ≠ id) ∧
        (resolveIds ranges ds).1.owner? id = none := by
  intro unowned
  have warned : ⟨some "gamma", .danglingReference ⟨.monster, 3501⟩⟩ ∈
      (resolveIds RangeMap.default bystanders).1.warnings := by decide +kernel
  obtain ⟨not_moved, -⟩ := unowned _ _ _ RangeMap.valid_default nodup_names_bystanders resolveIds_bystanders _ warned _ rfl
  exact not_moved mover mover_mem_bystanders ⟨.monster, 3500⟩ 3501 (by decide +kernel) rfl

end ModWeave.Registry
