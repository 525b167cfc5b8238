import ModWeave.Proofs.MergeOrder
import ModWeave.Proofs.Registry.Ledger

/-!
# The ids with which mods end up

After a run that succeeds every mod has for each modded id that it declares one final id: the id itself, or the one
with the number that its table gives.

* No two declarations end with one final id, and a new number has the sign of the old one, lies in the range for
  that sign, is no sentinel, and is declared by no mod of the run (`finalId_injective_and_moved_in_range`).
* An id moves exactly if a mod that precedes declares it too (`mem_keys_iff_precedes`), so that its first declarer
  keeps it, whatever numbers were given away before.

Both are read off the ledger of the run.
-/

namespace ModWeave.Registry

/-- The id with which a mod ends up, by the tables of a run. -/
def finalId (tables : OrderedMap String RemapTable) (mod : String) (id : EntityId) : EntityId :=
  id.renumber ((OrderedMap.get? (tableOf tables mod) id).getD id.number)

variable {ranges : RangeMap} {ds : List Definition} {r : Registry} {tables : OrderedMap String RemapTable}

theorem claim_mem {d : Definition} {id : EntityId} (hd : d ∈ ds) (declared : id ∈ d.declared)
    (managed : ranges.isManaged id = true) :
    ⟨d.name, id, OrderedMap.get? (tableOf tables d.name) id⟩ ∈ claims ranges (inMergeOrder Definition.name ds) tables :=
  mem_claims.2 ⟨d, mem_sortBy.2 hd, declared, managed, rfl, rfl⟩

theorem get?_eq_some_tableOf (keys_eq : OrderedMap.keys tables = (inMergeOrder Definition.name ds).map Definition.name)
    {d : Definition} (hd : d ∈ ds) : OrderedMap.get? tables d.name = some (tableOf tables d.name) := by
  have : d.name ∈ OrderedMap.keys tables := keys_eq ▸ List.mem_map_of_mem (mem_sortBy.2 hd)
  obtain ⟨t, found⟩ := Option.isSome_iff_exists.1 (OrderedMap.isSome_get?_iff.2 this)
  rw [tableOf, found, Option.getD_some]

/-- What a mod declares after another mod gets a new number wherever both declare one id. -/
theorem isSome_of_precedes (names : (ds.map Definition.name).Nodup)
    (ledger : Ledger r (claims ranges (inMergeOrder Definition.name ds) tables)) {d e : Definition} (hd : d ∈ ds)
    (he : e ∈ ds) (first : Precedes ds e d) {id : EntityId} (hed : id ∈ e.declared) (hdd : id ∈ d.declared)
    (managed : ranges.isManaged id = true) : (OrderedMap.get? (tableOf tables d.name) id).isSome = true := by
  have by_mods := (List.pairwise_flatMap.1 ledger.later_moved).2.sublist ((precedes_iff names he hd).1 first)
  have claim : ∀ c : Definition, id ∈ c.declared → ⟨c.name, id, OrderedMap.get? (tableOf tables c.name) id⟩ ∈
      claimsOf ranges c.name c.declared (tableOf tables c.name) := fun c hc => mem_claimsOf.2 ⟨hc, managed, rfl, rfl⟩
  exact (List.pairwise_cons.1 by_mods).1 d (by simp) _ (claim e hed) _ (claim d hdd) rfl

/-- A new number is given to a modded id, it is eligible, no mod declares it, and it can be written. -/
theorem spec_of_get? (names : (ds.map Definition.name).Nodup) (run : (resolveIds ranges ds).2 = .ok tables)
    {d : Definition} (hd : d ∈ ds) {id : EntityId} {n : Int}
    (entry : OrderedMap.get? (tableOf tables d.name) id = some n) :
    ranges.isManaged id = true ∧ Eligible ranges id n ∧ (∀ e ∈ ds, id.renumber n ∉ e.declared) ∧
      Decimal.isWritable n = true := by
  obtain ⟨ledger, ranges_eq, reserved_iff, -, keys⟩ := ledger_resolveIds names run
  have id_key : id ∈ d.declared.filter fun id => ranges.isManaged id :=
    (keys d hd).subset (OrderedMap.isSome_get?_iff.1 (by rw [entry, Option.isSome_some]))
  obtain ⟨declared, managed⟩ := List.mem_filter.1 id_key
  obtain ⟨eligible, undeclared, writable⟩ := ledger.moved _ (claim_mem hd declared managed) n entry
  rw [ranges_eq] at eligible
  exact ⟨managed, eligible, fun e he declared => undeclared ((reserved_iff _).2 ⟨e, he, declared⟩), writable⟩

/-- After a run that succeeds no two declarations of modded ids end with one id, neither in one mod nor in two, and
every new number has the sign of the old one and a magnitude in the range for that sign, is no sentinel, and makes no
id that any mod of the run declares. -/
theorem finalId_injective_and_moved_in_range (valid : ranges.Valid) (names : (ds.map Definition.name).Nodup)
    (run : (resolveIds ranges ds).2 = .ok tables) :
    (∀ d ∈ ds, ∀ e ∈ ds, ∀ i ∈ d.declared, ∀ j ∈ e.declared, ranges.isManaged i = true → ranges.isManaged j = true →
      finalId tables d.name i = finalId tables e.name j → d = e ∧ i = j) ∧
    ∀ d ∈ ds, ∃ t, OrderedMap.get? tables d.name = some t ∧ ∀ p ∈ t, ∃ range b, ranges p.1.kind = some range ∧
      range.bounds? p.1.number = some b ∧ p.2.sign = p.1.number.sign ∧ b.low ≤ p.2.natAbs ∧ p.2.natAbs ≤ b.high ∧
      range.isSentinel p.2 = false ∧ ∀ e ∈ ds, p.1.renumber p.2 ∉ e.declared := by
  obtain ⟨ledger, -, -, keys_eq, keys⟩ := ledger_resolveIds names run
  constructor
  · intro d hd e he i hi j hj managed_i managed_j same
    have claim_eq := List.inj_on_of_nodup_map ledger.nodup (claim_mem hd hi managed_i) (claim_mem he hj managed_j) same
    simp only [Claim.mk.injEq] at claim_eq
    exact ⟨eq_of_name_eq names hd he claim_eq.1, claim_eq.2.1⟩
  · intro d hd
    refine ⟨_, get?_eq_some_tableOf keys_eq hd, fun p hp => ?_⟩
    have entry : OrderedMap.get? (tableOf tables d.name) p.1 = some p.2 :=
      OrderedMap.get?_eq_some_of_mem ((keys d hd).nodup (d.nodup_declared.filter _)) hp
    obtain ⟨managed, eligible, undeclared, -⟩ := spec_of_get? names run hd entry
    obtain ⟨range, b, range_eq, bounds_eq, sign_eq, low_le, le_high, not_sentinel⟩ := eligible.sign_eq valid managed
    exact ⟨range, b, range_eq, bounds_eq, sign_eq, low_le, le_high, not_sentinel, undeclared⟩

/-- The definition of a mod that declares some ids and nothing else. -/
def declaring (name : String) (ids : List EntityId) : Definition :=
  ⟨ModFile.named name [], ids.map fun id => ⟨id, .declaration, 0, []⟩, []⟩

/-- Three mods that declare the same montag, and two the last nation of the range. -/
def rivals : List Definition :=
  [declaring "beta" [⟨.nation, 499⟩, ⟨.nation, 150⟩, ⟨.monster, -1000⟩, ⟨.weapon, 5⟩],
    declaring "Alpha" [⟨.nation, 499⟩, ⟨.monster, -1000⟩, ⟨.weapon, 5⟩],
    declaring "gamma" [⟨.monster, -1000⟩, ⟨.nation, 151⟩]]

/-- What the rivals get. -/
def rivalTables : OrderedMap String RemapTable :=
  [("Alpha", []), ("beta", [(⟨.nation, 499⟩, 152), (⟨.monster, -1000⟩, -1001)]), ("gamma", [(⟨.monster, -1000⟩, -1002)])]

theorem nodup_names_rivals : (rivals.map Definition.name).Nodup := by decide

theorem resolveIds_rivals : (resolveIds RangeMap.default rivals).2 = .ok rivalTables := by decide +kernel

/-- The search for a nation comes round to the lower end of the range, where two numbers are declared already. -/
theorem finalId_rivals :
    RangeMap.default.Valid ∧ (rivals.map Definition.name).Nodup ∧
      (resolveIds RangeMap.default rivals).2 = .ok rivalTables ∧
      finalId rivalTables "beta" ⟨.nation, 499⟩ ≠ finalId rivalTables "Alpha" ⟨.nation, 499⟩ ∧
      ∀ e ∈ rivals, EntityId.renumber ⟨.nation, 499⟩ 152 ∉ e.declared := by
  obtain ⟨distinct, moved⟩ :=
    finalId_injective_and_moved_in_range RangeMap.valid_default nodup_names_rivals resolveIds_rivals
  refine ⟨RangeMap.valid_default, nodup_names_rivals, resolveIds_rivals, fun same => ?_, ?_⟩
  · have eq := distinct rivals[0] (by decide) rivals[1] (by decide) _ (by decide) _ (by decide) (by decide) (by decide) same
    exact absurd eq.1 (by decide)
  · obtain ⟨t, found, in_range⟩ := moved rivals[0] (by decide)
    cases found
    obtain ⟨_, _, _, _, _, _, _, _, undeclared⟩ := in_range (⟨.nation, 499⟩, 152) (by decide)
    exact undeclared

/-- After a run that succeeds the table of a mod has an entry for an id exactly if the id is a modded one that the
mod declares and that some mod preceding it declares too. -/
theorem mem_keys_iff_precedes (names : (ds.map Definition.name).Nodup) (run : (resolveIds ranges ds).2 = .ok tables) :
    ∀ d ∈ ds, ∃ t, OrderedMap.get? tables d.name = some t ∧ ∀ id, id ∈ OrderedMap.keys t ↔
      ranges.isManaged id = true ∧ id ∈ d.declared ∧ ∃ e ∈ ds, Precedes ds e d ∧ id ∈ e.declared := by
  intro d hd
  obtain ⟨ledger, ranges_eq, reserved_iff, keys_eq, keys⟩ := ledger_resolveIds names run
  refine ⟨_, get?_eq_some_tableOf keys_eq hd, fun id => ?_⟩
  rw [← OrderedMap.isSome_get?_iff]
  constructor
  · intro moved
    have id_key := (keys d hd).subset (OrderedMap.isSome_get?_iff.1 moved)
    obtain ⟨declared, managed⟩ := List.mem_filter.1 id_key
    refine ⟨managed, declared, ?_⟩
    -- some mod keeps the id; it is neither this mod nor one behind it, since those get another number
    obtain ⟨c, hc, rfl, kept⟩ := ledger.some_kept _ (claim_mem hd declared managed)
    obtain ⟨e, he, declared_e, -, -, moved_eq⟩ := mem_claims.1 hc
    replace he := mem_sortBy.1 he
    have kept_e : OrderedMap.get? (tableOf tables e.name) c.id = none := moved_eq ▸ kept
    have ne : e ≠ d := by
      rintro rfl
      simp [kept_e] at moved
    rcases precedes_or_precedes names he hd ne with first | behind
    · exact ⟨e, he, first, declared_e⟩
    · have := isSome_of_precedes names ledger he hd behind declared declared_e managed
      simp [kept_e] at this
  · rintro ⟨managed, declared, e, he, first, declared_e⟩
    exact isSome_of_precedes names ledger hd he first declared_e declared managed

/-- The montag of the third mod moves, since two mods that precede it declare the same one. -/
theorem mem_keys_rivals :
    (rivals.map Definition.name).Nodup ∧ (resolveIds RangeMap.default rivals).2 = .ok rivalTables ∧
      ∃ e ∈ rivals, Precedes rivals e rivals[2] ∧ ⟨.monster, -1000⟩ ∈ e.declared := by
  obtain ⟨t, found, moved_iff⟩ := mem_keys_iff_precedes nodup_names_rivals resolveIds_rivals rivals[2] (by decide)
  cases found
  exact ⟨nodup_names_rivals, resolveIds_rivals, ((moved_iff ⟨.monster, -1000⟩).1 (by decide)).2.2⟩

end ModWeave.Registry
