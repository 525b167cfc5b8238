import ModWeave.Proofs.Registry.Exhaustion
import ModWeave.Proofs.Registry.Owners

/-!
# What a run warns of

While the mods are registered, the first one that declares an id of the base game is noted, and every later one is
warned of (`BaseStep`).  A mod never warns of itself, so that it makes no difference whether the first declarer is
sought among the mods in front or among all of them (`sharedWarning?_or_self`).  When every mod is registered, the
references to modded ids that no mod declares follow.  `warnings_resolveIds` gives the whole list of a run that
succeeds.
-/

namespace ModWeave

/-- Whether an id is one of the base game: no modded id and no sentinel. -/
def RangeMap.isBase (m : RangeMap) (id : EntityId) : Bool := !m.isManaged id && !m.isSentinel id

namespace Registry

variable {r r₁ r' : Registry} {mod : String} {id : EntityId}

/-! ### Claims on the base game -/

/-- The warning about an id of the base game whose first declarer, if there is one, is another mod. -/
def sharedWarning? (mod : String) (id : EntityId) (first : Option String) : Option Warning :=
  (first.filter (· ≠ mod)).map fun owner => ⟨some mod, .sharedEntity id owner⟩

@[simp] theorem sharedWarning?_none (mod : String) (id : EntityId) : sharedWarning? mod id none = none := rfl

@[simp] theorem sharedWarning?_self (mod : String) (id : EntityId) : sharedWarning? mod id (some mod) = none := by
  simp [sharedWarning?]

theorem sharedWarning?_of_ne {owner : String} (ne : owner ≠ mod) :
    sharedWarning? mod id (some owner) = some ⟨some mod, .sharedEntity id owner⟩ := by
  simp [sharedWarning?, ne]

/-- A mod that comes in where there is no first declarer does not warn of itself. -/
theorem sharedWarning?_or_self {first own : Option String} (h : ∀ m ∈ own, m = mod) :
    sharedWarning? mod id (first.or own) = sharedWarning? mod id first := by
  cases first with
  | some owner => rfl
  | none =>
    cases own with
    | none => rfl
    | some m =>
      obtain rfl := h m rfl
      exact sharedWarning?_self m id

/-- What a mod does to the claims on the base game, and which warnings it causes, by declaring some ids. -/
structure BaseStep (r : Registry) (mod : String) (ids : List EntityId) (r' : Registry) : Prop where
  ranges_eq : r'.ranges = r.ranges
  /-- The mod claims what nobody did before. -/
  claims : ∀ j, OrderedMap.get? r'.baseClaims j =
    (OrderedMap.get? r.baseClaims j).or (if j ∈ ids ∧ r.ranges.isBase j = true then some mod else none)
  warnings : r'.warnings = r.warnings ++ (ids.filter r.ranges.isBase).filterMap fun id =>
    sharedWarning? mod id (OrderedMap.get? r.baseClaims id)

namespace BaseStep

theorem refl (r : Registry) (mod : String) : BaseStep r mod [] r := ⟨rfl, by simp, by simp⟩

theorem append {ids ids' : List EntityId} (h : BaseStep r mod ids r₁) (h' : BaseStep r₁ mod ids' r') :
    BaseStep r mod (ids ++ ids') r' where
  ranges_eq := h'.ranges_eq.trans h.ranges_eq
  claims j := by
    rw [h'.claims, h.claims, h.ranges_eq, Option.or_assoc]
    by_cases base : r.ranges.isBase j = true <;> by_cases hj : j ∈ ids <;> by_cases hj' : j ∈ ids' <;>
      simp [base, hj, hj']
  warnings := by
    have same : ∀ j, sharedWarning? mod j (OrderedMap.get? r₁.baseClaims j) =
        sharedWarning? mod j (OrderedMap.get? r.baseClaims j) := by
      intro j
      rw [h.claims]
      refine sharedWarning?_or_self fun m hm => ?_
      split at hm
      · exact (Option.some.inj hm).symm
      · cases hm
    rw [h'.warnings, h.warnings, h.ranges_eq, List.filter_append, List.filterMap_append, List.append_assoc]
    simp only [same]

/-- What leaves the claims and the warnings alone is a step for an id that is none of the base game. -/
theorem of_not_base (ranges_eq : r'.ranges = r.ranges) (claims_eq : r'.baseClaims = r.baseClaims)
    (warnings_eq : r'.warnings = r.warnings) (not_base : r.ranges.isBase id = false) : BaseStep r mod [id] r' where
  ranges_eq := ranges_eq
  claims j := by
    have no_claim : ¬ (j ∈ [id] ∧ r.ranges.isBase j = true) := by
      rintro ⟨hj, base⟩
      rw [List.mem_singleton.1 hj, not_base] at base
      cases base
    rw [claims_eq, if_neg no_claim, Option.or_none]
  warnings := by rw [warnings_eq, List.filter_singleton, not_base]; simp

theorem claimBase {change : Option Int} (base : r.ranges.isBase id = true)
    (step : r.claimBase mod id = (r', .ok change)) : BaseStep r mod [id] r' := by
  unfold Registry.claimBase at step
  split at step
  · rename_i unclaimed
    cases step
    refine ⟨rfl, fun j => ?_, by simp [base, unclaimed]⟩
    rw [OrderedMap.get?_insert]
    by_cases same : id = j
    · obtain rfl := same
      simp [base, unclaimed]
    · simp [same, Ne.symm same]
  · rename_i owner claimed
    have claims : ∀ j, OrderedMap.get? r.baseClaims j =
        (OrderedMap.get? r.baseClaims j).or (if j ∈ [id] ∧ r.ranges.isBase j = true then some mod else none) := by
      intro j
      by_cases same : id = j
      · obtain rfl := same
        rw [claimed, Option.some_or]
      · simp [Ne.symm same]
    split at step
    · rename_i own
      obtain rfl := own
      cases step
      exact ⟨rfl, claims, by simp [base, claimed]⟩
    · rename_i other
      split at step
      · cases step
        exact ⟨rfl, claims, by simp [base, claimed, sharedWarning?_of_ne other]⟩
      · cases step

theorem register {change : Option Int} (step : r.register mod id = (r', .ok change)) : BaseStep r mod [id] r' := by
  cases managed : r.ranges.isManaged id with
  | false =>
    rw [register_of_unmanaged managed] at step
    split at step
    · rename_i sentinel
      cases step
      exact of_not_base rfl rfl rfl (by rw [RangeMap.isBase, sentinel, Bool.not_true, Bool.and_false])
    · rename_i not_sentinel
      exact claimBase (by simp [RangeMap.isBase, managed, not_sentinel]) step
  | true =>
    have not_base : r.ranges.isBase id = false := by rw [RangeMap.isBase, managed]; rfl
    have outcome := r.register_outcome mod id
    rw [step] at outcome
    cases outcome with
    | passed unmanaged =>
      rw [managed] at unmanaged
      cases unmanaged
    | kept => exact of_not_base rfl rfl rfl not_base
    | recalled => exact of_not_base rfl rfl rfl not_base
    | moved => exact of_not_base rfl rfl rfl not_base

theorem registerAll {ids : List EntityId} {t : RemapTable} (run : r.registerAll mod ids = (r', .ok t)) :
    BaseStep r mod ids r' := by
  induction ids generalizing r t with
  | nil =>
    cases run
    exact refl _ mod
  | cons id ids ih =>
    obtain ⟨r₁, change, t', step, rest, -⟩ := registerAll_cons_eq_ok run
    exact (register step).append (ih rest)

end BaseStep

/-! ### The first declarer -/

/-- The name of the first of some mods that declares an id. -/
def firstDeclarer? (ds : List Definition) (id : EntityId) : Option String :=
  (ds.find? fun d => id ∈ d.declared).map Definition.name

theorem firstDeclarer?_append (front rest : List Definition) (id : EntityId) :
    firstDeclarer? (front ++ rest) id = (firstDeclarer? front id).or (firstDeclarer? rest id) := by
  rw [firstDeclarer?, List.find?_append, Option.map_or]
  rfl

theorem firstDeclarer?_cons_of_mem {d : Definition} (declared : id ∈ d.declared) (rest : List Definition) :
    firstDeclarer? (d :: rest) id = some d.name := by
  simp [firstDeclarer?, declared]

theorem firstDeclarer?_singleton (d : Definition) (id : EntityId) :
    firstDeclarer? [d] id = if id ∈ d.declared then some d.name else none := by
  by_cases declared : id ∈ d.declared <;> simp [firstDeclarer?, declared]

/-- The mods behind some others warn of the ids of the base game whose first declarer is another mod. -/
theorem warnings_registerMods (front : List Definition) {rest : List Definition} {tables : OrderedMap String RemapTable}
    (claims : ∀ j, r.ranges.isBase j = true → OrderedMap.get? r.baseClaims j = firstDeclarer? front j)
    (run : r.registerMods rest = (r', .ok tables)) :
    r'.warnings = r.warnings ++ rest.flatMap fun d => (d.declared.filter r.ranges.isBase).filterMap fun id =>
      sharedWarning? d.name id (firstDeclarer? (front ++ rest) id) := by
  induction rest generalizing front r tables with
  | nil =>
    cases run
    simp
  | cons d rest ih =>
    obtain ⟨r₁, t, tables', first, later, -⟩ := registerMods_cons_eq_ok run
    have step := BaseStep.registerAll first
    have claims₁ : ∀ j, r₁.ranges.isBase j = true →
        OrderedMap.get? r₁.baseClaims j = firstDeclarer? (front ++ [d]) j := by
      intro j base
      rw [step.ranges_eq] at base
      rw [step.claims, claims j base, firstDeclarer?_append, firstDeclarer?_singleton]
      simp only [base, and_true]
    have own : (d.declared.filter r.ranges.isBase).filterMap
          (fun id => sharedWarning? d.name id (OrderedMap.get? r.baseClaims id)) =
        (d.declared.filter r.ranges.isBase).filterMap
          (fun id => sharedWarning? d.name id (firstDeclarer? (front ++ d :: rest) id)) := by
      refine List.filterMap_congr fun id hid => ?_
      obtain ⟨declared, base⟩ := List.mem_filter.1 hid
      rw [claims id base, firstDeclarer?_append, firstDeclarer?_cons_of_mem declared]
      exact (sharedWarning?_or_self fun m hm => (Option.some.inj hm).symm).symm
    have others := ih (front ++ [d]) claims₁ later
    rw [step.ranges_eq, step.warnings, own, List.append_assoc, List.append_assoc] at others
    exact others

variable {ranges : RangeMap} {ds : List Definition} {tables : OrderedMap String RemapTable}

/-- A declared id has a first declarer, which precedes every other mod that declares it. -/
theorem firstDeclarer?_spec (names : (ds.map Definition.name).Nodup) {d : Definition} (hd : d ∈ ds)
    (declared : id ∈ d.declared) :
    ∃ e ∈ ds, firstDeclarer? (inMergeOrder Definition.name ds) id = some e.name ∧ id ∈ e.declared ∧
      ∀ f ∈ ds, id ∈ f.declared → f = e ∨ Precedes ds e f := by
  have found : ((inMergeOrder Definition.name ds).find? fun d => id ∈ d.declared).isSome = true :=
    List.find?_isSome.2 ⟨d, mem_sortBy.2 hd, decide_eq_true declared⟩
  obtain ⟨e, find_eq⟩ := Option.isSome_iff_exists.1 found
  obtain ⟨declared_e, front, rest, ordered_eq, front_none⟩ := List.find?_eq_some_iff_append.1 find_eq
  have ordered : ∀ f, f ∈ front ++ e :: rest ↔ f ∈ ds := fun f => by rw [← ordered_eq]; exact mem_sortBy
  have he : e ∈ ds := (ordered e).1 (by simp)
  refine ⟨e, he, by rw [firstDeclarer?, find_eq, Option.map_some], of_decide_eq_true declared_e, fun f hf declared_f => ?_⟩
  rcases List.mem_append.1 ((ordered f).2 hf) with in_front | behind
  · have not_declared := front_none f in_front
    simp [declared_f] at not_declared
  · refine (List.mem_cons.1 behind).imp_right fun in_rest => ?_
    rw [precedes_iff names he hf, ordered_eq]
    exact ((List.singleton_sublist.2 in_rest).cons_cons e).trans (List.sublist_append_right front _)

/-- A mod warns of a first declarer other than itself exactly if a mod in front declares the id too. -/
theorem sharedWarning?_firstDeclarer? (names : (ds.map Definition.name).Nodup) {d : Definition} (hd : d ∈ ds)
    (declared : id ∈ d.declared) :
    sharedWarning? d.name id (firstDeclarer? (inMergeOrder Definition.name ds) id) =
      if DeclaredBefore ds d.name id then
        (firstDeclarer? (inMergeOrder Definition.name ds) id).map fun owner => ⟨some d.name, .sharedEntity id owner⟩
      else none := by
  obtain ⟨e, he, first_eq, declared_e, first⟩ := firstDeclarer?_spec names hd declared
  rw [first_eq]
  rcases first d hd declared with rfl | before
  · have not_before : ¬ DeclaredBefore ds d.name id := by
      rintro ⟨f, hf, before, declared_f⟩
      rcases first f hf declared_f with rfl | behind
      · exact not_precedes_self names before
      · exact not_precedes_of_precedes names before behind
    rw [if_neg not_before, sharedWarning?_self]
  · have ne : e.name ≠ d.name := by
      intro same
      rw [eq_of_name_eq names he hd same] at before
      exact not_precedes_self names before
    rw [if_pos ⟨e, he, before, declared_e⟩, sharedWarning?_of_ne ne, Option.map_some]

/-! ### The warnings of a run -/

/-- The warnings about ids of the base game that a mod declares and a mod in front of it declares too. -/
def sharedWarnings (ranges : RangeMap) (ds : List Definition) (d : Definition) : List Warning :=
  (d.declared.filter fun id => ranges.isBase id && decide (DeclaredBefore ds d.name id)).filterMap fun id =>
    (firstDeclarer? (inMergeOrder Definition.name ds) id).map fun owner => ⟨some d.name, .sharedEntity id owner⟩

/-- The warnings about modded ids to which a mod refers and that no mod declares. -/
def unresolvedWarnings (ranges : RangeMap) (ds : List Definition) (d : Definition) : List Warning :=
  (d.referenced.filter fun id => ranges.isManaged id && !ds.any fun e => id ∈ e.declared).map fun id =>
    ⟨some d.name, .danglingReference id⟩

/-- A run that succeeds warns, mod by mod in merge order and id by id in the order of first declaration, of the ids of
the base game that a mod in front declares too, naming their first declarer; then, in the same way, of the references
to modded ids that no mod declares; and of nothing else. -/
theorem warnings_resolveIds (names : (ds.map Definition.name).Nodup) (run : (resolveIds ranges ds).2 = .ok tables) :
    (resolveIds ranges ds).1.warnings =
        (inMergeOrder Definition.name ds).flatMap (sharedWarnings ranges ds) ++
          (inMergeOrder Definition.name ds).flatMap (unresolvedWarnings ranges ds) ∧
      ∀ d ∈ ds, ∀ id ∈ d.declared, ∃ e ∈ ds,
        firstDeclarer? (inMergeOrder Definition.name ds) id = some e.name ∧ id ∈ e.declared ∧
          ∀ f ∈ ds, id ∈ f.declared → f = e ∨ Precedes ds e f := by
  obtain ⟨-, ranges_eq, reserved_iff, -, -⟩ := ledger_resolveIds names run
  obtain ⟨r₁, registered, result⟩ := registerMods_of_resolve run
  rw [resolveIds, result] at ranges_eq reserved_iff ⊢
  refine ⟨?_, fun d hd id declared => firstDeclarer?_spec names hd declared⟩
  have shared := warnings_registerMods [] (fun _ _ => rfl) registered
  have shared_eq : ∀ d ∈ inMergeOrder Definition.name ds,
      ((d.declared.filter ranges.isBase).filterMap fun id =>
        sharedWarning? d.name id (firstDeclarer? (inMergeOrder Definition.name ds) id)) = sharedWarnings ranges ds d := by
    intro d hd
    rw [sharedWarnings, List.filterMap_filter, List.filterMap_filter]
    refine List.filterMap_congr fun id declared => ?_
    rw [sharedWarning?_firstDeclarer? names (mem_sortBy.1 hd) declared]
    by_cases base : ranges.isBase id = true <;> simp [base]
  have unresolved_eq : r₁.danglingWarnings = unresolvedWarnings ranges ds := by
    funext d
    have reserved_eq : ∀ id, r₁.reserved.contains id = ds.any fun e => id ∈ e.declared := fun id => by
      rw [Bool.eq_iff_iff, Std.TreeSet.contains_iff_mem, List.any_eq_true]
      simpa using reserved_iff id
    have dangling_eq : r₁.isDangling = fun id => ranges.isManaged id && !ds.any fun e => id ∈ e.declared :=
      funext fun id => by rw [isDangling, reserved_eq, show r₁.ranges = ranges from ranges_eq]
    rw [danglingWarnings, unresolvedWarnings, dangling_eq]
  show r₁.warnings ++ _ = _
  rw [shared, unresolved_eq]
  exact congrArg (· ++ _) (List.flatMap_congr shared_eq)

/-- The ranges of the game without one for poptypes. -/
def sparseRanges : RangeMap := fun k => if k = .poptype then none else RangeMap.default k

/-- Three mods that share ids of the base game, among them one of a kind without a range and one whose sign has none;
all declare a sentinel, two of them the same monster, and two refer to a monster that nobody declares, one twice. -/
def sharers : List Definition :=
  [declaringAndReferring "gamma" [⟨.poptype, 130⟩, ⟨.monster, 100⟩, ⟨.monster, 0⟩, ⟨.weapon, -5⟩]
      [⟨.monster, 3600⟩, ⟨.monster, 7⟩, ⟨.monster, 3500⟩, ⟨.monster, -1000⟩, ⟨.monster, 3600⟩],
    declaringAndReferring "beta" [⟨.monster, 3500⟩, ⟨.poptype, 130⟩, ⟨.monster, 100⟩, ⟨.monster, 0⟩] [⟨.monster, 3600⟩],
    declaringAndReferring "Alpha" [⟨.monster, 100⟩, ⟨.weapon, -5⟩, ⟨.monster, 0⟩, ⟨.monster, 3500⟩] [⟨.poptype, 131⟩]]

/-- What the sharers get. -/
def sharerTables : OrderedMap String RemapTable :=
  [("Alpha", []), ("beta", [(⟨.monster, 3500⟩, 3501)]), ("gamma", [])]

theorem nodup_names_sharers : (sharers.map Definition.name).Nodup := by decide

theorem resolveIds_sharers : (resolveIds sparseRanges sharers).2 = .ok sharerTables := by decide +kernel

/-- The third sharer of a monster is told of the first. -/
theorem warnings_sharers :
    (sharers.map Definition.name).Nodup ∧ (resolveIds sparseRanges sharers).2 = .ok sharerTables ∧
      (resolveIds sparseRanges sharers).1.warnings =
        [⟨some "beta", .sharedEntity ⟨.monster, 100⟩ "Alpha"⟩, ⟨some "gamma", .sharedEntity ⟨.poptype, 130⟩ "beta"⟩,
          ⟨some "gamma", .sharedEntity ⟨.monster, 100⟩ "Alpha"⟩, ⟨some "gamma", .sharedEntity ⟨.weapon, -5⟩ "Alpha"⟩,
          ⟨some "beta", .danglingReference ⟨.monster, 3600⟩⟩, ⟨some "gamma", .danglingReference ⟨.monster, 3600⟩⟩,
          ⟨some "gamma", .danglingReference ⟨.monster, -1000⟩⟩] := by
  refine ⟨nodup_names_sharers, resolveIds_sharers, ?_⟩
  rw [(warnings_resolveIds nodup_names_sharers resolveIds_sharers).1]
  decide +kernel

end Registry

end ModWeave
