import Mathlib.Data.List.Induction
import ModWeave.Settings.Ranges

/-!
# Ranges that settings override

The tables of ranges in a settings file are applied one after the other to the default ranges, and several tables may
name one kind, since the case of a name does not count.  This file says what comes out.  Key by key the last table that
names a kind and gives the key decides; a key that no table gives keeps the end or the sentinels of the default.  The
range of every kind can then be used: each sign has no bounds or positive ones in order, so that a search for free
numbers always runs over numbers of the sign.

A single table is described first: `overlay_eq_ok_iff` says which ranges it can make of another one.  Descriptions of
tables in front and of tables behind them compose (`Takes.trans`, `Overridden.append`), and the description of all tables
follows by induction.  Which tables are accepted is said by `Applies` in the same terms, and `ranges_of_tables` puts both
together.
-/

namespace ModWeave.Settings

open Toml (Value Table)

/-! ### One table -/

/-- The entries of a table; what is no table has none. -/
def entriesOf : Value → Table
  | .table entries => entries
  | _ => []

/-- The value that a table gives to a key. -/
def given? (raw : Value) (key : String) : Option Value := (entriesOf raw).get? key

/-- The end of a range that a key of the bounds names. -/
def endAt (r : IdRange) (key : String) : Option Int :=
  if key = "floor" then r.positive.map Bounds.low
  else if key = "ceiling" then r.positive.map Bounds.high
  else if key = "negative_floor" then r.negative.map Bounds.low
  else if key = "negative_ceiling" then r.negative.map Bounds.high
  else none

/-- The end of a range that a value stands for. -/
def readEnd (v : Value) : Except SettingsFault (Option Int) := (toInt v).map some

/-- The sentinels that a value stands for. -/
def readSentinels (v : Value) : Except SettingsFault (List Int) :=
  match items? v with
  | none => .error .unsuitable
  | some items => items.mapM toInt

/-- A part of a range becomes what is given for it, or stays what it was. -/
def Takes {α : Type} (read : Value → Except SettingsFault α) (given : Option Value) (old new : α) : Prop :=
  match given with
  | some v => read v = .ok new
  | none => new = old

/-- One part after the other takes what is given later, if anything is. -/
theorem Takes.trans {α : Type} {read : Value → Except SettingsFault α} {first later : Option Value} {old mid new : α}
    (h : Takes read first old mid) (h' : Takes read later mid new) : Takes read (later.or first) old new := by
  cases later with
  | some v => exact h'
  | none =>
    obtain rfl : new = mid := h'
    exact h

/-- A range that a table makes of another one: its ends and sentinels are those that the table gives, or those that were
there, and it can be used. -/
structure Overlaid (raw : Value) (base r : IdRange) : Prop where
  ends : ∀ key ∈ boundKeys, Takes readEnd (given? raw key) (endAt base key) (endAt r key)
  sentinels : Takes readSentinels (given? raw sentinelKey) base.sentinels r.sentinels
  valid : r.Valid

private theorem bind_eq_ok_iff {ε α β : Type} {x : Except ε α} {f : α → Except ε β} {b : β} :
    x >>= f = .ok b ↔ ∃ a, x = .ok a ∧ f a = .ok b := by
  cases x <;> simp [bind, Except.bind]

/-- A value that can stand for the table of a range: a table with known keys only, or something without items. -/
def HasKnownKeys : Value → Prop
  | .table entries => ∀ e ∈ entries, e.1 ∈ sentinelKey :: boundKeys
  | .list items => items = []
  | .text s => s = ""
  | _ => False

private theorem unknown_eq_nil_iff {entries : Table} :
    ((entries.map Prod.fst).filter fun k => !(k ∈ boundKeys || k = sentinelKey)) = [] ↔
      HasKnownKeys (.table entries) := by
  rw [List.filter_eq_nil_iff, List.forall_mem_map]
  refine forall₂_congr fun e _ => ?_
  rw [List.mem_cons, or_comm]
  simp [Classical.or_iff_not_imp_left]

private theorem texts?_map_fst (entries : Table) :
    texts? (entries.map fun e => Value.text e.1) = some (entries.map Prod.fst) := by
  induction entries with
  | nil => rfl
  | cons e entries ih =>
    unfold texts? at ih ⊢
    simp [ih]

private theorem texts?_eq_some_nil_iff {items : List Value} : texts? items = some [] ↔ items = [] := by
  unfold texts?
  cases items with
  | nil => simp
  | cons v items =>
    cases v with
    | text s => simp [Option.bind_eq_some_iff]
    | _ => simp

/-- Without items there is nothing unknown, and with items a value that is no table is refused. -/
private theorem rangeTable_of_no_table {name : String} {raw : Value} {t : Table} {items : List Value}
    (made_of : items? raw = some items) (no_table : ∀ entries, raw ≠ .table entries) :
    rangeTable name raw = .ok t ↔ items = [] ∧ t = [] := by
  unfold rangeTable
  simp only [made_of]
  cases keys : texts? items with
  | none =>
    have not_nil : items ≠ [] := fun nil => by rw [texts?_eq_some_nil_iff.2 nil] at keys; cases keys
    simp [not_nil, throw, throwThe, MonadExceptOf.throw]
  | some ks =>
    have nil_iff : items = [] ↔ ks = [] := by rw [← texts?_eq_some_nil_iff, keys, Option.some.injEq]
    rw [nil_iff]
    cases ks with
    | nil =>
      cases raw with
      | table entries => exact absurd rfl (no_table entries)
      | _ => simp [pure, Except.pure, eq_comm]
    | cons k ks =>
      refine iff_of_false ?_ (by simp)
      dsimp only
      generalize (k :: ks).filter (fun k => !(k ∈ boundKeys || k = sentinelKey)) = unknown
      cases raw with
      | table entries => exact absurd rfl (no_table entries)
      | _ => cases unknown <;> simp [bind, Except.bind, throw, throwThe, MonadExceptOf.throw]

/-- What is taken for the table of a range. -/
private theorem rangeTable_eq_ok_iff {name : String} {raw : Value} {t : Table} :
    rangeTable name raw = .ok t ↔ HasKnownKeys raw ∧ t = entriesOf raw := by
  cases raw with
  | table entries =>
    unfold rangeTable
    simp only [items?, texts?_map_fst]
    rw [← unknown_eq_nil_iff]
    generalize (entries.map Prod.fst).filter (fun k => !(k ∈ boundKeys || k = sentinelKey)) = unknown
    cases unknown with
    | nil => simp [entriesOf, pure, Except.pure, eq_comm]
    | cons k unknown => simp [bind, Except.bind, throw, throwThe, MonadExceptOf.throw]
  | list items => exact rangeTable_of_no_table rfl (by simp)
  | text s =>
    rw [rangeTable_of_no_table rfl (by simp)]
    simp [HasKnownKeys, entriesOf]
  | _ => simp [rangeTable, items?, HasKnownKeys, throw, throwThe, MonadExceptOf.throw]

/-- A bound that is read from a table takes the place of the one that was there. -/
private theorem takes_readEnd_iff {t : Table} {key : String} {old new : Option Int} :
    Takes readEnd (t.get? key) old new ↔ ∃ g, bound t key = .ok g ∧ (g <|> old) = new := by
  unfold bound
  cases t.get? key with
  | none => simp [Takes, eq_comm]
  | some v => cases read : toInt v <;> simp [Takes, readEnd, read, Except.map]

private theorem takes_readSentinels_iff {t : Table} {old new : List Int} :
    Takes readSentinels (t.get? sentinelKey) old new ↔ ∃ g, sentinels t = .ok g ∧ g.getD old = new := by
  unfold sentinels
  cases t.get? sentinelKey with
  | none => simp [Takes, eq_comm]
  | some v =>
    cases items : items? v with
    | none => simp [Takes, readSentinels, items]
    | some vs => cases read : vs.mapM toInt <;> simp [Takes, readSentinels, items, read, Except.map]

/-- The bounds of one sign have the ends that are given, or those that were there, and can be used. -/
private theorem bounds_eq_ok_iff {kind lowKey highKey : String} {low high : Option Int} {base b : Option Bounds} :
    bounds kind lowKey highKey low high base = .ok b ↔
      (low <|> base.map Bounds.low) = b.map Bounds.low ∧ (high <|> base.map Bounds.high) = b.map Bounds.high ∧
        ∀ x ∈ b, x.Valid := by
  unfold bounds
  generalize (low <|> base.map Bounds.low) = l
  generalize (high <|> base.map Bounds.high) = h
  cases l with
  | none => cases h <;> cases b <;> simp
  | some l =>
    cases h with
    | none => cases b <;> simp
    | some h =>
      by_cases valid : (Bounds.mk l h).Valid
      · cases b with
        | none => simp [valid]
        | some b =>
          cases b
          simp only [if_pos valid, Except.ok.injEq, Option.some.injEq, Bounds.mk.injEq, Option.map_some, Option.mem_def]
          constructor
          · rintro ⟨rfl, rfl⟩
            exact ⟨rfl, rfl, by rintro _ ⟨⟩; exact valid⟩
          · rintro ⟨rfl, rfl, -⟩
            exact ⟨rfl, rfl⟩
      · simp only [if_neg valid, reduceCtorEq, false_iff]
        rintro ⟨low_eq, high_eq, usable⟩
        cases b with
        | none => cases low_eq
        | some b =>
          obtain rfl := Option.some.inj low_eq
          obtain rfl := Option.some.inj high_eq
          exact valid (usable b rfl)

private theorem forall_boundKeys {P : String → Prop} : (∀ key ∈ boundKeys, P key) ↔
    P "floor" ∧ P "ceiling" ∧ P "negative_floor" ∧ P "negative_ceiling" := by
  simp [boundKeys]

private theorem endAt_floor (r : IdRange) : endAt r "floor" = r.positive.map Bounds.low := by simp [endAt]

private theorem endAt_ceiling (r : IdRange) : endAt r "ceiling" = r.positive.map Bounds.high := by simp [endAt]

private theorem endAt_negative_floor (r : IdRange) : endAt r "negative_floor" = r.negative.map Bounds.low := by
  simp [endAt]

private theorem endAt_negative_ceiling (r : IdRange) : endAt r "negative_ceiling" = r.negative.map Bounds.high := by
  simp [endAt]

/-- All that a table can make of a range. -/
theorem overlay_eq_ok_iff {name : String} {raw : Value} {base r : IdRange} :
    overlay name raw base = .ok r ↔ HasKnownKeys raw ∧ Overlaid raw base r := by
  constructor
  · intro h
    simp only [overlay, bind_eq_ok_iff, rangeTable_eq_ok_iff] at h
    obtain ⟨t, ⟨known, rfl⟩, floor, floor_eq, ceiling, ceiling_eq, floor', floor_eq', ceiling', ceiling_eq', given, given_eq,
      positive, positive_eq, negative, negative_eq, eq⟩ := h
    obtain ⟨low, high, valid⟩ := bounds_eq_ok_iff.1 positive_eq
    obtain ⟨low', high', valid'⟩ := bounds_eq_ok_iff.1 negative_eq
    obtain rfl := Except.ok.inj eq
    refine ⟨known, forall_boundKeys.2 ⟨?_, ?_, ?_, ?_⟩, takes_readSentinels_iff.2 ⟨given, given_eq, rfl⟩, valid, valid'⟩
    · exact takes_readEnd_iff.2 ⟨floor, floor_eq, by simpa only [endAt_floor] using low⟩
    · exact takes_readEnd_iff.2 ⟨ceiling, ceiling_eq, by simpa only [endAt_ceiling] using high⟩
    · exact takes_readEnd_iff.2 ⟨floor', floor_eq', by simpa only [endAt_negative_floor] using low'⟩
    · exact takes_readEnd_iff.2 ⟨ceiling', ceiling_eq', by simpa only [endAt_negative_ceiling] using high'⟩
  · rintro ⟨known, ends, sentinels, valid, valid'⟩
    rw [forall_boundKeys, endAt_floor, endAt_floor, endAt_ceiling, endAt_ceiling, endAt_negative_floor,
      endAt_negative_floor, endAt_negative_ceiling, endAt_negative_ceiling] at ends
    obtain ⟨floor, ceiling, floor', ceiling'⟩ := ends
    obtain ⟨low, low_eq, low_new⟩ := takes_readEnd_iff.1 floor
    obtain ⟨high, high_eq, high_new⟩ := takes_readEnd_iff.1 ceiling
    obtain ⟨low', low_eq', low_new'⟩ := takes_readEnd_iff.1 floor'
    obtain ⟨high', high_eq', high_new'⟩ := takes_readEnd_iff.1 ceiling'
    obtain ⟨given, given_eq, given_new⟩ := takes_readSentinels_iff.1 sentinels
    simp only [overlay, bind_eq_ok_iff, rangeTable_eq_ok_iff]
    refine ⟨_, ⟨known, rfl⟩, low, low_eq, high, high_eq, low', low_eq', high', high_eq', given, given_eq, r.positive,
      bounds_eq_ok_iff.2 ⟨low_new, high_new, valid⟩, r.negative, bounds_eq_ok_iff.2 ⟨low_new', high_new', valid'⟩, ?_⟩
    rw [given_new]
    rfl

/-- The end that is given, if it can be read, or the one that was there. -/
def endOf (given : Option Value) (old : Option Int) : Option Int :=
  match given with
  | some v => (toInt v).toOption
  | none => old

/-- Two ends that are those of no bounds, or those of bounds that can be used. -/
def Usable (low high : Option Int) : Prop :=
  ∃ b : Option Bounds, b.map Bounds.low = low ∧ b.map Bounds.high = high ∧ ∀ x ∈ b, x.Valid

/-- The keys of the two ends of each sign. -/
def endPairs : List (String × String) := [("floor", "ceiling"), ("negative_floor", "negative_ceiling")]

private theorem takes_readEnd_iff_endOf {given : Option Value} {old new : Option Int} :
    Takes readEnd given old new ↔ (∀ v ∈ given, ∃ n, toInt v = .ok n) ∧ endOf given old = new := by
  cases given with
  | none => simp [Takes, endOf, eq_comm]
  | some v => cases read : toInt v <;> simp [Takes, readEnd, endOf, read, Except.map, Except.toOption]

/-- A table can be applied if its keys are known, its values can be read, and the ends of each sign can then be used. -/
private theorem exists_overlay_iff {name : String} {raw : Value} {base : IdRange} :
    (∃ r, overlay name raw base = .ok r) ↔ HasKnownKeys raw ∧
      (∀ key ∈ boundKeys, ∀ v ∈ given? raw key, ∃ n, toInt v = .ok n) ∧
      (∀ v ∈ given? raw sentinelKey, ∃ ns, readSentinels v = .ok ns) ∧
      ∀ p ∈ endPairs, Usable (endOf (given? raw p.1) (endAt base p.1)) (endOf (given? raw p.2) (endAt base p.2)) := by
  simp only [overlay_eq_ok_iff]
  constructor
  · rintro ⟨r, known, ends, sentinels, valid, valid'⟩
    refine ⟨known, fun key hk => (takes_readEnd_iff_endOf.1 (ends key hk)).1, fun v hv => ?_, ?_⟩
    · rw [Option.mem_def.1 hv] at sentinels
      exact ⟨_, sentinels⟩
    · have now : ∀ key ∈ boundKeys, endOf (given? raw key) (endAt base key) = endAt r key := fun key hk =>
        (takes_readEnd_iff_endOf.1 (ends key hk)).2
      rw [forall_boundKeys] at now
      obtain ⟨low, high, low', high'⟩ := now
      simp only [endPairs, List.forall_mem_cons, low, high, low', high']
      exact ⟨⟨r.positive, (endAt_floor r).symm, (endAt_ceiling r).symm, valid⟩,
        ⟨r.negative, (endAt_negative_floor r).symm, (endAt_negative_ceiling r).symm, valid'⟩, by simp⟩
  · rintro ⟨known, readable, sentinels, usable⟩
    simp only [endPairs, List.forall_mem_cons] at usable
    obtain ⟨⟨positive, low, high, valid⟩, ⟨negative, low', high', valid'⟩, -⟩ := usable
    obtain ⟨ns, ns_eq⟩ : ∃ ns, Takes readSentinels (given? raw sentinelKey) base.sentinels ns := by
      cases given : given? raw sentinelKey with
      | none => exact ⟨_, rfl⟩
      | some v => exact sentinels v given
    refine ⟨⟨positive, negative, ns⟩, known, fun key hk => takes_readEnd_iff_endOf.2 ⟨readable key hk, ?_⟩, ns_eq, valid,
      valid'⟩
    revert key
    rw [forall_boundKeys, endAt_floor ⟨_, _, _⟩, endAt_ceiling ⟨_, _, _⟩, endAt_negative_floor ⟨_, _, _⟩,
      endAt_negative_ceiling ⟨_, _, _⟩]
    exact ⟨low.symm, high.symm, low'.symm, high'.symm⟩

/-! ### All tables -/

/-- The value that the last table of a kind with a key gives to it. -/
def lastGiven? (entries : Table) (kind : EntityKind) (key : String) : Option Value :=
  (entries.filterMap fun e => if kind? e.1 = some kind then given? e.2 key else none).getLast?

theorem lastGiven?_append (front back : Table) (kind : EntityKind) (key : String) :
    lastGiven? (front ++ back) kind key = (lastGiven? back kind key).or (lastGiven? front kind key) := by
  rw [lastGiven?, List.filterMap_append, List.getLast?_append, ← lastGiven?, ← lastGiven?]

theorem lastGiven?_singleton (name : String) (raw : Value) (kind : EntityKind) (key : String) :
    lastGiven? [(name, raw)] kind key = if kind? name = some kind then given? raw key else none := by
  by_cases named : kind? name = some kind
  · cases given : given? raw key <;> simp [lastGiven?, named, given]
  · simp [lastGiven?, named]

/-- A range that some tables make of another one. -/
structure Overridden (entries : Table) (kind : EntityKind) (base r : IdRange) : Prop where
  ends : ∀ key ∈ boundKeys, Takes readEnd (lastGiven? entries kind key) (endAt base key) (endAt r key)
  sentinels : Takes readSentinels (lastGiven? entries kind sentinelKey) base.sentinels r.sentinels
  valid : base.Valid → r.Valid
  kept : (∀ e ∈ entries, kind? e.1 ≠ some kind) → r = base

namespace Overridden

variable {front back : Table} {kind : EntityKind} {base mid r : IdRange} {name : String} {raw : Value}

theorem nil (kind : EntityKind) (r : IdRange) : Overridden [] kind r r := ⟨fun _ _ => rfl, rfl, id, fun _ => rfl⟩

theorem append (h : Overridden front kind base mid) (h' : Overridden back kind mid r) :
    Overridden (front ++ back) kind base r where
  ends key hk := by
    rw [lastGiven?_append]
    exact (h.ends key hk).trans (h'.ends key hk)
  sentinels := by
    rw [lastGiven?_append]
    exact h.sentinels.trans h'.sentinels
  valid := fun valid => h'.valid (h.valid valid)
  kept := fun others => by
    rw [h'.kept fun e he => others e (List.mem_append_right front he),
      h.kept fun e he => others e (List.mem_append_left back he)]

/-- The table of a kind overrides the range of the kind. -/
theorem of_overlaid (named : kind? name = some kind) (h : Overlaid raw base r) :
    Overridden [(name, raw)] kind base r where
  ends key hk := by
    rw [lastGiven?_singleton, if_pos named]
    exact h.ends key hk
  sentinels := by
    rw [lastGiven?_singleton, if_pos named]
    exact h.sentinels
  valid := fun _ => h.valid
  kept := fun others => absurd named (others (name, raw) (List.mem_singleton_self _))

/-- The table of another kind does not. -/
theorem of_other (other : kind? name ≠ some kind) (r : IdRange) : Overridden [(name, raw)] kind r r where
  ends key _ := by
    rw [lastGiven?_singleton, if_neg other]
    rfl
  sentinels := by
    rw [lastGiven?_singleton, if_neg other]
    rfl
  valid := id
  kept := fun _ => rfl

end Overridden

variable {ranges m : RangeMap} {entries front back : Table} {name : String} {raw : Value} {kind : EntityKind}

/-- Applying a table whose name is known is applying it to the range of the kind. -/
private theorem overlayAll_singleton (named : kind? name = some kind) {base : IdRange} (start : ranges kind = some base) :
    overlayAll ranges [(name, raw)] = (overlay name raw base).map (ranges.update kind) := by
  simp only [overlayAll, named, start, Option.getD_some]
  cases overlay name raw base <;> rfl

theorem overlayAll_append (front back : Table) :
    overlayAll ranges (front ++ back) = overlayAll ranges front >>= fun m => overlayAll m back := by
  induction front generalizing ranges with
  | nil => rfl
  | cons e front ih =>
    obtain ⟨name, raw⟩ := e
    simp only [List.cons_append, overlayAll]
    cases kind? name with
    | none => rfl
    | some kind =>
      dsimp only
      cases overlay name raw ((ranges kind).getD IdRange.unbounded) with
      | error e => rfl
      | ok r => exact ih

/-- What the tables make of the range of a kind. -/
theorem overridden_of_overlayAll (h : overlayAll ranges entries = .ok m) {base : IdRange} (start : ranges kind = some base) :
    ∃ r, m kind = some r ∧ Overridden entries kind base r := by
  induction entries generalizing ranges base with
  | nil =>
    obtain rfl := Except.ok.inj h
    exact ⟨base, start, .nil kind base⟩
  | cons e entries ih =>
    obtain ⟨name, raw⟩ := e
    simp only [overlayAll] at h
    cases named : kind? name with
    | none => simp [named] at h
    | some k =>
      simp only [named] at h
      cases step : overlay name raw ((ranges k).getD IdRange.unbounded) with
      | error e => simp [step] at h
      | ok mid =>
        simp only [step] at h
        by_cases same : k = kind
        · subst same
          rw [start, Option.getD_some] at step
          have start' : ranges.update k mid k = some mid := by simp [RangeMap.update]
          obtain ⟨r, found, rest⟩ := ih h start'
          exact ⟨r, found, (Overridden.of_overlaid named (overlay_eq_ok_iff.1 step).2).append rest⟩
        · have start' : ranges.update k mid kind = some base := by simp [RangeMap.update, Ne.symm same, start]
          obtain ⟨r, found, rest⟩ := ih h start'
          have other : kind? name ≠ some kind := by simpa [named] using same
          exact ⟨r, found, (Overridden.of_other other base).append rest⟩

/-! ### Which tables are accepted -/

/-- The end that a key has once some tables have been applied to the default. -/
def endAfter (entries : Table) (kind : EntityKind) (key : String) : Option Int :=
  endOf (lastGiven? entries kind key) ((RangeMap.default kind).bind fun base => endAt base key)

/-- A table can be applied behind others: its name is that of a kind, its keys are known, its values can be read, and the
ends of each sign of the kind can then be used. -/
structure Applies (front : Table) (name : String) (raw : Value) : Prop where
  keys : HasKnownKeys raw
  ends : ∀ key ∈ boundKeys, ∀ v ∈ given? raw key, ∃ n, toInt v = .ok n
  sentinels : ∀ v ∈ given? raw sentinelKey, ∃ ns, readSentinels v = .ok ns
  usable : ∃ kind, kind? name = some kind ∧ ∀ p ∈ endPairs,
    Usable (endAfter (front ++ [(name, raw)]) kind p.1) (endAfter (front ++ [(name, raw)]) kind p.2)

private theorem exists_default (kind : EntityKind) : ∃ base, RangeMap.default kind = some base := by
  cases kind <;> exact ⟨_, rfl⟩

private theorem endOf_or (first later : Option Value) (old : Option Int) :
    endOf (later.or first) old = endOf later (endOf first old) := by
  cases later <;> rfl

/-- Behind tables that were accepted the next one is accepted exactly if it can be applied. -/
private theorem exists_overlayAll_singleton_iff (h : overlayAll RangeMap.default front = .ok m) :
    (∃ m', overlayAll m [(name, raw)] = .ok m') ↔ Applies front name raw := by
  cases named : kind? name with
  | none =>
    constructor
    · rintro ⟨m', applied⟩
      simp [overlayAll, named] at applied
    · rintro ⟨-, -, -, kind, is_kind, -⟩
      rw [named] at is_kind
      cases is_kind
  | some kind =>
    obtain ⟨base, start⟩ := exists_default kind
    obtain ⟨mid, found, so_far⟩ := overridden_of_overlayAll h start
    have now : ∀ key ∈ boundKeys,
        endOf (given? raw key) (endAt mid key) = endAfter (front ++ [(name, raw)]) kind key := fun key hk => by
      rw [← (takes_readEnd_iff_endOf.1 (so_far.ends key hk)).2, endAfter, lastGiven?_append, lastGiven?_singleton,
        if_pos named, endOf_or, start, Option.bind_some]
    have pairs : ∀ p ∈ endPairs, p.1 ∈ boundKeys ∧ p.2 ∈ boundKeys := by decide
    have usable_iff : (∀ p ∈ endPairs, Usable (endOf (given? raw p.1) (endAt mid p.1))
        (endOf (given? raw p.2) (endAt mid p.2))) ↔ ∀ p ∈ endPairs,
          Usable (endAfter (front ++ [(name, raw)]) kind p.1) (endAfter (front ++ [(name, raw)]) kind p.2) :=
      forall₂_congr fun p hp => by rw [now _ (pairs p hp).1, now _ (pairs p hp).2]
    rw [overlayAll_singleton named found]
    have succeeds_iff : (∃ m', (overlay name raw mid).map (m.update kind) = .ok m') ↔
        ∃ r, overlay name raw mid = .ok r := by
      cases overlay name raw mid <;> simp [Except.map]
    rw [succeeds_iff, exists_overlay_iff, usable_iff]
    constructor
    · rintro ⟨keys, ends, sentinels, usable⟩
      exact ⟨keys, ends, sentinels, kind, named, usable⟩
    · rintro ⟨keys, ends, sentinels, k, is_kind, usable⟩
      obtain rfl : kind = k := Option.some.inj (named.symm.trans is_kind)
      exact ⟨keys, ends, sentinels, usable⟩

/-- Tables are accepted exactly if each can be applied behind those in front of it. -/
private theorem exists_overlayAll_iff : (∃ m, overlayAll RangeMap.default entries = .ok m) ↔
    ∀ front name raw back, entries = front ++ (name, raw) :: back → Applies front name raw := by
  induction entries using List.reverseRecOn with
  | nil => exact iff_of_true ⟨_, rfl⟩ fun front name raw back h => by simp at h
  | append_singleton front e ih =>
    obtain ⟨name, raw⟩ := e
    constructor
    · rintro ⟨m', applied⟩ f n r back cut
      rw [overlayAll_append] at applied
      obtain ⟨m, front_applied, last_applied⟩ := bind_eq_ok_iff.1 applied
      rcases List.eq_nil_or_concat back with rfl | ⟨back, e, rfl⟩
      · obtain ⟨rfl, eq⟩ := List.append_inj' cut rfl
        obtain ⟨rfl, rfl⟩ := Prod.mk.inj (List.singleton_inj.1 eq)
        exact (exists_overlayAll_singleton_iff front_applied).1 ⟨m', last_applied⟩
      · rw [List.concat_eq_append, ← List.cons_append, ← List.append_assoc] at cut
        exact ih.1 ⟨m, front_applied⟩ f n r back (List.append_inj' cut rfl).1
    · intro all
      obtain ⟨m, front_applied⟩ := ih.2 fun f n r back cut => all f n r (back ++ [(name, raw)]) (by simp [cut])
      obtain ⟨m', last_applied⟩ := (exists_overlayAll_singleton_iff front_applied).2 (all front name raw [] rfl)
      exact ⟨m', by rw [overlayAll_append]; exact bind_eq_ok_iff.2 ⟨m, front_applied, last_applied⟩⟩

/-! ### The ranges of a file -/

/-- Tables of ranges are accepted exactly if each can be applied behind those in front of it.  Then every kind has a range
that can be used: for each sign no bounds, or positive bounds in order.  Each end and the sentinels are what the last
table of the kind with that key gives, or those of the default if there is none, and a kind without a table has its
default range. -/
theorem ranges_of_tables (entries : Table) :
    ((∃ m, parseRanges (.table entries) = .ok m) ↔
      ∀ front name raw back, entries = front ++ (name, raw) :: back → Applies front name raw) ∧
    ∀ m, parseRanges (.table entries) = .ok m → ∀ kind, ∃ r base, m kind = some r ∧ RangeMap.default kind = some base ∧
      r.Valid ∧
      (∀ key ∈ boundKeys, Takes readEnd (lastGiven? entries kind key) (endAt base key) (endAt r key)) ∧
      Takes readSentinels (lastGiven? entries kind sentinelKey) base.sentinels r.sentinels ∧
      ((∀ e ∈ entries, kind? e.1 ≠ some kind) → r = base) := by
  refine ⟨exists_overlayAll_iff, fun m accepted kind => ?_⟩
  obtain ⟨base, start⟩ := exists_default kind
  obtain ⟨r, found, overridden⟩ := overridden_of_overlayAll accepted start
  exact ⟨r, base, found, start, overridden.valid (RangeMap.valid_default kind base start), overridden.ends,
    overridden.sentinels, overridden.kept⟩

/-- Two tables of one kind under different spellings, and one of another kind between them. -/
def layeredTables : Table :=
  [("Monster", .table [("floor", .integer 5000), ("ceiling", .integer 6000)]),
    ("weapon", .table [("ceiling", .integer 2500)]),
    ("MONSTER", .table [("ceiling", .text " 7_000 "), ("sentinels", .list [.integer 0, .integer 5555])])]

/-- The later table of a kind overrides the earlier one, key by key. -/
theorem ranges_layeredTables : ∃ m, parseRanges (.table layeredTables) = .ok m ∧ m .armor = RangeMap.default .armor ∧
    ∃ r, m .monster = some r ∧ r.Valid ∧ endAt r "floor" = some 5000 ∧ endAt r "ceiling" = some 7000 ∧
      endAt r "negative_floor" = some 1000 ∧ r.sentinels = [0, 5555] := by
  have accepted : ∃ m, parseRanges (.table layeredTables) = .ok m := ⟨_, rfl⟩
  obtain ⟨m, parsed⟩ := accepted
  have described := (ranges_of_tables layeredTables).2 m parsed
  refine ⟨m, parsed, ?_, ?_⟩
  · obtain ⟨r, base, found, start, -, -, -, kept⟩ := described .armor
    rw [found, start, kept (by decide)]
  · obtain ⟨r, base, found, start, valid, ends, sentinels, -⟩ := described .monster
    obtain rfl := Option.some.inj start
    have floor := ends "floor" (by decide)
    have ceiling := ends "ceiling" (by decide)
    have negative_floor := ends "negative_floor" (by decide)
    have floor_eq : endAt r "floor" = some 5000 := (Except.ok.inj floor).symm
    have ceiling_eq : endAt r "ceiling" = some 7000 := (Except.ok.inj ceiling).symm
    have sentinels_eq : r.sentinels = [0, 5555] := (Except.ok.inj sentinels).symm
    exact ⟨r, found, valid, floor_eq, ceiling_eq, negative_floor, sentinels_eq⟩

end ModWeave.Settings
