import ModWeave.Decimal.Literal
import ModWeave.Definition
import ModWeave.EntityOrder
import ModWeave.IdRange.Search
import ModWeave.Log
import ModWeave.MergeOrder
import ModWeave.Remap
import ModWeave.Warning

/-!
# The registry of ids

The registry knows which mod owns each modded id.  `resolve` goes through mods in merge order: the first mod
that declares an id keeps it, and every later one gets the next free number of the range (`allocate`), which is
neither owned, nor declared by any mod of the run, nor a sentinel.  The numbers given away stay remembered, so
that a later run gives them to the same mods again.  A run that finds no free number fails and leaves what it
had registered, and so does one that has to name a number of too many digits to be written.
-/

namespace ModWeave

/-- Why the ids of some mods cannot be resolved. -/
inductive ResolveFault
  /-- No number is free for an id. -/
  | exhausted (id : EntityId)
  /-- A number that has to be named has too many digits to be written. -/
  | unwritable (number : Int)
deriving DecidableEq, Repr

namespace ResolveFault

/-- The words for a fault. -/
def message : ResolveFault → String
  | exhausted id =>
    let sign := if id.number < 0 then "negative" else "positive"
    s!"No free {id.label} ID left in the {sign} modding range while remapping {id.number}"
  | unwritable _ => Decimal.unwritableMessage

/-- The fault when no number is free for an id.  Its words name the id, which therefore has to be one that can be
written. -/
def exhaustion (id : EntityId) : ResolveFault :=
  if Decimal.isWritable id.number then exhausted id else unwritable id.number

theorem exhaustion_eq_exhausted_iff {id j : EntityId} :
    exhaustion id = exhausted j ↔ Decimal.isWritable id.number = true ∧ id = j := by
  unfold exhaustion
  split <;> simp_all

theorem exhaustion_eq_unwritable_iff {id : EntityId} {n : Int} :
    exhaustion id = unwritable n ↔ Decimal.isWritable id.number = false ∧ id.number = n := by
  unfold exhaustion
  split <;> simp_all

end ResolveFault

/-- What is known about ids in the course of one or more runs. -/
structure Registry where
  ranges : RangeMap
  /-- The mod that owns each modded id. -/
  owners : Std.TreeMap EntityId String
  /-- The first mod that declared an id of the base game. -/
  baseClaims : OrderedMap EntityId String
  /-- The ids that the mods of the run declare. -/
  reserved : Std.TreeSet EntityId
  /-- The numbers given to the ids that mods had to give up. -/
  allocations : OrderedMap (String × EntityId) Int
  warnings : List Warning
  log : List Log.Entry

namespace Registry

/-- The registry in which nothing is known. -/
def empty (ranges : RangeMap) : Registry := ⟨ranges, ∅, [], ∅, [], [], []⟩

/-- The mod that owns an id. -/
def owner? (r : Registry) (id : EntityId) : Option String := r.owners[id]?

/-- Whether an id can be given away. -/
def isFree (r : Registry) (range : IdRange) (id : EntityId) : Bool :=
  !(r.owners.contains id || r.reserved.contains id || range.isSentinel id.number)

/-- The sign of an id as a factor of its magnitude. -/
def signOf (n : Int) : Int := if n < 0 then -1 else 1

/-- The next free number for an id, in the order in which the magnitudes of its range follow its own. -/
def nextFree (r : Registry) (range : IdRange) (b : Bounds) (id : EntityId) : Option Int :=
  (b.firstInCycle (fun m => r.isFree range (id.renumber (signOf id.number * m)))
    (max ((id.number.natAbs : Int) + 1) b.low)).map (signOf id.number * ·)

/-- Gives an id of a mod a number of its own. -/
def give (r : Registry) (mod : String) (id : EntityId) (number : Int) : Registry :=
  { r with
    owners := r.owners.insert (id.renumber number) mod
    allocations := OrderedMap.insert r.allocations (mod, id) number }

/-- The new number belongs to the mod and every other id to whom it did. -/
theorem owner?_give (r : Registry) (mod : String) (id j : EntityId) (n : Int) :
    (r.give mod id n).owner? j = if id.renumber n = j then some mod else r.owner? j := by
  simp [give, owner?, Std.TreeMap.getElem?_insert]

/-- The number that a mod gets for an id that it has to give up, and the registry that knows it. -/
def allocate (r : Registry) (range : IdRange) (b : Bounds) (mod : String) (id : EntityId) :
    Except ResolveFault (Int × Registry) :=
  match OrderedMap.get? r.allocations (mod, id) with
  | some number => .ok (number, r)
  | none =>
    match r.nextFree range b id with
    | some number => .ok (number, r.give mod id number)
    | none => .error (.exhaustion id)

/-- Notes that a mod declares an id of the base game, and warns of it if another mod did so before. -/
def claimBase (r : Registry) (mod : String) (id : EntityId) : Registry × Except ResolveFault (Option Int) :=
  match OrderedMap.get? r.baseClaims id with
  | none => ({ r with baseClaims := OrderedMap.insert r.baseClaims id mod }, .ok none)
  | some owner =>
    if owner = mod then (r, .ok none)
    else if Decimal.isWritable id.number then
      ({ r with warnings := r.warnings ++ [⟨some mod, .sharedEntity id owner⟩] }, .ok none)
    else (r, .error (.unwritable id.number))

/-- What is reported when an id gets another number. -/
def changeLog (mod : String) (id : EntityId) (owner : String) (number : Int) : Log.Entry :=
  Log.debug s!"{mod}: {id.label} {id.number} already used by {owner}, remapped to {number}"

/-- Registers a modded id that a mod declares; the result is the new number, if it needs one. -/
def claim (r : Registry) (range : IdRange) (b : Bounds) (mod : String) (id : EntityId) :
    Registry × Except ResolveFault (Option Int) :=
  match r.owner? id with
  | none => ({ r with owners := r.owners.insert id mod }, .ok none)
  | some owner =>
    match r.allocate range b mod id with
    | .error e => (r, .error e)
    | .ok (number, r) =>
      -- the number stays given away even if the message about it cannot be written
      match Decimal.unwritable? [id.number, number] with
      | none => ({ r with log := r.log ++ [changeLog mod id owner number] }, .ok (some number))
      | some n => (r, .error (.unwritable n))

/-- Registers an id that a mod declares: sentinels count for nothing, ids of the base game are only noted. -/
def register (r : Registry) (mod : String) (id : EntityId) : Registry × Except ResolveFault (Option Int) :=
  match r.ranges id.kind with
  | none => r.claimBase mod id
  | some range =>
    -- a sentinel is not even noted as an id of the base game
    if range.isSentinel id.number then (r, .ok none)
    else
      match (range.bounds? id.number).filter fun b => b.low ≤ (id.number.natAbs : Int) with
      | none => r.claimBase mod id
      | some b => r.claim range b mod id

/-- Registers the ids that a mod declares. -/
def registerAll (r : Registry) (mod : String) : List EntityId → Registry × Except ResolveFault RemapTable
  | [] => (r, .ok [])
  | id :: ids =>
    match r.register mod id with
    | (r, .error e) => (r, .error e)
    | (r, .ok change) =>
      let (r, table) := registerAll r mod ids
      (r, table.map fun t => (change.map (id, ·)).toList ++ t)

/-- Registers the ids of some mods, in the given order. -/
def registerMods (r : Registry) : List Definition → Registry × Except ResolveFault (OrderedMap String RemapTable)
  | [] => (r, .ok [])
  | d :: ds =>
    match r.registerAll d.name d.declared with
    | (r, .error e) => (r, .error e)
    | (r, .ok table) =>
      let (r, tables) := registerMods r ds
      (r, tables.map fun ts => (d.name, table) :: ts)

/-- Whether an id is a modded one that no mod of the run declares. -/
def isDangling (r : Registry) (id : EntityId) : Bool := r.ranges.isManaged id && !r.reserved.contains id

/-- Warns of the modded ids among those that a mod refers to which no mod of the run declares. -/
def checkAll (r : Registry) (mod : String) : List EntityId → Registry × Except ResolveFault Unit
  | [] => (r, .ok ())
  | id :: ids =>
    if !r.isDangling id then checkAll r mod ids
    else if Decimal.isWritable id.number then
      checkAll { r with warnings := r.warnings ++ [⟨some mod, .danglingReference id⟩] } mod ids
    else (r, .error (.unwritable id.number))

/-- Checks the ids that some mods refer to, in the given order. -/
def checkMods (r : Registry) : List Definition → Registry × Except ResolveFault Unit
  | [] => (r, .ok ())
  | d :: ds =>
    match r.checkAll d.name d.referenced with
    | (r, .error e) => (r, .error e)
    | (r, .ok ()) => checkMods r ds

/-- The ids that some mods declare. -/
def declaredBy (ds : List Definition) : Std.TreeSet EntityId :=
  ds.foldl (fun s d => d.declared.foldl Std.TreeSet.insert s) ∅

private theorem mem_foldl_insert {ids : List EntityId} {s : Std.TreeSet EntityId} {id : EntityId} :
    id ∈ ids.foldl Std.TreeSet.insert s ↔ id ∈ s ∨ id ∈ ids := by
  induction ids generalizing s with
  | nil => simp
  | cons j ids ih =>
    simp only [List.foldl_cons, ih, Std.TreeSet.mem_insert, Std.LawfulEqCmp.compare_eq_iff_eq, List.mem_cons]
    rw [or_assoc, or_left_comm, eq_comm (a := j)]

/-- The ids that some mods declare are those that one of them declares. -/
theorem mem_declaredBy {ds : List Definition} {id : EntityId} :
    id ∈ declaredBy ds ↔ ∃ d ∈ ds, id ∈ d.declared := by
  suffices ∀ s : Std.TreeSet EntityId,
      id ∈ ds.foldl (fun s d => d.declared.foldl Std.TreeSet.insert s) s ↔ id ∈ s ∨ ∃ d ∈ ds, id ∈ d.declared by
    simp [declaredBy, this]
  intro s
  induction ds generalizing s with
  | nil => simp
  | cons d ds ih => simp [ih, mem_foldl_insert, or_assoc]

/-- Registers some mods in merge order, gives each its remap table, and then checks what they refer to. -/
def resolve (r : Registry) (ds : List Definition) :
    Registry × Except ResolveFault (OrderedMap String RemapTable) :=
  let ordered := inMergeOrder Definition.name ds
  match { r with reserved := declaredBy ordered }.registerMods ordered with
  | (r, .error e) => (r, .error e)
  | (r, .ok tables) =>
    let (r, checked) := r.checkMods ordered
    (r, checked.map fun _ => tables)

end Registry

/-- The tables, warnings and messages of a first run over some mods. -/
def resolveIds (ranges : RangeMap) (ds : List Definition) :
    Registry × Except ResolveFault (OrderedMap String RemapTable) :=
  (Registry.empty ranges).resolve ds

end ModWeave
