import ModWeave.Entity

/-!
# Modding ranges

Each kind of entity has, for ids of either sign, a range of magnitudes that mods may use.  Magnitudes below the
range belong to the base game; those above it are modded ids too and move into the range when they collide.
Some numbers are sentinels that name no entity at all.
-/

namespace ModWeave

/-- The least and the greatest magnitude of a range. -/
structure Bounds where
  low : Int
  high : Int
deriving DecidableEq, Repr

namespace Bounds

/-- The bounds that two ends make up; with an end missing there are none. -/
def ofEnds? (low high : Option Int) : Option Bounds := do return ⟨← low, ← high⟩

/-- Bounds that the settings accept: positive and in order. -/
def Valid (b : Bounds) : Prop := 1 ≤ b.low ∧ b.low ≤ b.high

instance (b : Bounds) : Decidable b.Valid := inferInstanceAs (Decidable (_ ∧ _))

end Bounds

/-- The modding range of a kind. -/
structure IdRange where
  /-- The range of positive ids. -/
  positive : Option Bounds
  /-- The range of negative ids, by magnitude. -/
  negative : Option Bounds
  sentinels : List Int
deriving DecidableEq, Repr

namespace IdRange

/-- The range without bounds, in which zero is the only sentinel. -/
def unbounded : IdRange := ⟨none, none, [0]⟩

/-- The bounds for the sign of a number. -/
def bounds? (r : IdRange) (n : Int) : Option Bounds := if n < 0 then r.negative else r.positive

/-- Whether a number names no entity; zero never does. -/
def isSentinel (r : IdRange) (n : Int) : Bool := n = 0 || n ∈ r.sentinels

/-- Whether a number is a modded id. -/
def isManaged (r : IdRange) (n : Int) : Bool :=
  !r.isSentinel n && (r.bounds? n).any fun b => b.low ≤ (n.natAbs : Int)

/-- A range whose bounds the settings accept. -/
def Valid (r : IdRange) : Prop := (∀ b ∈ r.positive, b.Valid) ∧ ∀ b ∈ r.negative, b.Valid

end IdRange

/-- The modding range of each kind; a kind without one has no modded ids. -/
abbrev RangeMap := EntityKind → Option IdRange

namespace RangeMap

/-- The ranges with that of one kind exchanged. -/
def update (m : RangeMap) (kind : EntityKind) (r : IdRange) : RangeMap := fun k => if k = kind then some r else m k

/-- The range of positive ids alone. -/
private def upTo (low high : Int) : IdRange := ⟨some ⟨low, high⟩, none, [0]⟩

/-- The ranges of the game's modding manual. -/
def default : RangeMap
  | .weapon => some (upTo 800 1999)
  | .armor => some (upTo 300 999)
  | .monster => some ⟨some ⟨3500, 8999⟩, some ⟨1000, 100000⟩, [0]⟩
  | .spell => some (upTo 1300 3999)
  | .item => some (upTo 500 999)
  | .site => some (upTo 1700 3999)
  | .nation => some (upTo 150 499)
  | .nameType => some (upTo 170 399)
  | .eventCode => some ⟨none, some ⟨300, 5000⟩, [0]⟩
  | .restrictedItem => some (upTo 1 10000)
  | .poptype => some (upTo 125 249)

/-- Whether an id is a modded id. -/
def isManaged (m : RangeMap) (id : EntityId) : Bool := (m id.kind).any fun r => r.isManaged id.number

/-- Whether an id is a sentinel of a configured range. -/
def isSentinel (m : RangeMap) (id : EntityId) : Bool := (m id.kind).any fun r => r.isSentinel id.number

/-- Ranges that the settings accept. -/
def Valid (m : RangeMap) : Prop := ∀ k, ∀ r ∈ m k, r.Valid

theorem valid_default : default.Valid := by
  intro k r hr
  cases k <;> cases hr <;> exact ⟨by rintro b ⟨⟩ <;> decide, by rintro b ⟨⟩ <;> decide⟩

/-- Valid ranges stay valid with a valid range in the place of one of them. -/
theorem Valid.update {m : RangeMap} {r : IdRange} (h : m.Valid) (kind : EntityKind) (valid : r.Valid) :
    (m.update kind r).Valid := by
  intro k s hs
  unfold RangeMap.update at hs
  split at hs
  · obtain rfl := Option.mem_some.1 hs
    exact valid
  · exact h k s hs

end RangeMap

end ModWeave
