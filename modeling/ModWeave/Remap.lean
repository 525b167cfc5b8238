import ModWeave.Entity
import ModWeave.OrderedMap

/-!
# Remap tables

A remap table gives the new numbers of the ids that a mod has to give up, in the order of their declaration.
-/

namespace ModWeave

/-- The new numbers of some ids of one mod. -/
abbrev RemapTable := OrderedMap EntityId Int

namespace RemapTable

/-- The new number of an id that changes; an entry that keeps the number is no change. -/
def change? (t : RemapTable) (id : EntityId) : Option Int :=
  (OrderedMap.get? t id).filter fun n => n ≠ id.number

end RemapTable

end ModWeave
