import ModWeave.Distinct
import ModWeave.Entity
import ModWeave.ModFile

/-!
# What a mod defines

The definition of a mod lists the ids on its lines, in line order, and its spell blocks.  `declared` and
`referenced` are the ids without repetitions, in the order in which they come first.
-/

namespace ModWeave

/-- An id on a line of a mod. -/
structure Occurrence where
  id : EntityId
  role : Role
  /-- The number of the line, counted from zero. -/
  line : Nat
  /-- The command word on the line. -/
  word : List Char
deriving DecidableEq, Repr

/-- A spell block, from the line that opens it to the line that closes it. -/
structure BlockRegion where
  start : Nat
  /-- The line that closes the block, if one does. -/
  stop : Option Nat
deriving DecidableEq, Repr

/-- What the lines of a mod declare and refer to. -/
structure Definition where
  mod : ModFile
  occurrences : List Occurrence
  blocks : List BlockRegion
deriving DecidableEq, Repr

namespace Definition

/-- The name of the mod. -/
def name (d : Definition) : String := d.mod.name

/-- The ids of the given role, each once. -/
def idsOf (role : Role) (d : Definition) : List EntityId :=
  distinct ((d.occurrences.filter fun o => o.role = role).map Occurrence.id)

/-- The ids that the mod declares. -/
def declared (d : Definition) : List EntityId := d.idsOf .declaration

/-- The ids that the mod refers to. -/
def referenced (d : Definition) : List EntityId := d.idsOf .reference

theorem nodup_declared (d : Definition) : d.declared.Nodup := nodup_distinct _

end Definition

end ModWeave
