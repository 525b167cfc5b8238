import ModWeave.Definition
import ModWeave.Log
import ModWeave.MergeOrder
import ModWeave.Remap
import ModWeave.Warning

/-!
# Reports on a merge

The changed ids are listed for the user and on the pages of a report, by mod in merge order and within a mod by the
name of the kind and by number.  The pages also count what each mod holds and list the warnings.
-/

namespace ModWeave.Report

/-- Whether an entry of a table stands in front of another: by kind, then by number. -/
def entryLe (a b : EntityId × Int) : Bool :=
  if a.1.kind = b.1.kind then a.1.number ≤ b.1.number else leChars a.1.kind.name.toList b.1.kind.name.toList

/-- The tables in merge order. -/
def orderedTables (tables : OrderedMap String RemapTable) : OrderedMap String RemapTable :=
  inMergeOrder Prod.fst tables

/-- The line about one changed id. -/
def changeLine (entry : EntityId × Int) : Log.Entry :=
  let (id, number) := entry
  Log.remap 4 s!"{id.label} {id.shown} -> {(id.renumber number).shown}"

/-- What the user is told about changed ids. -/
def details (tables : OrderedMap String RemapTable) : List Log.Entry :=
  match (orderedTables tables).filter fun t => t.2 ≠ [] with
  | [] => [⟨.ok, 0, .text "No ID collisions found."⟩]
  | changed =>
    Log.remap 0 "ID collisions resolved:" ::
      changed.flatMap fun (name, table) => Log.remap 2 s!"{name}:" :: (sortBy entryLe table).map changeLine

/-- A value in a report. -/
inductive Datum
  | text (s : String)
  | number (n : Int)
deriving DecidableEq, Repr

/-- A page of a report; its first row names the columns. -/
structure Page where
  title : String
  rows : List (List Datum)
deriving DecidableEq, Repr

/-- The row about what a mod holds. -/
def modRow (tables : OrderedMap String RemapTable) (d : Definition) : List Datum :=
  let changed := ((OrderedMap.get? tables d.name).getD []).length
  let counts := [d.declared.length, d.referenced.length, d.blocks.length, changed]
  [.text d.name, .text d.mod.path.toString] ++ counts.map fun n => .number n

/-- The row about a changed id. -/
def changeRow (name : String) (entry : EntityId × Int) : List Datum :=
  [.text name, .text entry.1.label, .number entry.1.number, .number entry.2]

/-- The row about a warning. -/
def warningRow (w : Warning) : List Datum := [.text w.cause.kind.name, .text w.modName, .text w.cause.message]

/-- The page with the given title, column names and rows. -/
def page (title : String) (columns : List String) (rows : List (List Datum)) : Page :=
  ⟨title, columns.map Datum.text :: rows⟩

/-- The pages about a merge. -/
def pages (definitions : List Definition) (tables : OrderedMap String RemapTable) (warnings : List Warning) :
    List Page :=
  let modRows := (inMergeOrder Definition.name definitions).map (modRow tables)
  let changeRows := (orderedTables tables).flatMap fun (name, table) => (sortBy entryLe table).map (changeRow name)
  [page "mods" ["mod", "path", "declared ids", "referenced ids", "spell blocks", "remapped ids"] modRows,
    page "remaps" ["mod", "entity", "old id", "new id"] changeRows,
    page "warnings" ["kind", "mod", "message"] (warnings.map warningRow)]

end ModWeave.Report
