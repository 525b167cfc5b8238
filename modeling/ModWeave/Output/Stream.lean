import ModWeave.MergeOrder
import ModWeave.ModFile
import ModWeave.Output.Body

/-!
# The merged stream

The bodies of all mods are written in merge order, each between two lines that name the mod, and a last line
ends the stream.  A line that cannot be written ends the work; what was written before stays in the result.
-/

namespace ModWeave.Output

open Text

/-- A mod with the new numbers of its ids. -/
structure MappedMod where
  mod : ModFile
  table : RemapTable

/-- The name of the mod. -/
def MappedMod.name (m : MappedMod) : String := m.mod.name

/-- The line in front of the body of a mod. -/
def beginLine (name : String) : Line := ("-- Begin content from mod: " ++ name).toList

/-- The line behind the body of a mod. -/
def endLine (name : String) : Line := ("-- End content from mod: " ++ name).toList

/-- The last line of the stream. -/
def streamEnd : List Line := [[], "-- End merged content".toList]

/-- The body of a mod with the lines around it. -/
def framed (name : String) (body : List Line) : List Line := [] :: beginLine name :: body ++ [endLine name]

/-- The stream as far as it could be written. -/
structure Stream where
  written : List Line
  warnings : List Warning
  log : List Log.Entry
  fault : Option LineFault

/-- Writes mods in the given order, and then the end of the stream. -/
def streamFrom : List MappedMod → Stream
  | [] => ⟨streamEnd, [], [], none⟩
  | m :: mods =>
    let out := mod m.name m.table m.mod.lines
    match out.lines with
    | .error f => ⟨[], out.warnings, out.log, some f⟩
    | .ok lines =>
      let rest := streamFrom mods
      ⟨framed m.name lines ++ rest.written, out.warnings ++ rest.warnings,
        out.log ++ ⟨.debug, 0, .timed s!"Processed mod '{m.name}' in " " ms"⟩ :: rest.log, rest.fault⟩

/-- What is reported before the first mod. -/
def startLog (count : Nat) : Log.Entry := Log.debug s!"Starting to process {count} mod definitions"

/-- What is reported after the last mod. -/
def doneLog (count warnings : Nat) : Log.Entry :=
  ⟨.info, 0, .timed s!"Wrote content of {count} mods in " s!" ms with {warnings} warnings"⟩

/-- Writes mods in merge order. -/
def stream (mods : List MappedMod) : Stream :=
  let s := streamFrom (inMergeOrder MappedMod.name mods)
  let done := if s.fault.isNone then [doneLog mods.length s.warnings.length] else []
  { s with log := startLog mods.length :: s.log ++ done }

end ModWeave.Output
