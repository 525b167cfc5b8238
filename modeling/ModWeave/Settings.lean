import ModWeave.IdRange
import ModWeave.Text.Lines
import ModWeave.Toml.Value

/-!
# Settings of a merge

The settings name the mods to leave out, what the merged mod says about itself, and the modding ranges.
-/

namespace ModWeave

/-- What the merged mod says about itself. -/
structure Header where
  modname : String := "Merged Mod"
  description : String := "Merged by DomModMerger"
  icon : String := ""
  version : String := "1.0"
  domversion : String := ""
deriving DecidableEq, Repr

namespace Header

/-- The lines at the top of the merged mod; settings without text are left out. -/
def lines (h : Header) : List Line :=
  let optional (text : String) (line : String) : List Line := if text = "" then [] else [line.toList]
  [("#modname \"" ++ h.modname ++ "\"").toList, ("#description \"" ++ h.description ++ "\"").toList] ++
    optional h.icon ("#icon \"" ++ h.icon ++ "\"") ++ optional h.version ("#version " ++ h.version) ++
    optional h.domversion ("#domversion " ++ h.domversion)

end Header

/-- The settings of a merge. -/
structure Settings where
  /-- The names of the mods to leave out, as the file gives them. -/
  ignoreMods : List Toml.Value := []
  header : Header := {}
  ranges : RangeMap := RangeMap.default

end ModWeave
