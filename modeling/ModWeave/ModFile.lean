import ModWeave.Path
import ModWeave.Text.Lines

/-!
# Mod files

A mod file has a name, by which mods are told apart, the path it was read from, and its text.
-/

namespace ModWeave

/-- A mod before it is read. -/
structure ModFile where
  name : String
  path : Path
  content : List Char
deriving DecidableEq, Repr

namespace ModFile

/-- The extension of mod files. -/
def extension : String := ".dm"

/-- The mod of a given name and text, at the path that the name suggests. -/
def named (name : String) (content : List Char) : ModFile := ⟨name, Path.ofString (name ++ extension), content⟩

/-- The lines of a mod. -/
def lines (m : ModFile) : List Line := Text.splitLines m.content

end ModFile

end ModWeave
