import ModWeave.CommandLine.Run

/-!
# The program

The program takes a picture of the directories that its arguments name, runs on the picture, prints what there
is to say and carries out the changes.  A workbook is stored as text, its cells separated by tabulators and its
sheets under their titles.
-/

namespace ModWeave.Main

open CommandLine

/-- The text of a cell. -/
def cellText : Cell → String
  | .empty => ""
  | .text s => s
  | .whole n => toString n
  | .scaled s => s

/-- The text of a workbook. -/
def workbookText (book : Workbook) : String :=
  String.join (book.map fun sheet =>
    s!"[{sheet.title}]\n" ++ String.join (sheet.rows.map fun row => "\t".intercalate (row.map cellText) ++ "\n"))

/-- The text of the absolute path to a place. -/
def pathText (place : Place) : String := Path.toString ⟨1, place⟩

/-- The tree with what stands at a place of the file system, and the directories above it. -/
def look (tree : FileTree) (path : Path) : IO FileTree := do
  let root ← IO.currentDir
  (FileTree.above path.parts ++ [path.parts]).foldlM (fun tree place => do
    let file := root / pathText place
    if tree.contains place || !(← file.pathExists) then return tree
    else if ← file.isDir then return tree.put place .directory
    else return tree.put place (.file (← IO.FS.readBinFile file).toList)) tree

/-- The tree with every directory and mod file below a directory of the file system. -/
def lookBelow (tree : FileTree) (path : Path) : IO FileTree := do
  let tree ← look tree path
  if !tree.isDirectory path.parts then return tree
  let root ← IO.currentDir
  let files ← (root / path.toString).walkDir
  files.foldlM (fun tree file => look tree (Path.ofString file.toString)) tree

/-- The picture of the file system that the given arguments need. -/
def picture (home current : Path) (a : Arguments) : IO FileTree := do
  let absolute (p : Path) : Path := (current.join ((expandHome home p).toOption.getD current)).normal
  let place (p : Option Path) : Path := absolute (p.getD current)
  let copy := (place a.backupDir).child ((place a.output).name ++ ".bak")
  let report := (current.join (reportPath (a.report.getD current))).normal
  let tree ← [place a.configPath, place a.output, copy, report].foldlM look []
  (a.mods.map absolute).foldlM lookBelow tree

/-- Carries out the changes from one tree to another. -/
def store (before after : FileTree) : IO Unit := do
  for (place, node) in after do
    if before.node? place ≠ some node then
      let path := pathText place
      match node with
      | .directory => IO.FS.createDirAll path
      | .file bytes => IO.FS.writeBinFile path ⟨bytes.toArray⟩
      | .workbook book => IO.FS.writeFile path (workbookText book)

/-- The words for what broke a run off. -/
def faultText : Fault → String
  | .settings cause => cause.message
  | .merge .badIgnoreList => "an entry of ignore_mods is no text"
  | .merge (.file cause) => cause.message
  | .file cause => cause.message
  | .cell cause => cause.message
  | .noHome => "Could not determine home directory."
  | .valueless flag => s!"argument {flag.label}: a value is missing"

/-- Runs the program in the working directory. -/
def runHere (args : List String) : IO UInt32 := do
  let current := Path.ofString (← IO.currentDir).toString
  let home := Path.ofString ((← IO.getEnv "HOME").getD "/")
  let tree ← match parse args with
    | .ok (some a) => picture home current a
    | _ => pure []
  let start ← IO.monoMsNow
  let outcome := run home ⟨current, tree, []⟩ args
  IO.print (Log.render outcome.verbose s!"{(← IO.monoMsNow) - start}.0" outcome.session.log)
  store tree outcome.session.tree
  match outcome.ending with
  | .broken cause =>
    IO.eprintln (faultText cause)
    return 1
  | .refused _ => IO.eprintln outcome.errorText
  | .exit _ => pure ()
  return UInt32.ofNat outcome.exitCode

end ModWeave.Main

/-- Merges mods as the arguments ask for. -/
def main (args : List String) : IO UInt32 := ModWeave.Main.runHere args
