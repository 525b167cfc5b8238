import ModWeave.CommandLine.Perform
import ModWeave.Report.Stored
import ModWeave.Toml.Document

/-!
# A run of the program

Here the packages that a run needs are chosen: the settings are a TOML document, and the pages of a report go into a
workbook.
-/

namespace ModWeave.CommandLine

/-- Puts the pages of a report into a workbook at a path.  The file is opened before the cells are stored. -/
def saveBook (s : Session) (target : Path) (pages : List Report.Page) : Session × Except Fault Unit :=
  match Workbook.ofPages pages with
  | .error e => (s, .error (.cell e))
  | .ok book =>
    match s.write target (.workbook book), book.stored with
    | (_, .error e), _ => (s, .error (.file e))
    | (_, .ok ()), .error e => (s, .error (.cell e))
    | (_, .ok ()), .ok stored => ((s.write target (.workbook stored)).1, .ok ())

/-- The packages of the program. -/
def packages : Packages where
  readTable := Toml.Document.read
  saveBook := saveBook

/-- The settings at a path; without a file there they are the default. -/
def loadSettings (s : Session) (p : Path) : Session × Except Fault Settings := packages.loadSettings s p

/-- A run of the program with the given arguments. -/
def run (home : Path) (s : Session) (args : List String) : Outcome := packages.run home s args

end ModWeave.CommandLine
