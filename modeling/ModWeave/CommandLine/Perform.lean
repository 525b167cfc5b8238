import ModWeave.CommandLine.Arguments
import ModWeave.Files.Publishing
import ModWeave.Report
import ModWeave.Settings.Loading

/-!
# What a run of the program does

`Packages.run` does what the arguments ask for on a file tree: it loads the settings, finds and loads the mods below the
given directories, except for the output of an earlier run, merges them into the output file or only tries to, and
tells what was changed, on request in a workbook too.  The result holds the exit code, the messages and the file tree
afterwards.

Two things are left to packages (`Packages`): what table the text of the settings holds, and how the pages of a report
are put into a file.  A run is one with given packages, whatever they do.
-/

namespace ModWeave.CommandLine

/-- The name of the program. -/
def programName : String := "cli.py"

/-- What ends a run before its time. -/
inductive Fault
  | settings (cause : SettingsFault)
  | merge (cause : Session.Fault)
  | file (cause : FileFault)
  | cell (cause : CellFault)
  /-- The home directory of the user is not known. -/
  | noHome
  /-- A flag without a value should have one. -/
  | valueless (flag : Flag)
deriving DecidableEq, Repr

/-- How a run ends. -/
inductive Ending
  /-- The program ends with an exit code. -/
  | exit (code : Nat)
  /-- The arguments are refused. -/
  | refused (cause : ArgumentFault)
  /-- A fault ends the program. -/
  | broken (cause : Fault)

/-- A run that has ended. -/
structure Outcome where
  ending : Ending
  verbose : Bool
  session : Session

/-- The packages that a run uses. -/
structure Packages where
  /-- Reads the table that a text holds. -/
  readTable : List Char → Except Toml.Fault Toml.Table
  /-- Saves the pages of a report as a workbook at a path. -/
  saveBook : Session → Path → List Report.Page → Session × Except Fault Unit

/-- A path with a leading tilde replaced by the home directory. -/
def expandHome (home : Path) (p : Path) : Except Fault Path :=
  match p.isAbsolute, p.parts with
  | false, part :: rest =>
    if part = "~" then .ok (home.join ⟨0, rest⟩)
    else if part.toList.head? ≠ some '~' then .ok p
    else if Path.holdsNull ⟨0, [part]⟩ then .error (.file (.blocked .nullCharacter p.toString))
    else .error .noHome
  | _, _ => .ok p

/-- The path that a flag gives. -/
def givenPath (home : Path) (flag : Flag) : Option Path → Except Fault Path
  | none => .error (.valueless flag)
  | some p => expandHome home p

/-- The absolute form of a path. -/
def absolute (s : Session) (p : Path) : Except Fault Path :=
  if p.holdsNull then .error (.file (.blocked .nullCharacter p.toString)) else .ok (s.resolve p)

/-- Where the workbook goes: a path that does not name a workbook names its directory. -/
def reportPath (p : Path) : Path :=
  if Text.lower p.suffix.toList = ".xlsx".toList then p else p.child "merge_report.xlsx"

/-- What is reported about a merge that failed: the fault and what lies behind it. -/
def faultLog (name : MergeFault → List String) (fault : MergeFault) : List Log.Entry :=
  let messages := fault.message :: fault.causeMessage?.toList
  ((name fault).zip messages).map fun (n, message) => (Log.error s!"{n}: {message}").indented 2

/-- The names of a fault and of what lies behind it. -/
def faultNames : MergeFault → List String
  | .badWorkerCount _ => ["ValueError"]
  | .duplicateName _ _ _ => ["ScanError"]
  | .unreadable _ _ => ["ScanError", "ValueError"]
  | .cancelled _ => ["MergeCancelled"]
  | .unresolved (.exhausted _) => ["AllocationExhausted"]
  | .unresolved (.unwritable _) => ["ValueError"]
  | .unwritable _ => ["ContentProcessingError", "ValueError"]

/-- What becomes of a merge without a number of workers: it ends as soon as the mods are selected. -/
def mergeWithoutWorkers (s : Session) (settings : Settings) (mods : List ModFile) : Session × Ending :=
  match Merge.ignoredNames? settings.ignoreMods with
  | none => (s, .broken (.merge .badIgnoreList))
  | some ignored => (s.say (Merge.selectionLog ignored mods), .broken (.valueless .workers))

/-- Finds the mod files below a directory that the user names. -/
def searchBelow (home : Path) (s : Session) (p : Path) : Session × Except Fault (List Path) :=
  match (expandHome home p).bind (absolute s) with
  | .error e => (s, .error e)
  | .ok root =>
    let (s, found) := s.discoverBelow root
    (s, found.mapError .file)

/-- Finds the mod files below the directories that the user names; a fault ends the search. -/
def search (home : Path) (s : Session) : List Path → Session × Except Fault (List Path)
  | [] => (s, .ok [])
  | p :: ps =>
    match searchBelow home s p with
    | (s, .error e) => (s, .error e)
    | (s, .ok found) =>
      let (s, more) := search home s ps
      (s, more.map (found ++ ·))

namespace Packages

variable (k : Packages)

/-- The settings at a path; without a file there they are the default. -/
def loadSettings (s : Session) (p : Path) : Session × Except Fault Settings :=
  match s.look p with
  | .error e => (s, .error (.file e))
  | .ok none => (s.say [Settings.missingLog p.toString], .ok {})
  | .ok (some (.file bytes)) => (s, (Settings.ofBytes k.readTable p.toString bytes).mapError .settings)
  | .ok (some (.workbook _)) => (s, .error (.settings .notUtf8))
  | .ok (some .directory) => (s, .error (.file (.blocked .isADirectory p.toString)))

/-- Saves the pages of a report at a path and makes the directories above it. -/
def exportPages (s : Session) (target : Path) (pages : List Report.Page) : Session × Except Fault Unit :=
  match s.makeDirectory target.parent with
  | (s, .error e) => (s, .error (.file e))
  | (s, .ok ()) => k.saveBook s target pages

/-- Saves the report about a merge, if a path is given for it. -/
def saveReport (s : Session) (p : Option Path) (m : Merge) : Session × Except Fault Unit :=
  match p with
  | none => (s, .error (.valueless .report))
  | some p =>
    if p = ⟨0, []⟩ then (s, .ok ())
    else
      let target := reportPath p
      match k.exportPages s target (Report.pages m.definitions m.tables m.warnings) with
      | (s, .error e) => (s, .error e)
      | (s, .ok ()) => (s.say [Log.info s!"Report saved to {target}"], .ok ())

/-- What follows a merge: the changed ids are told, and the report is saved. -/
def conclude (s : Session) (a : Arguments) (m : Merge) : Session × Ending :=
  match m.fault with
  | some fault => (s.say (faultLog faultNames fault), .exit 1)
  | none =>
    match k.saveReport (s.say (Report.details m.tables)) a.report m with
    | (s, .error e) => (s, .broken e)
    | (s, .ok ()) =>
      if a.dryRun then (s.say [Log.info "Dry run active. No file changes were made."], .exit 0) else (s, .exit 0)

/-- Merges mods into the output file with a copy of the old one, or only tries to if no place for the copy is
given. -/
def mergeWith (s : Session) (a : Arguments) (plan : MergePlan) (output : Path) (backup : Option Path)
    (mods : List ModFile) : Session × Ending :=
  let (s, merged) := match backup with
    | none => s.merge plan mods
    | some backup => s.mergeInto plan mods output (some backup)
  match merged with
  | .error e => (s, .broken (.merge e))
  | .ok m => k.conclude s a m

/-- Merges the given mod files as the arguments ask for. -/
def mergeFiles (home : Path) (s : Session) (a : Arguments) (settings : Settings) (output : Path)
    (files : List Path) : Session × Ending :=
  let s := s.say [Log.info s!"Found {files.length} mod files."]
  let mods := files.map s.load
  let backup := if a.dryRun then .ok none else (givenPath home .backupDir a.backupDir).map some
  match backup, a.workers with
  | .error e, _ => (s, .broken e)
  | .ok backup, .automatic => k.mergeWith s a (MergePlan.plain settings none) output backup mods
  | .ok backup, .count n => k.mergeWith s a (MergePlan.plain settings (some n)) output backup mods
  | .ok _, .unset => mergeWithoutWorkers s settings mods

/-- Does what the arguments ask for. -/
def perform (home : Path) (s : Session) (a : Arguments) : Session × Ending :=
  match givenPath home .configPath a.configPath with
  | .error e => (s, .broken e)
  | .ok configPath =>
    match k.loadSettings s configPath with
    | (s, .error e) => (s, .broken e)
    | (s, .ok settings) =>
      match search home s a.mods with
      | (s, .error e) => (s, .broken e)
      | (s, .ok found) =>
        match (givenPath home .output a.output).bind (absolute s) with
        | .error e => (s, .broken e)
        | .ok output =>
          match found.filter fun p => s.resolve p ≠ output with
          | [] => (s.say [Log.warn "No .dm files found under the provided mod paths. Program exit."], .exit 0)
          | files => k.mergeFiles home s a settings output files

/-- A run of the program with the given arguments. -/
def run (home : Path) (s : Session) (args : List String) : Outcome :=
  match parse args with
  | .error e => ⟨.refused e, false, s⟩
  | .ok none => ⟨.exit 0, false, s⟩
  | .ok (some a) =>
    let (s, ending) := k.perform home s a
    ⟨ending, a.verbose, s⟩

end Packages

/-- The text on the error channel. -/
def Outcome.errorText (o : Outcome) : String :=
  match o.ending with
  | .refused cause => s!"{programName}: error: {cause.message}"
  | _ => ""

/-- The last line on the error channel that shows something, without blanks at its end. -/
def Outcome.lastErrorLine (o : Outcome) : String :=
  let shown := (Text.trim o.errorText.toList).reverse
  String.ofList (shown.takeWhile (· ≠ '\n')).reverse

/-- The exit code. -/
def Outcome.exitCode (o : Outcome) : Nat :=
  match o.ending with
  | .exit code => code
  | .refused _ => 2
  | .broken _ => 0

end ModWeave.CommandLine
