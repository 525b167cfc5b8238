import ModWeave.Definition.Reading
import ModWeave.Registry
import ModWeave.Output.Stream
import ModWeave.Settings

/-!
# Merging mods

The mods are scanned, their ids resolved and their bodies written, one phase after the other.  Scanning joins
the results of tasks that end in any order; a strict scan stops at the first mod that cannot be read, and a
tolerant one leaves such mods out.  `merge` gives the lines of the merged mod only if every phase succeeds.
-/

namespace ModWeave

/-- Why a merge fails. -/
inductive MergeFault
  | badWorkerCount (given : Int)
  | duplicateName (name : String) (first second : Path)
  | unreadable (mod : String) (cause : ReadFault)
  /-- The work was stopped, in the scan of a mod or between two. -/
  | cancelled (mod : Option String)
  | unresolved (cause : ResolveFault)
  | unwritable (cause : Output.LineFault)
deriving DecidableEq, Repr

namespace MergeFault

/-- The words for a fault. -/
def message : MergeFault → String
  | badWorkerCount given => s!"max_workers must be at least 1, got {given}"
  | duplicateName name first second =>
    s!"Duplicate mod name detected: {name}. One: {first}, Other: {second}."
  | unreadable mod cause => s!"Failed to scan mod '{mod}': {cause.message}"
  | cancelled (some mod) => (ReadFault.cancelled mod).message
  | cancelled none => "Mod scan cancelled"
  | unresolved cause => cause.message
  | unwritable cause => cause.message

/-- The words for what lies behind a fault. -/
def causeMessage? : MergeFault → Option String
  | unreadable _ cause => some cause.message
  | unwritable cause => some cause.cause.message
  | _ => none

end MergeFault

/-- A way to read the definition of a mod. -/
abbrev Reader := ModFile → Signal → Except ReadFault Definition

namespace Scan

/-- What has been joined: the definitions by the names of their mods, in the order in which the tasks ended, the mods
that were left out, the messages, and what ended the scan early. -/
structure Result where
  entries : OrderedMap String Definition
  failures : List Warning
  log : List Log.Entry
  fault : Option MergeFault

/-- The definitions that were joined. -/
def Result.definitions (r : Result) : List Definition := r.entries.map Prod.snd

/-- The task of reading one mod. -/
def task (reader : Reader) (stop : Signal) (m : ModFile) : Except ReadFault Definition :=
  if stop 0 then .error (.cancelled m.name) else reader m (stop.later 1)

/-- Whether the work is stopped after the task of a mod has ended. -/
def stoppedAfter (stop : Signal) (m : ModFile) : Bool := stop (1 + Definition.questions m.lines.length)

/-- Joins the tasks of the given mods, which end in this order.  The questions of each task are counted on their
own. -/
def join (reader : Reader) (stop : Signal) (tolerant : Bool) : List ModFile → Result
  | [] => ⟨[], [], [], none⟩
  | m :: ms =>
    match task reader stop m with
    | .error (.cancelled mod) => ⟨[], [], [], some (.cancelled (some mod))⟩
    | .error e =>
      let entry := Log.error s!"Error scanning mod file {m.name}: {e.message}"
      if tolerant then
        let rest := join reader stop tolerant ms
        { rest with failures := ⟨some m.name, .skipped e.message⟩ :: rest.failures, log := entry :: rest.log }
      else ⟨[], [], [entry], some (.unreadable m.name e)⟩
    | .ok d =>
      let entry := Log.debug s!"Scanned {m.name}: {d.occurrences.length} ID commands"
      if stoppedAfter stop m then ⟨[(m.name, d)], [], [entry], some (.cancelled none)⟩
      else
        let rest := join reader stop tolerant ms
        { rest with entries := (m.name, d) :: rest.entries, log := entry :: rest.log }

/-- The first mod whose name an earlier one has, with that one. -/
def duplicate? : List ModFile → List ModFile → Option (ModFile × ModFile)
  | _, [] => none
  | seen, m :: ms =>
    match seen.find? fun s => s.name = m.name with
    | some s => some (s, m)
    | none => duplicate? (m :: seen) ms

/-- What is wrong before the first task starts. -/
def refusal? (workers : Option Int) (mods : List ModFile) : Option MergeFault :=
  match workers.filter (· < 1), duplicate? [] mods with
  | some n, _ => some (.badWorkerCount n)
  | none, some (first, second) => some (.duplicateName second.name first.path second.path)
  | none, none => none

/-- Scans some mods, whose tasks end in the order `ended`. -/
def run (reader : Reader) (stop : Signal) (tolerant : Bool) (workers : Option Int) (mods ended : List ModFile) :
    Result :=
  match refusal? workers mods with
  | some fault => ⟨[], [], [], some fault⟩
  | none => join reader stop tolerant ended

end Scan

/-- How a merge is to be done. -/
structure MergePlan where
  settings : Settings
  /-- The number of mods that are read side by side. -/
  workers : Option Int
  stop : Signal
  /-- The order in which the tasks of the given mods end. -/
  ended : List ModFile → List ModFile

/-- The plan of a merge that nobody stops, with tasks that end in the order in which they start. -/
def MergePlan.plain (settings : Settings) (workers : Option Int) : MergePlan := ⟨settings, workers, Signal.never, id⟩

/-- The result of a merge. -/
structure Merge where
  /-- The lines of the merged mod; none if the merge failed. -/
  lines : List Line
  warnings : List Warning
  tables : OrderedMap String RemapTable
  /-- The definitions of the merged mods in merge order. -/
  definitions : List Definition
  fault : Option MergeFault

namespace Merge

/-- Whether the merge succeeded. -/
def succeeded (m : Merge) : Bool := m.fault.isNone

/-- The number of ids that got a new number. -/
def totalRemaps (m : Merge) : Nat := m.tables.foldl (fun n t => n + t.2.length) 0

/-- The result of a merge that failed, with the warnings up to then. -/
def failed (warnings : List Warning) (fault : MergeFault) : Merge := ⟨[], warnings, [], [], some fault⟩

/-- The lower-case names of the mods to leave out, if all entries are texts. -/
def ignoredNames? (entries : List Toml.Value) : Option (List (List Char)) :=
  entries.mapM fun
    | .text s => some (lowerName s)
    | _ => none

/-- Whether a mod is left out. -/
def isIgnored (ignored : List (List Char)) (m : ModFile) : Bool := ignored.any fun name => name = lowerName m.name

/-- What is reported before the scan. -/
def selectionLog (ignored : List (List Char)) (mods : List ModFile) : List Log.Entry :=
  let selected := mods.filter fun m => !isIgnored ignored m
  ((mods.filter (isIgnored ignored)).map fun m =>
      (Log.info s!"Ignoring mod '{m.name}' via config.").indented 2) ++
    [Log.info ("Processing mods: " ++ ", ".intercalate (mergeOrder (selected.map ModFile.name)))]

/-- A definition with the table of its mod. -/
def mapped (tables : OrderedMap String RemapTable) (d : Definition) : Output.MappedMod :=
  ⟨d.mod, (OrderedMap.get? tables d.name).getD []⟩

/-- What is reported after a merge that succeeded. -/
def successLog (m : Merge) : List Log.Entry :=
  Log.info s!"Merged {m.definitions.length} mods, {m.totalRemaps} IDs remapped." ::
    m.warnings.map fun w => (Log.warn w.text).indented 2

/-- What is reported after a merge that failed. -/
def failureLog (fault : MergeFault) : Log.Entry := Log.error s!"Merge failed: {fault.message}"

/-- Resolves and writes mods that have been read. -/
def ofDefinitions (settings : Settings) (definitions : List Definition) : Merge × List Log.Entry :=
  let (registry, resolved) := resolveIds settings.ranges definitions
  match resolved with
  | .error e => (failed [] (.unresolved e), registry.log)
  | .ok tables =>
    let ordered := inMergeOrder Definition.name definitions
    let stream := Output.stream (ordered.map (mapped tables))
    match stream.fault with
    -- the warnings of the writing are lost with its lines
    | some f => (failed registry.warnings (.unwritable f), registry.log ++ stream.log)
    | none =>
      (⟨settings.header.lines ++ stream.written, registry.warnings ++ stream.warnings, tables, ordered, none⟩,
        registry.log ++ stream.log)

/-- Scans and merges the selected mods. -/
def ofSelected (plan : MergePlan) (selected : List ModFile) : Merge × List Log.Entry :=
  let scan := Scan.run Definition.read plan.stop false plan.workers selected (plan.ended selected)
  match scan.fault with
  | some fault => (failed [] fault, scan.log)
  | none =>
    let (merge, log) := ofDefinitions plan.settings scan.definitions
    (merge, scan.log ++ log)

end Merge

/-- Merges mods; nothing comes of it if an entry of the list of mods to leave out is no text. -/
def merge? (plan : MergePlan) (mods : List ModFile) : Option (Merge × List Log.Entry) :=
  (Merge.ignoredNames? plan.settings.ignoreMods).map fun ignored =>
    let (m, log) := Merge.ofSelected plan (mods.filter fun m => !Merge.isIgnored ignored m)
    let ending := match m.fault with
      | some fault => [Merge.failureLog fault]
      | none => m.successLog
    (m, Merge.selectionLog ignored mods ++ log ++ ending)

end ModWeave
