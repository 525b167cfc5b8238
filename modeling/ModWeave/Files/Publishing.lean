import ModWeave.Files.Session
import ModWeave.Merge
import ModWeave.Text.Utf8

/-!
# Mods in files

The mod files below some directories are found and loaded, and a merge into a file keeps a copy of the file that it
replaces.  Nothing is written unless the merge succeeds.
-/

namespace ModWeave.Session

/-- Finds the mod files below a directory. -/
def discoverBelow (s : Session) (root : Path) : Session × Except FileFault (List Path) :=
  match s.isDirectory root, s.place? root with
  | .error e, _ => (s, .error e)
  | .ok true, some place => (s, .ok ((s.tree.modPlaces place).map fun p => root.join ⟨0, p.drop place.length⟩))
  | _, _ => (s.say [Log.warn s!"Mod path {root} is not a directory. Skipped."], .ok [])

/-- Finds the mod files below some directories, one directory after the other. -/
def discover (s : Session) : List Path → Session × Except FileFault (List Path)
  | [] => (s, .ok [])
  | root :: roots =>
    match s.discoverBelow root with
    | (s, .error e) => (s, .error e)
    | (s, .ok found) =>
      let (s, more) := s.discover roots
      (s, more.map (found ++ ·))

/-- The bytes of the file at a path. -/
def bytes (s : Session) (p : Path) : List UInt8 :=
  match s.node? p with
  | some (.file bytes) => bytes
  | _ => []

/-- Loads a mod file; bytes that are no text are left out. -/
def load (s : Session) (p : Path) : ModFile := ⟨p.stem, p, Text.unifyBreaks (Text.Utf8.decodeLossy (s.bytes p))⟩

/-- Copies a file to a path; a copy into a directory keeps the name of the file. -/
def copy (s : Session) (source : Path) (n : Node) (target : Path) : Session × Except FileFault Unit :=
  let target := if s.node? target = some .directory then target.child source.name else target
  if s.place? target = s.place? source then (s, .error (.sameFile source.toString target.toString))
  else if n = .directory then (s, .error (.blocked .isADirectory source.toString))
  else s.write target n

/-- Keeps a copy of a file in a directory and gives its path. -/
def backUp (s : Session) (source directory : Path) : Session × Except FileFault Path :=
  match s.look source with
  | .error e => (s, .error e)
  | .ok none => (s, .error (.nothingToBackUp source.toString))
  | .ok (some n) =>
    match s.makeDirectory directory with
    | (s, .error e) => (s, .error e)
    | (s, .ok ()) =>
      let kept := directory.child (source.name ++ ".bak")
      match s.copy source n kept with
      | (s, .error e) => (s, .error e)
      | (s, .ok ()) => (s.say [Log.info s!"Created backup: {kept}"], .ok kept)

/-- The bytes of a file that holds the given lines. -/
def bytesOf (lines : List Line) : List UInt8 := Text.Utf8.encode (Text.joinLines lines)

/-- Writes lines to a file. -/
def writeLines (s : Session) (p : Path) (lines : List Line) : Session × Except FileFault Unit :=
  s.store p (.file (bytesOf lines))

/-- Keeps a copy of a file if a directory is given for it and the file exists. -/
def backUpIfThere (s : Session) (source : Path) (directory : Option Path) : Session × Except FileFault Unit :=
  match directory with
  | none => (s, .ok ())
  | some directory =>
    match s.look source with
    | .error e => (s, .error e)
    | .ok none => (s, .ok ())
    | .ok (some _) =>
      let (s, kept) := s.backUp source directory
      (s, kept.map fun _ => ())

/-- Writes the lines of a merged mod, after a copy of the file in their place has been kept. -/
def publish (s : Session) (output : Path) (backup : Option Path) (lines : List Line) :
    Session × Except FileFault Unit :=
  match s.backUpIfThere output backup with
  | (s, .error e) => (s, .error e)
  | (s, .ok ()) =>
    match s.writeLines output lines with
    | (s, .error e) => (s, .error e)
    | (s, .ok ()) => (s.say [Log.info s!"Merged mod written to {output}"], .ok ())

/-- Why a merge into a file is given up. -/
inductive Fault
  /-- An entry of the list of mods to leave out is no text. -/
  | badIgnoreList
  | file (cause : FileFault)
deriving DecidableEq, Repr

/-- Merges mods; a merge that fails is a result too. -/
def merge (s : Session) (plan : MergePlan) (mods : List ModFile) : Session × Except Fault Merge :=
  match merge? plan mods with
  | none => (s, .error .badIgnoreList)
  | some (m, log) => (s.say log, .ok m)

/-- Merges mods into a file; nothing is written unless the merge succeeds. -/
def mergeInto (s : Session) (plan : MergePlan) (mods : List ModFile) (output : Path) (backup : Option Path) :
    Session × Except Fault Merge :=
  match s.merge plan mods with
  | (s, .error e) => (s, .error e)
  | (s, .ok m) =>
    if m.succeeded then
      let (s, written) := s.publish output backup m.lines
      (s, (written.mapError .file).map fun _ => m)
    else (s, .ok m)

end ModWeave.Session
