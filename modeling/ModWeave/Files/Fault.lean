import ModWeave.Text.Quoted

/-!
# Faults of file operations

An obstacle is what the file system says about a path.  A fault is an obstacle together with the path as the user
gave it, or a refusal to copy a file.
-/

namespace ModWeave

/-- What stands in the way of a file operation. -/
inductive Obstacle
  /-- There is nothing at the path, or the path leads through nothing. -/
  | missing
  /-- There is something at the path already. -/
  | occupied
  /-- The path leads through a file. -/
  | notADirectory
  /-- There is a directory where a file is wanted. -/
  | isADirectory
  /-- A part of the path, or the path as a whole, is too long. -/
  | nameTooLong
  /-- The path holds the null character. -/
  | nullCharacter
deriving DecidableEq, Repr

/-- Why a file operation fails. -/
inductive FileFault
  | blocked (obstacle : Obstacle) (path : String)
  /-- There is nothing to back up. -/
  | nothingToBackUp (path : String)
  /-- A file is to be copied onto itself. -/
  | sameFile (source target : String)
deriving DecidableEq, Repr

namespace FileFault

/-- A path in quotation marks. -/
def quoted (path : String) : String := String.ofList (Text.quote path.toList)

/-- The words for a fault. -/
def message : FileFault → String
  | blocked .missing path => s!"[Errno 2] No such file or directory: {quoted path}"
  | blocked .occupied path => s!"[Errno 17] File exists: {quoted path}"
  | blocked .notADirectory path => s!"[Errno 20] Not a directory: {quoted path}"
  | blocked .isADirectory path => s!"[Errno 21] Is a directory: {quoted path}"
  | blocked .nameTooLong path => s!"[Errno 36] File name too long: {quoted path}"
  | blocked .nullCharacter _ => "embedded null byte"
  | nothingToBackUp path => s!"Cannot backup missing file: {path}"
  | sameFile source target => s!"PosixPath({quoted source}) and {quoted target} are the same file"

end FileFault

end ModWeave
