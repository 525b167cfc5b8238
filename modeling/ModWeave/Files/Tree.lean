import ModWeave.Files.Fault
import ModWeave.ModFile
import ModWeave.OrderedMap
import ModWeave.Report.Workbook
import ModWeave.Sorting

/-!
# File trees

A file tree maps places, which are the parts of absolute paths, to directories and files.  The root is always a
directory.  `walk` follows the parts of a path from a place on: every part but the last has to lead to a directory,
and a step back leads to the directory above.
-/

namespace ModWeave

/-- What stands at a place. -/
inductive Node
  | directory
  | file (bytes : List UInt8)
  /-- A file that holds a workbook. -/
  | workbook (book : Workbook)
deriving DecidableEq, Repr

/-- The parts of an absolute path. -/
abbrev Place := List String

/-- What stands at each place. -/
abbrev FileTree := OrderedMap Place Node

namespace FileTree

/-- What stands at a place. -/
def node? (t : FileTree) (place : Place) : Option Node :=
  if place = [] then some .directory else OrderedMap.get? t place

/-- Whether there is a directory at a place. -/
def isDirectory (t : FileTree) (place : Place) : Bool := t.node? place = some .directory

/-- Whether there is something at a place. -/
def contains (t : FileTree) (place : Place) : Bool := (t.node? place).isSome

/-- Puts a node at a place. -/
def put (t : FileTree) (place : Place) (n : Node) : FileTree := OrderedMap.insert t place n

/-- The places above a place, from the root on. -/
def above (place : Place) : List Place := (List.range place.length).map fun n => place.take n

/-- The greatest number of bytes that a part of a path may have. -/
def maxNameBytes : Nat := 255

/-- The place that some parts lead to from a place.  There need not be anything there yet, but the last part stands
in a directory. -/
def walk (t : FileTree) (start : Place) : List String → Except Obstacle Place
  | [] => .ok start
  | part :: parts =>
    if !t.contains start then .error .missing
    else if !t.isDirectory start then .error .notADirectory
    else if maxNameBytes < part.utf8ByteSize then .error .nameTooLong
    else if part = ".." then t.walk start.dropLast parts
    else t.walk (start ++ [part]) parts

/-- The order of places, part by part. -/
def placeLe : Place → Place → Bool
  | [], _ => true
  | _ :: _, [] => false
  | a :: p, b :: q => if a = b then placeLe p q else leChars a.toList b.toList

/-- The places of the mod files below a place, in order. -/
def modPlaces (t : FileTree) (root : Place) : List Place :=
  let found := t.filter fun (place, n) =>
    root.isPrefixOf place && root ≠ place && n ≠ .directory &&
      (place.getLast?.getD "").toList.reverse.take 3 = ['m', 'd', '.']
  sortBy placeLe (found.map Prod.fst)

end FileTree

end ModWeave
