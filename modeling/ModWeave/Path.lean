/-!
# Paths

A path is absolute or relative and has named parts.  Empty parts and single points vanish when it is read;
`normal` also resolves the parts that lead back.
-/

namespace ModWeave

/-- A path in a file system. -/
structure Path where
  /-- The number of slashes in front: none for a relative path, one or, where a path begins with just two, two. -/
  slashes : Nat
  parts : List String
deriving DecidableEq, Repr

namespace Path

/-- The pieces of a text between slashes. -/
def pieces (s : List Char) : List (List Char) :=
  s.foldr (fun c ps => if c = '/' then [] :: ps else
    match ps with
    | p :: ps => (c :: p) :: ps
    | [] => [[c]]) [[]]

/-- Reads a path. -/
def ofString (s : String) : Path :=
  let chars := s.toList
  let slashes := (chars.takeWhile (· = '/')).length
  let names := (pieces chars).filter fun p => p ≠ [] && p ≠ ['.']
  ⟨if slashes = 0 then 0 else if slashes = 2 then 2 else 1, names.map String.ofList⟩

/-- The path as text; the empty path is a point. -/
def toString (p : Path) : String :=
  if p.slashes = 0 ∧ p.parts = [] then "."
  else String.ofList (List.replicate p.slashes '/') ++ String.intercalate "/" p.parts

instance : ToString Path := ⟨Path.toString⟩

/-- Whether the path starts at the root. -/
def isAbsolute (p : Path) : Bool := p.slashes ≠ 0

/-- The path that leads from `p` on along `q`; an absolute `q` starts anew. -/
def join (p q : Path) : Path := if q.isAbsolute then q else ⟨p.slashes, p.parts ++ q.parts⟩

/-- The path of an entry of a directory. -/
def child (p : Path) (name : String) : Path := ⟨p.slashes, p.parts ++ [name]⟩

/-- The directory that a path lies in. -/
def parent (p : Path) : Path := ⟨p.slashes, p.parts.dropLast⟩

/-- The last part, or nothing for a path without parts. -/
def name (p : Path) : String := p.parts.getLast?.getD ""

/-- A name in front of its last point and from there on; a point at either end of the name does not count. -/
def splitName (s : List Char) : List Char × List Char :=
  let after := s.reverse.takeWhile (· ≠ '.')
  let before := s.take (s.length - after.length - 1)
  if after ≠ [] ∧ before ≠ [] ∧ after.length < s.length then (before, '.' :: after.reverse) else (s, [])

/-- The last part without its suffix. -/
def stem (p : Path) : String := String.ofList (splitName p.name.toList).1

/-- The suffix of the last part with its point, or nothing. -/
def suffix (p : Path) : String := String.ofList (splitName p.name.toList).2

/-- Whether the path holds the null character. -/
def holdsNull (p : Path) : Bool := p.parts.any fun part => part.toList.any (· = '\x00')

/-- The parts with every step back resolved; at the root a step back stays there. -/
def normalParts (parts : List String) : List String :=
  parts.foldl (fun done p => if p = ".." then done.dropLast else done ++ [p]) []

/-- An absolute path with every step back resolved. -/
def normal (p : Path) : Path := ⟨1, normalParts p.parts⟩

end Path

end ModWeave
