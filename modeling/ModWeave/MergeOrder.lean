import ModWeave.Sorting
import ModWeave.Text.Lower

/-!
# The order of mods

Mods are merged in the order of their names in lower case; names that differ in case only follow in the order of
their code points.  The order decides which mod keeps an id and where its lines stand in the output.
-/

namespace ModWeave

/-- A name in lower case. -/
def lowerName (name : String) : List Char := Text.lower name.toList

/-- Whether one name stands before another or is the same. -/
def nameLe (a b : String) : Bool :=
  if lowerName a = lowerName b then leChars a.toList b.toList else leChars (lowerName a) (lowerName b)

/-- Names in merge order. -/
def mergeOrder (names : List String) : List String := sortBy nameLe names

/-- Named things in merge order. -/
def inMergeOrder (name : α → String) (l : List α) : List α := sortBy (fun a b => nameLe (name a) (name b)) l

end ModWeave
