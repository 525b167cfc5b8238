import ModWeave.SpellBlock

/-!
# Reading a mod line by line

Between two lines the reader knows whether it is inside a description and inside a spell block.  `absorb` takes
the lines that are not content: a blank first line, statements about the mod itself, and descriptions up to the
line with the closing quotation mark.
-/

namespace ModWeave

open Text Line

/-- What a reader of a mod knows between two lines. -/
structure ScanState where
  /-- The line that opened the description that is not closed yet. -/
  description : Option Nat
  block : BlockState
deriving DecidableEq, Repr

namespace ScanState

/-- The state in front of the first line. -/
def initial : ScanState := ⟨none, none⟩

/-- The state with another block. -/
def withBlock (st : ScanState) (block : BlockState) : ScanState := { st with block }

/-- The state after the cleaned line number `index`, if the line is not content. -/
def absorb (st : ScanState) (index : Nat) (l : Line) : Option ScanState :=
  let l := trim l
  if st.description.isSome then
    some (if '"' ∈ l then { st with description := none } else st)
  else if index = 0 ∧ l = [] then some st
  else if isDescriptionStart l then some { st with description := some index }
  else if isMetadata l then some st
  else none

end ScanState

end ModWeave
