import ModWeave.Line.Token
import ModWeave.Remap

/-!
# Lines with new ids

A line whose id changes gets the new literal and a comment in front that records the change.  Every other line
stays as it is written.

New numbers are taken to have few enough digits to be written, as the numbers in the tables of a registry have.  At one
with more digits the program stops instead of writing the line.
-/

namespace ModWeave.Output

open Text Line

/-- How every comment about a change begins. -/
def commentStart : Line := "-- MOD MERGER: Remapped".toList

/-- The comment that records a change: the label and the two numbers as they are shown. -/
def comment (id : EntityId) (number : Int) : Line :=
  commentStart ++ ' ' :: id.label.toList ++ ' ' :: Decimal.write id.shown ++ " -> ".toList ++
    Decimal.write (id.renumber number).shown

/-- A line as it is written out, with the comment that goes in front of it. -/
structure Renumbered where
  line : Line
  comment : Option Line
deriving DecidableEq, Repr

/-- The lines that are written. -/
def Renumbered.lines (r : Renumbered) : List Line := r.comment.toList ++ [r.line]

/-- Gives the given token of a line its new number, if it has one.  This is taken to be a number that can be written; the
refusal of any other is left out. -/
def renumber (table : RemapTable) (l : Line) (t : Option IdToken) : Renumbered :=
  match t with
  | none => ⟨l, none⟩
  | some t =>
    match table.change? t.id with
    | none => ⟨l, none⟩
    | some n => ⟨replaceId l t n, some (comment t.id n)⟩

/-- Gives the id on a line outside spell blocks its new number. -/
def entityLine (table : RemapTable) (l : Line) : Except Decimal.TooLong Renumbered :=
  (idToken? false (clean l)).map (renumber table l)

end ModWeave.Output
