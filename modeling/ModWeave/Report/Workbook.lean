/-!
# Workbooks

A workbook is a list of sheets with rows of cells.  A cell holds a text or a number.
-/

namespace ModWeave

/-- What a cell shows. -/
inductive Cell
  | empty
  | text (s : String)
  | whole (n : Int)
  /-- A number that is written with an exponent. -/
  | scaled (s : String)
deriving DecidableEq, Repr

/-- Why a value cannot be put into a cell, or a cell cannot be stored. -/
inductive CellFault
  /-- The text holds a control character. -/
  | unusable (s : String)
  /-- The number to store lies beyond the floating-point range. -/
  | tooLarge
deriving DecidableEq, Repr

/-- The words for a fault. -/
def CellFault.message : CellFault → String
  | unusable s => s!"{s} cannot be used in worksheets."
  | tooLarge => "int too large to convert to float"

/-- A sheet with its title and its rows. -/
structure Sheet where
  title : String
  rows : List (List Cell)
deriving DecidableEq, Repr

/-- The sheets of a workbook. -/
abbrev Workbook := List Sheet

end ModWeave
