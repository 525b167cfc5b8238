import ModWeave.Decimal.Shortest
import ModWeave.Report
import ModWeave.Report.Workbook

/-!
# What a workbook keeps of a report

The pages of a report become the sheets of a workbook.  Control characters cannot stand in a text, a long text is cut
off, and line ends are line feeds.  `stored` tells what a file keeps of a workbook: a number is kept with sixteen
significant digits; one with a larger exponent is no whole number any more, and a workbook with a number beyond the
floating-point range cannot be stored.
-/

namespace ModWeave

namespace Cell

/-- The number of characters that a cell can hold. -/
def maxLength : Nat := 32767

/-- Whether a character cannot stand in a cell. -/
def isForbidden (c : Char) : Bool := c.toNat < 0x20 && c ≠ '\t' && c ≠ '\n' && c ≠ '\r'

/-- A text with line feeds for carriage returns and for pairs of both. -/
def unifyFeeds (s : List Char) : List Char :=
  match s with
  | [] => []
  | '\r' :: '\n' :: rest => '\n' :: unifyFeeds rest
  | '\r' :: rest => '\n' :: unifyFeeds rest
  | c :: rest => c :: unifyFeeds rest

/-- The cell of a text. -/
def ofText (s : String) : Except CellFault Cell :=
  let kept := s.toList.take maxLength
  if kept.any isForbidden then .error (.unusable (String.ofList kept))
  else if kept = [] then .ok .empty
  else .ok (.text (String.ofList (unifyFeeds kept)))

/-- The cell of a value. -/
def ofDatum : Report.Datum → Except CellFault Cell
  | .text s => ofText s
  | .number n => .ok (.whole n)

/-- Sixteen digits, written out up to that many places. -/
def numberStyle : Decimal.NumberStyle where
  plainFrom := -4
  plainBelow := 16
  pointZero := false

/-- What a file keeps of an integer. -/
def storedInt (n : Int) : Except CellFault Cell :=
  match (Decimal.Binary.ofInt n).truncate? with
  | none => .error .tooLarge
  | some kept =>
    let rounded := Decimal.significant 16 kept.natAbs
    if rounded.leading < numberStyle.plainBelow then
      let value : Int := rounded.digits * Nat.pow 10 rounded.scale.natAbs
      .ok (.whole (kept.sign * value))
    else .ok (.scaled ((if kept < 0 then "-" else "") ++ String.ofList (Decimal.layout numberStyle rounded)))

/-- What a file keeps of a cell. -/
def stored : Cell → Except CellFault Cell
  | .whole n => storedInt n
  | c => .ok c

end Cell

/-- The sheet of a page. -/
def Sheet.ofPage (p : Report.Page) : Except CellFault Sheet :=
  (p.rows.mapM (List.mapM Cell.ofDatum)).map fun rows => ⟨p.title, rows⟩

/-- What a file keeps of a sheet. -/
def Sheet.stored (s : Sheet) : Except CellFault Sheet :=
  (s.rows.mapM (List.mapM Cell.stored)).map fun rows => { s with rows }

/-- The workbook of some pages. -/
def Workbook.ofPages (pages : List Report.Page) : Except CellFault Workbook := pages.mapM Sheet.ofPage

/-- What a file keeps of a workbook. -/
def Workbook.stored (book : Workbook) : Except CellFault Workbook := book.mapM Sheet.stored

/-- The workbook about a merge. -/
def Report.workbook (definitions : List Definition) (tables : OrderedMap String RemapTable) (warnings : List Warning) :
    Except CellFault Workbook := Workbook.ofPages (pages definitions tables warnings)

end ModWeave
