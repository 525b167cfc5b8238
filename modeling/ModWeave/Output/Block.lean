import ModWeave.Output.Renumbered
import ModWeave.SpellBlock
import ModWeave.Warning

/-!
# Writing the lines of a spell block

Inside a block the closing line ends the block, a line that opens another block ends it with a warning, and
every other line may carry an id of the block's own commands.
-/

namespace ModWeave.Output

open Text Line

/-- What one line of a block gives. -/
structure BlockStep where
  block : BlockState
  lines : List Line
  warning : Option Warning
deriving DecidableEq, Repr

/-- Writes line number `index` of a mod, which stands in the given block. -/
def blockLine (mod : String) (table : RemapTable) (st : BlockState) (index : Nat) (l : Line) :
    Except Decimal.TooLong BlockStep := do
  if isBlockEnd (clean l) then return ⟨none, [l], none⟩
  else if isBlockStart (clean l) then
    let r ← entityLine table l
    return ⟨BlockState.opened index, r.lines, some ⟨some mod, .blockCutShort (st.map OpenBlock.start) index⟩⟩
  else
    let block ← st.observe (clean l)
    let t ← block.subCommand? (clean l)
    return ⟨block, (renumber table l t).lines, none⟩

end ModWeave.Output
