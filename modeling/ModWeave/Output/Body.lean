import ModWeave.Log
import ModWeave.Output.Block
import ModWeave.Output.Ends
import ModWeave.ScanState

/-!
# The written body of a mod

`bodyFrom` writes the lines of a mod one after the other: lines that are not content are dropped, every other
line stays or gets the new number of its id.  A mod that ends inside a description or a block gives a warning.
What was written before a line that cannot be read is kept in the result, with the fault.
-/

namespace ModWeave.Output

open Text Line

/-- What one line gives. -/
structure LineStep where
  state : ScanState
  lines : List Line
  warning : Option Warning
deriving DecidableEq, Repr

/-- Writes line number `index`, which is content. -/
def contentLine (mod : String) (table : RemapTable) (st : ScanState) (index : Nat) (l : Line) :
    Except Decimal.TooLong LineStep := do
  if st.block.isSome then
    let s ← blockLine mod table st.block index l
    return ⟨st.withBlock s.block, s.lines, s.warning⟩
  else
    match ← classify (clean l) with
    | .blockStart =>
      let r ← entityLine table l
      return ⟨st.withBlock (BlockState.opened index), r.lines, none⟩
    | .entity =>
      let r ← entityLine table l
      return ⟨st, r.lines, none⟩
    | _ => return ⟨st, [l], none⟩

/-- Writes line number `index`, unless it is not content. -/
def line (mod : String) (table : RemapTable) (st : ScanState) (index : Nat) (l : Line) :
    Except Decimal.TooLong LineStep :=
  match st.absorb index (clean l) with
  | some next => .ok ⟨next, [], none⟩
  | none => contentLine mod table st index l

/-- A line that could not be written. -/
structure LineFault where
  mod : String
  index : Nat
  line : Line
  cause : Decimal.TooLong
deriving DecidableEq, Repr

namespace LineFault

/-- The words for the fault. -/
def message (f : LineFault) : String := s!"Error processing line {f.index} in {f.mod}"

/-- What is reported when the fault appears. -/
def log (f : LineFault) : List Log.Entry :=
  [Log.error s!"{f.message}: {f.cause.message}", Log.debug s!"Problematic line content: {String.ofList f.line}"]

end LineFault

/-- The warnings about what a mod leaves open at its end. -/
def endWarnings (mod : String) (st : ScanState) : List Warning :=
  (st.description.map fun n => ⟨some mod, .descriptionLeftOpen n⟩).toList ++
    (st.block.map fun b => ⟨some mod, .blockLeftOpen b.start⟩).toList

/-- The body of a mod as far as it could be written. -/
structure Body where
  /-- What each line became. -/
  chunks : List (List Line)
  warnings : List Warning
  fault : Option LineFault
deriving DecidableEq, Repr

namespace Body

/-- A body with one line more in front. -/
def after (s : LineStep) (b : Body) : Body := ⟨s.lines :: b.chunks, s.warning.toList ++ b.warnings, b.fault⟩

/-- The written lines. -/
def buffer (b : Body) : List Line := b.chunks.flatten

/-- The number of changes that the lines record. -/
def changes (b : Body) : Nat := (b.buffer.filter fun l => commentStart.isPrefixOf l).length

end Body

/-- Writes the lines from number `index` on. -/
def bodyFrom (mod : String) (table : RemapTable) (st : ScanState) (index : Nat) : List Line → Body
  | [] => ⟨[], endWarnings mod st, none⟩
  | l :: lines =>
    match line mod table st index l with
    | .error e => ⟨[], [], some ⟨mod, index, l, e⟩⟩
    | .ok s => (bodyFrom mod table s.state (index + 1) lines).after s

/-- The written body of a mod with the given lines, before repeated block ends are dropped. -/
def body (mod : String) (table : RemapTable) (lines : List Line) : Body :=
  bodyFrom mod table ScanState.initial 0 lines

/-- The result of writing a mod: its lines or the fault, the warnings, and what was reported. -/
structure WrittenMod where
  lines : Except LineFault (List Line)
  warnings : List Warning
  log : List Log.Entry

/-- Writes the body of a mod with the given lines. -/
def mod (name : String) (table : RemapTable) (lines : List Line) : WrittenMod :=
  let b := body name table lines
  match b.fault with
  | some f => ⟨.error f, b.warnings, f.log⟩
  | none =>
    ⟨.ok (collapseEnds b.buffer), b.warnings,
      [Log.debug s!"{name}: {lines.length} lines read, {b.changes} IDs remapped"]⟩

end ModWeave.Output
