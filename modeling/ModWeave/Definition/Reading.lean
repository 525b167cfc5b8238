import ModWeave.Cancellation
import ModWeave.Definition
import ModWeave.ScanState

/-!
# Reading a mod's definition

`Definition.read` goes through the lines of a mod once.  Lines that open a block and lines outside every block
count with any id that is not bound to blocks; inside a block only its own commands count.  Every 256 lines the
reader asks whether it is to stop.
-/

namespace ModWeave

open Text Line

/-- Why a mod could not be read. -/
inductive ReadFault
  /-- The work was stopped. -/
  | cancelled (mod : String)
  /-- A literal has too many digits. -/
  | tooLong (cause : Decimal.TooLong)
  /-- The mod was refused for a given reason. -/
  | refused (reason : String)
deriving DecidableEq, Repr

/-- The words for a fault. -/
def ReadFault.message : ReadFault → String
  | cancelled mod => s!"Scan of '{mod}' cancelled"
  | tooLong cause => cause.message
  | refused reason => reason

namespace Definition

/-- What one line adds to a definition. -/
structure LineResult where
  state : ScanState
  occurrence : Option Occurrence
  block : Option BlockRegion

/-- The block that ends at a line, or at none. -/
def closing (st : BlockState) (stop : Option Nat) : Option BlockRegion := st.map fun b => ⟨b.start, stop⟩

/-- The occurrence of a token on a line. -/
def occurrence (index : Nat) (t : IdToken) : Occurrence := ⟨t.id, t.command.role, index, t.command.word⟩

/-- Reads a cleaned line that is content. -/
def readContent (st : ScanState) (index : Nat) (l : Line) : Except Decimal.TooLong LineResult := do
  match ← classify l, st.block with
  | .blockStart, _ =>
    -- a block that is still open ends here without a last line
    let token ← idToken? false l
    return ⟨st.withBlock (BlockState.opened index), token.map (occurrence index), closing st.block none⟩
  | .blockEnd, some _ => return ⟨st.withBlock none, none, closing st.block (some index)⟩
  | _, some _ =>
    let block ← st.block.observe l
    let token ← block.subCommand? l
    return ⟨st.withBlock block, token.map (occurrence index), none⟩
  | .entity, none =>
    let token ← idToken? false l
    return ⟨st, token.map (occurrence index), none⟩
  | _, none => return ⟨st, none, none⟩

/-- Reads line number `index` as it is written. -/
def readLine (st : ScanState) (index : Nat) (l : Line) : Except Decimal.TooLong LineResult :=
  match st.absorb index (clean l) with
  | some next => .ok ⟨next, none, none⟩
  | none => readContent st index (clean l)

/-- How many lines are read between two questions whether to stop. -/
def linesPerQuestion : Nat := 256

/-- The number of questions asked while so many lines are read. -/
def questions (lines : Nat) : Nat := (lines + linesPerQuestion - 1) / linesPerQuestion

/-- Whether the reader is told to stop in front of line number `index`. -/
def isStopped (stop : Signal) (index : Nat) : Bool :=
  index % linesPerQuestion = 0 && stop (index / linesPerQuestion)

/-- Reads the lines from number `index` on; `mod` is the name of the mod. -/
def readFrom (mod : String) (stop : Signal) (st : ScanState) (index : Nat) :
    List Line → Except ReadFault (List Occurrence × List BlockRegion)
  | [] => .ok ([], (closing st.block none).toList)
  | l :: lines =>
    if isStopped stop index then .error (.cancelled mod)
    else
      match readLine st index l with
      | .error e => .error (.tooLong e)
      | .ok r =>
        (readFrom mod stop r.state (index + 1) lines).map fun (occurrences, blocks) =>
          (r.occurrence.toList ++ occurrences, r.block.toList ++ blocks)

/-- The definition of a mod. -/
def read (m : ModFile) (stop : Signal) : Except ReadFault Definition :=
  (readFrom m.name stop ScanState.initial 0 m.lines).map fun (occurrences, blocks) => ⟨m, occurrences, blocks⟩

end Definition

end ModWeave
