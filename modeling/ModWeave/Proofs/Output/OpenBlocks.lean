import Mathlib.Data.List.Basic
import ModWeave.Proofs.Definition.Regions
import ModWeave.Proofs.Output.Faults

/-!
# Warnings about open blocks

The writer keeps no regions, and the reader gives no warnings.  All the same the warnings about blocks are those that the
regions call for (`unclosedWarnings`): one for each region without a last line, in their order, which says whether the
next region cuts the block short or the mod ends inside it.  `regions_and_warnings_of_read` puts this together with what
regions are like.
-/

namespace ModWeave

/-- The line that opened the block of which a warning tells. -/
def Warning.Cause.openedAt? : Warning.Cause → Option Nat
  | .blockCutShort opened _ => opened
  | .blockLeftOpen opened => some opened
  | _ => none

namespace Output

open Text Line Definition

/-- The warning for which a region calls, given the region behind it. -/
def unclosed? (mod : String) (b : BlockRegion) : Option BlockRegion → Option Warning
  | some next => if b.stop = none then some ⟨some mod, .blockCutShort (some b.start) next.start⟩ else none
  | none => if b.stop = none then some ⟨some mod, .blockLeftOpen b.start⟩ else none

/-- The warnings for which some regions call. -/
def unclosedWarnings (mod : String) : List BlockRegion → List Warning
  | [] => []
  | b :: bs => (unclosed? mod b bs.head?).toList ++ unclosedWarnings mod bs

/-- Whether a warning tells of a block that is not closed. -/
def tellsOfBlock (w : Warning) : Bool := w.cause.kind = .unterminatedBlock

variable {mod : String} {table : RemapTable} {st last : ScanState} {index : Nat} {lines : List Line}
  {rs : List LineResult}

theorem unclosed?_of_closed {b : BlockRegion} {s : Nat} (closed : b.stop = some s) (next : Option BlockRegion) :
    unclosed? mod b next = none := by
  cases next <;> simp [unclosed?, closed]

/-- Each open region calls for one warning about the line with which it begins. -/
theorem map_unclosedWarnings (mod : String) (bs : List BlockRegion) :
    (unclosedWarnings mod bs).map (fun w => (w.mod, w.cause.openedAt?)) =
      (bs.filter fun b => b.stop = none).map fun b => (some mod, some b.start) := by
  induction bs with
  | nil => rfl
  | cons b bs ih =>
    rw [unclosedWarnings, List.map_append, ih]
    cases stop : b.stop with
    | some s => simp [unclosed?_of_closed stop, stop]
    | none => cases next : bs.head? <;> simp [unclosed?, stop, Warning.Cause.openedAt?]

private theorem filter_endWarnings (mod : String) (st : ScanState) :
    (endWarnings mod st).filter tellsOfBlock = unclosedWarnings mod (regionsOf [] st) := by
  have not_told : ∀ n, tellsOfBlock ⟨some mod, .descriptionLeftOpen n⟩ = false := fun _ => rfl
  have told : ∀ n, tellsOfBlock ⟨some mod, .blockLeftOpen n⟩ = true := fun _ => rfl
  rw [regionsOf_nil, ScanState.openedAt?, endWarnings]
  cases st.description <;> cases st.block <;> simp [unclosedWarnings, unclosed?, not_told, told]

/-- The writer warns of the blocks that the regions leave open. -/
theorem filter_warnings_bodyFrom (run : Run st index lines rs last) :
    (bodyFrom mod table st index lines).warnings.filter tellsOfBlock = unclosedWarnings mod (regionsOf rs last) := by
  induction run with
  | nil => exact filter_endWarnings mod _
  | @cons st last index l lines r rs step rest ih =>
    rw [bodyFrom_cons step, regionsOf_cons]
    show ((r.block.bind (cutShort mod index)).toList ++ _).filter tellsOfBlock = _
    rw [List.filter_append, ih]
    cases blockMove_of_readLine step with
    | opens opens opened region =>
      -- the first of the regions behind is the one that begins here
      have next := rest.head?_regionsOf opened
      obtain ⟨c, head_eq, start_eq⟩ := Option.map_eq_some_iff.1 next
      rw [region]
      cases inside : st.openedAt? with
      | none => rfl
      | some s =>
        have told : tellsOfBlock ⟨some mod, .blockCutShort (some s) index⟩ = true := rfl
        simp [unclosedWarnings, unclosed?, head_eq, start_eq, cutShort, told]
    | @closes s not_opens inside closed region =>
      have no_warning : unclosed? mod ⟨s, some index⟩ (regionsOf rs last).head? = none := unclosed?_of_closed rfl _
      rw [region]
      simp [unclosedWarnings, no_warning, cutShort]
    | stays not_opens same region =>
      rw [region]
      rfl

/-- The regions of a mod that can be read begin in increasing order, exactly at the lines of content that open a block;
those that are closed end behind their beginning, and each begins behind the end of those in front, or behind their
beginning if they are open.  The mod can be written, whatever new numbers there are, as long as these have few enough
digits (`renumber` does not refuse others as the program does), and the warnings about blocks then are those for which the
regions call, one for each open region, about the line with which it begins. -/
theorem regions_and_warnings_of_read {m : ModFile} {stop : Signal} {d : Definition}
    (read : Definition.read m stop = .ok d) (name : String) (table : RemapTable) :
    d.blocks.Pairwise (fun b c => b.start < c.start) ∧
      (∀ b ∈ d.blocks, ∀ s ∈ b.stop, b.start < s) ∧
      d.blocks.Pairwise (fun b c => b.stop.getD b.start < c.start) ∧
      (∀ i, (∃ b ∈ d.blocks, b.start = i) ↔ Remains (m.lines.map clean) i ∧
        ∃ l, (m.lines.map clean)[i]? = some l ∧ classify l = .ok .blockStart) ∧
      (∃ written, (Output.mod name table m.lines).lines = .ok written) ∧
      (Output.mod name table m.lines).warnings.filter tellsOfBlock = unclosedWarnings name d.blocks ∧
      ((Output.mod name table m.lines).warnings.filter tellsOfBlock).map (fun w => (w.mod, w.cause.openedAt?)) =
        (d.blocks.filter fun b => b.stop = none).map fun b => (some name, some b.start) := by
  obtain ⟨rs, last, run, blocks_eq⟩ := exists_run_regions_of_read read
  obtain ⟨sequence, starts_iff⟩ := regions_of_read read
  have no_fault : (body name table m.lines).fault = none := fault_bodyFrom_of_run run
  have warnings_eq : (Output.mod name table m.lines).warnings.filter tellsOfBlock = unclosedWarnings name d.blocks := by
    rw [blocks_eq, Output.mod, no_fault]
    exact filter_warnings_bodyFrom run
  refine ⟨sequence.pairwise_start, sequence.start_lt_stop, sequence.pairwise, fun i => ?_,
    exists_lines_mod_of_read read name table, warnings_eq, ?_⟩
  · rw [starts_iff, opensBlock_iff]
  · rw [warnings_eq, map_unclosedWarnings]

/-- A mod with a block in a description, a block in a block, an end outside all blocks, and a block and a description that
are not closed at the end. -/
def raggedMod : ModFile :=
  ModFile.named "ragged" (joinLines (["#newspell", "#description \"odd", "#newspell", "end\"", "#selectspell 1300",
    "#end", "#end", "#newspell", "#damage 5", "#description \"never"].map String.toList))

/-- What the mod declares, and its regions. -/
def raggedDefinition : Definition where
  mod := raggedMod
  occurrences := [⟨⟨.spell, 1300⟩, .declaration, 4, "selectspell".toList⟩,
    ⟨⟨.monster, 5⟩, .reference, 8, "damage".toList⟩]
  blocks := [⟨0, none⟩, ⟨4, some 5⟩, ⟨7, none⟩]

theorem read_raggedMod : Definition.read raggedMod Signal.never = .ok raggedDefinition := by decide +kernel

/-- The first block is cut short by the second, and the last one is left open. -/
theorem regions_and_warnings_raggedMod :
    Definition.read raggedMod Signal.never = .ok raggedDefinition ∧
      (Output.mod "ragged" [(⟨.spell, 1300⟩, 1301)] raggedMod.lines).warnings.filter tellsOfBlock =
        [⟨some "ragged", .blockCutShort (some 0) 4⟩, ⟨some "ragged", .blockLeftOpen 7⟩] ∧
      ¬ (Remains (raggedMod.lines.map clean) 2 ∧
        ∃ l, (raggedMod.lines.map clean)[2]? = some l ∧ classify l = .ok .blockStart) := by
  obtain ⟨-, -, -, starts_iff, -, warnings_eq, -⟩ :=
    regions_and_warnings_of_read read_raggedMod "ragged" [(⟨.spell, 1300⟩, 1301)]
  refine ⟨read_raggedMod, warnings_eq, ?_⟩
  rw [← starts_iff]
  decide

end Output

end ModWeave
