import ModWeave.Proofs.Definition.Stops
import ModWeave.Proofs.Output.Lockstep

/-!
# Where the writer stops

The writer of a body stops at a line exactly if the reader of its definition does, and for the same reason, whatever new
numbers there are (`lines_mod_eq_error_iff`).  What it prints on a line that changes are the number that was read there
and the new one; the old one has few enough digits because it was read (`isWritable_of_idToken?`).  A new one of too
many digits cannot be printed, but no table of a run holds one (`isWritable_of_resolve`), and `Output.renumber` leaves
this case out.
-/

namespace ModWeave

open Text Line Definition

theorem RemapTable.isWritable_of_change? {table : RemapTable} {id : EntityId} {n : Int}
    (writable : ∀ p ∈ table, Decimal.isWritable p.2 = true) (change : table.change? id = some n) :
    Decimal.isWritable n = true := by
  obtain ⟨entry, -⟩ := Option.filter_eq_some_iff.1 change
  obtain ⟨p, found, rfl⟩ := Option.map_eq_some_iff.1 entry
  exact writable p (List.mem_of_find?_eq_some found)

namespace Output

/-! ### Lines that cannot be written -/

variable {mod : String} {table : RemapTable} {st : ScanState} {index : Nat} {lines : List Line} {f : LineFault}

theorem fault_bodyFrom_eq_some_iff : (bodyFrom mod table st index lines).fault = some f ↔
    f.mod = mod ∧ Stops st index lines f.index f.line f.cause := by
  induction lines generalizing st index with
  | nil => simp [bodyFrom, not_stops_nil]
  | cons l lines ih =>
    cases step : readLine st index l with
    | ok r =>
      rw [bodyFrom_cons step, stops_cons_of_ok step]
      exact ih
    | error e =>
      rw [bodyFrom, line_eq_follow, step, stops_cons_of_error step]
      constructor
      · rintro ⟨⟩
        exact ⟨rfl, rfl, rfl, rfl⟩
      · cases f
        rintro ⟨rfl, rfl, rfl, rfl⟩
        rfl

theorem lines_mod_eq_error_iff : (Output.mod mod table lines).lines = .error f ↔
    f.mod = mod ∧ Stops ScanState.initial 0 lines f.index f.line f.cause := by
  rw [← fault_bodyFrom_eq_some_iff, Output.mod, body]
  cases bodyFrom mod table ScanState.initial 0 lines with
  | mk chunks warnings fault => cases fault <;> simp

theorem lines_mod_eq_ok_iff {out : List Line} : (Output.mod mod table lines).lines = .ok out ↔
    (body mod table lines).fault = none ∧ collapseEnds (body mod table lines).buffer = out := by
  rw [Output.mod]
  cases body mod table lines with
  | mk chunks warnings fault => cases fault <;> simp

/-- A mod that was read can be written. -/
theorem exists_lines_mod_of_read {m : ModFile} {stop : Signal} {d : Definition} (read : Definition.read m stop = .ok d)
    (name : String) (table : RemapTable) : ∃ written, (Output.mod name table m.lines).lines = .ok written := by
  obtain ⟨rs, last, run, -⟩ := run_of_read read
  have no_fault : (body name table m.lines).fault = none := fault_bodyFrom_of_run run
  refine ⟨collapseEnds (body name table m.lines).buffer, ?_⟩
  rw [Output.mod]
  simp only [no_fault]

end Output

end ModWeave
