import ModWeave.Proofs.Merge.InputOrder
import ModWeave.Proofs.Output.Faults
import ModWeave.Proofs.Registry.Outcome

/-!
# What can be read can be written

Reader and writer stop at the same line of a mod, if they stop, and only because of a literal with too many digits
(`reader_and_writer_stop_alike`).  So a merge whose mods were read and whose ids were resolved does not fail in its last
phase: the definitions that a scan joins come of mods that can be read (`exists_read_of_mem_scan`), and writing such
mods has no fault (`fault_streamFrom_eq_none`).
-/

namespace ModWeave

open Text Line Definition

/-- The mods that are not left out. -/
def Merge.selected (ignored : List (List Char)) (mods : List ModFile) : List ModFile :=
  mods.filter fun m => !Merge.isIgnored ignored m

/-- The scan of the mods that are selected for a merge. -/
def MergePlan.scan (plan : MergePlan) (selected : List ModFile) : Scan.Result :=
  Scan.run Definition.read plan.stop false plan.workers selected (plan.ended selected)

section Scan

variable {reader : Reader} {stop : Signal} {tolerant : Bool} {ms : List ModFile} {d : Definition}

private theorem read_of_task {m : ModFile} (done : Scan.task reader stop m = .ok d) :
    reader m (stop.later 1) = .ok d := by
  unfold Scan.task at done
  split at done
  · cases done
  · exact done

theorem exists_read_of_mem_join (h : d ∈ (Scan.join reader stop tolerant ms).definitions) :
    ∃ m signal, reader m signal = .ok d := by
  induction ms with
  | nil => cases h
  | cons m ms ih =>
    unfold Scan.join at h
    split at h
    · cases h
    · split at h
      · exact ih h
      · cases h
    · rename_i e done
      simp only at h
      split at h
      · obtain rfl := List.mem_singleton.1 h
        exact ⟨m, _, read_of_task done⟩
      · rcases List.mem_cons.1 h with rfl | h
        · exact ⟨m, _, read_of_task done⟩
        · exact ih h

theorem exists_read_of_mem_scan {plan : MergePlan} {selected : List ModFile}
    (h : d ∈ (plan.scan selected).definitions) : ∃ signal, Definition.read d.mod signal = .ok d := by
  unfold MergePlan.scan Scan.run at h
  split at h
  · cases h
  · obtain ⟨m, signal, read⟩ := exists_read_of_mem_join h
    exact ⟨signal, by rw [mod_of_read read, read]⟩

end Scan

namespace Output

theorem fault_streamFrom_eq_none {mods : List MappedMod}
    (readable : ∀ m ∈ mods, ∃ d signal, Definition.read m.mod signal = .ok d) : (streamFrom mods).fault = none := by
  induction mods with
  | nil => rfl
  | cons m mods ih =>
    obtain ⟨d, signal, read⟩ := readable m (by simp)
    obtain ⟨written, lines_eq⟩ := exists_lines_mod_of_read read m.name m.table
    unfold streamFrom
    simp only [lines_eq]
    exact ih fun k hk => readable k (List.mem_cons_of_mem _ hk)

theorem fault_stream_eq_none {mods : List MappedMod}
    (readable : ∀ m ∈ mods, ∃ d signal, Definition.read m.mod signal = .ok d) : (stream mods).fault = none :=
  fault_streamFrom_eq_none fun m hm => readable m (mem_sortBy.1 hm)

end Output

namespace Merge

theorem ofDefinitions_of_resolved {settings : Settings} {ds : List Definition} {tables : OrderedMap String RemapTable}
    (readable : ∀ d ∈ ds, ∃ signal, Definition.read d.mod signal = .ok d)
    (resolved : (resolveIds settings.ranges ds).2 = .ok tables) :
    (ofDefinitions settings ds).1.succeeded = true ∧ (ofDefinitions settings ds).1.tables = tables := by
  have no_fault : (Output.stream ((inMergeOrder Definition.name ds).map (mapped tables))).fault = none := by
    refine Output.fault_stream_eq_none fun m hm => ?_
    obtain ⟨d, hd, rfl⟩ := List.mem_map.1 hm
    obtain ⟨signal, read⟩ := readable d (mem_sortBy.1 hd)
    exact ⟨d, signal, read⟩
  unfold ofDefinitions
  simp only [resolved, no_fault]
  exact ⟨rfl, trivial⟩

end Merge

/-- Writing a mod fails exactly where reading it does, at the same line and for the same reason.  Both stop in front of
the first content line off which a literal with too many digits is taken: that of an id or, inside a block, that of an
effect.  New numbers are no reason to stop: where those of a table can be written, so can both numbers that a changed
line prints.  A merge whose mods were read and whose ids were resolved succeeds, and all its new numbers can be
written. -/
theorem reader_and_writer_stop_alike :
    (∀ (m : ModFile) (table : RemapTable),
      (∀ f, (Output.mod m.name table m.lines).lines = .error f ↔
        f.mod = m.name ∧ Stops ScanState.initial 0 m.lines f.index f.line f.cause) ∧
      ∀ err, Definition.read m Signal.never = .error err ↔
        ∃ i l e, err = .tooLong e ∧ Stops ScanState.initial 0 m.lines i l e) ∧
    (∀ table : RemapTable, (∀ p ∈ table, Decimal.isWritable p.2 = true) →
      ∀ inBlock l t n, idToken? inBlock (clean l) = .ok (some t) → table.change? t.id = some n →
        Decimal.isWritable t.number = true ∧ Decimal.isWritable n = true) ∧
    (∀ lines i l e, Stops ScanState.initial 0 lines i l e ↔
      lines[i]? = some l ∧ ∃ rs st, Run ScanState.initial 0 (lines.take i) rs st ∧ st.absorb i (clean l) = none ∧
        ∃ s, Takes st (clean l) s ∧ Overlong s e) ∧
    ∀ (plan : MergePlan) (mods : List ModFile) ignored tables,
      Merge.ignoredNames? plan.settings.ignoreMods = some ignored →
      (plan.scan (Merge.selected ignored mods)).fault = none →
      (resolveIds plan.settings.ranges (plan.scan (Merge.selected ignored mods)).definitions).2 = .ok tables →
      ∃ m log, merge? plan mods = some (m, log) ∧ m.succeeded = true ∧ m.tables = tables ∧
        ∀ t ∈ tables, ∀ p ∈ t.2, Decimal.isWritable p.2 = true := by
  refine ⟨fun m table => ⟨fun f => Output.lines_mod_eq_error_iff, fun err => read_eq_error_iff⟩, ?_, ?_, ?_⟩
  · intro table writable inBlock l t n token change
    exact ⟨isWritable_of_idToken? token, RemapTable.isWritable_of_change? writable change⟩
  · intro lines i l e
    simpa only [Nat.zero_add] using @stops_iff ScanState.initial 0 l e i lines
  · intro plan mods ignored tables entries scanned resolved
    obtain ⟨log, merged⟩ := Merge.merge?_eq_some entries mods
    obtain ⟨succeeded, tables_eq⟩ := Merge.ofDefinitions_of_resolved (fun d => exists_read_of_mem_scan) resolved
    have same : (Merge.ofSelected plan (Merge.selected ignored mods)).1 =
        (Merge.ofDefinitions plan.settings (plan.scan (Merge.selected ignored mods)).definitions).1 := by
      rw [Merge.ofSelected, ← MergePlan.scan, scanned]
    rw [← Merge.selected, same] at merged
    exact ⟨_, log, merged, succeeded, tables_eq, Registry.isWritable_of_resolve resolved⟩

/-- A mod with an effect of too many digits. -/
def loudMod : ModFile :=
  ModFile.named "loud" ("#newspell\n#effect ".toList ++ List.replicate 4301 '9' ++ "\n#end\n".toList)

theorem fault_loudMod : (Output.body "loud" [] loudMod.lines).fault.map (fun f => (f.index, f.cause)) =
    some (1, ⟨4301⟩) := by decide +kernel

/-- Two mods that declare the same monster. -/
def rivalMods : List ModFile :=
  [ModFile.named "Alpha" "#newmonster 3500\n#end\n".toList, ModFile.named "beta" "#newmonster 3500\n#end\n".toList]

def rivalPlan : MergePlan := MergePlan.plain {} none

def betaTable : RemapTable := [(⟨.monster, 3500⟩, 3501)]

def rivalModTables : OrderedMap String RemapTable := [("Alpha", []), ("beta", betaTable)]

/-- Reading stops where writing does.  Mods that collide are merged; the number that one of them gets can be written, on
its own and on a line that refers to the monster. -/
theorem reader_and_writer_stop_alike_loudMod :
    (∃ f, (Output.mod "loud" [] loudMod.lines).lines = .error f ∧ f.index = 1 ∧ f.cause = ⟨4301⟩ ∧
      Definition.read loudMod Signal.never = .error (.tooLong ⟨4301⟩)) ∧
    Merge.ignoredNames? rivalPlan.settings.ignoreMods = some [] ∧
    (rivalPlan.scan (Merge.selected [] rivalMods)).fault = none ∧
    (resolveIds rivalPlan.settings.ranges (rivalPlan.scan (Merge.selected [] rivalMods)).definitions).2 =
      .ok rivalModTables ∧
    (∃ m log, merge? rivalPlan rivalMods = some (m, log) ∧ m.succeeded = true ∧ m.tables = rivalModTables) ∧
    (∀ p ∈ betaTable, Decimal.isWritable p.2 = true) ∧
    ∃ t, idToken? false (clean "#copystats 3500".toList) = .ok (some t) ∧ betaTable.change? t.id = some 3501 ∧
      Decimal.isWritable t.number = true ∧ Decimal.isWritable 3501 = true := by
  obtain ⟨alike, prints, -, merges⟩ := reader_and_writer_stop_alike
  have entries : Merge.ignoredNames? rivalPlan.settings.ignoreMods = some [] := by decide +kernel
  have scanned : (rivalPlan.scan (Merge.selected [] rivalMods)).fault = none := by decide +kernel
  have resolved : (resolveIds rivalPlan.settings.ranges (rivalPlan.scan (Merge.selected [] rivalMods)).definitions).2 =
      .ok rivalModTables := by decide +kernel
  obtain ⟨m, log, merged, succeeded, tables, writable⟩ := merges rivalPlan rivalMods [] rivalModTables entries scanned resolved
  have few : ∀ p ∈ betaTable, Decimal.isWritable p.2 = true := writable ("beta", betaTable) (by simp [rivalModTables])
  have token : idToken? false (clean "#copystats 3500".toList) =
      .ok (some ⟨⟨"copystats".toList, .monster, .reference, false, false⟩, 3500, 11, 15⟩) := by decide +kernel
  have change : betaTable.change? ⟨.monster, 3500⟩ = some 3501 := by decide
  refine ⟨?_, entries, scanned, resolved, ⟨m, log, merged, succeeded, tables⟩, few, _, token, change,
    prints betaTable few false _ _ 3501 token change⟩
  obtain ⟨written, read⟩ := alike loudMod []
  obtain ⟨f, fault, place⟩ := Option.map_eq_some_iff.1 fault_loudMod
  obtain ⟨index, cause⟩ := Prod.mk.inj place
  have refused : (Output.mod "loud" [] loudMod.lines).lines = .error f := by
    rw [Output.mod]
    simp only [fault]
  exact ⟨f, refused, index, cause, (read _).2 ⟨f.index, f.line, f.cause, by rw [cause], ((written f).1 refused).2⟩⟩

end ModWeave
