import ModWeave.Proofs.Definition.Run
import ModWeave.Proofs.Merge.Joining
import ModWeave.Proofs.MergeOrder

/-!
# The order of the inputs

What a merge gives does not depend on the order in which its mods are given, on the number of workers, or on the order
in which the tasks of the scan end (`merge?_perm`): a scan joins the same definitions in some order, and from then on
all work is done in merge order.
-/

namespace ModWeave

/-- A merge that nobody stops, with a good number of workers, whose tasks end in any order. -/
structure MergePlan.Undisturbed (plan : MergePlan) : Prop where
  workers : ∀ n ∈ plan.workers, 1 ≤ n
  stop : plan.stop = Signal.never
  ended : ∀ l, (plan.ended l).Perm l

namespace Merge

variable {settings : Settings} {ds ds' : List Definition}

theorem resolveIds_eq_of_perm (ranges : RangeMap) (perm : ds.Perm ds') (names : (ds.map Definition.name).Nodup) :
    resolveIds ranges ds = resolveIds ranges ds' := by
  rw [resolveIds, Registry.resolve, inMergeOrder_eq_of_perm perm names]
  rfl

/-- Definitions are resolved and written in merge order, in whatever order they come. -/
theorem ofDefinitions_eq_of_perm (perm : ds.Perm ds') (names : (ds.map Definition.name).Nodup) :
    ofDefinitions settings ds = ofDefinitions settings ds' := by
  rw [ofDefinitions, ofDefinitions, resolveIds_eq_of_perm settings.ranges perm names, inMergeOrder_eq_of_perm perm names]

/-- The definitions of some mods are those of the mods that can be read, each under the name of its mod. -/
theorem map_name_filterMap_definition? (ms : List ModFile) :
    ((ms.filterMap (Scan.definition? Definition.read)).map Definition.name).Sublist (ms.map ModFile.name) := by
  induction ms with
  | nil => exact List.Sublist.refl _
  | cons m ms ih =>
    cases read : Definition.read m Signal.never with
    | ok d =>
      have readable : Scan.definition? Definition.read m = some d := by rw [Scan.definition?, read]; rfl
      have name_eq : d.name = m.name := congrArg ModFile.name (Definition.mod_of_read read)
      rw [List.filterMap_cons_some readable, List.map_cons, List.map_cons, name_eq]
      exact ih.cons_cons _
    | error e =>
      have unreadable : Scan.definition? Definition.read m = none := by rw [Scan.definition?, read]; rfl
      rw [List.filterMap_cons_none unreadable]
      exact ih.cons _

section Undisturbed

variable {plan plan' : MergePlan} {selected selected' : List ModFile}

theorem scan_of_undisturbed (h : plan.Undisturbed) (names : (selected.map ModFile.name).Nodup) :
    Scan.run Definition.read plan.stop false plan.workers selected (plan.ended selected) =
      Scan.join Definition.read Signal.never false (plan.ended selected) := by
  rw [h.stop, Scan.run_eq_join h.workers names]

theorem ofSelected_of_readable (h : plan.Undisturbed) (names : (selected.map ModFile.name).Nodup)
    (readable : ∀ m ∈ selected, (Scan.definition? Definition.read m).isSome = true) :
    (ofSelected plan selected).1 =
      (ofDefinitions plan.settings ((plan.ended selected).filterMap (Scan.definition? Definition.read))).1 := by
  have no_fault : (Scan.join Definition.read Signal.never false (plan.ended selected)).fault = none :=
    Scan.fault_join_eq_none_iff.2 fun m hm => readable m ((h.ended selected).mem_iff.1 hm)
  rw [ofSelected, scan_of_undisturbed h names]
  simp only [no_fault, Scan.definitions_join no_fault]

theorem succeeded_ofSelected_of_unreadable (h : plan.Undisturbed) (names : (selected.map ModFile.name).Nodup)
    (unreadable : ¬ ∀ m ∈ selected, (Scan.definition? Definition.read m).isSome = true) :
    (ofSelected plan selected).1.succeeded = false := by
  have fault : (Scan.join Definition.read Signal.never false (plan.ended selected)).fault ≠ none := fun no_fault =>
    unreadable fun m hm => Scan.fault_join_eq_none_iff.1 no_fault m ((h.ended selected).mem_iff.2 hm)
  rw [ofSelected, scan_of_undisturbed h names]
  cases found : (Scan.join Definition.read Signal.never false (plan.ended selected)).fault with
  | none => exact absurd found fault
  | some f => rfl

/-- Merges of the same selected mods either both fail or give the same. -/
theorem ofSelected_perm (h : plan.Undisturbed) (h' : plan'.Undisturbed) (settings : plan.settings = plan'.settings)
    (perm : selected.Perm selected') (names : (selected.map ModFile.name).Nodup) :
    (ofSelected plan selected).1.succeeded = (ofSelected plan' selected').1.succeeded ∧
      ((ofSelected plan selected).1.succeeded = true → (ofSelected plan selected).1 = (ofSelected plan' selected').1) := by
  have names' : (selected'.map ModFile.name).Nodup := (perm.map _).nodup_iff.1 names
  by_cases readable : ∀ m ∈ selected, (Scan.definition? Definition.read m).isSome = true
  · have readable' : ∀ m ∈ selected', (Scan.definition? Definition.read m).isSome = true := fun m hm =>
      readable m (perm.mem_iff.2 hm)
    have ended : (plan.ended selected).Perm (plan'.ended selected') :=
      ((h.ended selected).trans perm).trans (h'.ended selected').symm
    have ended_names : ((plan.ended selected).map ModFile.name).Nodup := ((h.ended selected).map _).nodup_iff.2 names
    have same : (ofSelected plan selected).1 = (ofSelected plan' selected').1 := by
      rw [ofSelected_of_readable h names readable, ofSelected_of_readable h' names' readable', settings,
        ofDefinitions_eq_of_perm (ended.filterMap _) ((map_name_filterMap_definition? _).nodup ended_names)]
    exact ⟨congrArg succeeded same, fun _ => same⟩
  · have unreadable' : ¬ ∀ m ∈ selected', (Scan.definition? Definition.read m).isSome = true := fun all =>
      readable fun m hm => all m (perm.mem_iff.1 hm)
    have failed := succeeded_ofSelected_of_unreadable h names readable
    rw [failed, succeeded_ofSelected_of_unreadable h' names' unreadable']
    exact ⟨rfl, by simp⟩

end Undisturbed

/-- The result of a merge is that of the selected mods. -/
theorem merge?_eq_some {plan : MergePlan} {ignored : List (List Char)}
    (entries : ignoredNames? plan.settings.ignoreMods = some ignored) (mods : List ModFile) :
    ∃ log, merge? plan mods = some ((ofSelected plan (mods.filter fun m => !isIgnored ignored m)).1, log) := by
  rw [merge?, entries]
  exact ⟨_, rfl⟩

end Merge

/-- Two merges with the same settings of the same mods, whose names differ, either both come to nothing because of the
settings, or both fail, or both succeed and give the same lines, warnings, tables and definitions in the same order;
the order of the mods, the number of workers and the order in which the tasks end do not matter. -/
theorem merge?_perm {plan plan' : MergePlan} (h : plan.Undisturbed) (h' : plan'.Undisturbed)
    (settings : plan.settings = plan'.settings) {mods mods' : List ModFile} (perm : mods.Perm mods')
    (names : (mods.map ModFile.name).Nodup) :
    (merge? plan mods = none ∧ merge? plan' mods' = none) ∨
      ∃ m log m' log', merge? plan mods = some (m, log) ∧ merge? plan' mods' = some (m', log') ∧
        m.succeeded = m'.succeeded ∧ (m.succeeded = true → m = m') := by
  cases entries : Merge.ignoredNames? plan.settings.ignoreMods with
  | none =>
    refine Or.inl ⟨by rw [merge?, entries]; rfl, ?_⟩
    rw [settings] at entries
    rw [merge?, entries]
    rfl
  | some ignored =>
    obtain ⟨log, merged⟩ := Merge.merge?_eq_some entries mods
    obtain ⟨log', merged'⟩ := Merge.merge?_eq_some (settings ▸ entries) mods'
    have selected_names : ((mods.filter fun m => !Merge.isIgnored ignored m).map ModFile.name).Nodup :=
      names.sublist (List.filter_sublist.map _)
    exact Or.inr ⟨_, log, _, log', merged, merged', Merge.ofSelected_perm h h' settings (perm.filter _) selected_names⟩

/-- A mod whose name is written with a capital letter. -/
def capitalMod : ModFile := ModFile.named "Alpha" "#newmonster 3500\n#end\n".toList

/-- A mod with a monster of the same number. -/
def smallMod : ModFile := ModFile.named "beta" "#newmonster 3500\n#copystats 3500\n#end\n".toList

def oneWorker : MergePlan := MergePlan.plain {} none

/-- A plan whose tasks end in the opposite order. -/
def twoWorkers : MergePlan := ⟨{}, some 2, Signal.never, List.reverse⟩

theorem undisturbed_oneWorker : oneWorker.Undisturbed := ⟨by simp [oneWorker, MergePlan.plain], rfl, List.Perm.refl⟩

theorem undisturbed_twoWorkers : twoWorkers.Undisturbed := ⟨by simp [twoWorkers], rfl, List.reverse_perm⟩

/-- Two mods that collide are merged to the same, in whatever order they come. -/
theorem merge?_collidingMods :
    oneWorker.Undisturbed ∧ twoWorkers.Undisturbed ∧ [capitalMod, smallMod].Perm [smallMod, capitalMod] ∧
      ([capitalMod, smallMod].map ModFile.name).Nodup ∧
      ∃ m log log', merge? oneWorker [capitalMod, smallMod] = some (m, log) ∧
        merge? twoWorkers [smallMod, capitalMod] = some (m, log') ∧ m.succeeded = true ∧
        m.tables = [("Alpha", []), ("beta", [(⟨.monster, 3500⟩, 3501)])] := by
  have perm : [capitalMod, smallMod].Perm [smallMod, capitalMod] := List.Perm.swap _ _ _
  have names : ([capitalMod, smallMod].map ModFile.name).Nodup := by decide
  refine ⟨undisturbed_oneWorker, undisturbed_twoWorkers, perm, names, ?_⟩
  have merged : (merge? oneWorker [capitalMod, smallMod]).map (fun r => (r.1.succeeded, r.1.tables)) =
      some (true, [("Alpha", []), ("beta", [(⟨.monster, 3500⟩, 3501)])]) := by decide +kernel
  rcases merge?_perm undisturbed_oneWorker undisturbed_twoWorkers rfl perm names with
    ⟨nothing, -⟩ | ⟨m, log, m', log', one, two, -, same⟩
  · rw [nothing] at merged
    cases merged
  · rw [one] at merged
    obtain ⟨succeeded, tables⟩ := Prod.mk.inj (Option.some.inj merged)
    obtain rfl := same succeeded
    exact ⟨m, log, log', one, two, succeeded, tables⟩

end ModWeave
