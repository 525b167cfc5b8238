import ModWeave.Proofs.Merge.Writable

/-!
# Merges that are stopped

A merge that fails has no lines.  A merge of a single mod asks `2 + questions L` times whether it is to stop, where `L`
is the number of lines of the mod: in front of the reading, in front of every 256th line, and behind the reading.  If
all answers are no, it gives what it gives when nobody stops it, and the first yes ends it
(`merge?_all_or_nothing`).

Of the reader two facts are shown for any signal: answers of no leave the reading as it is
(`Definition.read_of_unstopped`), and an answer of yes ends the reading of a mod that can be read
(`Definition.read_of_stopped`).
-/

namespace ModWeave

namespace Definition

open Text

variable {stop : Signal} {mod : String} {st : ScanState} {index : Nat} {lines : List Line}

theorem readFrom_of_unstopped (unstopped : ∀ i, index ≤ i → i < index + lines.length → isStopped stop i = false) :
    readFrom mod stop st index lines = readFrom mod Signal.never st index lines := by
  induction lines generalizing st index with
  | nil => rfl
  | cons l lines ih =>
    have here : ¬ isStopped stop index = true := by simp [unstopped index (Nat.le_refl _) (by simp)]
    have never : ¬ isStopped Signal.never index = true := by simp [isStopped, Signal.never]
    have later : ∀ i, index + 1 ≤ i → i < index + 1 + lines.length → isStopped stop i = false :=
      fun i le lt => unstopped i (by omega) (by rw [List.length_cons]; omega)
    rw [readFrom, readFrom, if_neg here, if_neg never]
    cases readLine st index l with
    | error e => rfl
    | ok r => simp only [ih later]

theorem readFrom_of_stopped {found : List Occurrence × List BlockRegion}
    (readable : readFrom mod Signal.never st index lines = .ok found)
    (stopped : ∃ i, index ≤ i ∧ i < index + lines.length ∧ isStopped stop i = true) :
    readFrom mod stop st index lines = .error (.cancelled mod) := by
  induction lines generalizing st index found with
  | nil =>
    obtain ⟨i, le, lt, -⟩ := stopped
    rw [List.length_nil] at lt
    omega
  | cons l lines ih =>
    have never : ¬ isStopped Signal.never index = true := by simp [isStopped, Signal.never]
    rw [readFrom, if_neg never] at readable
    rw [readFrom]
    split
    · rfl
    · rename_i not_here
      split at readable
      · cases readable
      · rename_i r step
        obtain ⟨rest, readable, -⟩ := map_eq_ok_iff.1 readable
        have later : ∃ i, index + 1 ≤ i ∧ i < index + 1 + lines.length ∧ isStopped stop i = true := by
          obtain ⟨i, le, lt, stopped⟩ := stopped
          have : index ≠ i := fun here => not_here (here ▸ stopped)
          exact ⟨i, by omega, by rw [List.length_cons] at lt; omega, stopped⟩
        simp only [ih readable later, Except.map]

/-- While lines are read the questions asked are those below their number. -/
theorem exists_isStopped_iff (stop : Signal) (count : Nat) :
    (∃ i, i < count ∧ isStopped stop i = true) ↔ ∃ k, k < questions count ∧ stop k = true := by
  simp only [isStopped, questions, linesPerQuestion, Bool.and_eq_true]
  constructor
  · rintro ⟨i, lt, -, stopped⟩
    exact ⟨i / 256, by omega, stopped⟩
  · rintro ⟨k, lt, stopped⟩
    exact ⟨256 * k, by omega, decide_eq_true (Nat.mul_mod_right 256 k), by rwa [Nat.mul_div_cancel_left k (by decide)]⟩

variable {m : ModFile}

theorem read_of_unstopped (unstopped : ∀ k, k < questions m.lines.length → stop k = false) :
    Definition.read m stop = Definition.read m Signal.never := by
  rw [read, read, readFrom_of_unstopped]
  intro i _ lt
  refine Bool.eq_false_iff.2 fun stopped => ?_
  obtain ⟨k, asked, yes⟩ := (exists_isStopped_iff stop m.lines.length).1 ⟨i, by omega, stopped⟩
  rw [unstopped k asked] at yes
  cases yes

theorem read_of_stopped {d : Definition} (readable : Definition.read m Signal.never = .ok d)
    (stopped : ∃ k, k < questions m.lines.length ∧ stop k = true) :
    Definition.read m stop = .error (.cancelled m.name) := by
  obtain ⟨found, readable, -⟩ := map_eq_ok_iff.1 readable
  obtain ⟨i, lt, yes⟩ := (exists_isStopped_iff stop m.lines.length).2 stopped
  rw [read, readFrom_of_stopped readable ⟨i, by omega, by omega, yes⟩]
  rfl

end Definition

namespace Scan

variable {stop : Signal} {m : ModFile}

/-- The task of a mod asks one question more than the reader. -/
theorem task_of_unstopped (unstopped : ∀ k, k < 1 + Definition.questions m.lines.length → stop k = false) :
    task Definition.read stop m = Definition.read m Signal.never := by
  have first : ¬ stop 0 = true := by simp [unstopped 0 (by omega)]
  rw [task, if_neg first]
  exact Definition.read_of_unstopped fun k lt => unstopped (1 + k) (by omega)

theorem task_of_stopped {d : Definition} (readable : Definition.read m Signal.never = .ok d)
    (stopped : ∃ k, k < 1 + Definition.questions m.lines.length ∧ stop k = true) :
    task Definition.read stop m = .error (.cancelled m.name) := by
  obtain ⟨k, lt, yes⟩ := stopped
  rw [task]
  split
  · rfl
  · rename_i first
    cases k with
    | zero => exact absurd yes first
    | succ k => exact Definition.read_of_stopped readable ⟨k, by omega, by rwa [Signal.later, Nat.add_comm]⟩

/-- The scan of a single mod goes on as if nobody had been asked, if no answer was yes. -/
theorem join_singleton_of_unstopped {tolerant : Bool}
    (unstopped : ∀ k, k < 2 + Definition.questions m.lines.length → stop k = false) :
    join Definition.read stop tolerant [m] = join Definition.read Signal.never tolerant [m] := by
  have last : stoppedAfter stop m = stoppedAfter Signal.never m := unstopped _ (by omega)
  have asked : task Definition.read stop m = task Definition.read Signal.never m :=
    (task_of_unstopped fun k lt => unstopped k (by omega)).trans (task_of_unstopped fun _ _ => rfl).symm
  simp only [join, asked, last]

/-- The first yes ends the scan of a single mod that can be read, in the task of the mod or behind it. -/
theorem fault_join_singleton_of_stopped {tolerant : Bool} {d : Definition} {n : Nat}
    (readable : Definition.read m Signal.never = .ok d) (lt : n < 2 + Definition.questions m.lines.length) :
    (join Definition.read (Signal.after n) tolerant [m]).fault =
      some (.cancelled (if n ≤ Definition.questions m.lines.length then some m.name else none)) := by
  split
  · rename_i le
    have ended : task Definition.read (Signal.after n) m = .error (.cancelled m.name) :=
      task_of_stopped readable ⟨n, by omega, decide_eq_true (Nat.le_refl n)⟩
    rw [join, ended]
  · rename_i gt
    have done : task Definition.read (Signal.after n) m = .ok d := by
      refine (task_of_unstopped fun k asked => ?_).trans readable
      exact decide_eq_false (by omega)
    have last : stoppedAfter (Signal.after n) m = true := decide_eq_true (by omega)
    rw [join, done, last]
    rfl

end Scan

namespace Merge

variable {plan : MergePlan} {selected : List ModFile}

theorem lines_ofDefinitions_of_failed {settings : Settings} {ds : List Definition}
    (failed : (ofDefinitions settings ds).1.succeeded = false) : (ofDefinitions settings ds).1.lines = [] := by
  unfold ofDefinitions at failed ⊢
  simp only at failed ⊢
  repeat' split at failed
  all_goals first | rfl | cases failed

theorem lines_ofSelected_of_failed (failed : (ofSelected plan selected).1.succeeded = false) :
    (ofSelected plan selected).1.lines = [] := by
  unfold ofSelected at failed ⊢
  simp only at failed ⊢
  split at failed
  · rfl
  · exact lines_ofDefinitions_of_failed failed

theorem ofSelected_congr {plan' : MergePlan} (settings : plan.settings = plan'.settings)
    (scan_eq : plan.scan selected = plan'.scan selected) : ofSelected plan selected = ofSelected plan' selected := by
  unfold ofSelected
  rw [← MergePlan.scan, ← MergePlan.scan, scan_eq, settings]

theorem ofSelected_of_fault {fault : MergeFault} (h : (plan.scan selected).fault = some fault) :
    (ofSelected plan selected).1 = failed [] fault := by
  unfold ofSelected
  rw [← MergePlan.scan]
  simp only [h]

/-- In a merge of a single mod that succeeds when nobody stops it, nothing is wrong before the scan, and the mod can be
read. -/
theorem scan_singleton_of_succeeded {m : ModFile} (ended : plan.ended [m] = [m])
    (succeeded : (ofSelected { plan with stop := Signal.never } [m]).1.succeeded = true) :
    (∃ d, Definition.read m Signal.never = .ok d) ∧
      ∀ stop, MergePlan.scan { plan with stop } [m] = Scan.join Definition.read stop false [m] := by
  have no_fault : (MergePlan.scan { plan with stop := Signal.never } [m]).fault = none := by
    cases found : (MergePlan.scan { plan with stop := Signal.never } [m]).fault with
    | none => rfl
    | some fault =>
      rw [ofSelected_of_fault found] at succeeded
      cases succeeded
  cases refusal : Scan.refusal? plan.workers [m] with
  | some fault => simp [MergePlan.scan, Scan.run, refusal] at no_fault
  | none =>
    have scan_eq : ∀ stop, MergePlan.scan { plan with stop } [m] = Scan.join Definition.read stop false [m] := by
      intro stop
      rw [MergePlan.scan, Scan.run, refusal, ended]
    rw [scan_eq, Scan.fault_join_eq_none_iff] at no_fault
    have readable := no_fault m (by simp)
    unfold Scan.definition? at readable
    cases read : Definition.read m Signal.never with
    | ok d => exact ⟨⟨d, rfl⟩, scan_eq⟩
    | error e =>
      rw [read] at readable
      cases readable

end Merge

/-- A merge that fails has no lines, whatever it fails of.  And if a merge with a single selected mod of `L` lines
succeeds when nobody stops it, then under a signal that gives `n` times no and then yes it gives the same if `n` is at
least `2 + ⌈L / 256⌉`, and is cancelled and has no lines otherwise. -/
theorem merge?_all_or_nothing (plan : MergePlan) (mods : List ModFile) :
    (∀ m log, merge? plan mods = some (m, log) → m.succeeded = false → m.lines = []) ∧
    ∀ ignored mod m log, Merge.ignoredNames? plan.settings.ignoreMods = some ignored →
      Merge.selected ignored mods = [mod] → (∀ l, (plan.ended l).Perm l) →
      merge? { plan with stop := Signal.never } mods = some (m, log) → m.succeeded = true →
      ∀ n, (2 + (mod.lines.length + 255) / 256 ≤ n →
          merge? { plan with stop := Signal.after n } mods = some (m, log)) ∧
        (n < 2 + (mod.lines.length + 255) / 256 → ∃ m' log',
          merge? { plan with stop := Signal.after n } mods = some (m', log') ∧
            m'.fault = some (.cancelled (if n ≤ (mod.lines.length + 255) / 256 then some mod.name else none)) ∧
            m'.lines = []) := by
  constructor
  · intro m log merged failed
    obtain ⟨ignored, -, result⟩ := Option.map_eq_some_iff.1 merged
    obtain ⟨rfl, -⟩ := Prod.mk.inj result
    exact Merge.lines_ofSelected_of_failed failed
  · intro ignored mod m log entries single order merged succeeded n
    have ended : plan.ended [mod] = [mod] := List.perm_singleton.1 (order [mod])
    have result_eq := merged
    rw [merge?, entries, Option.map_some, ← Merge.selected, single] at result_eq
    obtain ⟨rfl, -⟩ := Prod.mk.inj (Option.some.inj result_eq)
    obtain ⟨⟨d, readable⟩, scan_eq⟩ := Merge.scan_singleton_of_succeeded ended succeeded
    constructor
    · intro le
      have unstopped : Merge.ofSelected { plan with stop := Signal.after n } [mod] =
          Merge.ofSelected { plan with stop := Signal.never } [mod] := by
        refine Merge.ofSelected_congr rfl ?_
        rw [scan_eq, scan_eq, Scan.join_singleton_of_unstopped fun k asked => ?_]
        exact decide_eq_false (Nat.not_le.2 (Nat.lt_of_lt_of_le asked le))
      rw [← merged, merge?, merge?, entries, Option.map_some, Option.map_some, ← Merge.selected, single, unstopped]
    · intro lt
      have same_entries : Merge.ignoredNames? { plan with stop := Signal.after n }.settings.ignoreMods = some ignored :=
        entries
      obtain ⟨log', cancelled⟩ := Merge.merge?_eq_some same_entries mods
      rw [← Merge.selected, single, Merge.ofSelected_of_fault] at cancelled
      · exact ⟨_, log', cancelled, rfl, rfl⟩
      · rw [scan_eq]
        exact Scan.fault_join_singleton_of_stopped readable lt

/-- A mod with a monster and three hundred lines behind it. -/
def longMod : ModFile := ModFile.named "long" ("#newmonster 3500\n#end".toList ++ List.replicate 300 '\n')

/-- Four times no are needed to merge the long mod, since the reader asks in front of the 257th line too. -/
theorem merge?_longMod :
    Merge.ignoredNames? oneWorker.settings.ignoreMods = some [] ∧ Merge.selected [] [longMod] = [longMod] ∧
      (∀ l, (oneWorker.ended l).Perm l) ∧ longMod.lines.length = 301 ∧
      ∃ m log, merge? { oneWorker with stop := Signal.never } [longMod] = some (m, log) ∧ m.succeeded = true ∧
        merge? { oneWorker with stop := Signal.after 4 } [longMod] = some (m, log) ∧
        ∃ m' log', merge? { oneWorker with stop := Signal.after 3 } [longMod] = some (m', log') ∧
          m'.fault = some (.cancelled none) ∧ m'.lines = [] := by
  have entries : Merge.ignoredNames? oneWorker.settings.ignoreMods = some [] := by decide +kernel
  have single : Merge.selected [] [longMod] = [longMod] := by decide +kernel
  have length_eq : longMod.lines.length = 301 := by decide +kernel
  have succeeded : (merge? { oneWorker with stop := Signal.never } [longMod]).map (fun r => r.1.succeeded) =
      some true := by decide +kernel
  obtain ⟨⟨m, log⟩, merged, succeeded⟩ := Option.map_eq_some_iff.1 succeeded
  have cutoff := (merge?_all_or_nothing oneWorker [longMod]).2 [] longMod m log entries single
    undisturbed_oneWorker.ended merged succeeded
  obtain ⟨unstopped, -⟩ := cutoff 4
  obtain ⟨-, stopped⟩ := cutoff 3
  rw [length_eq] at unstopped stopped
  exact ⟨entries, single, undisturbed_oneWorker.ended, length_eq, m, log, merged, succeeded, unstopped (by decide),
    stopped (by decide)⟩

end ModWeave
