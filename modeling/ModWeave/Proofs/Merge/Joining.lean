import Mathlib.Data.List.Nodup
import ModWeave.Merge

/-!
# Scans that nobody stops

Without a signal to stop, a strict scan ends at the first mod that cannot be read, in the order in which the tasks end
(`fault_join`).  So a scan of mods without a common name succeeds exactly if every mod can be read
(`fault_join_eq_none_iff`), and then it gives the definitions in that order (`entries_join`, `definitions_join`).
-/

namespace ModWeave.Scan

variable {reader : Reader} {ms : List ModFile}

/-- The definition of a mod, if a reader whom nobody stops can read it. -/
def definition? (reader : Reader) (m : ModFile) : Option Definition := (reader m Signal.never).toOption

/-- The definition of a mod by the name of the mod, if a reader whom nobody stops can read it. -/
def keyed? (reader : Reader) (m : ModFile) : Option (String × Definition) :=
  (definition? reader m).map fun d => (m.name, d)

/-- What ends a strict scan at a mod, if a reader whom nobody stops cannot read it. -/
def fault? (reader : Reader) (m : ModFile) : Option MergeFault :=
  match reader m Signal.never with
  | .ok _ => none
  | .error (.cancelled mod) => some (.cancelled (some mod))
  | .error e => some (.unreadable m.name e)

/-- A mod that can be read adds its definition and nothing else. -/
theorem join_cons_ok {m : ModFile} {d : Definition} (read : reader m Signal.never = .ok d) (tolerant : Bool)
    (ms : List ModFile) :
    (join reader Signal.never tolerant (m :: ms)).fault = (join reader Signal.never tolerant ms).fault ∧
      (join reader Signal.never tolerant (m :: ms)).entries =
        (m.name, d) :: (join reader Signal.never tolerant ms).entries ∧
      (join reader Signal.never tolerant (m :: ms)).failures = (join reader Signal.never tolerant ms).failures := by
  have done : task reader Signal.never m = .ok d := read
  rw [join, done]
  exact ⟨rfl, rfl, rfl⟩

private theorem fault_join_cons_error {m : ModFile} {e : ReadFault} (read : reader m Signal.never = .error e) :
    (join reader Signal.never false (m :: ms)).fault = fault? reader m := by
  have done : task reader Signal.never m = .error e := read
  rw [join, done, fault?, read]
  cases e <;> rfl

/-- A strict scan ends at the first mod that cannot be read. -/
theorem fault_join : (join reader Signal.never false ms).fault = ms.findSome? (fault? reader) := by
  induction ms with
  | nil => rfl
  | cons m ms ih =>
    cases read : reader m Signal.never with
    | ok d =>
      have no_fault : fault? reader m = none := by rw [fault?, read]
      rw [(join_cons_ok read false ms).1, ih, List.findSome?_cons_of_isNone (by rw [no_fault]; rfl)]
    | error e =>
      have fault : (fault? reader m).isSome = true := by
        rw [fault?, read]
        cases e <;> rfl
      rw [fault_join_cons_error read, List.findSome?_cons_of_isSome fault]

theorem fault?_eq_none_iff {m : ModFile} : fault? reader m = none ↔ (definition? reader m).isSome = true := by
  unfold fault? definition?
  cases reader m Signal.never with
  | ok d => simp [Except.toOption]
  | error e => cases e <;> simp [Except.toOption]

theorem fault_join_eq_none_iff :
    (join reader Signal.never false ms).fault = none ↔ ∀ m ∈ ms, (definition? reader m).isSome = true := by
  simp only [fault_join, List.findSome?_eq_none_iff, fault?_eq_none_iff]

theorem entries_join (no_fault : (join reader Signal.never false ms).fault = none) :
    (join reader Signal.never false ms).entries = ms.filterMap (keyed? reader) := by
  induction ms with
  | nil => rfl
  | cons m ms ih =>
    rw [fault_join_eq_none_iff, List.forall_mem_cons, ← fault_join_eq_none_iff] at no_fault
    obtain ⟨here, later⟩ := no_fault
    cases read : reader m Signal.never with
    | ok d =>
      have readable : keyed? reader m = some (m.name, d) := by rw [keyed?, definition?, read]; rfl
      rw [(join_cons_ok read false ms).2.1, List.filterMap_cons_some readable, ih later]
    | error e =>
      rw [definition?, read] at here
      cases here

theorem definitions_join (no_fault : (join reader Signal.never false ms).fault = none) :
    (join reader Signal.never false ms).definitions = ms.filterMap (definition? reader) := by
  have second : ∀ m, (keyed? reader m).map Prod.snd = definition? reader m := fun m => by
    simp [keyed?, Function.comp_def]
  rw [Result.definitions, entries_join no_fault, List.map_filterMap]
  simp only [second]

private theorem duplicate?_eq_none {seen : List ModFile} (names : (ms.map ModFile.name).Nodup)
    (apart : ∀ s ∈ seen, ∀ m ∈ ms, s.name ≠ m.name) : duplicate? seen ms = none := by
  induction ms generalizing seen with
  | nil => rfl
  | cons m ms ih =>
    rw [List.map_cons, List.nodup_cons] at names
    have unseen : seen.find? (fun s => s.name = m.name) = none :=
      List.find?_eq_none.2 fun s hs => by simpa using apart s hs m (by simp)
    rw [duplicate?, unseen]
    refine ih names.2 fun s hs k hk => ?_
    rcases List.mem_cons.1 hs with rfl | hs
    · exact fun same => names.1 (same ▸ List.mem_map_of_mem hk)
    · exact apart s hs k (List.mem_cons_of_mem _ hk)

/-- Nothing is wrong before the first task if the number of workers is good and no two mods have one name. -/
theorem run_eq_join {stop : Signal} {tolerant : Bool} {workers : Option Int} {ended : List ModFile}
    (positive : ∀ n ∈ workers, 1 ≤ n) (names : (ms.map ModFile.name).Nodup) :
    run reader stop tolerant workers ms ended = join reader stop tolerant ended := by
  have workers_good : workers.filter (fun n => n < 1) = none :=
    Option.filter_eq_none_iff.2 fun n hn => by simpa using positive n hn
  rw [run, refusal?, workers_good, duplicate?_eq_none names (by simp)]

end ModWeave.Scan
