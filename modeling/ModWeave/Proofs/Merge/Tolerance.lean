import ModWeave.Proofs.Merge.Joining

/-!
# Strict and tolerant scans

A strict scan gives nothing if a mod cannot be read, and a tolerant one leaves such mods out.  Where nobody stops the
work, both find the same definitions, in whatever order their tasks end (`scans_agree`): the tolerant scan joins each
mod that can be read under its name and warns once of every other one, and the strict scan joins the same, or fails at
one of the mods that cannot be read, with what was wrong there.
-/

namespace ModWeave.Scan

variable {reader : Reader} {ms : List ModFile}

/-- The warning about a mod that is left out, if a reader whom nobody stops cannot read it. -/
def omission? (reader : Reader) (m : ModFile) : Option Warning :=
  match reader m Signal.never with
  | .ok _ => none
  | .error e => some ⟨some m.name, .skipped e.message⟩

/-- A reader whom nobody stops does not say of a mod that it was stopped. -/
def Completes (reader : Reader) (m : ModFile) : Prop := ∀ mod, reader m Signal.never ≠ .error (.cancelled mod)

/-! ### Joining -/

/-- A mod that cannot be read adds its warning to a tolerant scan, and nothing else. -/
private theorem join_cons_error {m : ModFile} {e : ReadFault} (completes : Completes reader m)
    (read : reader m Signal.never = .error e) (ms : List ModFile) :
    (join reader Signal.never true (m :: ms)).fault = (join reader Signal.never true ms).fault ∧
      (join reader Signal.never true (m :: ms)).entries = (join reader Signal.never true ms).entries ∧
      (join reader Signal.never true (m :: ms)).failures =
        ⟨some m.name, .skipped e.message⟩ :: (join reader Signal.never true ms).failures := by
  have done : task reader Signal.never m = .error e := read
  rw [join, done]
  cases e with
  | cancelled mod => exact absurd read (completes mod)
  | tooLong cause => exact ⟨rfl, rfl, rfl⟩
  | refused reason => exact ⟨rfl, rfl, rfl⟩

/-- A tolerant scan joins what can be read and warns of the rest. -/
theorem join_tolerant (completes : ∀ m ∈ ms, Completes reader m) :
    (join reader Signal.never true ms).fault = none ∧
      (join reader Signal.never true ms).entries = ms.filterMap (keyed? reader) ∧
      (join reader Signal.never true ms).failures = ms.filterMap (omission? reader) := by
  induction ms with
  | nil => exact ⟨rfl, rfl, rfl⟩
  | cons m ms ih =>
    rw [List.forall_mem_cons] at completes
    obtain ⟨no_fault, entries_eq, failures_eq⟩ := ih completes.2
    cases read : reader m Signal.never with
    | ok d =>
      obtain ⟨fault_cons, entries_cons, failures_cons⟩ := join_cons_ok read true ms
      have entry : keyed? reader m = some (m.name, d) := by rw [keyed?, definition?, read]; rfl
      have no_omission : omission? reader m = none := by rw [omission?, read]
      rw [fault_cons, entries_cons, failures_cons, List.filterMap_cons_some entry, List.filterMap_cons_none no_omission]
      exact ⟨no_fault, congrArg _ entries_eq, failures_eq⟩
    | error e =>
      obtain ⟨fault_cons, entries_cons, failures_cons⟩ := join_cons_error completes.1 read ms
      have no_entry : keyed? reader m = none := by rw [keyed?, definition?, read]; rfl
      have omission : omission? reader m = some ⟨some m.name, .skipped e.message⟩ := by rw [omission?, read]
      rw [fault_cons, entries_cons, failures_cons, List.filterMap_cons_none no_entry, List.filterMap_cons_some omission]
      exact ⟨no_fault, entries_eq, congrArg _ failures_eq⟩

/-- A strict scan of mods that cannot all be read fails at one that cannot. -/
private theorem fault_join_of_unreadable (completes : ∀ m ∈ ms, Completes reader m)
    (unreadable : ∃ m ∈ ms, definition? reader m = none) :
    ∃ m ∈ ms, ∃ e, reader m Signal.never = .error e ∧
      (join reader Signal.never false ms).fault = some (.unreadable m.name e) := by
  cases fault : (join reader Signal.never false ms).fault with
  | none =>
    obtain ⟨m, hm, no_definition⟩ := unreadable
    have readable := fault_join_eq_none_iff.1 fault m hm
    rw [no_definition] at readable
    cases readable
  | some f =>
    rw [fault_join] at fault
    obtain ⟨m, hm, found⟩ := List.exists_of_findSome?_eq_some fault
    unfold fault? at found
    split at found
    · cases found
    · rename_i mod read
      exact absurd read (completes m hm mod)
    · rename_i e _ read
      exact ⟨m, hm, e, read, found.symm⟩

/-! ### What is found under a name -/

private theorem name_of_keyed? {m : ModFile} {p : String × Definition} (h : keyed? reader m = some p) : p.1 = m.name := by
  obtain ⟨d, -, rfl⟩ := Option.map_eq_some_iff.1 h
  rfl

/-- The names of the mods that can be read are among those of all mods, in the same order. -/
private theorem keys_filterMap_keyed? :
    (OrderedMap.keys (ms.filterMap (keyed? reader))).Sublist (ms.map ModFile.name) := by
  induction ms with
  | nil => exact List.Sublist.refl _
  | cons m ms ih =>
    cases entry : keyed? reader m with
    | none =>
      rw [List.filterMap_cons_none entry]
      exact ih.cons _
    | some p =>
      rw [List.filterMap_cons_some entry, OrderedMap.keys, List.map_cons, List.map_cons, name_of_keyed? entry]
      exact ih.cons_cons _

private theorem get?_filterMap_keyed? (names : (ms.map ModFile.name).Nodup) {m : ModFile} (hm : m ∈ ms) :
    OrderedMap.get? (ms.filterMap (keyed? reader)) m.name = definition? reader m := by
  have nodup : (OrderedMap.keys (ms.filterMap (keyed? reader))).Nodup := names.sublist keys_filterMap_keyed?
  cases found : definition? reader m with
  | some d =>
    have mem : (m.name, d) ∈ ms.filterMap (keyed? reader) :=
      List.mem_filterMap.2 ⟨m, hm, by rw [keyed?, found]; rfl⟩
    exact OrderedMap.get?_eq_some_of_mem nodup mem
  | none =>
    refine OrderedMap.get?_eq_none_iff.2 fun mem => ?_
    obtain ⟨p, hp, name_eq⟩ := List.mem_map.1 mem
    obtain ⟨m', hm', entry⟩ := List.mem_filterMap.1 hp
    -- no other mod has this name
    obtain rfl : m' = m := List.inj_on_of_nodup_map names hm' hm ((name_of_keyed? entry).symm.trans name_eq)
    rw [keyed?, found] at entry
    cases entry

private theorem kind_of_omission? {m : ModFile} {w : Warning} (h : omission? reader m = some w) :
    w.cause.kind = .general := by
  unfold omission? at h
  split at h
  · cases h
  · rw [← Option.some.inj h]
    rfl

/-! ### Both scans -/

/-- Two scans of mods with different names that nobody stops, a tolerant and a strict one, with any number of workers
and tasks that end in any order.  The tolerant scan has no fault.  It joins exactly the definitions of the mods that can
be read, each under the name of its mod, and gives exactly one general warning for every other mod, which names it.  If
all mods can be read, the strict scan finds the same definition under every name; if not, its fault is that of one of
the mods that cannot be read. -/
theorem scans_agree {workers workers' : Option Int} {mods ended ended' : List ModFile}
    (positive : ∀ n ∈ workers, 1 ≤ n) (positive' : ∀ n ∈ workers', 1 ≤ n) (names : (mods.map ModFile.name).Nodup)
    (perm : ended.Perm mods) (perm' : ended'.Perm mods) (completes : ∀ m ∈ mods, Completes reader m) :
    let tolerant := run reader Signal.never true workers mods ended
    let strict := run reader Signal.never false workers' mods ended'
    (tolerant.fault = none ∧ tolerant.entries.Perm (mods.filterMap (keyed? reader)) ∧
      (∀ m ∈ mods, OrderedMap.get? tolerant.entries m.name = definition? reader m) ∧
      tolerant.failures.Perm (mods.filterMap (omission? reader)) ∧
      ∀ w ∈ tolerant.failures, w.cause.kind = .general) ∧
    ((∀ m ∈ mods, (definition? reader m).isSome = true) →
      strict.fault = none ∧ strict.entries.Perm tolerant.entries ∧
        ∀ name, OrderedMap.get? strict.entries name = OrderedMap.get? tolerant.entries name) ∧
    ((∃ m ∈ mods, definition? reader m = none) →
      ∃ m ∈ mods, ∃ e, reader m Signal.never = .error e ∧ strict.fault = some (.unreadable m.name e)) := by
  dsimp only
  rw [run_eq_join positive names, run_eq_join positive' names]
  obtain ⟨no_fault, entries_eq, failures_eq⟩ := join_tolerant fun m hm => completes m (perm.mem_iff.1 hm)
  have nodup : (OrderedMap.keys (ended.filterMap (keyed? reader))).Nodup :=
    ((perm.map _).nodup_iff.2 names).sublist keys_filterMap_keyed?
  have entries_perm : (ended.filterMap (keyed? reader)).Perm (mods.filterMap (keyed? reader)) := perm.filterMap _
  rw [no_fault, entries_eq, failures_eq]
  refine ⟨⟨rfl, entries_perm, fun m hm => ?_, perm.filterMap _, fun w hw => ?_⟩, fun readable => ?_, fun unreadable => ?_⟩
  · rw [OrderedMap.get?_eq_of_perm nodup entries_perm, get?_filterMap_keyed? names hm]
  · obtain ⟨m, -, omission⟩ := List.mem_filterMap.1 hw
    exact kind_of_omission? omission
  · have strict_fault : (join reader Signal.never false ended').fault = none :=
      fault_join_eq_none_iff.2 fun m hm => readable m (perm'.mem_iff.1 hm)
    have same : (ended'.filterMap (keyed? reader)).Perm (ended.filterMap (keyed? reader)) :=
      (perm'.trans perm.symm).filterMap _
    rw [entries_join strict_fault]
    exact ⟨strict_fault, same, fun name => (OrderedMap.get?_eq_of_perm nodup same.symm name).symm⟩
  · obtain ⟨m, hm, missing⟩ := unreadable
    obtain ⟨m', hm', found⟩ := fault_join_of_unreadable (fun k hk => completes k (perm'.mem_iff.1 hk))
      ⟨m, perm'.mem_iff.2 hm, missing⟩
    exact ⟨m', perm'.mem_iff.1 hm', found⟩

/-- A mod that declares a monster. -/
def soundMod : ModFile := ModFile.named "Good" "#newmonster 150".toList

def brokenMod : ModFile := ModFile.named "Broken" "#newmonster 151".toList

/-- A reader who refuses one of the two. -/
def pickyReader : Reader := fun m stop =>
  if m.name = "Broken" then .error (.refused "unexpected token") else Definition.read m stop

def soundDefinition : Definition := ⟨soundMod, [⟨⟨.monster, 150⟩, .declaration, 0, "newmonster".toList⟩], []⟩

theorem read_soundMod : pickyReader soundMod Signal.never = .ok soundDefinition := by decide +kernel

theorem read_brokenMod : pickyReader brokenMod Signal.never = .error (.refused "unexpected token") := by decide +kernel

/-- With two mods of which one is refused, the tolerant scan keeps the other, and the strict one fails. -/
theorem scans_agree_pickyReader :
    ([soundMod, brokenMod].map ModFile.name).Nodup ∧ [brokenMod, soundMod].Perm [soundMod, brokenMod] ∧
      (∀ m ∈ [soundMod, brokenMod], Completes pickyReader m) ∧
      OrderedMap.get? (run pickyReader Signal.never true (some 2) [soundMod, brokenMod] [brokenMod, soundMod]).entries
        "Good" = some soundDefinition ∧
      (run pickyReader Signal.never true (some 2) [soundMod, brokenMod] [brokenMod, soundMod]).failures =
        [⟨some "Broken", .skipped "unexpected token"⟩] ∧
      (run pickyReader Signal.never false none [soundMod, brokenMod] [soundMod, brokenMod]).fault =
        some (.unreadable "Broken" (.refused "unexpected token")) := by
  have names : ([soundMod, brokenMod].map ModFile.name).Nodup := by decide
  have perm : [brokenMod, soundMod].Perm [soundMod, brokenMod] := List.Perm.swap _ _ _
  have completes : ∀ m ∈ [soundMod, brokenMod], Completes pickyReader m := by
    simp [Completes, read_soundMod, read_brokenMod]
  have no_definition : definition? pickyReader brokenMod = none := by rw [definition?, read_brokenMod]; rfl
  obtain ⟨⟨-, -, entry, failures_perm, -⟩, -, strict⟩ :=
    scans_agree (show ∀ n ∈ some (2 : Int), 1 ≤ n by decide) (show ∀ n ∈ (none : Option Int), 1 ≤ n by decide) names perm
      (List.Perm.refl _) completes
  refine ⟨names, perm, completes, ?_, ?_, ?_⟩
  · have good := entry soundMod (by simp)
    rw [definition?, read_soundMod] at good
    exact good
  · have omissions : [soundMod, brokenMod].filterMap (omission? pickyReader) =
        [⟨some "Broken", .skipped "unexpected token"⟩] := by decide +kernel
    rw [omissions] at failures_perm
    exact List.perm_singleton.1 failures_perm
  · obtain ⟨m, hm, e, read, fault⟩ := strict ⟨brokenMod, by simp, no_definition⟩
    rw [List.mem_pair] at hm
    rcases hm with rfl | rfl
    · rw [read_soundMod] at read
      cases read
    · rw [read_brokenMod] at read
      obtain rfl := Except.error.inj read
      exact fault

end ModWeave.Scan
