import ModWeave.Proofs.Definition.Declarative

/-!
# Lines that a reader passes over

A reader passes over some lines if none of them is content (`ScanState.absorbAll`).  Without any state this says that no
line remains when descriptions and statements about the mod are taken away (`passesOver_iff`).  Statements about the mod
are passed over everywhere, and close a description that is open if one of them has a quotation mark
(`ScanState.absorbAll_statements`).  What is passed over in front of other lines changes nothing of what is found on them
but their numbers (`Definition.readFrom_append`).
-/

namespace ModWeave

open Text Line Definition

/-! ### Lines that are passed over -/

namespace ScanState

/-- The state behind some lines from number `index` on, if none of them is content. -/
def absorbAll (st : ScanState) (index : Nat) : List Line → Option ScanState
  | [] => some st
  | l :: lines => (st.absorb index l).bind fun next => next.absorbAll (index + 1) lines

variable {st next : ScanState} {index i : Nat} {l : Line} {ls lines : List Line}

theorem absorbAll_append (front back : List Line) : st.absorbAll index (front ++ back) =
    (st.absorbAll index front).bind fun next => next.absorbAll (index + front.length) back := by
  induction front generalizing st index with
  | nil => rfl
  | cons l front ih =>
    simp only [List.cons_append, absorbAll, ih, Option.bind_assoc, List.length_cons, Nat.add_assoc,
      Nat.add_comm 1 front.length]

theorem block_of_absorbAll (h : st.absorbAll index lines = some next) : next.block = st.block := by
  induction lines generalizing st index with
  | nil => rw [← Option.some.inj h]
  | cons l lines ih =>
    obtain ⟨mid, first, rest⟩ := Option.bind_eq_some_iff.1 h
    rw [ih rest, block_of_absorb first]

private theorem getElem?_of_drop (rest : ls.drop i = l :: lines) : ls[i]? = some l ∧ ls.drop (i + 1) = lines := by
  constructor
  · rw [← Nat.add_zero i, ← List.getElem?_drop, rest, List.getElem?_cons_zero]
  · rw [← List.tail_drop, rest, List.tail_cons]

/-- Lines are passed over exactly if none of them is content, and the state behind them tells what is open there. -/
theorem absorbAll_situation (h : Situation ls i st) (le : i ≤ ls.length) (rest : ls.drop i = lines) :
    (∀ next, st.absorbAll i lines = some next → Situation ls ls.length next ∧ ∀ j, i ≤ j → ¬ Remains ls j) ∧
      (st.absorbAll i lines = none → ∃ j, Remains ls j) := by
  induction lines generalizing i st with
  | nil =>
    have length_eq : ls.length = i := Nat.le_antisymm (List.drop_eq_nil_iff.1 rest) le
    refine ⟨fun next passed => ?_, nofun⟩
    obtain rfl := Option.some.inj passed
    refine ⟨length_eq ▸ h, fun j behind remains => ?_⟩
    have lt := remains.lt
    omega
  | cons l lines ih =>
    obtain ⟨line, rest'⟩ := getElem?_of_drop rest
    have lt : i < ls.length := (List.getElem?_eq_some_iff.1 line).1
    cases step : st.absorb i l with
    | none => simpa [absorbAll, step] using ⟨i, (h.absorb_eq_none_iff line).1 step⟩
    | some mid =>
      have dropped : ¬ Remains ls i := fun remains => by
        rw [(h.absorb_eq_none_iff line).2 remains] at step
        cases step
      obtain ⟨passes, fails⟩ := ih (h.of_absorb line step) lt rest'
      simp only [absorbAll, step, Option.bind_some]
      refine ⟨fun next passed => ?_, fails⟩
      obtain ⟨reached, behind⟩ := passes next passed
      refine ⟨reached, fun j le => ?_⟩
      rcases Nat.lt_or_eq_of_le le with lt | rfl
      · exact behind j lt
      · exact dropped

end ScanState

/-- All lines of a text are passed over, and no description is open behind them. -/
def PassesOver (ls : List Line) : Prop := ∃ st, ScanState.initial.absorbAll 0 ls = some st ∧ st.description = none

theorem passesOver_iff_initial {ls : List Line} :
    PassesOver ls ↔ ScanState.initial.absorbAll 0 ls = some ScanState.initial := by
  constructor
  · rintro ⟨⟨description, block⟩, passed, closed⟩
    have outside : block = none := ScanState.block_of_absorbAll passed
    rw [passed, ScanState.initial, outside, show description = none from closed]
  · exact fun passed => ⟨_, passed, rfl⟩

/-- No line is content, and no description is open behind the last. -/
theorem passesOver_iff {ls : List Line} :
    PassesOver ls ↔ (∀ i, ¬ Remains ls i) ∧ ∀ s, ¬ OpenDescription ls ls.length s := by
  obtain ⟨passes, fails⟩ := ScanState.absorbAll_situation (Situation.initial ls) (Nat.zero_le _) List.drop_zero
  have closed_iff : ∀ {st}, Situation ls ls.length st →
      (st.description = none ↔ ∀ s, ¬ OpenDescription ls ls.length s) := fun h => by
    simp only [← h.description, Option.eq_none_iff_forall_ne_some, ne_eq]
  constructor
  · rintro ⟨st, passed, closed⟩
    obtain ⟨reached, none_remains⟩ := passes st passed
    exact ⟨fun i => none_remains i (Nat.zero_le i), (closed_iff reached).1 closed⟩
  · rintro ⟨none_remains, closed⟩
    cases passed : ScanState.initial.absorbAll 0 ls with
    | none =>
      obtain ⟨i, remains⟩ := fails passed
      exact absurd remains (none_remains i)
    | some st => exact ⟨st, passed, (closed_iff (passes st passed).1).2 closed⟩

/-! ### Lines about the mod itself -/

/-- A line is a whole statement about the mod. -/
structure IsStatement (l : Line) : Prop where
  metadata : isMetadata l = true
  not_start : isDescriptionStart l = false

theorem ScanState.absorb_statement {l : Line} (h : IsStatement l) (st : ScanState) (index : Nat) :
    st.absorb index l = some (if hasQuote l then { st with description := none } else st) := by
  unfold ScanState.absorb hasQuote
  simp only [quote_mem_trim_iff, isDescriptionStart_trim, isMetadata_trim, h.metadata, h.not_start]
  obtain ⟨description, block⟩ := st
  cases description with
  | some s => by_cases quote : '"' ∈ l <;> simp [quote]
  | none => simp

/-- Statements about the mod close a description that is open if one of them holds a quotation mark. -/
theorem ScanState.absorbAll_statements {ls : List Line} (h : ∀ l ∈ ls, IsStatement l) (st : ScanState) (index : Nat) :
    st.absorbAll index ls = some (if ls.any hasQuote then { st with description := none } else st) := by
  induction ls generalizing st index with
  | nil => rfl
  | cons l ls ih =>
    have rest := ih fun k hk => h k (List.mem_cons_of_mem l hk)
    rw [absorbAll, absorb_statement (h l (by simp)), Option.bind_some, rest, List.any_cons]
    cases hasQuote l <;> cases ls.any hasQuote <;> rfl

/-- Without quotation marks an open description stays open. -/
theorem ScanState.absorbAll_of_open {ls : List Line} (no_quote : ∀ l ∈ ls, '"' ∉ l) (s index : Nat) (block : BlockState) :
    ScanState.absorbAll ⟨some s, block⟩ index ls = some ⟨some s, block⟩ := by
  induction ls generalizing index with
  | nil => rfl
  | cons l ls ih =>
    have stays : ScanState.absorb ⟨some s, block⟩ index l = some ⟨some s, block⟩ := by
      simp [ScanState.absorb, quote_mem_trim_iff, no_quote l (by simp)]
    rw [ScanState.absorbAll, stays, Option.bind_some, ih (fun k hk => no_quote k (List.mem_cons_of_mem l hk))]

/-! ### Reading behind them -/

/-- Lines that are passed over yield nothing. -/
theorem Definition.readFrom_append {mod : String} {st next : ScanState} {index : Nat} {front lines : List Line}
    (passed : st.absorbAll index (front.map clean) = some next) :
    readFrom mod Signal.never st index (front ++ lines) =
      readFrom mod Signal.never next (index + front.length) lines := by
  induction front generalizing st index with
  | nil =>
    obtain rfl := Option.some.inj passed
    rfl
  | cons l front ih =>
    obtain ⟨mid, step, rest⟩ := Option.bind_eq_some_iff.1 passed
    have read : readLine st index l = .ok ⟨mid, none, none⟩ := by rw [readLine, step]
    have goes_on : isStopped Signal.never index = false := Bool.and_false _
    have unchanged : ∀ x : Except ReadFault (List Occurrence × List BlockRegion),
        (x.map fun found => (none.toList ++ found.1, none.toList ++ found.2)) = x := fun x => by
      cases x <;> rfl
    rw [List.cons_append, readFrom, goes_on, if_neg Bool.false_ne_true, read, List.length_cons, Nat.add_comm front.length,
      ← Nat.add_assoc, ← ih rest]
    exact unchanged _

end ModWeave
