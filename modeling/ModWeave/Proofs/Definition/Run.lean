import ModWeave.Proofs.Definition.Content

/-!
# Runs of the reader

`Run st index lines rs last` says that the reader, in state `st` in front of line number `index`, goes through the
given lines without a fault, finds `rs` on them, and is in state `last` behind them.  Whoever reads a mod without a
fault has made such a run (`run_of_read`), and a mod through which a run goes can be read if nobody stops the reader
(`read_of_run`).
-/

namespace ModWeave

theorem map_eq_error_iff {ε α β : Type} {x : Except ε α} {f : α → β} {e : ε} : x.map f = .error e ↔ x = .error e := by
  cases x <;> simp [Except.map]

theorem map_eq_ok_iff {ε α β : Type} {x : Except ε α} {f : α → β} {b : β} :
    x.map f = .ok b ↔ ∃ a, x = .ok a ∧ f a = b := by
  cases x <;> simp [Except.map]

namespace Definition

open Text Line

/-- A reader goes through some lines without a fault. -/
inductive Run : ScanState → Nat → List Line → List LineResult → ScanState → Prop
  | nil (st : ScanState) (index : Nat) : Run st index [] [] st
  | cons {st last : ScanState} {index : Nat} {l : Line} {lines : List Line} {r : LineResult} {rs : List LineResult}
      (step : readLine st index l = .ok r) (rest : Run r.state (index + 1) lines rs last) :
      Run st index (l :: lines) (r :: rs) last

/-- The occurrences that are found on some lines. -/
def occurrencesOf (rs : List LineResult) : List Occurrence := rs.flatMap fun r => r.occurrence.toList

variable {st last : ScanState} {index : Nat} {lines : List Line} {rs : List LineResult} {mod : String}

theorem Run.length_eq (h : Run st index lines rs last) : rs.length = lines.length := by
  induction h with
  | nil => rfl
  | cons step rest ih => simp [ih]

theorem Run.unique {rs' : List LineResult} {last' : ScanState} (h : Run st index lines rs last)
    (h' : Run st index lines rs' last') : rs = rs' ∧ last = last' := by
  induction h generalizing rs' with
  | nil =>
    cases h'
    exact ⟨rfl, rfl⟩
  | cons step rest ih =>
    cases h' with
    | cons step' rest' =>
      obtain rfl := Except.ok.inj (step.symm.trans step')
      obtain ⟨rfl, same⟩ := ih rest'
      exact ⟨rfl, same⟩

/-- A line with the lines in front of it and behind it. -/
theorem cut_at {i : Nat} {l : Line} (h : lines[i]? = some l) :
    lines = lines.take i ++ l :: lines.drop (i + 1) ∧ (lines.take i).length = i := by
  obtain ⟨lt, rfl⟩ := List.getElem?_eq_some_iff.1 h
  constructor
  · rw [← List.drop_eq_getElem_cons lt, List.take_append_drop]
  · rw [List.length_take, Nat.min_eq_left (Nat.le_of_lt lt)]

/-- A run passes through every line. -/
theorem Run.at {i : Nat} {l : Line} (h : Run st index lines rs last) (hl : lines[i]? = some l) :
    ∃ mid r, Run st index (lines.take i) (rs.take i) mid ∧ readLine mid (index + i) l = .ok r ∧ rs[i]? = some r := by
  induction h generalizing i with
  | nil => simp at hl
  | @cons st last index l₀ lines r₀ rs step rest ih =>
    cases i with
    | zero =>
      obtain rfl : l₀ = l := by simpa using hl
      exact ⟨st, r₀, .nil st index, step, rfl⟩
    | succ i =>
      obtain ⟨mid, r, run, found, at_i⟩ := ih hl
      exact ⟨mid, r, .cons step run, by rwa [Nat.add_comm i 1, ← Nat.add_assoc], at_i⟩

theorem run_of_readFrom {stop : Signal} {occurrences : List Occurrence} {blocks : List BlockRegion}
    (h : readFrom mod stop st index lines = .ok (occurrences, blocks)) :
    ∃ rs last, Run st index lines rs last ∧ occurrences = occurrencesOf rs := by
  induction lines generalizing st index occurrences blocks with
  | nil =>
    cases h
    exact ⟨[], st, .nil st index, rfl⟩
  | cons l lines ih =>
    unfold readFrom at h
    split at h
    · cases h
    · split at h
      · cases h
      · rename_i r step
        obtain ⟨⟨found, regions⟩, rest, eq⟩ := map_eq_ok_iff.1 h
        cases eq
        obtain ⟨rs, last, run, rfl⟩ := ih rest
        exact ⟨r :: rs, last, .cons step run, rfl⟩

/-- Whoever reads a mod without a fault makes a run through its lines, and records what it finds. -/
theorem run_of_read {m : ModFile} {stop : Signal} {d : Definition} (h : Definition.read m stop = .ok d) :
    ∃ rs last, Run ScanState.initial 0 m.lines rs last ∧ d.occurrences = occurrencesOf rs := by
  obtain ⟨⟨occurrences, blocks⟩, found, rfl⟩ := map_eq_ok_iff.1 h
  exact run_of_readFrom found

theorem mod_of_read {m : ModFile} {stop : Signal} {d : Definition} (h : Definition.read m stop = .ok d) : d.mod = m := by
  obtain ⟨-, -, rfl⟩ := map_eq_ok_iff.1 h
  rfl

theorem readFrom_of_run (h : Run st index lines rs last) :
    ∃ blocks, readFrom mod Signal.never st index lines = .ok (occurrencesOf rs, blocks) := by
  induction h with
  | nil => exact ⟨_, rfl⟩
  | cons step rest ih =>
    obtain ⟨blocks, read⟩ := ih
    unfold readFrom
    rw [if_neg (by simp [isStopped, Signal.never]), step]
    simp only [read, Except.map]
    exact ⟨_, rfl⟩

/-- A mod through whose lines a run goes has the definition that records what the run finds. -/
theorem read_of_run {m : ModFile} (h : Run ScanState.initial 0 m.lines rs last) :
    ∃ blocks, Definition.read m Signal.never = .ok ⟨m, occurrencesOf rs, blocks⟩ := by
  obtain ⟨blocks, read_eq⟩ : ∃ blocks, readFrom m.name Signal.never ScanState.initial 0 m.lines =
    .ok (occurrencesOf rs, blocks) := readFrom_of_run h
  exact ⟨blocks, by rw [Definition.read, read_eq]; rfl⟩

/-- What is found on a line, which is content then, is the occurrence of a token that counts. -/
theorem counts_of_readLine {l : Line} {r : LineResult} {o : Occurrence} (h : readLine st index l = .ok r)
    (ho : r.occurrence = some o) :
    st.absorb index (clean l) = none ∧ ∃ t, o = occurrence index t ∧ Counts st (clean l) t := by
  unfold readLine at h
  split at h
  · cases h
    cases ho
  · rename_i content
    obtain ⟨-, -, not_start, not_metadata⟩ := ScanState.absorb_eq_none_iff.1 content
    exact ⟨content, Counts.of_readContent not_start not_metadata h ho⟩

theorem line_of_readLine {l : Line} {r : LineResult} {o : Occurrence} (h : readLine st index l = .ok r)
    (ho : r.occurrence = some o) : o.line = index := by
  obtain ⟨-, t, rfl, -⟩ := counts_of_readLine h ho
  rfl

/-- A run finds its occurrences in the order of the lines, at most one on each. -/
theorem Run.pairwise_line (h : Run st index lines rs last) :
    (occurrencesOf rs).Pairwise (fun o o' => o.line < o'.line) ∧ ∀ o ∈ occurrencesOf rs, index ≤ o.line := by
  induction h with
  | nil => exact ⟨.nil, nofun⟩
  | @cons st last index l lines r rs step rest ih =>
    obtain ⟨ordered, behind⟩ := ih
    have here : ∀ o ∈ r.occurrence.toList, o.line = index := fun o ho => line_of_readLine step (Option.mem_toList.1 ho)
    have cons_eq : occurrencesOf (r :: rs) = r.occurrence.toList ++ occurrencesOf rs := List.flatMap_cons
    rw [cons_eq]
    constructor
    · refine List.pairwise_append.2 ⟨by cases r.occurrence <;> simp, ordered, fun o ho o' ho' => ?_⟩
      have := behind o' ho'
      rw [here o ho]
      omega
    · intro o ho
      rcases List.mem_append.1 ho with ho | ho
      · exact Nat.le_of_eq (here o ho).symm
      · exact Nat.le_of_succ_le (behind o ho)

/-- The occurrences that a run finds are told apart by the lines on which they stand. -/
theorem mem_occurrencesOf {o : Occurrence} {i : Nat} {r : LineResult} (h : Run st index lines rs last)
    (hr : rs[i]? = some r) : (o ∈ occurrencesOf rs ∧ o.line = index + i) ↔ r.occurrence = some o := by
  constructor
  · rintro ⟨found, line_eq⟩
    obtain ⟨r', hr', ho⟩ := List.mem_flatMap.1 found
    obtain ⟨j, hj⟩ := List.mem_iff_getElem?.1 hr'
    have hl : j < lines.length := h.length_eq ▸ (List.getElem?_eq_some_iff.1 hj).1
    obtain ⟨mid, r'', -, step, at_j⟩ := h.at (List.getElem?_eq_getElem hl)
    obtain rfl : r'' = r' := Option.some.inj (at_j.symm.trans hj)
    rw [Option.mem_toList] at ho
    have := line_of_readLine step ho
    obtain rfl : j = i := by omega
    obtain rfl : r'' = r := Option.some.inj (hj.symm.trans hr)
    exact ho
  · intro ho
    have hl : i < lines.length := h.length_eq ▸ (List.getElem?_eq_some_iff.1 hr).1
    obtain ⟨mid, r', -, step, at_i⟩ := h.at (List.getElem?_eq_getElem hl)
    obtain rfl : r' = r := Option.some.inj (at_i.symm.trans hr)
    exact ⟨List.mem_flatMap.2 ⟨r', List.mem_of_getElem? hr, Option.mem_toList.2 ho⟩, line_of_readLine step ho⟩

end Definition

end ModWeave
