import ModWeave.Proofs.Definition.Run
import ModWeave.Remap

/-!
# What lines yield wherever they stand

Outside descriptions the reader's findings depend on the numbers of the lines only in that they bear them.
`LineYields b l m b'` says that a line, wherever it stands behind the first line of a text, yields the mark `m` and
leads from the view `b` of the open block to the view `b'`; `Yields` says it of several lines.  Lines that yield
marks can be joined (`Yields.append`) and are read with these marks (`Yields.run`).
-/

namespace ModWeave

open Text Line

/-- What an occurrence says, apart from the number of its line. -/
structure Mark where
  id : EntityId
  role : Role
  word : List Char
deriving DecidableEq, Repr

/-- The mark with the new number of its id, if a table gives one. -/
def Mark.moved (t : RemapTable) (m : Mark) : Mark :=
  { m with id := m.id.renumber ((OrderedMap.get? t m.id).getD m.id.number) }

def Occurrence.mark (o : Occurrence) : Mark := ⟨o.id, o.role, o.word⟩

namespace Definition

/-- Whether a block is open, and the effect that is known of it. -/
abbrev BlockView := Option (Option Int)

/-- The open block without the number of its line. -/
def blockView (st : ScanState) : BlockView := st.block.map OpenBlock.effect

/-- What a finding says apart from line numbers. -/
def seen (r : LineResult) : Option Nat × BlockView × Option Mark :=
  (r.state.description, blockView r.state, r.occurrence.map Occurrence.mark)

private theorem mark_comp_occurrence (index : Nat) :
    Occurrence.mark ∘ occurrence index = fun t => ⟨t.id, t.command.role, t.command.word⟩ := rfl

/-- From states that differ in line numbers only the reader finds the same. -/
theorem seen_readContent {st st' : ScanState} {index index' : Nat} {l : Line}
    (description : st.description = st'.description) (block : blockView st = blockView st') :
    (readContent st index l).map seen = (readContent st' index' l).map seen := by
  obtain ⟨desc, b⟩ := st
  obtain ⟨desc', b'⟩ := st'
  cases description
  cases kind : classify l with
  | error e => simp [readContent, kind, bind, Except.bind, Except.map]
  | ok k =>
    rcases b with _ | ⟨start, effect⟩ <;> rcases b' with _ | ⟨start', effect'⟩ <;> cases block
    · cases k with
      | blockStart | entity =>
        simp only [readContent, kind, bind, Except.bind]
        cases idToken? false l <;> simp [pure, Except.pure, Except.map, seen, mark_comp_occurrence, blockView,
          ScanState.withBlock, BlockState.opened]
      | _ => simp [readContent, kind, bind, Except.bind, pure, Except.pure, Except.map, seen, blockView]
    · cases k with
      | blockStart =>
        simp only [readContent, kind, bind, Except.bind]
        cases idToken? false l <;> simp [pure, Except.pure, Except.map, seen, mark_comp_occurrence, blockView,
          ScanState.withBlock, BlockState.opened]
      | blockEnd =>
        simp [readContent, kind, bind, Except.bind, pure, Except.pure, Except.map, seen, blockView, ScanState.withBlock]
      | _ =>
        simp only [readContent, kind, bind, Except.bind, BlockState.observe]
        cases effect? l with
        | error e => rfl
        | ok e =>
          simp only [Except.map, BlockState.subCommand?]
          cases idToken? true l with
          | error e' => rfl
          | ok t =>
            -- which ids count inside a block depends on its effect only
            simp only [pure, Except.pure, seen, Option.map_map, mark_comp_occurrence, blockView, ScanState.withBlock]
            rfl

/-- Wherever it stands, a line yields a mark or none and leads from one view of the block to another. -/
def LineYields (b : BlockView) (l : Line) (m : Option Mark) (b' : BlockView) : Prop :=
  ∀ st index, st.description = none → blockView st = b → 0 < index →
    ∃ r, readLine st index l = .ok r ∧ seen r = (none, b', m)

/-- Content opens no description and closes none. -/
theorem description_readContent {st : ScanState} {index : Nat} {l : Line} {r : LineResult}
    (h : readContent st index l = .ok r) : r.state.description = st.description := by
  simp only [readContent, bind, Except.bind, pure, Except.pure] at h
  repeat' split at h
  all_goals cases h
  all_goals rfl

/-- A line that is content yields anywhere what it yields somewhere. -/
theorem lineYields_of_readContent {st : ScanState} {index : Nat} {l : Line} {r : LineResult}
    (content : st.absorb index (clean l) = none) (step : readContent st index (clean l) = .ok r) :
    LineYields (blockView st) l (r.occurrence.map Occurrence.mark) (blockView r.state) := by
  intro st' index' description view pos
  obtain ⟨outside, -, not_start, not_metadata⟩ := ScanState.absorb_eq_none_iff.1 content
  have content' : st'.absorb index' (clean l) = none :=
    ScanState.absorb_eq_none_iff.2 ⟨description, by omega, not_start, not_metadata⟩
  have same : (readContent st index (clean l)).map seen = (readContent st' index' (clean l)).map seen :=
    seen_readContent (outside.trans description.symm) view.symm
  cases step' : readContent st' index' (clean l) with
  | error e => simp [step, step', Except.map] at same
  | ok r' =>
    simp only [step, step', Except.map, Except.ok.injEq] at same
    refine ⟨r', by rw [readLine, content']; exact step', ?_⟩
    rw [← same, seen, description_readContent step, outside]

/-- The state in front of content that has a given view. -/
private def stateOf (b : BlockView) : ScanState := ⟨none, b.map fun e => ⟨0, e⟩⟩

private theorem blockView_stateOf (b : BlockView) : blockView (stateOf b) = b := by
  cases b <;> rfl

/-- What a line yields is decided by the view of the block. -/
theorem LineYields.unique {b b₁ b₂ : BlockView} {l : Line} {m₁ m₂ : Option Mark} (h₁ : LineYields b l m₁ b₁)
    (h₂ : LineYields b l m₂ b₂) : m₁ = m₂ ∧ b₁ = b₂ := by
  obtain ⟨r₁, step₁, seen₁⟩ := h₁ (stateOf b) 1 rfl (blockView_stateOf b) Nat.one_pos
  obtain ⟨r₂, step₂, seen₂⟩ := h₂ (stateOf b) 1 rfl (blockView_stateOf b) Nat.one_pos
  obtain rfl := Except.ok.inj (step₁.symm.trans step₂)
  simp only [seen₁, Prod.mk.injEq, true_and] at seen₂
  exact ⟨seen₂.2, seen₂.1⟩

private theorem lineYields_of_stateOf {b : BlockView} {l : Line} {r : LineResult}
    (not_start : isDescriptionStart (trim (clean l)) = false) (not_metadata : isMetadata (trim (clean l)) = false)
    (step : readContent (stateOf b) 1 (clean l) = .ok r) :
    LineYields b l (r.occurrence.map Occurrence.mark) (blockView r.state) := by
  have content : (stateOf b).absorb 1 (clean l) = none :=
    ScanState.absorb_eq_none_iff.2 ⟨rfl, by omega, not_start, not_metadata⟩
  simpa only [blockView_stateOf] using lineYields_of_readContent content step

theorem lineYields_of_signWord?_eq_none {l : Line} (h : signWord? (clean l) = none) (b : BlockView) :
    LineYields b l none b := by
  obtain ⟨not_start, not_metadata, -, -⟩ := not_head_of_signWord?_eq_none ((signWord?_trim (clean l)).trans h)
  have yields := lineYields_of_stateOf (b := b) not_start not_metadata (readContent_of_signWord?_eq_none h)
  rwa [blockView_stateOf] at yields

theorem lineYields_of_isBlockEnd {l : Line} (h : isBlockEnd (clean l) = true) (b : BlockView) :
    LineYields b l none none := by
  obtain ⟨not_start, not_metadata⟩ := not_head_of_isBlockEnd h
  cases b with
  | none =>
    refine lineYields_of_stateOf (r := ⟨stateOf none, none, none⟩) not_start not_metadata ?_
    simp [readContent, classify_of_isBlockEnd h, stateOf, bind, Except.bind, pure, Except.pure]
  | some e => exact lineYields_of_stateOf not_start not_metadata (readContent_of_isBlockEnd rfl h)

/-! ### Several lines -/

/-- Lines behind the first one of a text yield marks and lead from one view of the block to another. -/
inductive Yields : BlockView → List Line → List Mark → BlockView → Prop
  | nil (b : BlockView) : Yields b [] [] b
  | cons {b b' last : BlockView} {l : Line} {lines : List Line} {m : Option Mark} {ms : List Mark}
      (line : LineYields b l m b') (rest : Yields b' lines ms last) : Yields b (l :: lines) (m.toList ++ ms) last

namespace Yields

variable {b mid last : BlockView} {lines : List Line} {ms : List Mark}

theorem append {lines' : List Line} {ms' : List Mark} (h : Yields b lines ms mid) (h' : Yields mid lines' ms' last) :
    Yields b (lines ++ lines') (ms ++ ms') last := by
  induction h with
  | nil => exact h'
  | cons line rest ih =>
    rw [List.append_assoc]
    exact .cons line (ih h')

theorem tail {l : Line} (h : Yields b (l :: lines) ms last) (silent : LineYields b l none b) :
    Yields b lines ms last := by
  cases h with
  | cons line rest =>
    obtain ⟨rfl, rfl⟩ := line.unique silent
    exact rest

/-- Lines that yield marks are read, and these marks are what the reader finds. -/
theorem run {st : ScanState} {index : Nat} (h : Yields b lines ms last) (description : st.description = none)
    (view : blockView st = b) (pos : 0 < index) :
    ∃ rs st', Run st index lines rs st' ∧ (occurrencesOf rs).map Occurrence.mark = ms := by
  induction h generalizing st index with
  | nil => exact ⟨[], st, .nil st index, rfl⟩
  | cons line rest ih =>
    obtain ⟨r, step, seen_eq⟩ := line st index description view pos
    simp only [seen, Prod.mk.injEq] at seen_eq
    obtain ⟨description', view', found⟩ := seen_eq
    obtain ⟨rs, st', run, marks_eq⟩ := ih description' view' (Nat.succ_pos index)
    refine ⟨r :: rs, st', .cons step run, ?_⟩
    rw [occurrencesOf, List.flatMap_cons, List.map_append, ← occurrencesOf, marks_eq, ← found]
    cases r.occurrence <;> rfl

end Yields

end Definition

end ModWeave
