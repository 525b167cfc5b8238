import ModWeave.Definition.Reading
import ModWeave.Proofs.Line.Kinds

/-!
# What the reader finds on a line

`readContent` looks at the kind of a line and at the open block together.  The lemmas here give its finding for one
shape of line each: a line that opens or closes a block, any other line inside a block, a line that carries an id
(`readContent_of_idToken?`), and a line without a keyword (`readContent_of_signWord?_eq_none`).
-/

namespace ModWeave

open Text Line

/-- What it means that a line is content. -/
theorem ScanState.absorb_eq_none_iff {st : ScanState} {index : Nat} {l : Line} :
    st.absorb index l = none ↔ st.description = none ∧ ¬ (index = 0 ∧ trim l = []) ∧
      isDescriptionStart (trim l) = false ∧ isMetadata (trim l) = false := by
  unfold ScanState.absorb
  cases st.description with
  | some n => simp
  | none =>
    simp only [Option.isSome_none, Bool.false_eq_true, if_false, true_and]
    split
    · simp_all
    · split
      · simp_all
      · split <;> simp_all

/-- Lines that are not content leave the block as it is. -/
theorem ScanState.block_of_absorb {st next : ScanState} {index : Nat} {l : Line} (h : st.absorb index l = some next) :
    next.block = st.block := by
  simp only [ScanState.absorb] at h
  repeat' split at h
  all_goals cases h
  all_goals rfl

/-- Outside descriptions a line with an id is content. -/
theorem ScanState.absorb_of_idToken? {st : ScanState} {index : Nat} {inBlock : Bool} {l : Line} {t : IdToken}
    (outside : st.description = none) (h : idToken? inBlock l = .ok (some t)) : st.absorb index l = none := by
  obtain ⟨p, -, read, -⟩ := idToken?_eq_some_iff.1 h
  obtain ⟨not_start, not_metadata, -⟩ := not_head_of_idToken? h
  have not_blank := ne_nil_of_signWord? ((signWord?_trim l).trans (signWord?_of_read? read))
  exact ScanState.absorb_eq_none_iff.2 ⟨outside, fun first => not_blank first.2, not_start, not_metadata⟩

namespace Definition

theorem readContent_of_isBlockEnd {st : ScanState} {b : OpenBlock} {index : Nat} {l : Line}
    (block : st.block = some b) (h : isBlockEnd l = true) :
    readContent st index l = .ok ⟨st.withBlock none, none, some ⟨b.start, some index⟩⟩ := by
  simp [readContent, classify_of_isBlockEnd h, block, closing, bind, Except.bind, pure, Except.pure]

theorem readContent_of_classify_blockStart {st : ScanState} {index : Nat} {l : Line}
    (h : classify l = .ok .blockStart) :
    readContent st index l = (idToken? false l).map fun t =>
      ⟨st.withBlock (BlockState.opened index), t.map (occurrence index), closing st.block none⟩ := by
  simp only [readContent, h, bind, Except.bind]
  cases idToken? false l <;> rfl

/-- The reader's finding on any other line inside a block. -/
theorem readContent_inside {st : ScanState} {b : OpenBlock} {index : Nat} {l : Line} (block : st.block = some b)
    (not_start : isDescriptionStart (trim l) = false) (not_metadata : isMetadata (trim l) = false)
    (not_opens : isBlockStart l = false) (not_closes : isBlockEnd l = false) :
    readContent st index l = (do
      let block ← st.block.observe l
      let token ← block.subCommand? l
      return ⟨st.withBlock block, token.map (occurrence index), none⟩) := by
  have failed : ∀ e, classify l = .error e → readContent st index l = .error e := fun e h => by
    simp only [readContent, h, bind, Except.bind]
  have found : ∀ k, classify l = .ok k → k ≠ .blockStart → k ≠ .blockEnd → readContent st index l = (do
      let block ← st.block.observe l
      let token ← block.subCommand? l
      return ⟨st.withBlock block, token.map (occurrence index), none⟩) := by
    intro k h not_start not_end
    simp only [readContent, h, block, bind, Except.bind]
  rcases classify_of_not_block not_start not_metadata not_opens not_closes with h | h | h
  · exact found _ h (by decide) (by decide)
  · exact found _ h (by decide) (by decide)
  · cases token : idToken? false (trim l) with
    | ok t =>
      rw [token] at h
      cases t with
      | none => exact found .other h (by decide) (by decide)
      | some t => exact found .entity h (by decide) (by decide)
    | error e =>
      -- the id with too many digits stops the observer of the block at the same place
      rw [token] at h
      obtain ⟨no_effect, inside⟩ := effect?_and_idToken?_of_error token
      rw [failed e h, block]
      simp [BlockState.observe, BlockState.subCommand?, no_effect, inside, Except.map, bind, Except.bind]

/-- The reader's finding on a line that carries an id and stands outside blocks or opens one. -/
theorem readContent_of_idToken? {st : ScanState} {index : Nat} {l : Line} {t : IdToken}
    (token : idToken? false l = .ok (some t)) (place : isBlockStart l = true ∨ st.block = none) :
    readContent st index l = .ok ⟨if isBlockStart l then st.withBlock (BlockState.opened index) else st,
      some (occurrence index t), if isBlockStart l then closing st.block none else none⟩ := by
  cases opens : isBlockStart l with
  | true =>
    rw [readContent_of_classify_blockStart (classify_of_isBlockStart opens), token]
    rfl
  | false =>
    have block : st.block = none := place.resolve_left (by simp [opens])
    simp [readContent, classify_of_idToken? token opens, token, block, bind, Except.bind, pure, Except.pure]

/-- The reader's finding on a line that carries an id inside a block: the id counts or not, and the effect stays. -/
theorem readContent_of_idToken?_inside {st : ScanState} {b : OpenBlock} {index : Nat} {l : Line} {t : IdToken}
    (block : st.block = some b) (token : idToken? true l = .ok (some t)) (not_opens : isBlockStart l = false) :
    readContent st index l =
      .ok ⟨st, if BlockState.counts b t then some (occurrence index t) else none, none⟩ := by
  obtain ⟨not_start, not_metadata, not_closes⟩ := not_head_of_idToken? token
  obtain ⟨p, -, read, command, -, -⟩ := idToken?_eq_some_iff.1 token
  rw [readContent_inside block not_start not_metadata not_opens not_closes, block]
  have observed : BlockState.observe (some b) l = .ok (some b) := by
    simp [BlockState.observe, effect?_of_command? read command, Except.map]
  have state_eq : st.withBlock (some b) = st := by rw [← block]; rfl
  simp only [observed, BlockState.subCommand?, token, bind, Except.bind, pure, Except.pure, Except.map, Option.filter,
    state_eq]
  split <;> rfl

/-- The reader finds nothing on a line without a keyword. -/
theorem readContent_of_signWord?_eq_none {st : ScanState} {index : Nat} {l : Line} (h : signWord? l = none) :
    readContent st index l = .ok ⟨st, none, none⟩ := by
  have trimmed : signWord? (trim l) = none := (signWord?_trim l).trans h
  obtain ⟨not_start, not_metadata, -, -⟩ := not_head_of_signWord?_eq_none trimmed
  obtain ⟨-, -, not_opens, not_closes⟩ := not_head_of_signWord?_eq_none h
  cases block : st.block with
  | none =>
    have no_token := idToken?_of_signWord?_eq_none trimmed false
    rcases classify_of_not_block not_start not_metadata not_opens not_closes with kind | kind | kind
    · simp [readContent, kind, block, bind, Except.bind, pure, Except.pure]
    · simp [readContent, kind, block, bind, Except.bind, pure, Except.pure]
    · simp [readContent, kind, block, no_token, bind, Except.bind, pure, Except.pure, Except.map]
  | some b =>
    have observed : BlockState.observe (some b) l = .ok (some b) := by
      simp [BlockState.observe, effect?_of_signWord?_eq_none h, Except.map]
    have state_eq : st.withBlock (some b) = st := by rw [← block]; rfl
    rw [readContent_inside block not_start not_metadata not_opens not_closes, block]
    simp [observed, BlockState.subCommand?, idToken?_of_signWord?_eq_none h, bind, Except.bind, pure, Except.pure,
      Except.map, state_eq]

/-! ### Ids that count -/

/-- A token counts on a line in a state: inside a block, unless the line opens another one, only tokens of its own
commands do. -/
def Counts (st : ScanState) (l : Line) (t : IdToken) : Prop :=
  (idToken? false l = .ok (some t) ∧ (isBlockStart l = true ∨ st.block = none)) ∨
    ∃ b, st.block = some b ∧ isBlockStart l = false ∧ idToken? true l = .ok (some t) ∧ BlockState.counts b t = true

namespace Counts

variable {st : ScanState} {l : Line} {t : IdToken}

theorem idToken?_eq (h : Counts st l t) : idToken? true l = .ok (some t) := by
  rcases h with ⟨token, -⟩ | ⟨-, -, -, token, -⟩
  · rw [idToken?_inBlock (by simp [token]), token]
  · exact token

/-- The reader records every token that counts. -/
theorem readContent_eq (h : Counts st l t) (index : Nat) : ∃ block, readContent st index l =
    .ok ⟨if isBlockStart l then st.withBlock (BlockState.opened index) else st, some (occurrence index t), block⟩ := by
  rcases h with ⟨token, place⟩ | ⟨b, block, not_opens, token, counts⟩
  · exact ⟨_, readContent_of_idToken? token place⟩
  · refine ⟨none, ?_⟩
    rw [readContent_of_idToken?_inside block token not_opens, counts, not_opens]
    rfl

private theorem of_map_occurrence {index : Nat} {u : Option IdToken} {o : Occurrence} (token : idToken? false l = .ok u)
    (found : u.map (occurrence index) = some o) (place : isBlockStart l = true ∨ st.block = none) :
    ∃ t, o = occurrence index t ∧ Counts st l t := by
  obtain ⟨t, rfl, rfl⟩ := Option.map_eq_some_iff.1 found
  exact ⟨t, rfl, Or.inl ⟨token, place⟩⟩

private theorem of_readContent_outside {index : Nat} {r : LineResult} {o : Occurrence} (block : st.block = none)
    (h : readContent st index l = .ok r) (ho : r.occurrence = some o) : ∃ t, o = occurrence index t ∧ Counts st l t := by
  cases kind : classify l with
  | error e => simp [readContent, kind, bind, Except.bind] at h
  | ok k =>
    simp only [readContent, kind, block, bind, Except.bind, pure, Except.pure] at h
    cases k with
    | blockStart | entity =>
      cases token : idToken? false l with
      | error e => simp [token] at h
      | ok u =>
        simp only [token, Except.ok.injEq] at h
        subst h
        exact of_map_occurrence token ho (Or.inr block)
    | _ =>
      cases h
      cases ho

private theorem of_readContent_inside {b : OpenBlock} {index : Nat} {r : LineResult} {o : Occurrence}
    (block : st.block = some b) (not_start : isDescriptionStart (trim l) = false)
    (not_metadata : isMetadata (trim l) = false) (not_opens : isBlockStart l = false) (not_closes : isBlockEnd l = false)
    (h : readContent st index l = .ok r) (ho : r.occurrence = some o) : ∃ t, o = occurrence index t ∧ Counts st l t := by
  rw [readContent_inside block not_start not_metadata not_opens not_closes, block] at h
  cases effect : effect? l with
  | error e => simp [BlockState.observe, effect, bind, Except.bind, Except.map] at h
  | ok e =>
    cases token : idToken? true l with
    | error e' => simp [BlockState.observe, BlockState.subCommand?, effect, token, bind, Except.bind, Except.map] at h
    | ok u =>
      simp only [BlockState.observe, BlockState.subCommand?, effect, token, bind, Except.bind, pure, Except.pure,
        Except.map, Except.ok.injEq] at h
      subst h
      obtain ⟨t, counted, rfl⟩ := Option.map_eq_some_iff.1 ho
      obtain ⟨rfl, counts⟩ := Option.filter_eq_some_iff.1 counted
      -- a line with an id names no effect
      obtain ⟨p, -, read, command, -, -⟩ := idToken?_eq_some_iff.1 token
      obtain rfl : none = e := Except.ok.inj ((effect?_of_command? read command).symm.trans effect)
      exact ⟨t, rfl, Or.inr ⟨b, block, not_opens, token, counts⟩⟩

/-- The reader records no token that does not count. -/
theorem of_readContent {index : Nat} {r : LineResult} {o : Occurrence} (not_start : isDescriptionStart (trim l) = false)
    (not_metadata : isMetadata (trim l) = false) (h : readContent st index l = .ok r) (ho : r.occurrence = some o) :
    ∃ t, o = occurrence index t ∧ Counts st l t := by
  cases block : st.block with
  | none => exact of_readContent_outside block h ho
  | some b =>
    cases opens : isBlockStart l with
    | true =>
      rw [readContent_of_classify_blockStart (classify_of_isBlockStart opens)] at h
      cases token : idToken? false l with
      | error e => simp [token, Except.map] at h
      | ok u =>
        simp only [token, Except.map, Except.ok.injEq] at h
        subst h
        exact of_map_occurrence token ho (Or.inl opens)
    | false =>
      cases closes : isBlockEnd l with
      | true =>
        rw [readContent_of_isBlockEnd block closes] at h
        cases h
        cases ho
      | false => exact of_readContent_inside block not_start not_metadata opens closes h ho

end Counts

end Definition

end ModWeave
