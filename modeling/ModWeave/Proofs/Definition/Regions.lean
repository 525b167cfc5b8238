import ModWeave.Proofs.Definition.Declarative

/-!
# The regions of blocks

What a line can do to blocks is said once (`BlockMove`): it opens one, which cuts an open one short, it closes the open
one, or it leaves everything as it is.  So the regions that a run finds come one behind the other
(`Run.inSequence_regionsOf`), the first of them being that of the block which is open in front of the run, and a region
begins wherever a line of content opens a block, and nowhere else (`Run.exists_start_iff`).
-/

namespace ModWeave

/-- The line that opened the block in which the next line stands. -/
def ScanState.openedAt? (st : ScanState) : Option Nat := st.block.map OpenBlock.start

theorem ScanState.openedAt?_of_block_eq {st : ScanState} {b : OpenBlock} (block : st.block = some b) :
    st.openedAt? = some b.start := by
  rw [openedAt?, block, Option.map_some]

namespace Definition

open Text Line

variable {st last : ScanState} {index i s : Nat} {l : Line} {lines ls : List Line} {r : LineResult}
  {rs : List LineResult}

/-! ### One line -/

/-- The reader takes line number `index` for content that opens a block. -/
def OpensHere (st : ScanState) (index : Nat) (l : Line) : Prop :=
  st.absorb index (clean l) = none ∧ isBlockStart (clean l) = true

/-- What line number `index` can do to the open block, and which region ends there. -/
inductive BlockMove (st : ScanState) (index : Nat) (l : Line) (r : LineResult) : Prop
  /-- The line opens a block; the one that was open ends without a last line. -/
  | opens (opens : OpensHere st index l) (opened : r.state.openedAt? = some index)
      (region : r.block = st.openedAt?.map (⟨·, none⟩))
  /-- The line closes the open block. -/
  | closes {s : Nat} (not_opens : ¬ OpensHere st index l) (inside : st.openedAt? = some s)
      (closed : r.state.openedAt? = none) (region : r.block = some ⟨s, some index⟩)
  | stays (not_opens : ¬ OpensHere st index l) (same : r.state.openedAt? = st.openedAt?) (region : r.block = none)

theorem closing_none_eq (st : ScanState) : closing st.block none = st.openedAt?.map (⟨·, none⟩) := by
  rw [closing, ScanState.openedAt?, Option.map_map]
  rfl

private theorem blockMove_of_content (content : st.absorb index (clean l) = none)
    (h : readContent st index (clean l) = .ok r) : BlockMove st index l r := by
  obtain ⟨-, -, not_start, not_metadata⟩ := ScanState.absorb_eq_none_iff.1 content
  cases opens : isBlockStart (clean l) with
  | true =>
    rw [readContent_of_classify_blockStart (classify_of_isBlockStart opens)] at h
    obtain ⟨t, -, rfl⟩ := map_eq_ok_iff.1 h
    exact .opens ⟨content, opens⟩ rfl (closing_none_eq st)
  | false =>
    have not_opens : ¬ OpensHere st index l := fun here => by
      rw [here.2] at opens
      cases opens
    cases block : st.block with
    | none =>
      obtain ⟨state_eq, region⟩ := of_readContent_outside block opens h
      exact .stays not_opens (by rw [state_eq]) region
    | some b =>
      have inside := ScanState.openedAt?_of_block_eq block
      cases closes : isBlockEnd (clean l) with
      | true =>
        rw [readContent_of_isBlockEnd block closes] at h
        cases h
        exact .closes not_opens inside rfl rfl
      | false =>
        obtain ⟨e, -, state_eq, region⟩ := of_readContent_inside block not_start not_metadata opens closes h
        -- the block may get another effect, but its first line stays
        exact .stays not_opens (by rw [state_eq, inside]; rfl) region

theorem blockMove_of_readLine (step : readLine st index l = .ok r) : BlockMove st index l r := by
  unfold readLine at step
  split at step
  · rename_i next absorbed
    cases step
    refine .stays (fun here => ?_) ?_ rfl
    · rw [here.1] at absorbed
      cases absorbed
    · rw [ScanState.openedAt?, ScanState.block_of_absorb absorbed, ScanState.openedAt?]
  · rename_i content
    exact blockMove_of_content content step

/-! ### Regions in sequence -/

/-- The last line that a region is known to have. -/
def lastLine (b : BlockRegion) : Nat := b.stop.getD b.start

/-- Regions that begin at the given line or behind it, each behind the last line of the one in front, and that end behind
their beginning if they end. -/
def InSequence (index : Nat) : List BlockRegion → Prop
  | [] => True
  | b :: bs => index ≤ b.start ∧ (∀ s ∈ b.stop, b.start < s) ∧ InSequence (lastLine b + 1) bs

namespace InSequence

variable {bs : List BlockRegion}

theorem mono {index' : Nat} (h : InSequence index bs) (le : index' ≤ index) : InSequence index' bs := by
  cases bs with
  | nil => trivial
  | cons b bs => exact ⟨Nat.le_trans le h.1, h.2⟩

theorem start_lt_stop (h : InSequence index bs) : ∀ b ∈ bs, ∀ s ∈ b.stop, b.start < s := by
  induction bs generalizing index with
  | nil => nofun
  | cons b bs ih =>
    intro c hc
    rcases List.mem_cons.1 hc with rfl | hc
    · exact h.2.1
    · exact ih h.2.2 c hc

private theorem start_le_lastLine {b : BlockRegion} (h : ∀ s ∈ b.stop, b.start < s) : b.start ≤ lastLine b := by
  unfold lastLine
  cases stop : b.stop with
  | none => exact Nat.le_refl _
  | some s => exact Nat.le_of_lt (h s stop)

theorem le_start (h : InSequence index bs) : ∀ b ∈ bs, index ≤ b.start := by
  induction bs generalizing index with
  | nil => nofun
  | cons b bs ih =>
    intro c hc
    rcases List.mem_cons.1 hc with rfl | hc
    · exact h.1
    · have behind := ih h.2.2 c hc
      have := start_le_lastLine h.2.1
      have := h.1
      omega

/-- Every region begins behind the last lines of all in front of it. -/
theorem pairwise (h : InSequence index bs) : bs.Pairwise fun b c => lastLine b < c.start := by
  induction bs generalizing index with
  | nil => exact .nil
  | cons b bs ih => exact List.pairwise_cons.2 ⟨fun c hc => h.2.2.le_start c hc, ih h.2.2⟩

theorem pairwise_start (h : InSequence index bs) : bs.Pairwise fun b c => b.start < c.start := by
  refine h.pairwise.imp_of_mem fun {b c} hb _ lt => ?_
  exact Nat.lt_of_le_of_lt (start_le_lastLine (h.start_lt_stop b hb)) lt

end InSequence

/-! ### All lines -/

/-- The regions that end on some lines, and the one that is left open behind them. -/
def regionsOf (rs : List LineResult) (last : ScanState) : List BlockRegion :=
  rs.flatMap (fun r => r.block.toList) ++ (closing last.block none).toList

theorem regionsOf_nil (last : ScanState) : regionsOf [] last = (last.openedAt?.map (⟨·, none⟩)).toList := by
  rw [regionsOf, closing_none_eq]
  rfl

theorem regionsOf_cons (r : LineResult) (rs : List LineResult) (last : ScanState) :
    regionsOf (r :: rs) last = r.block.toList ++ regionsOf rs last := by
  rw [regionsOf, List.flatMap_cons, List.append_assoc]
  rfl

private theorem blocks_of_readFrom {mod : String} {stop : Signal} {occurrences : List Occurrence}
    {blocks : List BlockRegion} (run : Run st index lines rs last)
    (h : readFrom mod stop st index lines = .ok (occurrences, blocks)) : blocks = regionsOf rs last := by
  induction run generalizing occurrences blocks with
  | nil =>
    cases h
    rfl
  | cons step rest ih =>
    unfold readFrom at h
    split at h
    · cases h
    · rw [step] at h
      obtain ⟨⟨found, regions⟩, read, eq⟩ := map_eq_ok_iff.1 h
      cases eq
      rw [ih read, regionsOf_cons]

theorem exists_run_regions_of_read {m : ModFile} {stop : Signal} {d : Definition} (read : Definition.read m stop = .ok d) :
    ∃ rs last, Run ScanState.initial 0 m.lines rs last ∧ d.blocks = regionsOf rs last := by
  obtain ⟨rs, last, run, -⟩ := run_of_read read
  obtain ⟨⟨occurrences, blocks⟩, found, rfl⟩ := map_eq_ok_iff.1 read
  exact ⟨rs, last, run, blocks_of_readFrom run found⟩

/-- The first region is that of the block which is open in front of the lines. -/
theorem Run.head?_regionsOf (run : Run st index lines rs last) (inside : st.openedAt? = some s) :
    (regionsOf rs last).head?.map BlockRegion.start = some s := by
  induction run with
  | nil => rw [regionsOf_nil, inside]; rfl
  | cons step rest ih =>
    rw [regionsOf_cons]
    cases blockMove_of_readLine step with
    | opens opens opened region => rw [region, inside]; rfl
    | closes not_opens inside' closed region =>
      obtain rfl := Option.some.inj (inside.symm.trans inside')
      rw [region]
      rfl
    | stays not_opens same region =>
      rw [region]
      exact ih (same.trans inside)

/-- The regions come one behind the other. -/
theorem Run.inSequence_regionsOf (run : Run st index lines rs last) (behind : ∀ s ∈ st.openedAt?, s < index) :
    InSequence (st.openedAt?.getD index) (regionsOf rs last) := by
  induction run with
  | @nil st index =>
    rw [regionsOf_nil]
    cases st.openedAt? with
    | none => trivial
    | some s => exact ⟨Nat.le_refl s, nofun, trivial⟩
  | @cons st last index l lines r rs step rest ih =>
    rw [regionsOf_cons]
    cases blockMove_of_readLine step with
    | opens opens opened region =>
      rw [opened] at ih
      have later : InSequence index (regionsOf rs last) := ih fun s hs => by
        rw [← Option.some.inj hs]
        exact Nat.lt_succ_self index
      rw [region]
      cases inside : st.openedAt? with
      | none => exact later
      | some s => exact ⟨Nat.le_refl s, nofun, later.mono (behind s inside)⟩
    | closes not_opens inside closed region =>
      rw [closed] at ih
      rw [region, inside]
      exact ⟨Nat.le_refl _, fun _ hs => Option.some.inj hs ▸ behind _ inside, ih nofun⟩
    | stays not_opens same region =>
      rw [same] at ih
      rw [region]
      refine (ih fun s hs => Nat.lt_succ_of_lt (behind s hs)).mono ?_
      cases st.openedAt? with
      | none => exact Nat.le_succ index
      | some s => exact Nat.le_refl s

private theorem opensBlock_from_iff : (index ≤ i ∧ OpensBlock ls i) ↔
    (i = index ∧ OpensBlock ls index) ∨ (index + 1 ≤ i ∧ OpensBlock ls i) := by
  constructor
  · rintro ⟨le, opens⟩
    rcases Nat.eq_or_lt_of_le le with rfl | lt
    · exact Or.inl ⟨rfl, opens⟩
    · exact Or.inr ⟨lt, opens⟩
  · rintro (⟨rfl, opens⟩ | ⟨lt, opens⟩)
    · exact ⟨Nat.le_refl i, opens⟩
    · exact ⟨Nat.le_of_succ_le lt, opens⟩

/-- Regions begin at the line that opened the block in front of the run, and wherever a line of content opens one. -/
theorem Run.exists_start_iff (run : Run st index lines rs last) (situation : Situation ls index st)
    (stand : StandAt ls index lines) (length_eq : ls.length = index + lines.length) :
    (∃ b ∈ regionsOf rs last, b.start = i) ↔ st.openedAt? = some i ∨ (index ≤ i ∧ OpensBlock ls i) := by
  induction run with
  | @nil st index =>
    have none_behind : ¬ (index ≤ i ∧ OpensBlock ls i) := by
      rintro ⟨le, opens⟩
      have := opens.1.lt
      rw [length_eq, List.length_nil] at this
      omega
    rw [regionsOf_nil, or_iff_left none_behind]
    cases st.openedAt? <;> simp
  | @cons st last index l lines r rs step rest ih =>
    have rest_iff := ih (situation.readLine stand.head step) stand.tail
      (by rw [length_eq, List.length_cons, Nat.add_assoc, Nat.add_comm 1])
    have here_iff : OpensHere st index l ↔ OpensBlock ls index := by
      rw [OpensHere, situation.absorb_eq_none_iff stand.head, OpensBlock, shows_iff stand.head]
    rw [opensBlock_from_iff, ← here_iff]
    simp only [regionsOf_cons, List.mem_append, or_and_right, exists_or, rest_iff]
    cases blockMove_of_readLine step with
    | opens opens opened region =>
      rw [region, opened]
      cases st.openedAt? <;> simp [opens, eq_comm]
    | closes not_opens inside closed region =>
      rw [region, inside, closed]
      simp [not_opens]
    | stays not_opens same region =>
      rw [region, same]
      simp [not_opens]

/-- The regions of a mod that is read come one behind the other, and they begin where a line of content opens a block. -/
theorem regions_of_read {m : ModFile} {stop : Signal} {d : Definition} (read : Definition.read m stop = .ok d) :
    InSequence 0 d.blocks ∧ ∀ i, (∃ b ∈ d.blocks, b.start = i) ↔ OpensBlock (m.lines.map clean) i := by
  obtain ⟨rs, last, run, blocks_eq⟩ := exists_run_regions_of_read read
  rw [blocks_eq]
  refine ⟨run.inSequence_regionsOf nofun, fun i => ?_⟩
  rw [run.exists_start_iff (Situation.initial _) (standAt_zero _) (by rw [List.length_map, Nat.zero_add])]
  simp [ScanState.openedAt?, ScanState.initial]

theorem opensBlock_iff : OpensBlock ls i ↔ Remains ls i ∧ ∃ l, ls[i]? = some l ∧ classify l = .ok .blockStart := by
  simp only [OpensBlock, Shows, classify_eq_blockStart_iff]

end Definition

end ModWeave
