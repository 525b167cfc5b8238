import ModWeave.Output.Ends
import ModWeave.Proofs.Definition.Yields
import ModWeave.Proofs.Line.Plain
import ModWeave.Proofs.Output.Lockstep

/-!
# What a written body yields

The lines that the writer makes of a mod yield, wherever they stand, the marks of the mod with their new numbers
(`yields_bodyFrom`): a comment yields nothing, a line with its literal exchanged yields the same mark with another
number, and lines that the reader passes over leave the block as it is.  Dropping repeated block ends changes nothing
of that, since between an end and the next one no block is open (`Yields.collapseFrom`).
-/

namespace ModWeave.Output

open Text Line Definition

/-- A new number by which an occurrence can be recorded again: it can be written, has the sign of the old one, and
takes the place of no positive montag, which would have to be written as a negative literal. -/
structure Fits (o : Occurrence) (n : Int) : Prop where
  writable : Decimal.isWritable n = true
  sign_eq : n.sign = o.id.number.sign
  montag : o.word = "montag".toList → o.id.number ≤ 0

/-! ### Exchanged ids -/

private theorem hasKeyword_of_idToken? {inBlock : Bool} {l : Line} {t : IdToken} (h : idToken? inBlock l = .ok (some t))
    {word : String} (keyword : IsKeyword word) : hasKeyword word l = decide (t.command.word = word.toList) := by
  obtain ⟨p, -, read, command, -, -⟩ := idToken?_eq_some_iff.1 h
  have word_eq := (Command.mem_table_of_find? (Option.filter_eq_some_iff.1 command).1).2
  rw [Bool.eq_iff_iff, hasKeyword_iff_of_read? keyword read, word_eq]
  simp

private theorem isBlockStart_of_idToken? {inBlock : Bool} {l : Line} {t : IdToken}
    (h : idToken? inBlock l = .ok (some t)) : isBlockStart l =
      (decide (t.command.word = "newspell".toList) || decide (t.command.word = "selectspell".toList)) := by
  rw [isBlockStart, hasKeyword_of_idToken? h (by decide), hasKeyword_of_idToken? h (by decide)]

/-- Only montags are written as the magnitudes of negative numbers. -/
private theorem word_of_negated : ∀ c ∈ Command.table, c.negated = true → c.word = "montag".toList := by decide +kernel

/-- A token whose number is exchanged for a number that fits counts where it counted before. -/
theorem counts_replaceId {st : ScanState} {l : Line} {t : IdToken} {index : Nat} {n : Int}
    (counts : Counts st (clean l) t) (fits : Fits (occurrence index t) n) :
    ∃ stop, Counts st (clean (replaceId l t n)) { t with number := n, stop } ∧
      isBlockStart (clean (replaceId l t n)) = isBlockStart (clean l) := by
  have negative : t.command.negated = true → n ≤ 0 := fun negated => by
    obtain ⟨p, -, -, command, -, -⟩ := idToken?_eq_some_iff.1 counts.idToken?_eq
    have mem := (Command.mem_table_of_find? (Option.filter_eq_some_iff.1 command).1).1
    have old : t.number ≤ 0 := fits.montag (word_of_negated _ mem negated)
    have sign_eq : n.sign = t.number.sign := fits.sign_eq
    exact Int.sign_nonpos_iff.1 (sign_eq ▸ Int.sign_nonpos_iff.2 old)
  have again : ∀ inBlock, idToken? inBlock (clean l) = .ok (some t) → ∃ stop,
      idToken? inBlock (clean (replaceId l t n)) = .ok (some { t with number := n, stop }) ∧
        isBlockStart (clean (replaceId l t n)) = isBlockStart (clean l) := by
    intro inBlock token
    have token' := idToken?_replaceId token fits.writable
    rw [IdToken.readBack_eq_iff.2 negative] at token'
    exact ⟨_, token', (isBlockStart_of_idToken? token').trans (isBlockStart_of_idToken? token).symm⟩
  rcases counts with ⟨token, place⟩ | ⟨b, block, not_opens, token, counted⟩
  · obtain ⟨stop, token', opens_eq⟩ := again false token
    exact ⟨stop, Or.inl ⟨token', opens_eq ▸ place⟩, opens_eq⟩
  · obtain ⟨stop, token', opens_eq⟩ := again true token
    refine ⟨stop, Or.inr ⟨b, block, opens_eq.trans not_opens, token', ?_⟩, opens_eq⟩
    -- the damage of a spell counts unless its number is zero, which the sign keeps
    have sign_eq : n.sign = t.number.sign := fits.sign_eq
    have zero_iff : n = 0 ↔ t.number = 0 := by rw [← Int.sign_eq_zero_iff_zero, sign_eq, Int.sign_eq_zero_iff_zero]
    simpa only [BlockState.counts, ne_eq, zero_iff] using counted

/-! ### One line -/

private theorem lineYields_comment (id : EntityId) (n : Int) (b : BlockView) : LineYields b (comment id n) none b := by
  refine lineYields_of_signWord?_eq_none ?_ b
  rw [(isPlain_comment id n).clean_eq]
  exact signWord?_of_dash _

private theorem moved_of_unchanged {table : RemapTable} {m : Mark} (h : table.change? m.id = none) :
    m.moved table = m := by
  unfold RemapTable.change? at h
  rw [Option.filter_eq_none_iff] at h
  cases entry : OrderedMap.get? table m.id with
  | none => simp [Mark.moved, entry, EntityId.renumber]
  | some n =>
    have same : n = m.id.number := by simpa using h n entry
    simp [Mark.moved, entry, same, EntityId.renumber]

section Follow

variable {table : RemapTable} {st : ScanState} {index : Nat} {l : Line} {r : LineResult}

/-- A token that gets a new number yields the mark with that number, and a comment in front that yields nothing. -/
private theorem yields_replaceId {t : IdToken} {n : Int} (content : st.absorb index (clean l) = none)
    (step : readContent st index (clean l) = .ok r) (counts : Counts st (clean l) t)
    (fits : Fits (occurrence index t) n) :
    Yields (blockView st) [comment t.id n, replaceId l t n]
      [{ (occurrence index t).mark with id := t.id.renumber n }] (blockView r.state) := by
  obtain ⟨stop, counts', opens_eq⟩ := counts_replaceId counts fits
  obtain ⟨block, found⟩ := counts.readContent_eq index
  obtain ⟨block', found'⟩ := counts'.readContent_eq index
  obtain rfl := Except.ok.inj (step.symm.trans found)
  rw [opens_eq] at found'
  have content' : st.absorb index (clean (replaceId l t n)) = none :=
    ScanState.absorb_of_idToken? (ScanState.absorb_eq_none_iff.1 content).1 counts'.idToken?_eq
  exact .cons (lineYields_comment t.id n _) (.cons (lineYields_of_readContent content' found') (.nil _))

/-- What the writer makes of a line yields what the reader finds on it, with the new number. -/
private theorem yields_follow (mod : String) (step : readLine st index l = .ok r)
    (fits : ∀ o, r.occurrence = some o → ∀ n, table.change? o.id = some n → Fits o n) :
    Yields (blockView st) (follow mod table index l (st.absorb index (clean l)).isSome r).lines
      (r.occurrence.map fun o => o.mark.moved table).toList (blockView r.state) := by
  cases content : st.absorb index (clean l) with
  | some next =>
    simp only [readLine, content, Except.ok.injEq] at step
    subst step
    have same : blockView st = blockView next := by rw [blockView, blockView, ScanState.block_of_absorb content]
    exact same ▸ .nil _
  | none =>
    simp only [readLine, content] at step
    have kept := Yields.cons (lineYields_of_readContent content step) (.nil _)
    rw [← content]
    cases here : r.occurrence with
    | none =>
      rw [lines_follow_of_none content here]
      rwa [here] at kept
    | some o =>
      obtain ⟨-, -, not_start, not_metadata⟩ := ScanState.absorb_eq_none_iff.1 content
      obtain ⟨t, rfl, counts⟩ := Counts.of_readContent not_start not_metadata step here
      rw [lines_follow_of_counts content here counts]
      cases change : table.change? t.id with
      | none =>
        have unmoved : (occurrence index t).mark.moved table = (occurrence index t).mark := moved_of_unchanged change
        rw [here] at kept
        simpa [renumber, change, Renumbered.lines, unmoved] using kept
      | some n =>
        have entry : OrderedMap.get? table t.id = some n := (Option.filter_eq_some_iff.1 change).1
        have moved : (occurrence index t).mark.moved table =
            { (occurrence index t).mark with id := t.id.renumber n } := by
          simp [Mark.moved, Occurrence.mark, occurrence, entry]
        have written := yields_replaceId content step counts (fits _ here n change)
        simpa [renumber, change, Renumbered.lines, moved] using written

end Follow

/-! ### The body -/

section Body

variable {mod : String} {table : RemapTable} {st last : ScanState} {index : Nat} {lines : List Line}
  {rs : List LineResult}

/-- The body of a mod yields the marks of the mod with their new numbers. -/
theorem yields_bodyFrom (run : Run st index lines rs last)
    (fits : ∀ o ∈ occurrencesOf rs, ∀ n, table.change? o.id = some n → Fits o n) :
    Yields (blockView st) (bodyFrom mod table st index lines).chunks.flatten
      ((occurrencesOf rs).map fun o => o.mark.moved table) (blockView last) := by
  induction run with
  | nil => exact .nil _
  | @cons st last index l lines r rs step rest ih =>
    rw [occurrencesOf, List.flatMap_cons] at fits
    have here : ∀ o, r.occurrence = some o → ∀ n, table.change? o.id = some n → Fits o n := fun o ho =>
      fits o (List.mem_append_left _ (Option.mem_toList.2 ho))
    have first := yields_follow mod step here
    have later := ih fun o ho => fits o (List.mem_append_right _ ho)
    have marks_eq : (occurrencesOf (r :: rs)).map (fun o => o.mark.moved table) =
        (r.occurrence.map fun o => o.mark.moved table).toList ++ (occurrencesOf rs).map fun o => o.mark.moved table := by
      rw [occurrencesOf, List.flatMap_cons, List.map_append, ← occurrencesOf]
      cases r.occurrence <;> rfl
    rw [bodyFrom_cons step, marks_eq]
    exact first.append later

theorem isPlain_bodyFrom (plain : ∀ l ∈ lines, IsPlain l) :
    ∀ l ∈ (bodyFrom mod table st index lines).chunks.flatten, IsPlain l :=
  forall_mem_bodyFrom fun _ _ l hl _ _ k hk => by
    obtain ⟨t, made⟩ := mem_renumber_of_mem_follow hk
    exact isPlain_renumber (plain l hl) t k made

theorem endWarnings_subset (run : Run st index lines rs last) :
    endWarnings mod last ⊆ (bodyFrom mod table st index lines).warnings := by
  induction run with
  | nil => exact List.Subset.refl _
  | cons step rest ih =>
    rw [bodyFrom_cons step]
    exact List.subset_append_of_subset_right _ ih

end Body

/-! ### Repeated block ends -/

/-- Dropping repeated block ends changes nothing of what lines yield. -/
theorem yields_collapseFrom {b last : BlockView} {lines : List Line} {ms : List Mark} (h : Yields b lines ms last)
    (plain : ∀ l ∈ lines, IsPlain l) {afterEnd : Bool} (closed : afterEnd = true → b = none) :
    Yields b (collapseFrom afterEnd lines) ms last := by
  induction h generalizing afterEnd with
  | nil b => exact .nil b
  | @cons b mid last l lines m ms line rest ih =>
    have clean_eq := (plain l (by simp)).clean_eq
    have plain_rest : ∀ k ∈ lines, IsPlain k := fun k hk => plain k (List.mem_cons_of_mem l hk)
    unfold collapseFrom
    by_cases ends : isBlockEnd (trim l) = true
    · rw [if_pos ends]
      rw [isBlockEnd_trim, ← clean_eq] at ends
      obtain ⟨rfl, rfl⟩ := line.unique (lineYields_of_isBlockEnd ends b)
      have rest_collapsed : Yields none (collapseFrom true lines) ms last := ih plain_rest fun _ => rfl
      cases afterEnd with
      | true =>
        rw [if_pos rfl, closed rfl]
        exact rest_collapsed
      | false =>
        rw [if_neg Bool.false_ne_true]
        exact .cons line rest_collapsed
    · rw [if_neg ends]
      refine .cons line (ih plain_rest fun still => ?_)
      -- behind the end there are only comments, which open no block
      obtain ⟨after, comment⟩ := (Bool.and_eq_true _ _).mp still
      rw [isCommentLine_eq] at comment
      have silent : signWord? l = none := (signWord?_trim l).symm.trans (signWord?_of_isComment comment)
      rw [← clean_eq] at silent
      rw [← (line.unique (lineYields_of_signWord?_eq_none silent b)).2.symm]
      exact closed after

end ModWeave.Output
