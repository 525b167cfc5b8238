import Mathlib.Data.List.Basic
import Mathlib.Data.List.Induction
import ModWeave.Proofs.Output.BodyYields

/-!
# Which block ends are dropped

A block end is repeated if the nearest line in front of it that is no comment is a block end too.  The writer drops
exactly the repeated ends, and leaves none, where ends and comments are tested on the lines as they are written
(`lines_mod`).  The reader tests them without their unreadable characters instead, and the two tests can part:
`#ending` with a zero-width space in the word is no end for the reader, but swallows the end behind it
(`withoutRepeats_ne`).

Among the ends that the reader knows, one that closes a block is never repeated (`block_of_endsWithEnd`): behind an end
and comments no block is open.  So wherever the two tests agree on the body, every end that closes a block is kept.
-/

namespace ModWeave.Output

open Text Line Definition

/-! ### Repeats -/

/-- Two tests of lines. -/
structure EndReading where
  /-- Whether a line ends a block. -/
  isEnd : Line → Bool
  isComment : Line → Bool

namespace EndReading

/-- The tests of lines as they are written. -/
def written : EndReading := ⟨fun l => isBlockEnd (trim l), isCommentLine⟩

/-- The tests by the kinds that the reader gives to lines. -/
def cleaned : EndReading where
  isEnd l := decide (classify (clean l) = .ok .blockEnd)
  isComment l := decide (classify (clean l) = .ok .comment)

variable (r : EndReading)

/-- Whether the last of some lines that is no comment is an end. -/
def endsWithEnd (lines : List Line) : Bool := (lines.reverse.find? fun l => !r.isComment l).any r.isEnd

/-- Whether line number `i` is an end, and the nearest line in front of it that is no comment is one too. -/
def repeats (lines : List Line) (i : Nat) : Bool := lines[i]?.any r.isEnd && r.endsWithEnd (lines.take i)

/-- The lines other than those that repeat an end. -/
def withoutRepeats (lines : List Line) : List Line :=
  (lines.zipIdx.filter fun p => !r.repeats lines p.2).map Prod.fst

theorem endsWithEnd_concat (lines : List Line) (l : Line) :
    r.endsWithEnd (lines ++ [l]) = if r.isComment l then r.endsWithEnd lines else r.isEnd l := by
  cases comment : r.isComment l <;> simp [endsWithEnd, comment]

theorem repeats_append (lines : List Line) (l : Line) (later : List Line) :
    r.repeats (lines ++ l :: later) lines.length = (r.isEnd l && r.endsWithEnd lines) := by
  simp [repeats]

variable {r}

theorem repeats_congr {r' : EndReading} {lines : List Line}
    (agree : ∀ l ∈ lines, r.isEnd l = r'.isEnd l ∧ r.isComment l = r'.isComment l) (i : Nat) :
    r.repeats lines i = r'.repeats lines i := by
  have before : ∀ {front : List Line}, (∀ l ∈ front, l ∈ lines) → r.endsWithEnd front = r'.endsWithEnd front := by
    intro front sub
    induction front using List.reverseRecOn with
    | nil => rfl
    | append_singleton front l ih =>
      obtain ⟨same_end, same_comment⟩ := agree l (sub l (by simp))
      rw [endsWithEnd_concat, endsWithEnd_concat, same_end, same_comment, ih fun k hk => sub k (by simp [hk])]
  have here : lines[i]?.any r.isEnd = lines[i]?.any r'.isEnd := by
    cases hl : lines[i]? with
    | none => rfl
    | some l => exact (agree l (List.mem_of_getElem? hl)).1
  rw [repeats, repeats, here, before fun l hl => List.mem_of_mem_take hl]

theorem withoutRepeats_congr {r' : EndReading} {lines : List Line}
    (agree : ∀ l ∈ lines, r.isEnd l = r'.isEnd l ∧ r.isComment l = r'.isComment l) :
    r.withoutRepeats lines = r'.withoutRepeats lines := by
  simp only [withoutRepeats, repeats_congr agree]

/-- Lines from which nothing was to be dropped repeat no end. -/
theorem repeats_of_withoutRepeats_eq {lines : List Line} (h : r.withoutRepeats lines = lines) (i : Nat) :
    r.repeats lines i = false := by
  cases hl : lines[i]? with
  | none => simp [repeats, hl]
  | some l =>
    have length_eq : (lines.zipIdx.filter fun p => !r.repeats lines p.2).length = lines.zipIdx.length := by
      rw [List.length_zipIdx, ← List.length_map Prod.fst, ← withoutRepeats, h]
    have all_kept := List.filter_eq_self.1 (List.filter_sublist.eq_of_length length_eq)
    have mem : (l, i) ∈ lines.zipIdx := List.mem_zipIdx_iff_getElem?.2 hl
    simpa using all_kept _ mem

end EndReading

open EndReading

/-! ### What the writer drops -/

private theorem isComment_of_isEnd {l : Line} (h : written.isEnd l = true) : written.isComment l = false := by
  obtain ⟨x, word, -⟩ := (hasKeyword_iff (by decide)).1 h
  exact (isCommentLine_eq l).trans (isComment_of_signWord? word)

private theorem endsWithEnd_written_concat (front : List Line) (l : Line) :
    written.endsWithEnd (front ++ [l]) =
      (written.isEnd l || (written.endsWithEnd front && written.isComment l)) := by
  rw [endsWithEnd_concat]
  cases ends : written.isEnd l with
  | true => simp [isComment_of_isEnd ends]
  | false => cases written.isComment l <;> simp

private theorem collapseFrom_cons (afterEnd : Bool) (l : Line) (lines : List Line) :
    collapseFrom afterEnd (l :: lines) =
      if written.isEnd l then if afterEnd then collapseFrom true lines else l :: collapseFrom true lines
      else l :: collapseFrom (afterEnd && written.isComment l) lines := rfl

/-- Behind some lines the writer drops those ends that are repeated in the whole. -/
private theorem collapseFrom_endsWithEnd (front lines : List Line) :
    collapseFrom (written.endsWithEnd front) lines =
      ((lines.zipIdx front.length).filter fun p => !written.repeats (front ++ lines) p.2).map Prod.fst := by
  induction lines generalizing front with
  | nil => rfl
  | cons l lines ih =>
    have rest := ih (front ++ [l])
    rw [List.append_assoc, List.singleton_append, List.length_append, List.length_singleton,
      endsWithEnd_written_concat] at rest
    rw [List.zipIdx_cons, List.filter_cons, repeats_append, collapseFrom_cons]
    cases ends : written.isEnd l with
    | true =>
      rw [ends, Bool.true_or] at rest
      rw [rest]
      cases written.endsWithEnd front <;> rfl
    | false =>
      rw [ends, Bool.false_or] at rest
      rw [rest]
      rfl

theorem collapseEnds_eq (lines : List Line) : collapseEnds lines = written.withoutRepeats lines :=
  collapseFrom_endsWithEnd [] lines

theorem collapseFrom_collapseFrom (afterEnd : Bool) (lines : List Line) :
    collapseFrom afterEnd (collapseFrom afterEnd lines) = collapseFrom afterEnd lines := by
  induction lines generalizing afterEnd with
  | nil => rfl
  | cons l lines ih =>
    by_cases ends : isBlockEnd (trim l) = true
    · cases afterEnd with
      | true => simpa [collapseFrom, ends] using ih true
      | false => simpa [collapseFrom, ends] using ih true
    · simpa [collapseFrom, ends] using ih (afterEnd && isCommentLine l)

theorem repeats_collapseEnds (lines : List Line) (i : Nat) : written.repeats (collapseEnds lines) i = false := by
  refine repeats_of_withoutRepeats_eq ?_ i
  rw [← collapseEnds_eq]
  exact collapseFrom_collapseFrom false lines

/-! ### The two tests -/

namespace EndReading

theorem cleaned_isEnd (l : Line) : cleaned.isEnd l = isBlockEnd (clean l) := by
  rw [Bool.eq_iff_iff, ← classify_eq_blockEnd_iff]
  exact decide_eq_true_iff

theorem cleaned_isComment (l : Line) : cleaned.isComment l = isCommentLine (clean l) := by
  rw [Bool.eq_iff_iff, isCommentLine_eq, ← classify_eq_comment_iff]
  exact decide_eq_true_iff

end EndReading

/-- Unreadable characters change nothing of whether a line is an end or a comment. -/
def ReadsAsWritten (l : Line) : Prop :=
  written.isEnd l = cleaned.isEnd l ∧ written.isComment l = cleaned.isComment l

instance (l : Line) : Decidable (ReadsAsWritten l) := instDecidableAnd

theorem readsAsWritten_of_clean_eq {l : Line} (h : clean l = l) : ReadsAsWritten l := by
  constructor
  · rw [cleaned_isEnd, h]
    exact isBlockEnd_trim l
  · rw [cleaned_isComment, h]
    rfl

/-- The body of a mod with plain lines is read as it is written. -/
theorem readsAsWritten_of_mem_buffer {mod : String} {table : RemapTable} {lines : List Line}
    (plain : ∀ l ∈ lines, IsPlain l) : ∀ l ∈ (body mod table lines).buffer, ReadsAsWritten l := fun l hl =>
  readsAsWritten_of_clean_eq (isPlain_bodyFrom plain l hl).clean_eq

/-! ### Ends that close a block -/

private theorem endsWithEnd_of_command? {inBlock : Bool} {l : Line} {p : IdCommand} {c : Command}
    (read : IdCommand.read? (clean l) = some p) (command : command? inBlock p.word = some c) (front : List Line) :
    cleaned.endsWithEnd (front ++ [l]) = false := by
  -- the line begins with a number sign, and the word behind it is that of the command
  have no_comment : cleaned.isComment l = false := by
    rw [cleaned_isComment, isCommentLine_eq]
    exact isComment_of_signWord? ((signWord?_trim _).trans (signWord?_of_read? read))
  rw [endsWithEnd_concat, no_comment, if_neg Bool.false_ne_true, cleaned_isEnd]
  exact hasKeyword_of_command? read command "end" (by simp [plainKeywords])

/-- The last line that is written for an id is neither an end nor a comment. -/
private theorem endsWithEnd_renumber {table : RemapTable} {l : Line} {t : IdToken}
    (token : idToken? true (clean l) = .ok (some t)) (front : List Line) :
    cleaned.endsWithEnd (front ++ (renumber table l (some t)).lines) = false := by
  cases change : table.change? t.id with
  | none =>
    obtain ⟨p, -, read, command, -, -⟩ := idToken?_eq_some_iff.1 token
    simpa [renumber, change, Renumbered.lines] using endsWithEnd_of_command? read command front
  | some n =>
    obtain ⟨p, command, -, again⟩ := read?_replaceId token n
    simpa [renumber, change, Renumbered.lines] using endsWithEnd_of_command? again command (front ++ [comment t.id n])

private theorem block_of_isBlockEnd {st : ScanState} {index : Nat} {l : Line} {r : LineResult} (ends : isBlockEnd l = true)
    (step : readContent st index l = .ok r) : r.state.block = none := by
  cases block : st.block with
  | none =>
    simp only [readContent, classify_of_isBlockEnd ends, block, bind, Except.bind, pure, Except.pure] at step
    cases step
    exact block
  | some b =>
    rw [readContent_of_isBlockEnd block ends] at step
    cases step
    rfl

section Body

variable {mod : String} {table : RemapTable} {st last : ScanState} {index : Nat} {lines front : List Line}
  {rs : List LineResult}

private theorem block_of_follow {l : Line} {r : LineResult} (step : readLine st index l = .ok r)
    (closed : cleaned.endsWithEnd front = true → st.block = none)
    (ends : cleaned.endsWithEnd (front ++ (follow mod table index l (st.absorb index (clean l)).isSome r).lines) = true) :
    r.state.block = none := by
  cases content : st.absorb index (clean l) with
  | some next =>
    rw [lines_follow_of_absorb (by rw [content]; rfl), List.append_nil] at ends
    simp only [readLine, content, Except.ok.injEq] at step
    subst step
    exact (ScanState.block_of_absorb content).trans (closed ends)
  | none =>
    cases here : r.occurrence with
    | some o =>
      obtain ⟨-, t, rfl, counts⟩ := counts_of_readLine step here
      rw [lines_follow_of_counts content here counts, endsWithEnd_renumber counts.idToken?_eq] at ends
      cases ends
    | none =>
      rw [lines_follow_of_none content here, endsWithEnd_concat] at ends
      simp only [readLine, content] at step
      -- a line that is kept is a comment, or decides by itself whether an end comes last
      split at ends
      · rename_i comment
        rw [cleaned_isComment, isCommentLine_eq] at comment
        have silent : signWord? (clean l) = none := (signWord?_trim _).symm.trans (signWord?_of_isComment comment)
        rw [readContent_of_signWord?_eq_none silent] at step
        cases step
        exact closed ends
      · exact block_of_isBlockEnd ((cleaned_isEnd l).symm.trans ends) step

/-- Behind an end and comments no block is open. -/
theorem block_of_endsWithEnd (run : Run st index lines rs last)
    (closed : cleaned.endsWithEnd front = true → st.block = none)
    (ends : cleaned.endsWithEnd (front ++ (bodyFrom mod table st index lines).chunks.flatten) = true) :
    last.block = none := by
  induction run generalizing front with
  | nil => exact closed (by simpa [bodyFrom] using ends)
  | cons step rest ih =>
    rw [bodyFrom_cons step, Body.after, List.flatten_cons, ← List.append_assoc] at ends
    exact ih (block_of_follow step closed) ends

/-- A mod whose body ends with an end and comments leaves no block open. -/
theorem block_of_endsWithEnd_body (run : Run ScanState.initial 0 lines rs last)
    (ends : cleaned.endsWithEnd (body mod table lines).buffer = true) : last.block = none :=
  have nothing : cleaned.endsWithEnd [] = true → ScanState.initial.block = none := fun _ => rfl
  block_of_endsWithEnd run nothing ends

end Body

/-- The reader gets to line number `i` of a mod inside a block and finds that the line is an end. -/
def ClosesBlock (lines : List Line) (i : Nat) : Prop :=
  ∃ l rs st, lines[i]? = some l ∧ Run ScanState.initial 0 (lines.take i) rs st ∧ st.block.isSome = true ∧
    st.absorb i (clean l) = none ∧ isBlockEnd (clean l) = true

/-- The number of the line with which the chunk of line number `i` begins. -/
def Body.offset (b : Body) (i : Nat) : Nat := (b.chunks.take i).flatten.length

/-- An end that closes a block is written, and repeats no end that the reader knows. -/
theorem not_repeats_of_closesBlock {mod : String} {table : RemapTable} {lines : List Line} {i : Nat}
    (h : ClosesBlock lines i) : (body mod table lines).buffer[(body mod table lines).offset i]? = lines[i]? ∧
      cleaned.repeats (body mod table lines).buffer ((body mod table lines).offset i) = false := by
  obtain ⟨l, rs, st, hl, run, inside, content, ends⟩ := h
  obtain ⟨b, block⟩ := Option.isSome_iff_exists.1 inside
  have step : readLine st (0 + i) l = .ok ⟨st.withBlock none, none, some ⟨b.start, some (0 + i)⟩⟩ := by
    rw [Nat.zero_add, readLine, content]
    exact readContent_of_isBlockEnd block ends
  obtain ⟨later, chunks_eq⟩ : ∃ later, (body mod table lines).chunks =
      (body mod table (lines.take i)).chunks ++ [l] :: later := by
    have written_at : (body mod table lines).chunks = _ := chunks_bodyFrom_at hl run step
    rw [lines_follow_of_none (by rwa [Nat.zero_add]) rfl] at written_at
    exact ⟨_, written_at⟩
  have buffer_eq : (body mod table lines).buffer = (body mod table (lines.take i)).buffer ++ l :: later.flatten := by
    simp [Body.buffer, chunks_eq]
  have offset_eq : (body mod table lines).offset i = (body mod table (lines.take i)).buffer.length := by
    have length_eq : (body mod table (lines.take i)).chunks.length = i := length_chunks_take hl run
    rw [Body.offset, chunks_eq, List.take_left' length_eq, Body.buffer]
  rw [offset_eq, buffer_eq, repeats_append]
  refine ⟨by simp [hl], ?_⟩
  -- in front of the line its block is open
  have not_closed : cleaned.endsWithEnd (body mod table (lines.take i)).buffer = false := by
    refine Bool.eq_false_iff.2 fun closed => ?_
    rw [block_of_endsWithEnd_body run closed] at block
    cases block
  rw [not_closed, Bool.and_false]

/-! ### The written mod -/

/-- The lines of a written mod are those of its body other than the ends that repeat one as they are written, and no end
repeats one any more.  An end that closes a block is written, and repeats no end that the reader knows.  So where the
body is read as it is written, the lines are those other than the repeated ends that the reader knows. -/
theorem lines_mod {name : String} {table : RemapTable} {lines out : List Line}
    (ok : (mod name table lines).lines = .ok out) :
    out = written.withoutRepeats (body name table lines).buffer ∧ (∀ i, written.repeats out i = false) ∧
      (∀ i, ClosesBlock lines i →
        (body name table lines).buffer[(body name table lines).offset i]? = lines[i]? ∧
          cleaned.repeats (body name table lines).buffer ((body name table lines).offset i) = false) ∧
      ((∀ l ∈ (body name table lines).buffer, ReadsAsWritten l) →
        out = cleaned.withoutRepeats (body name table lines).buffer ∧ ∀ i, cleaned.repeats out i = false) := by
  obtain rfl : out = collapseEnds (body name table lines).buffer := by
    cases fault : (body name table lines).fault with
    | some f => simp [mod, fault] at ok
    | none => simpa [mod, fault] using ok.symm
  refine ⟨collapseEnds_eq _, repeats_collapseEnds _, fun i => not_repeats_of_closesBlock, fun agree => ⟨?_, fun i => ?_⟩⟩
  · rw [collapseEnds_eq, withoutRepeats_congr agree]
  · have agree_out : ∀ l ∈ collapseEnds (body name table lines).buffer, ReadsAsWritten l := fun l hl =>
      agree l ((collapseFrom_sublist false _).subset hl)
    rw [← repeats_congr agree_out, repeats_collapseEnds]

/-- A spell block with a second end, in front of which there is a comment. -/
def stitched : List Line := ["#newspell", "#end", "-- twice", "#end", "#newspell"].map String.toList

/-- The end of the block is written, and the second end is not. -/
theorem lines_mod_stitched :
    (mod "stitched" [] stitched).lines = .ok (["#newspell", "#end", "-- twice", "#newspell"].map String.toList) ∧
      ClosesBlock stitched 1 ∧ (∀ l ∈ (body "stitched" [] stitched).buffer, ReadsAsWritten l) ∧
      (body "stitched" [] stitched).buffer[1]? = some "#end".toList ∧
      cleaned.withoutRepeats (body "stitched" [] stitched).buffer =
        ["#newspell", "#end", "-- twice", "#newspell"].map String.toList := by
  have ok : (mod "stitched" [] stitched).lines =
      .ok (["#newspell", "#end", "-- twice", "#newspell"].map String.toList) := by decide +kernel
  have closes : ClosesBlock stitched 1 :=
    ⟨"#end".toList, [⟨⟨none, some ⟨0, none⟩⟩, none, none⟩], ⟨none, some ⟨0, none⟩⟩, by decide, .cons rfl (.nil _ _),
      rfl, rfl, by decide +kernel⟩
  have agree : ∀ l ∈ (body "stitched" [] stitched).buffer, ReadsAsWritten l := readsAsWritten_of_mem_buffer (by decide)
  have offset_eq : (body "stitched" [] stitched).offset 1 = 1 := by decide +kernel
  obtain ⟨-, -, kept, as_read⟩ := lines_mod ok
  have in_place := (kept 1 closes).1
  rw [offset_eq] at in_place
  exact ⟨ok, closes, agree, in_place, (as_read agree).1.symm⟩

/-- A spell block with a word that is no end, but begins like one as it is written. -/
def splitWord : List Line := ["#newspell", "#end\u200bing", "#end"].map String.toList

/-- The lines that are dropped are not always the ends that the reader takes for repeated: here the end that closes the
block is lost. -/
theorem withoutRepeats_ne :
    ¬ ∀ (name : String) (table : RemapTable) (lines out : List Line), (mod name table lines).lines = .ok out →
      out = cleaned.withoutRepeats (body name table lines).buffer := by
  intro as_read
  have ok : (mod "split" [] splitWord).lines = .ok (["#newspell", "#end\u200bing"].map String.toList) := by
    decide +kernel
  have whole : cleaned.withoutRepeats (body "split" [] splitWord).buffer = splitWord := by decide +kernel
  have lost := (as_read _ _ _ _ ok).trans whole
  exact absurd (congrArg List.length lost) (by decide)

end ModWeave.Output
