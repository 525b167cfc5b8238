import ModWeave.Output.Body
import ModWeave.Proofs.Definition.Content
import ModWeave.Proofs.Definition.Run

/-!
# Reader and writer in step

The reader of a definition and the writer of a body go through the same lines, but test them in a different order.
`line_eq_follow` says that they cannot part: from one state, on one line, the writer fails exactly as the reader
does, goes on in the same state, and writes what `follow` makes of the finding of the reader.  `fault_bodyFrom_of_run` and
`getElem?_chunks_bodyFrom` carry this through all lines of a mod.
-/

namespace ModWeave.Output

open Text Line Definition

/-! ### One line -/

/-- The id on a line as it is written, wherever the line stands. -/
def token? (l : Line) : Option IdToken :=
  match idToken? true (clean l) with
  | .ok t => t
  | .error _ => none

/-- The warning about a block that a line cuts short. -/
def cutShort (mod : String) (index : Nat) (region : BlockRegion) : Option Warning :=
  if region.stop = none then some ⟨some mod, .blockCutShort (some region.start) index⟩ else none

/-- What the writer makes of a line, given what the reader finds on it. -/
def follow (mod : String) (table : RemapTable) (index : Nat) (l : Line) (skipped : Bool) (r : LineResult) : LineStep :=
  ⟨r.state, if skipped then [] else (renumber table l (r.occurrence.bind fun _ => token? l)).lines,
    r.block.bind (cutShort mod index)⟩

private theorem token?_of_idToken? {inBlock : Bool} {l : Line} {t : IdToken}
    (h : idToken? inBlock (clean l) = .ok (some t)) : token? l = some t := by
  unfold token?
  cases inBlock with
  | true => rw [h]
  | false => rw [idToken?_inBlock (by rw [h]; simp), h]

private theorem bind_token? {inBlock : Bool} {l : Line} {t u : Option IdToken} {index : Nat}
    (h : idToken? inBlock (clean l) = .ok t) (sub : ∀ x ∈ u, t = some x) :
    ((u.map (occurrence index)).bind fun _ => token? l) = u := by
  cases u with
  | none => rfl
  | some x =>
    rw [sub x rfl] at h
    exact token?_of_idToken? h

/-- The writer does on a line that opens or carries an id what the reader finds. -/
private theorem entityLine_follow (mod : String) (table : RemapTable) (l : Line) (index : Nat) (st : ScanState)
    (region : Option BlockRegion) :
    (entityLine table l).map (fun r => LineStep.mk st r.lines (region.bind (cutShort mod index))) =
      ((idToken? false (clean l)).map fun t => LineResult.mk st (t.map (occurrence index)) region).map
        (follow mod table index l false) := by
  unfold entityLine
  cases h : idToken? false (clean l) with
  | error e => rfl
  | ok t =>
    simp only [Except.map, follow, Bool.false_eq_true, if_false]
    rw [bind_token? h fun x hx => Option.mem_def.1 hx]

/-- Outside blocks the writer does what the reader finds. -/
private theorem contentLine_outside {mod : String} {table : RemapTable} {st : ScanState} {index : Nat} {l : Line}
    (block : st.block = none) :
    contentLine mod table st index l = (readContent st index (clean l)).map (follow mod table index l false) := by
  unfold contentLine
  simp only [block, Option.isSome_none, Bool.false_eq_true, if_false, bind, Except.bind]
  cases kind : classify (clean l) with
  | error e => simp [readContent, kind, bind, Except.bind, Except.map]
  | ok k =>
    cases k with
    | blockStart =>
      have written := entityLine_follow mod table l index (st.withBlock (BlockState.opened index)) none
      rw [readContent_of_classify_blockStart kind, block]
      simp only [closing, Option.map_none]
      rw [← written]
      cases entityLine table l <;> rfl
    | entity =>
      have written := entityLine_follow mod table l index st none
      simp only [readContent, kind, block, bind, Except.bind]
      cases token : idToken? false (clean l) <;> simp_all [entityLine, Except.map, pure, Except.pure]
    | _ => simp [readContent, kind, block, bind, Except.bind, pure, Except.pure, Except.map, follow, renumber,
        Renumbered.lines]

private theorem bind_token?_of_subCommand? {b : BlockState} {l : Line} {u : Option IdToken} {index : Nat}
    (found : b.subCommand? (clean l) = .ok u) : ((u.map (occurrence index)).bind fun _ => token? l) = u := by
  cases b with
  | none =>
    cases found
    rfl
  | some b =>
    cases read : idToken? true (clean l) with
    | error e => simp [BlockState.subCommand?, read, Except.map] at found
    | ok t =>
      simp only [BlockState.subCommand?, read, Except.map, Except.ok.injEq] at found
      refine bind_token? read fun x hx => ?_
      rw [← found] at hx
      exact (Option.filter_eq_some_iff.1 hx).1

/-- Inside a block the writer does what the reader finds, although it tests the ends and beginnings of blocks first. -/
private theorem contentLine_inside {mod : String} {table : RemapTable} {st : ScanState} {b : OpenBlock} {index : Nat}
    {l : Line} (content : st.absorb index (clean l) = none) (block : st.block = some b) :
    contentLine mod table st index l = (readContent st index (clean l)).map (follow mod table index l false) := by
  unfold contentLine blockLine
  simp only [block, Option.isSome_some, if_true]
  cases closes : isBlockEnd (clean l) with
  | true =>
    rw [readContent_of_isBlockEnd block closes]
    simp [bind, Except.bind, pure, Except.pure, Except.map, follow, cutShort, renumber, Renumbered.lines]
  | false =>
    rw [if_neg Bool.false_ne_true]
    cases opens : isBlockStart (clean l) with
    | true =>
      have written := entityLine_follow mod table l index (st.withBlock (BlockState.opened index)) (some ⟨b.start, none⟩)
      rw [readContent_of_classify_blockStart (classify_of_isBlockStart opens), block]
      simp only [closing, Option.map_some]
      rw [← written]
      cases entityLine table l <;> rfl
    | false =>
      obtain ⟨-, -, not_start, not_metadata⟩ := ScanState.absorb_eq_none_iff.1 content
      rw [if_neg Bool.false_ne_true, readContent_inside block not_start not_metadata opens closes, block]
      cases observed : BlockState.observe (some b) (clean l) with
      | error e => rfl
      | ok state =>
        cases found : BlockState.subCommand? state (clean l) with
        | error e => simp [found, bind, Except.bind, Except.map]
        | ok u =>
          simp [found, bind, Except.bind, pure, Except.pure, Except.map, follow, bind_token?_of_subCommand? found]

/-- On every line the writer does what the reader finds, and fails where it fails. -/
theorem line_eq_follow (mod : String) (table : RemapTable) (st : ScanState) (index : Nat) (l : Line) :
    line mod table st index l =
      (readLine st index l).map (follow mod table index l (st.absorb index (clean l)).isSome) := by
  unfold line readLine
  cases content : st.absorb index (clean l) with
  | some next => rfl
  | none =>
    cases block : st.block with
    | none => exact contentLine_outside block
    | some b => exact contentLine_inside content block

section Lines

variable {mod : String} {table : RemapTable} {st : ScanState} {index : Nat} {l : Line} {r : LineResult}

theorem lines_follow_of_absorb (skipped : (st.absorb index (clean l)).isSome = true) :
    (follow mod table index l (st.absorb index (clean l)).isSome r).lines = [] := by
  rw [follow, if_pos skipped]

theorem lines_follow_of_counts {t : IdToken} (content : st.absorb index (clean l) = none)
    (here : r.occurrence = some (occurrence index t)) (counts : Counts st (clean l) t) :
    (follow mod table index l (st.absorb index (clean l)).isSome r).lines = (renumber table l (some t)).lines := by
  simp [follow, content, here, token?_of_idToken? counts.idToken?_eq]

/-- The writer makes of a line nothing but the line with or without a new number. -/
theorem mem_renumber_of_mem_follow {skipped : Bool} {k : Line}
    (hk : k ∈ (follow mod table index l skipped r).lines) : ∃ t, k ∈ (renumber table l t).lines := by
  simp only [follow] at hk
  split at hk
  · cases hk
  · exact ⟨_, hk⟩

theorem lines_follow_of_none (content : st.absorb index (clean l) = none) (here : r.occurrence = none) :
    (follow mod table index l (st.absorb index (clean l)).isSome r).lines = [l] := by
  simp [follow, content, here, renumber, Renumbered.lines]

end Lines

/-! ### All lines -/

variable {mod : String} {table : RemapTable} {st last : ScanState} {index : Nat} {lines : List Line}
  {rs : List LineResult}

/-- Behind a line that can be read the writer goes on as the reader does. -/
theorem bodyFrom_cons {l : Line} {r : LineResult} (step : readLine st index l = .ok r) :
    bodyFrom mod table st index (l :: lines) =
      (bodyFrom mod table r.state (index + 1) lines).after
        (follow mod table index l (st.absorb index (clean l)).isSome r) := by
  rw [bodyFrom, line_eq_follow, step]
  rfl

/-- What holds of everything that the writer makes of a single line holds of the whole body. -/
theorem forall_mem_bodyFrom {P : Line → Prop}
    (each : ∀ st index, ∀ l ∈ lines, ∀ r, readLine st index l = .ok r →
      ∀ k ∈ (follow mod table index l (st.absorb index (clean l)).isSome r).lines, P k) :
    ∀ k ∈ (bodyFrom mod table st index lines).chunks.flatten, P k := by
  induction lines generalizing st index with
  | nil => simp [bodyFrom]
  | cons l lines ih =>
    cases step : readLine st index l with
    | error e =>
      -- a line that cannot be read ends the body
      simp [bodyFrom, line_eq_follow, step, Except.map]
    | ok r =>
      rw [bodyFrom_cons step]
      intro k hk
      rcases List.mem_append.1 hk with here | later
      · exact each st index l (by simp) r step k here
      · exact ih (fun st index m hm => each st index m (List.mem_cons_of_mem l hm)) k later

theorem fault_bodyFrom_of_run (run : Run st index lines rs last) : (bodyFrom mod table st index lines).fault = none := by
  induction run with
  | nil => rfl
  | cons step rest ih =>
    rw [bodyFrom_cons step]
    exact ih

theorem length_chunks_of_run (run : Run st index lines rs last) :
    (bodyFrom mod table st index lines).chunks.length = lines.length := by
  induction run with
  | nil => rfl
  | cons step rest ih =>
    rw [bodyFrom_cons step]
    exact congrArg Nat.succ ih

/-- What the writer makes of some lines does not hang on the lines behind them. -/
theorem chunks_bodyFrom_append {front : List Line} (run : Run st index front rs last) :
    (bodyFrom mod table st index (front ++ lines)).chunks =
      (bodyFrom mod table st index front).chunks ++
        (bodyFrom mod table last (index + front.length) lines).chunks := by
  induction run with
  | nil => rfl
  | @cons st last index l front r rs step rest ih =>
    rw [List.cons_append, bodyFrom_cons step, bodyFrom_cons step, List.length_cons, Nat.add_comm front.length 1,
      ← Nat.add_assoc]
    exact congrArg _ ih

/-- The chunk of a line stands between those of the lines in front of it and behind it. -/
theorem chunks_bodyFrom_at {i : Nat} {l : Line} {r : LineResult} (hl : lines[i]? = some l)
    (front : Run st index (lines.take i) rs last) (step : readLine last (index + i) l = .ok r) :
    (bodyFrom mod table st index lines).chunks = (bodyFrom mod table st index (lines.take i)).chunks ++
      (follow mod table (index + i) l (last.absorb (index + i) (clean l)).isSome r).lines ::
        (bodyFrom mod table r.state (index + i + 1) (lines.drop (i + 1))).chunks := by
  obtain ⟨cut, length_eq⟩ := cut_at hl
  have whole : (bodyFrom mod table st index (lines.take i ++ l :: lines.drop (i + 1))).chunks = _ :=
    chunks_bodyFrom_append front
  rw [length_eq, bodyFrom_cons step, ← cut] at whole
  exact whole

theorem length_chunks_take {i : Nat} {l : Line} (hl : lines[i]? = some l) (front : Run st index (lines.take i) rs last) :
    (bodyFrom mod table st index (lines.take i)).chunks.length = i := by
  rw [length_chunks_of_run front, (cut_at hl).2]

/-- What the writer makes of a line is decided by the state in which the reader gets to it. -/
theorem getElem?_chunks_bodyFrom {i : Nat} {l : Line} {r : LineResult} (hl : lines[i]? = some l)
    (front : Run st index (lines.take i) rs last) (step : readLine last (index + i) l = .ok r) :
    (bodyFrom mod table st index lines).chunks[i]? =
      some (follow mod table (index + i) l (last.absorb (index + i) (clean l)).isSome r).lines := by
  have length_eq : (bodyFrom mod table st index (lines.take i)).chunks.length = i := length_chunks_take hl front
  rw [chunks_bodyFrom_at hl front step, List.getElem?_append_right (Nat.le_of_eq length_eq), length_eq, Nat.sub_self]
  rfl

end ModWeave.Output
