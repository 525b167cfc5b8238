import ModWeave.Proofs.Output.Faults
import ModWeave.Proofs.Output.RepeatedEnds

/-!
# Writing what was written

The lines of a written mod make up a mod themselves.  Writing that mod without new numbers gives the same lines again,
but for a blank line at the beginning: the writer drops a blank line only where it is the first of all, and the line
that comes first in the output was seldom the first of the input (`lines_mod_of_written`).

Nothing that is written says anything about the mod itself (`staysContent_of_mem_body`): a line that is kept was content
before, a comment has no number sign, and a line with a new number still begins with its command.  So no description
opens in the second pass, and every line but a blank first one is kept.  Repeated block ends are gone after the first
pass, and dropping the first line brings up none (`collapseEnds_tail`).
-/

namespace ModWeave.Output

open Text Line Definition

/-! ### Lines that are content wherever they stand -/

/-- A line neither opens a description nor says something else about the mod itself. -/
def StaysContent (l : Line) : Prop :=
  isDescriptionStart (trim (clean l)) = false ∧ isMetadata (trim (clean l)) = false

theorem staysContent_of_absorb {st : ScanState} {index : Nat} {l : Line} (content : st.absorb index (clean l) = none) :
    StaysContent l :=
  (ScanState.absorb_eq_none_iff.1 content).2.2

theorem staysContent_comment (id : EntityId) (n : Int) : StaysContent (comment id n) := by
  have silent : signWord? (trim (clean (comment id n))) = none := by
    rw [signWord?_trim, (isPlain_comment id n).clean_eq]
    exact signWord?_of_dash _
  obtain ⟨not_start, not_metadata, -⟩ := not_head_of_signWord?_eq_none silent
  exact ⟨not_start, not_metadata⟩

/-- A line with a new number still begins with its command. -/
theorem staysContent_replaceId {inBlock : Bool} {l : Line} {t : IdToken} (h : idToken? inBlock (clean l) = .ok (some t))
    (n : Int) : StaysContent (replaceId l t n) := by
  obtain ⟨p, command, -, again⟩ := read?_replaceId h n
  obtain ⟨not_start, not_metadata, -⟩ := not_head_of_command? again command
  exact ⟨not_start, not_metadata⟩

theorem staysContent_renumber {table : RemapTable} {l : Line} {t : IdToken} (token : idToken? true (clean l) = .ok (some t))
    (stays : StaysContent l) : ∀ k ∈ (renumber table l (some t)).lines, StaysContent k := by
  cases change : table.change? t.id with
  | none => simpa [renumber, change, Renumbered.lines] using stays
  | some n =>
    simpa [renumber, change, Renumbered.lines] using ⟨staysContent_comment t.id n, staysContent_replaceId token n⟩

/-- Whether the first of some lines is blank. -/
def startsBlank (lines : List Line) : Bool := lines.head?.any fun l => trim (clean l) = []

section Body

variable {mod : String} {table : RemapTable} {st : ScanState} {index : Nat} {lines : List Line}

theorem staysContent_of_mem_body : ∀ k ∈ (body mod table lines).buffer, StaysContent k := by
  refine forall_mem_bodyFrom fun st index l _ r step k hk => ?_
  cases content : st.absorb index (clean l) with
  | some next =>
    rw [lines_follow_of_absorb (by rw [content]; rfl)] at hk
    cases hk
  | none =>
    have stays := staysContent_of_absorb content
    cases here : r.occurrence with
    | none =>
      rw [lines_follow_of_none content here] at hk
      rwa [List.mem_singleton.1 hk]
    | some o =>
      obtain ⟨-, t, rfl, counts⟩ := counts_of_readLine step here
      rw [lines_follow_of_counts content here counts] at hk
      exact staysContent_renumber counts.idToken?_eq stays k hk

theorem isUnbroken_of_mem_body (unbroken : ∀ l ∈ lines, IsUnbroken l) :
    ∀ k ∈ (body mod table lines).buffer, IsUnbroken k :=
  forall_mem_bodyFrom fun _ _ l hl _ _ k hk => by
    obtain ⟨t, made⟩ := mem_renumber_of_mem_follow hk
    exact isUnbroken_renumber (unbroken l hl) t k made

/-! ### The second pass -/

/-- Without new numbers the writer keeps lines as they are. -/
private theorem lines_renumber_nil (l : Line) (t : Option IdToken) : (renumber [] l t).lines = [l] := by
  cases t <;> rfl

/-- Content is kept, unless it is a blank first line. -/
private theorem buffer_bodyFrom_nil (stays : ∀ l ∈ lines, StaysContent l) (outside : st.description = none)
    (not_blank : index = 0 → startsBlank lines = false) (no_fault : (bodyFrom mod [] st index lines).fault = none) :
    (bodyFrom mod [] st index lines).buffer = lines := by
  induction lines generalizing st index with
  | nil => rfl
  | cons l lines ih =>
    obtain ⟨not_start, not_metadata⟩ := stays l (by simp)
    have content : st.absorb index (clean l) = none := by
      refine ScanState.absorb_eq_none_iff.2 ⟨outside, ?_, not_start, not_metadata⟩
      rintro ⟨first, blank⟩
      simpa [startsBlank, blank] using not_blank first
    cases step : readLine st index l with
    | error e => simp [bodyFrom, line_eq_follow, step, Except.map] at no_fault
    | ok r =>
      rw [bodyFrom_cons step] at no_fault ⊢
      have outside' : r.state.description = none := by
        rw [readLine, content] at step
        rw [description_readContent step, outside]
      have rest : (bodyFrom mod [] r.state (index + 1) lines).buffer = lines :=
        ih (fun k hk => stays k (List.mem_cons_of_mem l hk)) outside' (fun h => absurd h (Nat.succ_ne_zero index)) no_fault
      have here : (follow mod [] index l (st.absorb index (clean l)).isSome r).lines = [l] := by
        simp [follow, content, lines_renumber_nil]
      calc (Body.after _ (bodyFrom mod [] r.state (index + 1) lines)).buffer
          = (follow mod [] index l (st.absorb index (clean l)).isSome r).lines ++
              (bodyFrom mod [] r.state (index + 1) lines).buffer := rfl
        _ = l :: lines := by rw [here, rest, List.singleton_append]

/-- The body of a mod all of whose lines stay content. -/
private theorem buffer_body_nil (stays : ∀ l ∈ lines, StaysContent l) (no_fault : (body mod [] lines).fault = none) :
    (body mod [] lines).buffer = if startsBlank lines then lines.tail else lines := by
  cases blank : startsBlank lines with
  | false => exact buffer_bodyFrom_nil stays rfl (fun _ => blank) no_fault
  | true =>
    cases lines with
    | nil => rfl
    | cons l lines =>
      have dropped : line mod [] ScanState.initial 0 l = .ok ⟨ScanState.initial, [], none⟩ := by
        have empty : trim (clean l) = [] := by simpa [startsBlank] using blank
        simp [line, ScanState.absorb, ScanState.initial, empty]
      have body_eq : body mod [] (l :: lines) =
          (bodyFrom mod [] ScanState.initial 1 lines).after ⟨ScanState.initial, [], none⟩ := by
        rw [body, bodyFrom, dropped]
      rw [body_eq] at no_fault ⊢
      exact buffer_bodyFrom_nil (fun k hk => stays k (List.mem_cons_of_mem l hk)) rfl
        (fun h => absurd h Nat.one_ne_zero) no_fault

end Body

/-! ### Repeated ends -/

private theorem collapseFrom_false_of_eq {lines : List Line} {afterEnd : Bool} (h : collapseFrom afterEnd lines = lines) :
    collapseFrom false lines = lines := by
  induction lines generalizing afterEnd with
  | nil => rfl
  | cons l lines ih =>
    unfold collapseFrom at h ⊢
    by_cases ends : isBlockEnd (trim l) = true
    · cases afterEnd with
      | false => simpa [ends] using h
      | true =>
        -- a line was dropped, so that the two lists cannot be equal
        have shorter := (collapseFrom_sublist true lines).length_le
        rw [if_pos ends, if_pos rfl] at h
        rw [h, List.length_cons] at shorter
        omega
    · rw [if_neg ends] at h ⊢
      rw [Bool.false_and, ih (List.cons.inj h).2]

/-- Lines without repeated ends have none without the first line either. -/
theorem collapseEnds_tail {lines : List Line} (h : collapseEnds lines = lines) :
    collapseEnds lines.tail = lines.tail := by
  cases lines with
  | nil => rfl
  | cons l lines =>
    rw [collapseEnds, collapseFrom] at h
    split at h <;> exact collapseFrom_false_of_eq (List.cons.inj h).2

/-! ### Written twice -/

/-- The lines of a written mod, taken as a mod and written without new numbers, are the same lines again if the first of
them is not blank or there are none, and otherwise the same lines without the first one. -/
theorem lines_mod_of_written {name name' : String} {table : RemapTable} {m m' : ModFile} {out again : List Line}
    (written : (mod name table m.lines).lines = .ok out) (text : m'.content = joinLines out)
    (rewritten : (mod name' [] m'.lines).lines = .ok again) :
    again = if startsBlank out then out.tail else out := by
  obtain ⟨-, rfl⟩ := lines_mod_eq_ok_iff.1 written
  obtain ⟨no_fault, rfl⟩ := lines_mod_eq_ok_iff.1 rewritten
  have subset := (collapseFrom_sublist false (body name table m.lines).buffer).subset
  have unbroken : ∀ l ∈ collapseEnds (body name table m.lines).buffer, IsUnbroken l := fun l hl =>
    isUnbroken_of_mem_body (fun k hk => isUnbroken_of_mem_splitLines hk) l (subset hl)
  have stays : ∀ l ∈ collapseEnds (body name table m.lines).buffer, StaysContent l := fun l hl =>
    staysContent_of_mem_body l (subset hl)
  have lines_eq : m'.lines = collapseEnds (body name table m.lines).buffer := by
    rw [ModFile.lines, text, splitLines_joinLines unbroken]
  have collapsed : collapseEnds (collapseEnds (body name table m.lines).buffer) =
      collapseEnds (body name table m.lines).buffer := collapseFrom_collapseFrom false _
  rw [lines_eq] at no_fault ⊢
  rw [buffer_body_nil stays no_fault]
  split
  · exact collapseEnds_tail collapsed
  · exact collapsed

/-- A mod whose name stands in front of a blank line, with a spell block that is closed twice, a description that is
closed on its third line, and a weapon. -/
def paddedMod : ModFile :=
  ModFile.named "padded" (joinLines (["#modname \"Padded\"", " ", "#newspell", "#end", "-- twice", "#end",
    "#description \"begins", "#newmonster 5000", "ends\"", "#newweapon 800"].map String.toList))

/-- What is written of the mod if its weapon gets another number. -/
def paddedLines : List Line :=
  [" ", "#newspell", "#end", "-- twice", "-- MOD MERGER: Remapped Weapon 800 -> 801", "#newweapon 801"].map String.toList

/-- The blank line that comes first in the output is gone after the second pass, and nothing else. -/
theorem lines_mod_paddedLines :
    (mod "padded" [(⟨.weapon, 800⟩, 801)] paddedMod.lines).lines = .ok paddedLines ∧
      (mod "again" [] (ModFile.named "again" (joinLines paddedLines)).lines).lines = .ok paddedLines.tail := by
  have written : (mod "padded" [(⟨.weapon, 800⟩, 801)] paddedMod.lines).lines = .ok paddedLines := by decide +kernel
  have no_fault : (body "again" [] (ModFile.named "again" (joinLines paddedLines)).lines).fault = none := by
    decide +kernel
  have rewritten := lines_mod_eq_ok_iff.2 ⟨no_fault, rfl⟩
  have blank : startsBlank paddedLines = true := by decide +kernel
  have again_eq := lines_mod_of_written written rfl rewritten
  rw [blank, if_pos rfl] at again_eq
  exact ⟨written, again_eq ▸ rewritten⟩

end ModWeave.Output
