import ModWeave.Output.Renumbered
import ModWeave.Proofs.Line.Exchange

/-!
# Plain lines

A line is unbroken if none of its characters ends a line, and plain if moreover all of them are readable.  The lines of
every text are unbroken (`isUnbroken_of_mem_splitLines`), and those of a text without unreadable characters are plain
(`isPlain_of_mem_splitLines`).  Both hold on for everything that the writer makes of such a line (`isUnbroken_renumber`,
`isPlain_renumber`): the comments and literals that it adds consist of printable ASCII characters.
-/

namespace ModWeave

namespace Line

open Text

/-- All characters of a line are readable, and none of them ends a line. -/
def IsPlain (l : Line) : Prop := ∀ c ∈ l, isUnreadable c = false ∧ c ≠ '\n' ∧ c ≠ '\r'

instance (l : Line) : Decidable (IsPlain l) := List.decidableBAll _ _

theorem IsPlain.clean_eq {l : Line} (h : IsPlain l) : clean l = l :=
  List.filter_eq_self.2 fun c hc => by rw [(h c hc).1, Bool.not_false]

theorem IsPlain.append {l m : Line} (hl : IsPlain l) (hm : IsPlain m) : IsPlain (l ++ m) := fun c hc =>
  (List.mem_append.1 hc).elim (hl c) (hm c)

theorem IsPlain.sublist {l m : Line} (hm : IsPlain m) (sub : l.Sublist m) : IsPlain l := fun c hc => hm c (sub.subset hc)

theorem isPlain_write (n : Int) : IsPlain (Decimal.write n) := by
  have digits : IsPlain (Nat.toDigits 10 n.natAbs) := fun c hc => by
    have digit := isDigit_of_mem_write hc
    refine ⟨isUnreadable_of_isDigit digit, ?_, ?_⟩ <;> rintro rfl <;> exact absurd digit (by decide)
  unfold Decimal.write
  split
  · exact IsPlain.append (l := ['-']) (by decide) digits
  · exact digits

theorem beforeReadable_sublist (n : Nat) (l : Line) : (beforeReadable n l).Sublist l := by
  induction l generalizing n with
  | nil => cases n <;> exact List.Sublist.refl _
  | cons c l ih =>
    cases n <;> unfold beforeReadable <;> split
    · exact (ih 0).cons_cons c
    · exact List.nil_sublist _
    · exact (ih _).cons_cons c
    · exact (ih _).cons_cons c

theorem afterReadable_sublist (n : Nat) (l : Line) : (afterReadable n l).Sublist l := by
  induction l generalizing n with
  | nil => cases n <;> exact List.Sublist.refl _
  | cons c l ih =>
    cases n with
    | zero => exact List.Sublist.refl _
    | succ n =>
      unfold afterReadable
      split
      · exact (ih _).cons c
      · exact (ih _).cons c

end Line

namespace Text

open Line

/-- The pieces of a text consist of its characters other than line ends. -/
private theorem mem_of_mem_pieces {s : List Char} {l : Line} (hl : l ∈ (cutLines s).pieces) :
    ∀ c ∈ l, c ∈ s ∧ c ≠ '\n' ∧ c ≠ '\r' := by
  induction s generalizing l with
  | nil =>
    obtain rfl : l = [] := by simpa [cutLines, Cut.empty, Cut.pieces] using hl
    simp
  | cons d s ih =>
    have later : ∀ m ∈ (cutLines s).pieces, ∀ c ∈ m, c ∈ d :: s ∧ c ≠ '\n' ∧ c ≠ '\r' := fun m hm c hc =>
      ⟨List.mem_cons_of_mem d (ih hm c hc).1, (ih hm c hc).2⟩
    have pushed : (cutLines (d :: s)).pieces = ((cutLines s).push d).pieces := rfl
    rw [pushed, Cut.push] at hl
    split at hl
    · rcases List.mem_cons.1 hl with rfl | hl
      · simp
      · exact later l hl
    · split at hl
      · split at hl
        · exact later l hl
        · rcases List.mem_cons.1 hl with rfl | hl
          · simp
          · exact later l hl
      · rename_i not_feed not_return
        rcases List.mem_cons.1 hl with rfl | hl
        · intro c hc
          rcases List.mem_cons.1 hc with rfl | hc
          · exact ⟨by simp, not_feed, not_return⟩
          · exact later _ (List.mem_cons_self ..) c hc
        · exact later l (List.mem_cons_of_mem _ hl)

/-- The lines of a text consist of its characters other than line ends. -/
theorem mem_of_mem_splitLines {s : List Char} {l : Line} (hl : l ∈ splitLines s) :
    ∀ c ∈ l, c ∈ s ∧ c ≠ '\n' ∧ c ≠ '\r' := by
  refine mem_of_mem_pieces ?_
  unfold splitLines dropEmptyLast at hl
  split at hl
  · exact List.dropLast_subset _ hl
  · exact hl

/-- A text without unreadable characters has plain lines. -/
theorem isPlain_of_mem_splitLines {s : List Char} (readable : ∀ c ∈ s, isUnreadable c = false) {l : Line}
    (hl : l ∈ splitLines s) : IsPlain l := by
  intro c hc
  obtain ⟨mem, not_feed, not_return⟩ := mem_of_mem_splitLines hl c hc
  exact ⟨readable c mem, not_feed, not_return⟩

end Text

namespace Output

open Text Line

/-- No character of a line ends it. -/
def IsUnbroken (l : Line) : Prop := ∀ c ∈ l, c ≠ '\n' ∧ c ≠ '\r'

instance (l : Line) : Decidable (IsUnbroken l) := List.decidableBAll _ _

theorem IsUnbroken.append {l m : Line} (hl : IsUnbroken l) (hm : IsUnbroken m) : IsUnbroken (l ++ m) := fun c hc =>
  (List.mem_append.1 hc).elim (hl c) (hm c)

theorem isUnbroken_of_mem_splitLines {s : List Char} {l : Line} (hl : l ∈ splitLines s) : IsUnbroken l := fun c hc =>
  (mem_of_mem_splitLines hl c hc).2

private theorem isPlain_label (id : EntityId) : IsPlain id.label.toList := by
  unfold EntityId.label
  split
  · decide +kernel
  · cases id.kind <;> decide +kernel

theorem isPlain_comment (id : EntityId) (n : Int) : IsPlain (comment id n) := by
  have start : IsPlain commentStart := by decide +kernel
  have arrow : IsPlain " -> ".toList := by decide +kernel
  have blank : ∀ {l : Line}, IsPlain l → IsPlain (' ' :: l) := fun h => IsPlain.append (l := [' ']) (by decide) h
  unfold comment
  exact (((start.append (blank (isPlain_label id))).append (blank (isPlain_write _))).append arrow).append (isPlain_write _)

/-- What the writer makes of a line consists of characters of the line and plain ones. -/
private theorem forall_mem_renumber {P : Char → Prop}
    (plain : ∀ c, isUnreadable c = false ∧ c ≠ '\n' ∧ c ≠ '\r' → P c) {table : RemapTable} {l : Line}
    (h : ∀ c ∈ l, P c) (t : Option IdToken) : ∀ m ∈ (renumber table l t).lines, ∀ c ∈ m, P c := by
  unfold renumber
  split
  · simpa [Renumbered.lines] using h
  · rename_i t
    split
    · simpa [Renumbered.lines] using h
    · rename_i n _
      have recorded : ∀ c ∈ comment t.id n, P c := fun c hc => plain c (isPlain_comment t.id n c hc)
      have replaced : ∀ c ∈ replaceId l t n, P c := by
        intro c hc
        simp only [replaceId, List.mem_append] at hc
        rcases hc with (hc | hc) | hc
        · exact h c ((beforeReadable_sublist _ l).subset hc)
        · exact plain c (isPlain_write _ c hc)
        · exact h c ((afterReadable_sublist _ l).subset hc)
      simpa [Renumbered.lines] using ⟨recorded, replaced⟩

/-- What the writer makes of a plain line is plain. -/
theorem isPlain_renumber {table : RemapTable} {l : Line} (h : IsPlain l) (t : Option IdToken) :
    ∀ m ∈ (renumber table l t).lines, IsPlain m :=
  forall_mem_renumber (fun _ plain => plain) h t

/-- What the writer makes of a line without line ends has none. -/
theorem isUnbroken_renumber {table : RemapTable} {l : Line} (h : IsUnbroken l) (t : Option IdToken) :
    ∀ m ∈ (renumber table l t).lines, IsUnbroken m :=
  forall_mem_renumber (fun _ plain => plain.2) h t

end Output

end ModWeave
