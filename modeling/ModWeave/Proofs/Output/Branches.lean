import ModWeave.Output.Block
import ModWeave.Proofs.Definition.Stops

/-!
# Lines have one trait

There are seven things that a line can be: blank, a comment, the start of a description, a statement about the mod, the
line that opens a block, the one that closes it, and a command that carries an id.  They exclude each other, save that
a block may be opened by the id of a spell (`traits_cases`), and blanks at the ends of a line do not matter to any of
them (`holds_trim`).  So it does not matter in which order a line is tested: inside a block the reader, who asks for the
kind of the line first, and the writer, who only asks whether it closes or opens a block, go the same way
(`readContent_eq_read`, `blockLine_eq_write`).
-/

namespace ModWeave

namespace Line

open Text

/-- Whether a line gives a number to a command that carries an id outside blocks. -/
def isIdCommand (l : Line) : Bool := (IdCommand.read? l).any fun p => (command? false p.word).isSome

/-- What a line can be. -/
inductive Trait
  | blank
  | comment
  | descriptionStart
  | metadata
  | blockStart
  | blockEnd
  | idCommand
deriving DecidableEq, Repr

namespace Trait

/-- Whether a line has the trait. -/
def holds (l : Line) : Trait → Bool
  | blank => (trim l).isEmpty
  | comment => isComment l
  | descriptionStart => isDescriptionStart l
  | metadata => isMetadata l
  | blockStart => isBlockStart l
  | blockEnd => isBlockEnd l
  | idCommand => isIdCommand l

/-- All traits. -/
def all : List Trait := [blank, comment, descriptionStart, metadata, blockStart, blockEnd, idCommand]

end Trait

/-- The traits that a line has. -/
def traits (l : Line) : List Trait := Trait.all.filter (Trait.holds l)

/-! ### Blanks at the ends of a line -/

theorem isComment_trim (l : Line) : isComment (trim l) = isComment l := by
  obtain ⟨b, blank, eq⟩ := exists_eq_trimRight_append (trimLeft l)
  have no_dash : ∀ c ∈ b.head?, c ≠ '-' := by
    rintro _ hc rfl
    exact absurd (blank '-' (List.mem_of_mem_head? hc)) (by decide)
  rw [isComment, isComment, trimLeft_trim, eq, ← trim]
  -- a comment begins with two characters that are not blank, so that they stand in front of the blanks at the end
  rcases trim l with _ | ⟨c, _ | ⟨d, s⟩⟩
  · cases b with
    | nil => rfl
    | cons d b => simp [List.isPrefixOf, Ne.symm (no_dash d rfl)]
  · cases b with
    | nil => simp
    | cons d b => simp [List.isPrefixOf, Ne.symm (no_dash d rfl)]
  · simp [List.isPrefixOf]

/-- A line carries such a command exactly if an id is found on it or reading the id fails. -/
theorem isIdCommand_iff {l : Line} : isIdCommand l = true ↔ idToken? false l ≠ .ok none := by
  unfold isIdCommand idToken?
  cases IdCommand.read? l with
  | none => simp
  | some p =>
    cases h : command? false p.word with
    | none => simp [h]
    | some c => cases literal : Decimal.read p.argument.literal <;> simp [h, literal, Except.map]

theorem isIdCommand_trim (l : Line) : isIdCommand (trim l) = isIdCommand l := by
  have none_iff : ∀ {e : Except Decimal.TooLong (Option IdToken)}, e = .ok none ↔ e.map Option.isSome = .ok false := by
    intro e
    rcases e with _ | _ | _ <;> simp [Except.map]
  rw [Bool.eq_iff_iff, isIdCommand_iff, isIdCommand_iff, ne_eq, ne_eq, none_iff, none_iff, idToken?_trim]

theorem holds_trim (l : Line) (t : Trait) : t.holds (trim l) = t.holds l := by
  cases t with
  | blank => simp [Trait.holds, trim_trim]
  | comment => exact isComment_trim l
  | descriptionStart => exact isDescriptionStart_trim l
  | metadata => exact isMetadata_trim l
  | blockStart => exact isBlockStart_trim l
  | blockEnd => exact isBlockEnd_trim l
  | idCommand => exact isIdCommand_trim l

/-! ### Exclusion -/

theorem hasKeyword_of_isIdCommand {l : Line} (h : isIdCommand l = true) :
    ∀ w ∈ plainKeywords, hasKeyword w l = false := by
  obtain ⟨p, hp, found⟩ := (Option.any_eq_true _ _).1 h
  obtain ⟨c, hc⟩ := Option.isSome_iff_exists.1 found
  exact hasKeyword_of_command? hp hc

/-- A line has at most one keyword. -/
theorem eq_of_hasKeyword {v w : String} (hv : IsKeyword v) (hw : IsKeyword w) {l : Line} (first : hasKeyword v l = true)
    (second : hasKeyword w l = true) : v = w := by
  obtain ⟨x, word, letters⟩ := (hasKeyword_iff hv).1 first
  obtain ⟨y, word', letters'⟩ := (hasKeyword_iff hw).1 second
  rw [word, Option.some.injEq] at word'
  rw [← word', letters] at letters'
  exact String.toList_inj.1 letters'

/-- A line about the mod itself has one of the keywords for that. -/
theorem exists_headWord {l : Line} (h : isDescriptionStart l = true ∨ isMetadata l = true) :
    ∃ w ∈ headWords, hasKeyword w l = true := by
  rcases h with start | metadata
  · exact ⟨"description", by decide, (Bool.and_eq_true_iff.1 start).1⟩
  · simp only [isMetadata, Bool.or_eq_true, Bool.and_eq_true] at metadata
    rcases metadata with (((h | h) | h) | h) | ⟨h, -⟩ <;> exact ⟨_, by decide, h⟩

theorem not_isMetadata_of_isDescriptionStart {l : Line} (h : isDescriptionStart l = true) : isMetadata l = false := by
  have description : hasKeyword "description" l = true := (Bool.and_eq_true_iff.1 h).1
  have other : ∀ w, IsKeyword w → w ≠ "description" → hasKeyword w l = false := fun w hw ne =>
    Bool.eq_false_iff.2 fun found => ne (eq_of_hasKeyword hw (by decide) found description)
  simp [isMetadata, h, other "modname" (by decide) (by decide), other "icon" (by decide) (by decide),
    other "version" (by decide) (by decide), other "domversion" (by decide) (by decide)]

/-- A line about the mod itself neither opens nor closes a block and carries no id. -/
theorem not_content_of_head {l : Line} (h : isDescriptionStart l = true ∨ isMetadata l = true) :
    isBlockStart l = false ∧ isBlockEnd l = false ∧ isIdCommand l = false := by
  obtain ⟨w, hw, keyword⟩ := exists_headWord h
  have other : ∀ v, IsKeyword v → v ∉ headWords → hasKeyword v l = false := fun v hv not_head =>
    Bool.eq_false_iff.2 fun found => not_head (eq_of_hasKeyword hv (isKeyword_headWords w hw) found keyword ▸ hw)
  refine ⟨?_, other "end" (by decide) (by decide), Bool.eq_false_iff.2 fun id => ?_⟩
  · rw [isBlockStart, other "newspell" (by decide) (by decide), other "selectspell" (by decide) (by decide)]
    rfl
  · rw [hasKeyword_of_isIdCommand id w (by simp [plainKeywords, hw])] at keyword
    cases keyword

theorem not_isIdCommand_of_isBlockEnd {l : Line} (h : isBlockEnd l = true) : isIdCommand l = false :=
  Bool.eq_false_iff.2 fun id => by
    rw [isBlockEnd, hasKeyword_of_isIdCommand id "end" (by simp [plainKeywords])] at h
    cases h

theorem not_isBlockEnd_of_isBlockStart {l : Line} (h : isBlockStart l = true) : isBlockEnd l = false := by
  refine Bool.eq_false_iff.2 fun closes => ?_
  rcases Bool.or_eq_true_iff.1 h with opens | opens
  · exact absurd (eq_of_hasKeyword (by decide) (by decide) opens closes) (by decide)
  · exact absurd (eq_of_hasKeyword (by decide) (by decide) opens closes) (by decide)

/-- A block that is opened by an id is opened by the id of a spell. -/
theorem hasKeyword_selectspell {l : Line} (opens : isBlockStart l = true) (id : isIdCommand l = true) :
    hasKeyword "selectspell" l = true := by
  rcases Bool.or_eq_true_iff.1 opens with new | select
  · rw [hasKeyword_of_isIdCommand id "newspell" (by simp [plainKeywords])] at new
    cases new
  · exact select

/-- A line without a word behind a number sign is at most a comment. -/
private theorem traits_of_no_word {l : Line} (h : signWord? l = none) :
    traits l = (if trim l = [] then [.blank] else []) ++ if isComment l then [.comment] else [] := by
  obtain ⟨start, metadata, opens, closes⟩ := not_head_of_signWord?_eq_none h
  have no_id : isIdCommand l = false := by
    rw [Bool.eq_false_iff, ne_eq, isIdCommand_iff]
    exact fun found => found (idToken?_of_signWord?_eq_none h false)
  by_cases blank : trim l = [] <;> cases comment : isComment l <;>
    simp [traits, Trait.all, Trait.holds, start, metadata, opens, closes, no_id, blank, comment]

private theorem traits_of_word {l x : Line} (h : signWord? l = some x) :
    traits l = [Trait.descriptionStart, .metadata, .blockStart, .blockEnd, .idCommand].filter (Trait.holds l) := by
  have not_blank : trim l ≠ [] := ne_nil_of_signWord? ((signWord?_trim l).trans h)
  simp [traits, Trait.all, Trait.holds, not_blank, isComment_of_signWord? h]

/-- A line has one trait or none, save that the id of a spell may open a block. -/
theorem traits_cases (l : Line) : (traits l).length ≤ 1 ∨
    traits l = [.blockStart, .idCommand] ∧ hasKeyword "selectspell" l = true := by
  cases word : signWord? l with
  | none =>
    left
    have not_both : trim l = [] → isComment l = false := fun blank => by
      rw [← isComment_trim, blank]
      rfl
    rw [traits_of_no_word word]
    by_cases blank : trim l = []
    · simp [blank, not_both blank]
    · cases isComment l <;> simp [blank]
  | some x =>
    rw [traits_of_word word]
    cases start : isDescriptionStart l with
    | true =>
      obtain ⟨not_opens, not_closes, no_id⟩ := not_content_of_head (Or.inl start)
      simp [Trait.holds, start, not_isMetadata_of_isDescriptionStart start, not_opens, not_closes, no_id]
    | false =>
      cases metadata : isMetadata l with
      | true =>
        obtain ⟨not_opens, not_closes, no_id⟩ := not_content_of_head (Or.inr metadata)
        simp [Trait.holds, start, metadata, not_opens, not_closes, no_id]
      | false =>
        cases opens : isBlockStart l with
        | true =>
          have not_closes := not_isBlockEnd_of_isBlockStart opens
          cases id : isIdCommand l with
          | true =>
            exact Or.inr ⟨by simp [Trait.holds, start, metadata, opens, not_closes, id], hasKeyword_selectspell opens id⟩
          | false => simp [Trait.holds, start, metadata, opens, not_closes, id]
        | false =>
          cases closes : isBlockEnd l with
          | true => simp [Trait.holds, start, metadata, opens, closes, not_isIdCommand_of_isBlockEnd closes]
          | false => cases id : isIdCommand l <;> simp [Trait.holds, start, metadata, opens, closes, id]

end Line

/-! ### Inside a block -/

open Text Line

/-- What is done with a line inside a block. -/
inductive Branch
  | closes
  | opens
  | within
deriving DecidableEq, Repr

namespace Branch

/-- What the kind of a line asks for. -/
def ofKind : Kind → Branch
  | .blockEnd => closes
  | .blockStart => opens
  | _ => within

/-- What two tests of a line ask for, one after the other. -/
def ofLine (l : Line) : Branch := if isBlockEnd l then closes else if isBlockStart l then opens else within

theorem ofKind_of_classify {l : Line} {k : Kind} (h : classify l = .ok k) : ofKind k = ofLine l := by
  cases closes : isBlockEnd l with
  | true =>
    obtain rfl : k = .blockEnd := Except.ok.inj (h.symm.trans (classify_of_isBlockEnd closes))
    simp [ofKind, ofLine, closes]
  | false =>
    cases opens : isBlockStart l with
    | true =>
      obtain rfl : k = .blockStart := Except.ok.inj (h.symm.trans (classify_of_isBlockStart opens))
      simp [ofKind, ofLine, closes, opens]
    | false =>
      have not_end : k ≠ .blockEnd := fun same => by simp [classify_eq_blockEnd_iff.1 (same ▸ h)] at closes
      have not_start : k ≠ .blockStart := fun same => by simp [classify_eq_blockStart_iff.1 (same ▸ h)] at opens
      cases k <;> simp_all [ofKind, ofLine]

/-- A line whose kind cannot be told is one within the block. -/
theorem ofLine_of_classify_eq_error {l : Line} {e : Decimal.TooLong} (h : classify l = .error e) :
    ofLine l = within := by
  have not_end : isBlockEnd l = false := Bool.eq_false_iff.2 fun closes => by
    rw [classify_of_isBlockEnd closes] at h
    cases h
  have not_start : isBlockStart l = false := Bool.eq_false_iff.2 fun opens => by
    rw [classify_of_isBlockStart opens] at h
    cases h
  simp [ofLine, not_end, not_start]

/-- The finding of the reader in a branch. -/
def read (st : ScanState) (b : OpenBlock) (index : Nat) (l : Line) :
    Branch → Except Decimal.TooLong Definition.LineResult
  | closes => .ok ⟨st.withBlock none, none, some ⟨b.start, some index⟩⟩
  | opens => (idToken? false l).map fun t =>
    ⟨st.withBlock (BlockState.opened index), t.map (Definition.occurrence index), some ⟨b.start, none⟩⟩
  | within => do
    let block ← BlockState.observe (some b) l
    let token ← block.subCommand? l
    return ⟨st.withBlock block, token.map (Definition.occurrence index), none⟩

/-- What the writer makes of a line in a branch. -/
def write (mod : String) (table : RemapTable) (b : OpenBlock) (index : Nat) (l : Line) :
    Branch → Except Decimal.TooLong Output.BlockStep
  | closes => .ok ⟨none, [l], none⟩
  | opens => (Output.entityLine table l).map fun r =>
    ⟨BlockState.opened index, r.lines, some ⟨some mod, .blockCutShort (some b.start) index⟩⟩
  | within => do
    let block ← BlockState.observe (some b) (clean l)
    let token ← block.subCommand? (clean l)
    return ⟨block, (Output.renumber table l token).lines, none⟩

end Branch

/-- Inside a block the reader, who asks for the kind of a line, does what the two tests ask for. -/
theorem Definition.readContent_eq_read (st : ScanState) (b : OpenBlock) (index : Nat) (l : Line) :
    readContent (st.withBlock (some b)) index l = (Branch.ofLine l).read st b index l := by
  cases kind : classify l with
  | ok k =>
    rw [← Branch.ofKind_of_classify kind]
    cases k with
    | blockStart =>
      rw [readContent_of_classify_blockStart kind]
      rfl
    | _ =>
      simp only [readContent, kind, bind, Except.bind]
      rfl
  | error e =>
    -- the id with too many digits stops the reader here and would stop it within the block
    obtain ⟨-, token⟩ := classify_eq_error_iff.1 kind
    obtain ⟨p, c, parts, command, -⟩ := idToken?_eq_error_iff.1 token
    have inside : idToken? true l = .error e := (idToken?_inBlock (by rw [token]; simp)).trans token
    have refused : readContent (st.withBlock (some b)) index l = .error e := by
      simp only [readContent, kind, bind, Except.bind]
    rw [Branch.ofLine_of_classify_eq_error kind, refused]
    simp [Branch.read, BlockState.observe, BlockState.subCommand?, effect?_of_command? parts command, inside, bind,
      Except.bind, Except.map]

theorem Output.blockLine_eq_write (mod : String) (table : RemapTable) (b : OpenBlock) (index : Nat) (l : Line) :
    blockLine mod table (some b) index l = (Branch.ofLine (clean l)).write mod table b index l := by
  unfold blockLine Branch.ofLine
  split
  · rfl
  · split
    · simp only [Branch.write]
      cases entityLine table l <;> rfl
    · rfl

/-- A line has one trait at most, save that the id of a spell may open a block; its traits stay when blanks are taken
off its ends; and so, inside a block, reader and writer take the same branch, the one by the kind of the line and the
other by two tests of it. -/
theorem traits_exclusive (l : Line) :
    ((traits l).length ≤ 1 ∨ traits l = [.blockStart, .idCommand] ∧ hasKeyword "selectspell" l = true) ∧
    (∀ t : Trait, t.holds (trim l) = t.holds l) ∧
    (classify l).map Branch.ofKind = (classify l).map (fun _ => Branch.ofLine l) ∧
    ∀ (mod : String) (table : RemapTable) (st : ScanState) (b : OpenBlock) (index : Nat),
      Definition.readContent (st.withBlock (some b)) index (clean l) =
        (Branch.ofLine (clean l)).read st b index (clean l) ∧
      Output.blockLine mod table (some b) index l = (Branch.ofLine (clean l)).write mod table b index l := by
  refine ⟨traits_cases l, holds_trim l, ?_, fun mod table st b index => ?_⟩
  · cases kind : classify l with
    | error e => rfl
    | ok k => exact congrArg Except.ok (Branch.ofKind_of_classify kind)
  · exact ⟨Definition.readContent_eq_read st b index (clean l), Output.blockLine_eq_write mod table b index l⟩

/-- A spell that is chosen by its id opens a block. -/
example : traits " #selectspell 12 -- a spell".toList = [.blockStart, .idCommand] := by decide +kernel

end ModWeave
