import ModWeave.Proofs.Line.Keyword
import ModWeave.SpellBlock

/-!
# Tests that agree

Two readers of the same line may test it in a different order, with its blanks or without, inside a spell block or
outside.  The lemmas here say that the answers agree: a line that opens or closes a block is of that kind whatever is
tested before (`classify_of_isBlockStart`, `classify_of_isBlockEnd`), blanks at the ends of a line do not matter to
the id on it (`idToken?_trim`), an id that counts outside blocks is found inside one too (`idToken?_inBlock`), and a
line with a command that carries an id names no effect (`effect?_of_command?`).
-/

namespace ModWeave.Line

open Text

/-! ### Lines that begin with a number sign -/

/-- Which keyword a line has can be read off its word. -/
theorem hasKeyword_of_signWord? {l x : Line} (h : signWord? l = some x) {word : String} (keyword : IsKeyword word) :
    hasKeyword word l = decide (x.map smallLetter = word.toList) := by
  rw [Bool.eq_iff_iff, hasKeyword_iff keyword, h]
  simp

theorem exists_of_signWord? {l x : Line} (h : signWord? l = some x) : ∃ s, trimLeft l = '#' :: s := by
  unfold signWord? at h
  split at h
  · rename_i s hs
    exact ⟨s, hs⟩
  · cases h

theorem isComment_of_signWord? {l x : Line} (h : signWord? l = some x) : isComment l = false := by
  obtain ⟨s, hs⟩ := exists_of_signWord? h
  simp [isComment, hs, List.isPrefixOf]

theorem signWord?_of_isComment {l : Line} (h : isComment l = true) : signWord? l = none := by
  refine Option.eq_none_iff_forall_ne_some.2 fun x word => ?_
  rw [isComment_of_signWord? word] at h
  cases h

theorem ne_nil_of_signWord? {l x : Line} (h : signWord? l = some x) : l ≠ [] := by
  rintro rfl
  cases h

theorem isBlockStart_trim (l : Line) : isBlockStart (trim l) = isBlockStart l := by
  rw [isBlockStart, hasKeyword_trim (by decide), hasKeyword_trim (by decide), isBlockStart]

theorem isBlockEnd_trim (l : Line) : isBlockEnd (trim l) = isBlockEnd l := by
  rw [isBlockEnd, hasKeyword_trim (by decide), isBlockEnd]

/-- Blanks at the ends of a line do not matter for how often another character stands on it. -/
theorem count_trim {c : Char} (not_blank : isBlank c = false) (l : Line) : (trim l).count c = l.count c := by
  have none_of : ∀ {b : Line}, (∀ d ∈ b, isBlank d = true) → b.count c = 0 := fun blank =>
    List.count_eq_zero.2 fun mem => by
      rw [blank c mem] at not_blank
      cases not_blank
  obtain ⟨b, blank, eq⟩ := exists_eq_trimRight_append (trimLeft l)
  have lead : (l.takeWhile isBlank).count c = 0 :=
    none_of fun d hd => List.all_eq_true.1 List.all_takeWhile d hd
  calc (trim l).count c = (trim l ++ b).count c := by rw [List.count_append, none_of blank, Nat.add_zero]
    _ = (trimLeft l).count c := by rw [trim, ← eq]
    _ = (l.takeWhile isBlank ++ trimLeft l).count c := by rw [List.count_append, lead, Nat.zero_add]
    _ = l.count c := by rw [trimLeft, List.takeWhile_append_dropWhile]

theorem quote_mem_trim_iff (l : Line) : '"' ∈ trim l ↔ '"' ∈ l := by
  rw [← List.count_pos_iff, ← List.count_pos_iff, count_trim (by decide)]

theorem isDescriptionStart_trim (l : Line) : isDescriptionStart (trim l) = isDescriptionStart l := by
  rw [isDescriptionStart, isDescriptionStart, hasKeyword_trim (by decide), oddQuotes, oddQuotes, count_trim (by decide)]

theorem isMetadata_trim (l : Line) : isMetadata (trim l) = isMetadata l := by
  simp only [isMetadata, isDescriptionStart_trim, hasKeyword_trim (show IsKeyword "modname" by decide),
    hasKeyword_trim (show IsKeyword "icon" by decide), hasKeyword_trim (show IsKeyword "version" by decide),
    hasKeyword_trim (show IsKeyword "domversion" by decide), hasKeyword_trim (show IsKeyword "description" by decide)]

/-- The keywords of the lines about the mod itself. -/
def headWords : List String := ["modname", "icon", "version", "domversion", "description"]

theorem isKeyword_headWords : ∀ w ∈ headWords, IsKeyword w := by decide

/-- A line that begins with another word says nothing about the mod itself. -/
theorem not_head_of_signWord? {l x : Line} (h : signWord? l = some x)
    (other : ∀ w ∈ headWords, x.map smallLetter ≠ w.toList) : isDescriptionStart l = false ∧ isMetadata l = false := by
  have none_of : ∀ w ∈ headWords, hasKeyword w l = false := fun w hw => by
    rw [hasKeyword_of_signWord? h (isKeyword_headWords w hw), decide_eq_false (other w hw)]
  simp only [headWords, List.forall_mem_cons] at none_of
  obtain ⟨modname, icon, version, domversion, description, -⟩ := none_of
  simp [isDescriptionStart, isMetadata, modname, icon, version, domversion, description]

theorem not_head_of_isBlockEnd {l : Line} (h : isBlockEnd l = true) :
    isDescriptionStart (trim l) = false ∧ isMetadata (trim l) = false := by
  rw [← isBlockEnd_trim] at h
  obtain ⟨x, word, spelled⟩ := (hasKeyword_iff (by decide)).1 h
  exact not_head_of_signWord? word (by rw [spelled]; decide)

theorem classify_of_isBlockEnd {l : Line} (h : isBlockEnd l = true) : classify l = .ok .blockEnd := by
  obtain ⟨not_start, not_metadata⟩ := not_head_of_isBlockEnd h
  rw [← isBlockEnd_trim] at h
  obtain ⟨x, word, spelled⟩ := (hasKeyword_iff (by decide)).1 h
  have not_block_start : isBlockStart (trim l) = false := by
    rw [isBlockStart, hasKeyword_of_signWord? word (by decide), hasKeyword_of_signWord? word (by decide), spelled]
    decide
  simp [classify, classifyTrimmed, ne_nil_of_signWord? word, isComment_of_signWord? word, not_start, not_metadata,
    not_block_start, h]

theorem classify_of_isBlockStart {l : Line} (h : isBlockStart l = true) : classify l = .ok .blockStart := by
  have trimmed : isBlockStart (trim l) = true := (isBlockStart_trim l).trans h
  have spelled : ∃ x, signWord? (trim l) = some x ∧ ∀ w ∈ headWords, x.map smallLetter ≠ w.toList := by
    rcases Bool.or_eq_true_iff.1 trimmed with h | h <;> obtain ⟨x, word, spelled⟩ := (hasKeyword_iff (by decide)).1 h
    · exact ⟨x, word, by rw [spelled]; decide⟩
    · exact ⟨x, word, by rw [spelled]; decide⟩
  obtain ⟨x, word, other⟩ := spelled
  obtain ⟨not_start, not_metadata⟩ := not_head_of_signWord? word other
  simp [classify, classifyTrimmed, ne_nil_of_signWord? word, isComment_of_signWord? word, not_start, not_metadata,
    trimmed]

private theorem entity_or_other {e : Except Decimal.TooLong (Option IdToken)} {k : Kind}
    (h : (e.map fun t => if t.isSome then Kind.entity else Kind.other) = .ok k) : k = .entity ∨ k = .other := by
  cases e with
  | error e => cases h
  | ok t => cases t <;> cases h <;> simp

theorem classify_eq_blockStart_iff {l : Line} : classify l = .ok .blockStart ↔ isBlockStart l = true := by
  refine ⟨fun h => ?_, classify_of_isBlockStart⟩
  rw [← isBlockStart_trim]
  grind [classify, classifyTrimmed, entity_or_other]

theorem classify_eq_blockEnd_iff {l : Line} : classify l = .ok .blockEnd ↔ isBlockEnd l = true := by
  refine ⟨fun h => ?_, classify_of_isBlockEnd⟩
  rw [← isBlockEnd_trim]
  grind [classify, classifyTrimmed, entity_or_other]

theorem classify_eq_comment_iff {l : Line} : classify l = .ok .comment ↔ isComment (trim l) = true := by
  constructor
  · intro h
    grind [classify, classifyTrimmed, entity_or_other]
  · intro comment
    have not_blank : trim l ≠ [] := by
      intro blank
      rw [blank] at comment
      cases comment
    rw [classify, classifyTrimmed, if_neg not_blank, if_pos comment]

/-- Outside the lines about the mod, a line that neither opens nor closes a block is of a kind that the state of the
block does not depend on, unless its id has too many digits. -/
theorem classify_of_not_block {l : Line} (not_start : isDescriptionStart (trim l) = false)
    (not_metadata : isMetadata (trim l) = false) (not_opens : isBlockStart l = false) (not_closes : isBlockEnd l = false) :
    classify l = .ok .blank ∨ classify l = .ok .comment ∨
      classify l = (idToken? false (trim l)).map fun t => if t.isSome then .entity else .other := by
  rw [← isBlockStart_trim] at not_opens
  rw [← isBlockEnd_trim] at not_closes
  unfold classify classifyTrimmed
  split
  · exact Or.inl rfl
  · split
    · exact Or.inr (Or.inl rfl)
    · simp [not_start, not_metadata, not_opens, not_closes]

/-! ### Lines with an id -/

private theorem read?_of_trim {l : Line} {p : IdCommand} (h : IdCommand.read? (trim l) = some p) :
    ∃ q, IdCommand.read? l = some q ∧ q.word = p.word ∧ q.argument.literal = p.argument.literal := by
  obtain ⟨wf, eq⟩ := IdCommand.read?_eq_some_iff.1 h
  obtain ⟨b, blank, right⟩ := exists_eq_trimRight_append (trimLeft l)
  have rest : Argument.endsBefore (p.argument.rest ++ b) = true := by
    have ends := wf.argument.rest
    cases hr : p.argument.rest with
    | cons c r =>
      rw [hr] at ends
      exact ends
    | nil =>
      cases b with
      | nil => rfl
      | cons c b =>
        have blank_c := blank c (by simp)
        have not_point : c ≠ '.' := by
          rintro rfl
          exact absurd blank_c (by decide)
        simp [Argument.endsBefore, isWord_of_isBlank blank_c, not_point]
  refine ⟨⟨l.takeWhile isBlank ++ p.lead, p.word, ⟨p.argument.gap, p.argument.literal, p.argument.rest ++ b⟩⟩,
    IdCommand.read?_eq_some_iff.2 ⟨⟨fun c hc => ?_, wf.word, ⟨wf.argument.1, wf.argument.2, wf.argument.3, rest⟩⟩, ?_⟩,
    rfl, rfl⟩
  · rcases List.mem_append.1 hc with hc | hc
    · exact List.all_eq_true.1 List.all_takeWhile c hc
    · exact wf.lead c hc
  · calc l = l.takeWhile isBlank ++ trimLeft l := (List.takeWhile_append_dropWhile ..).symm
      _ = l.takeWhile isBlank ++ (p.lead ++ p.body ++ b) := by rw [right, ← trim, eq]
      _ = _ := by simp [IdCommand.body]

private theorem read?_trim_of_read? {l : Line} {p : IdCommand} (h : IdCommand.read? l = some p) :
    ∃ q, IdCommand.read? (trim l) = some q ∧ q.word = p.word ∧ q.argument.literal = p.argument.literal := by
  obtain ⟨wf, rfl⟩ := IdCommand.read?_eq_some_iff.1 h
  have not_blank : ∀ d ∈ p.body.head?, isBlank d = false := by
    rintro _ ⟨⟩
    decide
  have rest : Argument.endsBefore (trimRight p.argument.rest) = true := by
    obtain ⟨b, blank, right⟩ := exists_eq_trimRight_append p.argument.rest
    have ends := wf.argument.rest
    cases ht : trimRight p.argument.rest with
    | nil => rfl
    | cons c r =>
      rw [right, ht] at ends
      exact ends
  have last : ∀ c ∈ ('#' :: p.word ++ p.argument.gap ++ p.argument.literal).getLast?, isBlank c = false := by
    obtain ⟨digits, ne, digit, literal⟩ := wf.argument.literal
    have digits_last := List.getLast?_eq_some_getLast ne
    have literal_last : p.argument.literal.getLast? = some (digits.getLast ne) := by
      rcases literal with h | h
      · rw [h, digits_last]
      · rw [h, List.getLast?_cons, digits_last, Option.getD_some]
    rw [List.getLast?_append, literal_last]
    rintro _ ⟨⟩
    have word := isWord_of_isDigit (digit _ (List.getLast_mem ne))
    refine Bool.eq_false_iff.2 fun blank => ?_
    rw [isWord_of_isBlank blank] at word
    cases word
  refine ⟨⟨[], p.word, ⟨p.argument.gap, p.argument.literal, trimRight p.argument.rest⟩⟩,
    IdCommand.read?_eq_some_iff.2 ⟨⟨by simp, wf.word, ⟨wf.argument.1, wf.argument.2, wf.argument.3, rest⟩⟩, ?_⟩,
    rfl, rfl⟩
  rw [trim, trimLeft, dropWhile_append_stop wf.lead not_blank]
  exact trimRight_append last

/-- Blanks at the ends of a line do not matter to whether there is an id on it. -/
theorem idToken?_trim (inBlock : Bool) (l : Line) :
    (idToken? inBlock (trim l)).map Option.isSome = (idToken? inBlock l).map Option.isSome := by
  have same : ∀ {k m : Line} {p q : IdCommand}, IdCommand.read? k = some p → IdCommand.read? m = some q →
      q.word = p.word → q.argument.literal = p.argument.literal →
      (idToken? inBlock k).map Option.isSome = (idToken? inBlock m).map Option.isSome := by
    intro k m p q hp hq word literal
    simp only [idToken?, hp, hq, word, literal]
    cases command? inBlock p.word with
    | none => rfl
    | some c => cases Decimal.read p.argument.literal <;> rfl
  cases h : IdCommand.read? l with
  | some p =>
    obtain ⟨q, hq, word, literal⟩ := read?_trim_of_read? h
    exact same hq h word.symm literal.symm
  | none =>
    cases ht : IdCommand.read? (trim l) with
    | none => simp [idToken?, h, ht]
    | some p =>
      obtain ⟨q, hq, -⟩ := read?_of_trim ht
      rw [h] at hq
      cases hq

theorem command?_inBlock {word : Line} {c : Command} (h : command? false word = some c) : command? true word = some c := by
  obtain ⟨found, -⟩ := Option.filter_eq_some_iff.1 h
  exact Option.filter_eq_some_iff.2 ⟨found, rfl⟩

/-- What is found or fails outside blocks is found or fails inside them. -/
theorem idToken?_inBlock {l : Line} (h : idToken? false l ≠ .ok none) : idToken? true l = idToken? false l := by
  unfold idToken? at h ⊢
  split
  · rfl
  · rename_i p hp
    cases hc : command? false p.word with
    | some c => rw [command?_inBlock hc]
    | none => simp [hp, hc] at h

/-- Keywords that are no commands with an id; the one that opens a block by the id of a spell is missing. -/
def plainKeywords : List String := "effect" :: "end" :: "newspell" :: headWords

theorem isKeyword_plainKeywords : ∀ w ∈ plainKeywords, IsKeyword w := by decide

private theorem find?_plainKeywords : ∀ w ∈ plainKeywords, Command.find? w.toList = none := by decide +kernel

/-- A line with a command that carries an id has none of these keywords. -/
theorem hasKeyword_of_command? {inBlock : Bool} {l : Line} {p : IdCommand} {c : Command}
    (hp : IdCommand.read? l = some p) (hc : command? inBlock p.word = some c) :
    ∀ w ∈ plainKeywords, hasKeyword w l = false := by
  intro w hw
  refine Bool.eq_false_iff.2 fun keyword => ?_
  obtain ⟨found, -⟩ := Option.filter_eq_some_iff.1 hc
  rw [(hasKeyword_iff_of_read? (isKeyword_plainKeywords w hw) hp).1 keyword, find?_plainKeywords w hw] at found
  cases found

/-- Only a line with the keyword of effects names one, since a blank has to follow the keyword. -/
theorem effect?_of_not_hasKeyword {l : Line} (h : hasKeyword "effect" l = false) : effect? l = .ok none := by
  have no_argument : (afterKeyword? "effect" l).bind Argument.read? = none := by
    refine Option.bind_eq_none_iff.2 fun r hr => Option.eq_none_iff_forall_ne_some.2 fun a ha => ?_
    obtain ⟨wf, rfl⟩ := Argument.read?_eq_some_iff.1 ha
    have word_end : atWordEnd (a.gap ++ a.literal ++ a.rest) = true := by
      have ne := wf.gap_ne_nil
      have gap := wf.gap
      cases hg : a.gap with
      | nil => exact absurd hg ne
      | cons g gs => simp [atWordEnd, isWord_of_isBlank (Argument.isBlank_of_isGap (gap g (by simp [hg])))]
    have keyword : hasKeyword "effect" l = true := by simpa [hasKeyword, hr] using word_end
    rw [h] at keyword
    cases keyword
  rw [effect?, no_argument]

/-- A line with another keyword names no effect. -/
theorem effect?_of_hasKeyword {word : String} (keyword : IsKeyword word) (other : word ≠ "effect") {l : Line}
    (h : hasKeyword word l = true) : effect? l = .ok none := by
  obtain ⟨x, spelled, letters⟩ := (hasKeyword_iff keyword).1 h
  refine effect?_of_not_hasKeyword ?_
  rw [hasKeyword_of_signWord? spelled (by decide), letters]
  exact decide_eq_false fun same => other (String.toList_inj.1 same)

theorem effect?_of_command? {inBlock : Bool} {l : Line} {p : IdCommand} {c : Command}
    (hp : IdCommand.read? l = some p) (hc : command? inBlock p.word = some c) : effect? l = .ok none :=
  effect?_of_not_hasKeyword (hasKeyword_of_command? hp hc "effect" (by simp [plainKeywords]))

/-- Where the id on a line has too many digits, the line names no effect, and reading the id fails inside blocks too. -/
theorem effect?_and_idToken?_of_error {l : Line} {e : Decimal.TooLong} (h : idToken? false (trim l) = .error e) :
    effect? l = .ok none ∧ idToken? true l = .error e := by
  have same := idToken?_trim false l
  rw [h] at same
  cases untrimmed : idToken? false l with
  | ok t =>
    rw [untrimmed] at same
    cases same
  | error e' =>
    rw [untrimmed] at same
    obtain rfl : e = e' := Except.error.inj same
    refine ⟨?_, (idToken?_inBlock (by rw [untrimmed]; simp)).trans untrimmed⟩
    unfold idToken? at untrimmed
    split at untrimmed
    · cases untrimmed
    · rename_i p hp
      split at untrimmed
      · cases untrimmed
      · rename_i c hc
        exact effect?_of_command? hp hc

/-- What a token records about the line on which it is read. -/
theorem idToken?_eq_some_iff {inBlock : Bool} {l : Line} {t : IdToken} :
    idToken? inBlock l = .ok (some t) ↔ ∃ p n, IdCommand.read? l = some p ∧ command? inBlock p.word = some t.command ∧
      Decimal.read p.argument.literal = .ok n ∧ t = ⟨t.command, if t.command.negated then -n else n, p.start, p.stop⟩ := by
  unfold idToken?
  constructor
  · intro h
    split at h
    · cases h
    · rename_i p hp
      split at h
      · cases h
      · rename_i c hc
        cases hn : Decimal.read p.argument.literal with
        | error e => simp [hn, Except.map] at h
        | ok n =>
          simp only [hn, Except.map, Except.ok.injEq, Option.some.injEq] at h
          subst h
          exact ⟨p, n, hp, hc, hn, rfl⟩
  · rintro ⟨p, n, hp, hc, hn, eq⟩
    simp only [hp, hc, hn, Except.map]
    rw [← eq]

/-- The number of an id that was found on a line has few enough digits. -/
theorem isWritable_of_idToken? {inBlock : Bool} {l : Line} {t : IdToken} (h : idToken? inBlock l = .ok (some t)) :
    Decimal.isWritable t.number = true := by
  obtain ⟨p, n, -, -, value, eq⟩ := idToken?_eq_some_iff.1 h
  have magnitude : t.number.natAbs = n.natAbs := by
    rw [eq]
    show (if t.command.negated = true then -n else n).natAbs = n.natAbs
    split
    · exact Int.natAbs_neg n
    · rfl
  exact Decimal.isWritable_of_natAbs_le (Nat.le_of_eq magnitude) (Decimal.isWritable_of_read value)

/-- A line with a command that carries an id says nothing about the mod itself and closes no block. -/
theorem not_head_of_command? {inBlock : Bool} {l : Line} {p : IdCommand} {c : Command}
    (hp : IdCommand.read? l = some p) (hc : command? inBlock p.word = some c) :
    isDescriptionStart (trim l) = false ∧ isMetadata (trim l) = false ∧ isBlockEnd l = false := by
  have word : signWord? (trim l) = some p.word := (signWord?_trim l).trans (signWord?_of_read? hp)
  have none_of := hasKeyword_of_command? hp hc
  have other : ∀ w ∈ headWords, p.word.map smallLetter ≠ w.toList := by
    intro w hw same
    have keyword := (hasKeyword_iff (isKeyword_headWords w hw)).2 ⟨_, signWord?_of_read? hp, same⟩
    rw [none_of w (by simp [plainKeywords, hw])] at keyword
    cases keyword
  obtain ⟨not_start, not_metadata⟩ := not_head_of_signWord? word other
  exact ⟨not_start, not_metadata, none_of "end" (by simp [plainKeywords])⟩

theorem not_head_of_idToken? {inBlock : Bool} {l : Line} {t : IdToken} (h : idToken? inBlock l = .ok (some t)) :
    isDescriptionStart (trim l) = false ∧ isMetadata (trim l) = false ∧ isBlockEnd l = false := by
  obtain ⟨p, -, read, command, -, -⟩ := idToken?_eq_some_iff.1 h
  exact not_head_of_command? read command

/-- A line that carries an id is of that kind, unless it opens a block. -/
theorem classify_of_idToken? {l : Line} {t : IdToken} (h : idToken? false l = .ok (some t))
    (not_opens : isBlockStart l = false) : classify l = .ok .entity := by
  obtain ⟨p, -, read, command, -, -⟩ := idToken?_eq_some_iff.1 h
  have word : signWord? (trim l) = some p.word := (signWord?_trim l).trans (signWord?_of_read? read)
  obtain ⟨not_start, not_metadata, not_closes⟩ := not_head_of_idToken? h
  rw [← isBlockStart_trim] at not_opens
  rw [← isBlockEnd_trim] at not_closes
  have found := idToken?_trim false l
  cases token : idToken? false (trim l) with
  | error e => simp [h, token, Except.map] at found
  | ok u =>
    simp only [h, token, Except.map, Option.isSome_some, Except.ok.injEq] at found
    simp [classify, classifyTrimmed, ne_nil_of_signWord? word, isComment_of_signWord? word, not_start, not_metadata,
      not_opens, not_closes, token, Except.map, found]

/-! ### Lines without a number sign -/

section NoSign

variable {l : Line} (h : signWord? l = none)

include h

theorem hasKeyword_of_signWord?_eq_none (word : String) (keyword : IsKeyword word) : hasKeyword word l = false := by
  refine Bool.eq_false_iff.2 fun found => ?_
  obtain ⟨x, hx, -⟩ := (hasKeyword_iff keyword).1 found
  rw [h] at hx
  cases hx

theorem not_head_of_signWord?_eq_none :
    isDescriptionStart l = false ∧ isMetadata l = false ∧ isBlockStart l = false ∧ isBlockEnd l = false := by
  have none_of := hasKeyword_of_signWord?_eq_none h
  have not_start : isDescriptionStart l = false := by simp [isDescriptionStart, none_of "description" (by decide)]
  refine ⟨not_start, ?_, ?_, none_of "end" (by decide)⟩
  · simp [isMetadata, none_of "modname" (by decide), none_of "icon" (by decide), none_of "version" (by decide),
      none_of "domversion" (by decide), none_of "description" (by decide)]
  · simp [isBlockStart, none_of "newspell" (by decide), none_of "selectspell" (by decide)]

theorem idToken?_of_signWord?_eq_none (inBlock : Bool) : idToken? inBlock l = .ok none := by
  cases read : IdCommand.read? l with
  | none => simp [idToken?, read]
  | some p =>
    have word := signWord?_of_read? read
    rw [h] at word
    cases word

theorem effect?_of_signWord?_eq_none : effect? l = .ok none :=
  effect?_of_not_hasKeyword (hasKeyword_of_signWord?_eq_none h "effect" (by decide))

end NoSign

end ModWeave.Line
