import ModWeave.Proofs.Definition.Run

/-!
# Where the reader stops

The reader of a mod stops at the first content line off which it takes a literal with too many digits
(`stops_iff`).  Unless somebody stops the work, reading a mod fails exactly if there is such a line
(`read_eq_error_iff`).  Literals are taken off the commands that carry an id in their place and, inside a block, off
the lines that name an effect.
-/

namespace ModWeave

open Text Line

/-! ### Literals with too many digits -/

/-- A literal that is refused because of its number of digits; a minus sign does not count. -/
def Overlong (s : Line) (e : Decimal.TooLong) : Prop :=
  ∃ digits, (∀ c ∈ digits, isDigit c = true) ∧ (s = digits ∨ s = '-' :: digits) ∧
    Decimal.maxDigits < digits.length ∧ e = ⟨digits.length⟩

namespace Line

variable {l s : Line} {e : Decimal.TooLong}

private theorem read_eq_error_iff_readDigits {digits : Line} (digit : ∀ c ∈ digits, isDigit c = true)
    (shape : s = digits ∨ s = '-' :: digits) :
    Decimal.read s = .error e ↔ Decimal.readDigits digits = .error e := by
  rcases shape with rfl | rfl
  · have no_sign : ∀ r, s ≠ '-' :: r := fun r sign => absurd (digit '-' (by simp [sign])) (by decide)
    rw [Decimal.read.eq_2 s no_sign, map_eq_error_iff]
  · rw [Decimal.read, map_eq_error_iff]

theorem read_eq_error_iff_overlong (literal : IsLiteral s) : Decimal.read s = .error e ↔ Overlong s e := by
  constructor
  · intro refused
    obtain ⟨digits, -, digit, shape⟩ := literal
    rw [read_eq_error_iff_readDigits digit shape, Decimal.readDigits_eq_error_iff] at refused
    exact ⟨digits, digit, shape, refused⟩
  · rintro ⟨digits, digit, shape, refused⟩
    exact (read_eq_error_iff_readDigits digit shape).2 (Decimal.readDigits_eq_error_iff.2 refused)

/-- Finding the id on a line fails exactly if a command that carries one has a literal with too many digits. -/
theorem idToken?_eq_error_iff {inBlock : Bool} :
    idToken? inBlock l = .error e ↔ ∃ p c, IdCommand.read? l = some p ∧ command? inBlock p.word = some c ∧
      Overlong p.argument.literal e := by
  unfold idToken?
  constructor
  · intro refused
    split at refused
    · cases refused
    · rename_i p read
      split at refused
      · cases refused
      · rename_i c command
        have literal := (IdCommand.read?_eq_some_iff.1 read).1.argument.literal
        exact ⟨p, c, read, command, (read_eq_error_iff_overlong literal).1 (map_eq_error_iff.1 refused)⟩
  · rintro ⟨p, c, read, command, overlong⟩
    have literal := (IdCommand.read?_eq_some_iff.1 read).1.argument.literal
    simp only [read, command, map_eq_error_iff]
    exact (read_eq_error_iff_overlong literal).2 overlong

/-- Finding the effect that a line names fails exactly if it is a literal with too many digits. -/
theorem effect?_eq_error_iff :
    effect? l = .error e ↔
      ∃ r a, afterKeyword? "effect" l = some r ∧ Argument.read? r = some a ∧ Overlong a.literal e := by
  unfold effect?
  constructor
  · intro refused
    split at refused
    · cases refused
    · rename_i a found
      obtain ⟨r, keyword, read⟩ := Option.bind_eq_some_iff.1 found
      have literal := (Argument.read?_eq_some_iff.1 read).1.literal
      exact ⟨r, a, keyword, read, (read_eq_error_iff_overlong literal).1 (map_eq_error_iff.1 refused)⟩
  · rintro ⟨r, a, keyword, read, overlong⟩
    have literal := (Argument.read?_eq_some_iff.1 read).1.literal
    simp only [keyword, Option.bind_some, read, map_eq_error_iff]
    exact (read_eq_error_iff_overlong literal).2 overlong

end Line

namespace Definition

/-! ### One line -/

/-- The literals that the reader takes off a content line, in the state in which it gets there. -/
inductive Takes (st : ScanState) (l : Line) : Line → Prop
  /-- Inside a block, unless the line opens another one, the commands of the block carry ids too. -/
  | id {p : IdCommand} {c : Command} (read : IdCommand.read? l = some p)
      (command : command? (st.block.isSome && !isBlockStart l) p.word = some c) : Takes st l p.argument.literal
  | effect {r : Line} {a : Argument} (inside : st.block.isSome = true) (keyword : afterKeyword? "effect" l = some r)
      (read : Argument.read? r = some a) : Takes st l a.literal

variable {st : ScanState} {index : Nat} {l : Line} {e : Decimal.TooLong}

theorem takes_overlong_iff : (∃ s, Takes st l s ∧ Overlong s e) ↔
    idToken? (st.block.isSome && !isBlockStart l) l = .error e ∨ (st.block.isSome = true ∧ effect? l = .error e) := by
  rw [idToken?_eq_error_iff, effect?_eq_error_iff]
  constructor
  · rintro ⟨_, ⟨read, command⟩ | ⟨inside, keyword, read⟩, overlong⟩
    · exact Or.inl ⟨_, _, read, command, overlong⟩
    · exact Or.inr ⟨inside, _, _, keyword, read, overlong⟩
  · rintro (⟨p, c, read, command, overlong⟩ | ⟨inside, r, a, keyword, read, overlong⟩)
    · exact ⟨_, .id read command, overlong⟩
    · exact ⟨_, .effect inside keyword read, overlong⟩

private theorem idToken?_trim_eq_error_iff {inBlock : Bool} :
    idToken? inBlock (trim l) = .error e ↔ idToken? inBlock l = .error e := by
  rw [← map_eq_error_iff (f := Option.isSome), idToken?_trim, map_eq_error_iff]

theorem classify_eq_error_iff : classify l = .error e ↔ isBlockStart l = false ∧ idToken? false l = .error e := by
  constructor
  · intro refused
    cases opens : isBlockStart l with
    | true =>
      rw [classify_of_isBlockStart opens] at refused
      cases refused
    | false =>
      refine ⟨rfl, ?_⟩
      unfold classify classifyTrimmed at refused
      repeat' split at refused
      -- only the last test reads a literal
      any_goals cases refused
      exact idToken?_trim_eq_error_iff.1 (map_eq_error_iff.1 refused)
  · rintro ⟨not_opens, refused⟩
    obtain ⟨p, c, read, command, -⟩ := idToken?_eq_error_iff.1 refused
    obtain ⟨not_start, not_metadata, not_closes⟩ := not_head_of_command? read command
    have word : signWord? (trim l) = some p.word := (signWord?_trim l).trans (signWord?_of_read? read)
    rw [← isBlockStart_trim] at not_opens
    rw [← isBlockEnd_trim] at not_closes
    simp [classify, classifyTrimmed, ne_nil_of_signWord? word, isComment_of_signWord? word, not_start, not_metadata,
      not_opens, not_closes, map_eq_error_iff, idToken?_trim_eq_error_iff, refused]

/-- Outside blocks the reader takes only the id off a line that opens none. -/
private theorem readContent_outside (block : st.block = none) (not_opens : isBlockStart l = false) :
    readContent st index l = .error e ↔ idToken? false l = .error e := by
  have classified : ∀ e, classify l = .error e ↔ idToken? false l = .error e := fun e => by
    simp [classify_eq_error_iff, not_opens]
  cases kind : classify l with
  | error e' =>
    have refused : readContent st index l = .error e' := by
      simp only [readContent, kind, bind, Except.bind]
    rw [← classified, kind, refused]
    simp
  | ok k =>
    cases token : idToken? false l with
    | error e' =>
      rw [(classified e').2 token] at kind
      cases kind
    | ok t => cases k <;> simp [readContent, kind, block, token, bind, Except.bind, pure, Except.pure]

/-- Inside a block the reader takes an effect or an id off a line that neither opens nor closes a block. -/
private theorem readContent_within {b : OpenBlock} (block : st.block = some b)
    (not_start : isDescriptionStart (trim l) = false) (not_metadata : isMetadata (trim l) = false)
    (not_opens : isBlockStart l = false) (not_closes : isBlockEnd l = false) :
    readContent st index l = .error e ↔ idToken? true l = .error e ∨ effect? l = .error e := by
  rw [readContent_inside block not_start not_metadata not_opens not_closes, block]
  cases effect : effect? l with
  | error e' =>
    -- a line that names an effect carries no id
    have no_token : idToken? true l ≠ .error e := fun refused => by
      obtain ⟨p, c, read, command, -⟩ := idToken?_eq_error_iff.1 refused
      rw [effect?_of_command? read command] at effect
      cases effect
    simp [BlockState.observe, effect, no_token, Except.map, bind, Except.bind]
  | ok n =>
    cases token : idToken? true l <;>
      simp [BlockState.observe, BlockState.subCommand?, effect, token, Except.map, bind, Except.bind, pure, Except.pure]

/-- The reader fails on a content line exactly if it takes a literal with too many digits off it. -/
theorem readContent_eq_error_iff (not_start : isDescriptionStart (trim l) = false)
    (not_metadata : isMetadata (trim l) = false) :
    readContent st index l = .error e ↔ ∃ s, Takes st l s ∧ Overlong s e := by
  rw [takes_overlong_iff]
  cases opens : isBlockStart l with
  | true =>
    have no_effect : effect? l = .ok none := by
      rcases Bool.or_eq_true_iff.1 opens with keyword | keyword
      · exact effect?_of_hasKeyword (by decide) (by decide) keyword
      · exact effect?_of_hasKeyword (by decide) (by decide) keyword
    rw [readContent_of_classify_blockStart (classify_of_isBlockStart opens), map_eq_error_iff]
    simp [no_effect]
  | false =>
    cases block : st.block with
    | none => simpa using readContent_outside block opens
    | some b =>
      cases closes : isBlockEnd l with
      | true =>
        have no_effect : effect? l = .ok none := effect?_of_hasKeyword (by decide) (by decide) closes
        have no_token : idToken? true l ≠ .error e := fun refused => by
          obtain ⟨p, c, read, command, -⟩ := idToken?_eq_error_iff.1 refused
          rw [(not_head_of_command? read command).2.2] at closes
          cases closes
        simp [readContent_of_isBlockEnd block closes, no_effect, no_token]
      | false => simpa using readContent_within block not_start not_metadata opens closes

theorem readLine_eq_error_iff : readLine st index l = .error e ↔
    st.absorb index (clean l) = none ∧ ∃ s, Takes st (clean l) s ∧ Overlong s e := by
  unfold readLine
  cases content : st.absorb index (clean l) with
  | some next => simp
  | none =>
    obtain ⟨-, -, not_start, not_metadata⟩ := ScanState.absorb_eq_none_iff.1 content
    simpa using readContent_eq_error_iff not_start not_metadata

/-! ### All lines -/

/-- The reader, in state `st` in front of line number `index`, goes through the given lines as far as line number `i`,
which is `l`, and cannot read that one because of `e`. -/
inductive Stops : ScanState → Nat → List Line → Nat → Line → Decimal.TooLong → Prop
  | here {st : ScanState} {index : Nat} {l : Line} {lines : List Line} {e : Decimal.TooLong}
      (refused : readLine st index l = .error e) : Stops st index (l :: lines) index l e
  | later {st : ScanState} {index i : Nat} {l₀ l : Line} {lines : List Line} {r : LineResult} {e : Decimal.TooLong}
      (step : readLine st index l₀ = .ok r) (rest : Stops r.state (index + 1) lines i l e) :
      Stops st index (l₀ :: lines) i l e

variable {i : Nat} {l₀ : Line} {lines : List Line}

theorem not_stops_nil : ¬ Stops st index [] i l e := nofun

theorem stops_cons_of_error {e₀ : Decimal.TooLong} (refused : readLine st index l₀ = .error e₀) :
    Stops st index (l₀ :: lines) i l e ↔ i = index ∧ l = l₀ ∧ e = e₀ := by
  constructor
  · rintro (refused' | ⟨step, -⟩)
    · exact ⟨rfl, rfl, Except.error.inj (refused'.symm.trans refused)⟩
    · rw [refused] at step
      cases step
  · rintro ⟨rfl, rfl, rfl⟩
    exact .here refused

theorem stops_cons_of_ok {r : LineResult} (step : readLine st index l₀ = .ok r) :
    Stops st index (l₀ :: lines) i l e ↔ Stops r.state (index + 1) lines i l e := by
  constructor
  · rintro (refused | ⟨step', rest⟩)
    · rw [step] at refused
      cases refused
    · obtain rfl := Except.ok.inj (step.symm.trans step')
      exact rest
  · exact .later step

theorem Stops.exists_run (h : Stops st index lines i l e) :
    ∃ k rs mid, i = index + k ∧ lines[k]? = some l ∧ Run st index (lines.take k) rs mid ∧ readLine mid i l = .error e := by
  induction h with
  | here refused => exact ⟨0, [], _, rfl, rfl, .nil _ _, refused⟩
  | later step rest ih =>
    obtain ⟨k, rs, mid, rfl, at_k, run, refused⟩ := ih
    exact ⟨k + 1, _, mid, by omega, at_k, .cons step run, refused⟩

theorem Run.stops {rs : List LineResult} {mid : ScanState} (run : Run st index lines rs mid) (rest : List Line)
    (refused : readLine mid (index + lines.length) l = .error e) :
    Stops st index (lines ++ l :: rest) (index + lines.length) l e := by
  induction run with
  | nil => exact .here refused
  | cons step run ih =>
    rw [List.length_cons, ← Nat.add_assoc, Nat.add_right_comm] at refused ⊢
    exact .later step (ih refused)

/-- The reader stops at a line exactly if it makes a run through the lines in front, and then takes a literal with too
many digits off the line, which is content. -/
theorem stops_iff : Stops st index lines (index + i) l e ↔
    lines[i]? = some l ∧ ∃ rs mid, Run st index (lines.take i) rs mid ∧ mid.absorb (index + i) (clean l) = none ∧
      ∃ s, Takes mid (clean l) s ∧ Overlong s e := by
  simp only [← readLine_eq_error_iff]
  constructor
  · intro stops
    obtain ⟨k, rs, mid, same, at_k, run, refused⟩ := stops.exists_run
    obtain rfl : i = k := by omega
    exact ⟨at_k, rs, mid, run, refused⟩
  · rintro ⟨at_i, rs, mid, run, refused⟩
    obtain ⟨cut, length_eq⟩ := cut_at at_i
    have stops := run.stops (lines.drop (i + 1)) (by rwa [length_eq])
    rwa [length_eq, ← cut] at stops

/-- A mod cannot be read exactly if the reader stops at some line. -/
theorem readFrom_eq_error_iff {mod : String} {err : ReadFault} :
    readFrom mod Signal.never st index lines = .error err ↔ ∃ i l e, err = .tooLong e ∧ Stops st index lines i l e := by
  induction lines generalizing st index with
  | nil => simp [readFrom, not_stops_nil]
  | cons l₀ lines ih =>
    have unstopped : ¬ isStopped Signal.never index = true := by simp [isStopped, Signal.never]
    rw [readFrom, if_neg unstopped]
    cases step : readLine st index l₀ with
    | error e =>
      simp only [stops_cons_of_error step]
      constructor
      · rintro ⟨⟩
        exact ⟨index, l₀, e, rfl, rfl, rfl, rfl⟩
      · rintro ⟨_, _, _, rfl, rfl, rfl, rfl⟩
        rfl
    | ok r => simpa only [stops_cons_of_ok step, map_eq_error_iff] using ih

theorem read_eq_error_iff {m : ModFile} {err : ReadFault} :
    Definition.read m Signal.never = .error err ↔
      ∃ i l e, err = .tooLong e ∧ Stops ScanState.initial 0 m.lines i l e := by
  rw [Definition.read, map_eq_error_iff, readFrom_eq_error_iff]

end Definition

end ModWeave
