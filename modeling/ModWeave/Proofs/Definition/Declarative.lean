import ModWeave.Proofs.Definition.Places
import ModWeave.Proofs.Definition.Stops

/-!
# Reading a mod as a whole

The reader of a mod goes through its lines one after the other and remembers a state between them.  `read_declarative`
says what it finds without any state: an id is found on a line of content exactly if the line opens a block, or stands
outside all blocks and is of the kind of lines with an id, or stands inside a block and carries one of the commands that
count there (`Names`).

The link is `Situation`: the state in front of a line tells which description and which block are open there, and which
effect the block has got so far.  Every line that is read keeps it (`Situation.readLine`), so it holds in front of every
line of a run (`Situation.run`).
-/

namespace ModWeave.Definition

open Text Line

/-! ### What a line does to the state -/

/-- The description that is open behind a line. -/
def nextDescription (description : Option Nat) (index : Nat) (l : Line) : Option Nat :=
  match description with
  | some s => if hasQuote l then none else some s
  | none => if isDescriptionStart l then some index else none

/-- What a line of content can do to the block. -/
inductive NextBlock (block : BlockState) (index : Nat) (l : Line) : BlockState → Prop
  | opens (opens : isBlockStart l = true) : NextBlock block index l (BlockState.opened index)
  | closes (not_opens : isBlockStart l = false) (closes : isBlockEnd l = true) : NextBlock block index l none
  | outside (not_opens : isBlockStart l = false) (not_closes : isBlockEnd l = false) (outside : block = none) :
      NextBlock block index l none
  | inside {b : OpenBlock} {e : Option Int} (not_opens : isBlockStart l = false) (not_closes : isBlockEnd l = false)
      (inside : block = some b) (effect : effect? l = .ok e) :
      NextBlock block index l (some { b with effect := e <|> b.effect })

variable {st next : ScanState} {index : Nat} {l : Line} {r : LineResult}

theorem description_of_absorb (h : st.absorb index l = some next) :
    next.description = nextDescription st.description index l := by
  unfold ScanState.absorb at h
  unfold nextDescription hasQuote
  simp only [quote_mem_trim_iff, isDescriptionStart_trim] at h
  cases description : st.description with
  | some s =>
    simp only [description, Option.isSome_some, if_true, Option.some.injEq] at h
    subst h
    by_cases quote : '"' ∈ l <;> simp [quote, description]
  | none =>
    simp only [description, Option.isSome_none, Bool.false_eq_true, if_false] at h
    split at h
    · rename_i blank
      have not_start : isDescriptionStart l = false := by
        rw [← isDescriptionStart_trim, blank.2]
        rfl
      cases h
      simp [not_start, description]
    · split at h
      · rename_i start
        cases h
        simp [start]
      · rename_i not_start
        split at h
        · cases h
          simp [not_start, description]
        · cases h

/-- Outside blocks a line of content that opens none leaves the state as it is, and no region ends there. -/
theorem of_readContent_outside (outside : st.block = none) (not_opens : isBlockStart l = false)
    (h : readContent st index l = .ok r) : r.state = st ∧ r.block = none := by
  cases kind : classify l with
  | error e =>
    simp only [readContent, kind, bind, Except.bind] at h
    cases h
  | ok k =>
    simp only [readContent, kind, outside, bind, Except.bind, pure, Except.pure] at h
    cases k with
    | blockStart =>
      rw [classify_eq_blockStart_iff.1 kind] at not_opens
      cases not_opens
    | entity =>
      cases token : idToken? false l with
      | error e => simp [token] at h
      | ok t =>
        simp only [token, Except.ok.injEq] at h
        rw [← h]
        exact ⟨rfl, rfl⟩
    | _ =>
      cases h
      exact ⟨rfl, rfl⟩

/-- Inside a block a line of content that neither opens nor closes one gives the block the effect that it names, and no
region ends there. -/
theorem of_readContent_inside {b : OpenBlock} (inside : st.block = some b)
    (not_start : isDescriptionStart (trim l) = false) (not_metadata : isMetadata (trim l) = false)
    (not_opens : isBlockStart l = false) (not_closes : isBlockEnd l = false) (h : readContent st index l = .ok r) :
    ∃ e, effect? l = .ok e ∧ r.state = st.withBlock (some { b with effect := e <|> b.effect }) ∧ r.block = none := by
  rw [readContent_inside inside not_start not_metadata not_opens not_closes, inside] at h
  cases effect : effect? l with
  | error e => simp [BlockState.observe, effect, Except.map, bind, Except.bind] at h
  | ok e =>
    cases token : idToken? true l with
    | error e' =>
      simp [BlockState.observe, BlockState.subCommand?, effect, token, Except.map, bind, Except.bind] at h
    | ok t =>
      simp only [BlockState.observe, BlockState.subCommand?, effect, token, Except.map, bind, Except.bind, pure,
        Except.pure, Except.ok.injEq] at h
      rw [← h]
      exact ⟨e, rfl, rfl, rfl⟩

theorem nextBlock_of_readContent (not_start : isDescriptionStart (trim l) = false)
    (not_metadata : isMetadata (trim l) = false) (h : readContent st index l = .ok r) :
    r.state.description = st.description ∧ NextBlock st.block index l r.state.block := by
  cases opens : isBlockStart l with
  | true =>
    rw [readContent_of_classify_blockStart (classify_of_isBlockStart opens)] at h
    obtain ⟨t, -, rfl⟩ := map_eq_ok_iff.1 h
    exact ⟨rfl, .opens opens⟩
  | false =>
    cases block : st.block with
    | none =>
      rw [(of_readContent_outside block opens h).1, block]
      cases closes : isBlockEnd l with
      | true => exact ⟨rfl, .closes opens closes⟩
      | false => exact ⟨rfl, .outside opens closes rfl⟩
    | some b =>
      cases closes : isBlockEnd l with
      | true =>
        rw [readContent_of_isBlockEnd block closes] at h
        cases h
        exact ⟨rfl, .closes opens closes⟩
      | false =>
        obtain ⟨e, effect, state_eq, -⟩ := of_readContent_inside block not_start not_metadata opens closes h
        rw [state_eq]
        exact ⟨rfl, .inside opens closes rfl effect⟩

/-! ### The state in front of a line -/

variable {ls : List Line} {i s : Nat}

/-- Some lines are those of a mod from line number `index` on; `ls` are the cleaned lines of the mod. -/
def StandAt (ls : List Line) (index : Nat) (lines : List Line) : Prop :=
  ∀ k l, lines[k]? = some l → ls[index + k]? = some (clean l)

theorem StandAt.head {raw : Line} {lines : List Line} (h : StandAt ls index (raw :: lines)) :
    ls[index]? = some (clean raw) := h 0 raw rfl

theorem StandAt.tail {raw : Line} {lines : List Line} (h : StandAt ls index (raw :: lines)) :
    StandAt ls (index + 1) lines := by
  intro k l hl
  rw [Nat.add_assoc, Nat.add_comm 1 k]
  exact h (k + 1) l hl

theorem standAt_zero (lines : List Line) : StandAt (lines.map clean) 0 lines := by
  intro k l hl
  rw [Nat.zero_add, List.getElem?_map, hl, Option.map_some]

theorem StandAt.take {lines : List Line} (h : StandAt ls index lines) (n : Nat) : StandAt ls index (lines.take n) := by
  intro k l hl
  rw [List.getElem?_take] at hl
  split at hl
  · exact h k l hl
  · cases hl

/-- The state in front of line number `i` tells what is open there. -/
structure Situation (ls : List Line) (i : Nat) (st : ScanState) : Prop where
  description : ∀ s, st.description = some s ↔ OpenDescription ls i s
  block : ∀ s, (∃ b, st.block = some b ∧ b.start = s) ↔ InBlock ls s i
  effect : ∀ b, st.block = some b → ∀ e, b.effect = some e ↔ LastEffect ls b.start i e

namespace Situation

theorem initial (ls : List Line) : Situation ls 0 ScanState.initial where
  description s := by simp [ScanState.initial, not_openDescription_zero]
  block s := by simp [ScanState.initial, not_inBlock_zero]
  effect := nofun

/-- A line is content for the reader exactly if it is. -/
theorem absorb_eq_none_iff (h : Situation ls i st) (line : ls[i]? = some l) : st.absorb i l = none ↔ Remains ls i := by
  rw [ScanState.absorb_eq_none_iff, isDescriptionStart_trim, isMetadata_trim]
  have lt : i < ls.length := (List.getElem?_eq_some_iff.1 line).1
  -- a line belongs to a description if one is open in front of it or if it begins one
  have closed_iff : st.description = none ↔ ∀ s, ¬ OpenDescription ls i s := by
    simp only [← h.description, Option.eq_none_iff_forall_ne_some, ne_eq]
  have in_iff : InDescription ls i ↔ st.description ≠ none ∨ isDescriptionStart l = true := by
    rw [inDescription_iff, beginsDescription_iff, shows_iff line, Ne, closed_iff]
    by_cases closed : ∀ s, ¬ OpenDescription ls i s
    · simp [closed]
    · simp only [Classical.not_forall, Classical.not_not] at closed
      simp [closed]
  constructor
  · rintro ⟨closed, not_blank, not_start, not_metadata⟩
    refine ⟨lt, by simp [in_iff, closed, not_start], by simp [shows_iff line, not_metadata], ?_⟩
    rw [shows_iff line]
    simpa using not_blank
  · rintro ⟨-, not_in, not_metadata, not_blank⟩
    rw [in_iff, not_or, Ne, Classical.not_not, Bool.not_eq_true] at not_in
    rw [shows_iff line, Bool.not_eq_true] at not_metadata
    rw [shows_iff line] at not_blank
    exact ⟨not_in.1, by simpa using not_blank, not_in.2, not_metadata⟩

theorem description_succ (h : Situation ls i st) (line : ls[i]? = some l) (s : Nat) :
    nextDescription st.description i l = some s ↔ OpenDescription ls (i + 1) s := by
  rw [openDescription_succ_iff, beginsDescription_iff, shows_iff line, shows_iff line]
  simp only [← h.description]
  unfold nextDescription
  cases st.description with
  | some s' => cases hasQuote l <;> simp
  | none => cases isDescriptionStart l <;> simp [@eq_comm _ i s]

theorem effect_succ (h : Situation ls i st) (no_effect : ∀ e, ¬ GivesEffect ls i e) {b : OpenBlock}
    (block : st.block = some b) (e : Int) : b.effect = some e ↔ LastEffect ls b.start (i + 1) e := by
  have lt : b.start < i := ((h.block b.start).1 ⟨b, block, rfl⟩).1
  simp [h.effect b block, lastEffect_succ_iff lt, no_effect]

theorem of_absorb (h : Situation ls i st) (line : ls[i]? = some l) (absorbed : st.absorb i l = some next) :
    Situation ls (i + 1) next := by
  have dropped : ¬ Remains ls i := fun remains => by
    rw [(h.absorb_eq_none_iff line).2 remains] at absorbed
    cases absorbed
  have not_opens : ¬ OpensBlock ls i := fun opens => dropped opens.1
  have not_closes : ¬ ClosesBlock ls i := fun closes => dropped closes.1
  have block_eq := ScanState.block_of_absorb absorbed
  refine ⟨fun s => ?_, fun s => ?_, fun b block e => ?_⟩
  · rw [description_of_absorb absorbed, h.description_succ line]
  · simp [block_eq, h.block, inBlock_succ_iff, not_opens, not_closes]
  · exact h.effect_succ (fun e gives => dropped gives.1) (block_eq ▸ block) e

theorem block_succ (h : Situation ls i st) (line : ls[i]? = some l) (remains : Remains ls i) {block : BlockState}
    (next : NextBlock st.block i l block) :
    (∀ s, (∃ b, block = some b ∧ b.start = s) ↔ InBlock ls s (i + 1)) ∧
      ∀ b, block = some b → ∀ e, b.effect = some e ↔ LastEffect ls b.start (i + 1) e := by
  have opens_iff : OpensBlock ls i ↔ isBlockStart l = true := by simp [OpensBlock, remains, shows_iff line]
  have closes_iff : ClosesBlock ls i ↔ isBlockEnd l = true := by simp [ClosesBlock, remains, shows_iff line]
  have gives_iff : ∀ e, GivesEffect ls i e ↔ effect? l = .ok (some e) := by simp [GivesEffect, remains, line]
  simp only [inBlock_succ_iff, opens_iff, closes_iff, ← h.block]
  cases next with
  | opens opens =>
    refine ⟨fun s => by simp [opens, BlockState.opened, @eq_comm _ i s], ?_⟩
    rintro _ ⟨⟩ e
    simp [not_lastEffect_succ]
  | closes not_opens closes => exact ⟨fun s => by simp [not_opens, closes], nofun⟩
  | outside not_opens not_closes outside => exact ⟨fun s => by simp [not_opens, outside], nofun⟩
  | @inside b effect not_opens not_closes inside found =>
    refine ⟨fun s => by simp [not_opens, not_closes, inside], ?_⟩
    rintro _ ⟨⟩ e
    have lt : b.start < i := ((h.block b.start).1 ⟨b, inside, rfl⟩).1
    simp only [lastEffect_succ_iff lt, gives_iff, found, ← h.effect b inside]
    cases effect <;> simp

theorem of_readContent (h : Situation ls i st) (line : ls[i]? = some l) (content : st.absorb i l = none)
    (step : readContent st i l = .ok r) : Situation ls (i + 1) r.state := by
  obtain ⟨closed, -, not_start, not_metadata⟩ := ScanState.absorb_eq_none_iff.1 content
  obtain ⟨description_eq, next⟩ := nextBlock_of_readContent not_start not_metadata step
  obtain ⟨block, effect⟩ := h.block_succ line ((h.absorb_eq_none_iff line).1 content) next
  refine ⟨fun s => ?_, block, effect⟩
  rw [isDescriptionStart_trim] at not_start
  rw [← h.description_succ line, description_eq, closed]
  simp [nextDescription, not_start]

theorem readLine {raw : Line} (h : Situation ls i st) (line : ls[i]? = some (clean raw))
    (step : readLine st i raw = .ok r) : Situation ls (i + 1) r.state := by
  unfold Definition.readLine at step
  split at step
  · rename_i next absorbed
    cases step
    exact h.of_absorb line absorbed
  · rename_i content
    exact h.of_readContent line content step

theorem run {lines : List Line} {rs : List LineResult} {last : ScanState} (h : Situation ls index st)
    (run : Run st index lines rs last) (stand : StandAt ls index lines) : Situation ls (index + lines.length) last := by
  induction run with
  | nil => exact h
  | cons step rest ih =>
    have reached := ih (h.readLine stand.head step) stand.tail
    rwa [Nat.add_assoc, Nat.add_comm 1] at reached

/-- In front of every line the state tells what is open there. -/
theorem of_run {lines : List Line} {rs : List LineResult} {mid : ScanState} {l : Line} (line : lines[i]? = some l)
    (run : Run ScanState.initial 0 (lines.take i) rs mid) : Situation (lines.map clean) i mid := by
  have reached := (initial (lines.map clean)).run run ((standAt_zero lines).take i)
  rwa [(cut_at line).2, Nat.zero_add] at reached

end Situation

/-! ### Ids and literals -/

/-- The commands that carry an id inside a block. -/
def blockCommands : List String := ["damage", "nextspell", "copyspell", "restricted"]

/-- The id that line number `i` declares or refers to. -/
inductive Names (ls : List Line) (i : Nat) (t : IdToken) : Prop
  | opening {l : Line} (line : ls[i]? = some l) (remains : Remains ls i) (opens : isBlockStart l = true)
      (token : idToken? false l = .ok (some t))
  | outside {l : Line} (line : ls[i]? = some l) (remains : Remains ls i) (outside : ∀ s, ¬ InBlock ls s i)
      (entity : classify l = .ok .entity) (token : idToken? false l = .ok (some t))
  /-- The number of a damage command is the id of a monster unless it is zero or the effect of the block is known not to
  summon. -/
  | inside {l : Line} {s : Nat} (line : ls[i]? = some l) (remains : Remains ls i) (inside : InBlock ls s i)
      (not_opens : isBlockStart l = false) (not_closes : isBlockEnd l = false) (token : idToken? true l = .ok (some t))
      (command : t.command.word ∈ blockCommands.map String.toList)
      (damage : t.command.word = "damage".toList →
        t.number ≠ 0 ∧ ∀ e, LastEffect ls s (i + 1) e → isSummoning e = true)

/-- The literals that are read on line number `i`: those of the commands that carry an id, which inside a block are more,
and inside a block those of effects. -/
inductive ReadsLiteral (ls : List Line) (i : Nat) : Line → Prop
  | id {l : Line} {p : IdCommand} {c : Command} {inBlock : Bool} (line : ls[i]? = some l) (remains : Remains ls i)
      (place : inBlock = true → isBlockStart l = false ∧ ∃ s, InBlock ls s i) (read : IdCommand.read? l = some p)
      (command : command? inBlock p.word = some c) : ReadsLiteral ls i p.argument.literal
  | effect {l r : Line} {a : Argument} {s : Nat} (line : ls[i]? = some l) (remains : Remains ls i)
      (inside : InBlock ls s i) (keyword : afterKeyword? "effect" l = some r) (read : Argument.read? r = some a) :
      ReadsLiteral ls i a.literal

variable {t : IdToken}

theorem counts_iff {b : OpenBlock} : BlockState.counts b t = true ↔
    t.command.word ∈ blockCommands.map String.toList ∧
      (t.command.word = "damage".toList → t.number ≠ 0 ∧ ∀ e, b.effect = some e → isSummoning e = true) := by
  have damage_iff : (t.command.word ≠ "damage".toList ∨ (t.number ≠ 0 ∧ b.effect.all isSummoning = true)) ↔
      (t.command.word = "damage".toList → t.number ≠ 0 ∧ ∀ e, b.effect = some e → isSummoning e = true) := by
    rw [Option.all_eq_true]
    exact Decidable.imp_iff_not_or.symm
  simp only [BlockState.counts, Bool.and_eq_true, Bool.or_eq_true, decide_eq_true_eq, ← damage_iff]
  rfl

namespace Situation

theorem block_eq_none_iff (h : Situation ls i st) : st.block = none ↔ ∀ s, ¬ InBlock ls s i := by
  simp [← h.block, Option.eq_none_iff_forall_ne_some]

/-- The reader counts an id exactly if the line names it. -/
theorem counts_iff_names (h : Situation ls i st) (line : ls[i]? = some l) (remains : Remains ls i) :
    Counts st l t ↔ Names ls i t := by
  -- a line with an id gives no effect, so that the last effect up to the line is the last one in front of it
  have no_effect : ∀ {inBlock}, idToken? inBlock l = .ok (some t) → ∀ e, ¬ GivesEffect ls i e := by
    rintro inBlock token e ⟨-, l', line', effect⟩
    obtain rfl := Option.some.inj (line.symm.trans line')
    obtain ⟨p, -, read, command, -, -⟩ := idToken?_eq_some_iff.1 token
    rw [effect?_of_command? read command] at effect
    cases effect
  constructor
  · rintro (⟨token, place⟩ | ⟨b, block, not_opens, token, counts⟩)
    · cases opens : isBlockStart l with
      | true => exact .opening line remains opens token
      | false =>
        have outside := h.block_eq_none_iff.1 (place.resolve_left (by simp [opens]))
        exact .outside line remains outside (classify_of_idToken? token opens) token
    · obtain ⟨-, -, not_closes⟩ := not_head_of_idToken? token
      obtain ⟨command, damage⟩ := counts_iff.1 counts
      simp only [h.effect_succ (no_effect token) block] at damage
      exact .inside line remains ((h.block _).1 ⟨b, block, rfl⟩) not_opens not_closes token command damage
  · intro names
    cases names with
    | opening line' _ opens token =>
      obtain rfl := Option.some.inj (line.symm.trans line')
      exact Or.inl ⟨token, Or.inl opens⟩
    | outside line' _ outside _ token =>
      obtain rfl := Option.some.inj (line.symm.trans line')
      exact Or.inl ⟨token, Or.inr (h.block_eq_none_iff.2 outside)⟩
    | inside line' _ inside not_opens _ token command damage =>
      obtain rfl := Option.some.inj (line.symm.trans line')
      obtain ⟨b, block, rfl⟩ := (h.block _).2 inside
      simp only [← h.effect_succ (no_effect token) block] at damage
      exact Or.inr ⟨b, block, not_opens, token, counts_iff.2 ⟨command, damage⟩⟩

/-- The literals that the reader takes off a line of content are those that are read on it. -/
theorem readsLiteral_of_takes {literal : Line} (h : Situation ls i st) (line : ls[i]? = some l)
    (remains : Remains ls i) (takes : Takes st l literal) : ReadsLiteral ls i literal := by
  cases takes with
  | id read command =>
    refine .id line remains (fun place => ?_) read command
    obtain ⟨inside, not_opens⟩ := Bool.and_eq_true_iff.1 place
    obtain ⟨b, block⟩ := Option.isSome_iff_exists.1 inside
    exact ⟨by simpa using not_opens, b.start, (h.block _).1 ⟨b, block, rfl⟩⟩
  | effect inside keyword read =>
    obtain ⟨b, block⟩ := Option.isSome_iff_exists.1 inside
    exact .effect line remains ((h.block _).1 ⟨b, block, rfl⟩) keyword read

end Situation

/-! ### All lines -/

theorem Names.remains (h : Names ls i t) : Remains ls i := by
  cases h with
  | opening _ remains => exact remains
  | outside _ remains => exact remains
  | inside _ remains => exact remains

theorem getElem?_map_clean {lines : List Line} (line : lines[i]? = some l) :
    (lines.map clean)[i]? = some (clean l) := by
  rw [List.getElem?_map, line, Option.map_some]

/-- In front of every line through which a run goes the state tells what is open there. -/
theorem Run.situation_at {lines : List Line} {rs : List LineResult} {last : ScanState}
    (run : Run ScanState.initial 0 lines rs last) (line : lines[i]? = some l) :
    ∃ mid r, Situation (lines.map clean) i mid ∧ readLine mid i l = .ok r ∧ rs[i]? = some r := by
  obtain ⟨mid, r, front, step, at_i⟩ := run.at line
  rw [Nat.zero_add] at step
  exact ⟨mid, r, Situation.of_run line front, step, at_i⟩

/-- A run finds an occurrence exactly if the line on which it stands names the id. -/
theorem mem_occurrencesOf_iff_names {lines : List Line} {rs : List LineResult} {last : ScanState} {o : Occurrence}
    (run : Run ScanState.initial 0 lines rs last) : o ∈ occurrencesOf rs ↔
      ∃ t, Names (lines.map clean) o.line t ∧ o = occurrence o.line t := by
  constructor
  · intro found
    obtain ⟨r, hr, ho⟩ := List.mem_flatMap.1 found
    obtain ⟨i, at_i⟩ := List.mem_iff_getElem?.1 hr
    have lt : i < lines.length := run.length_eq ▸ (List.getElem?_eq_some_iff.1 at_i).1
    have line := List.getElem?_eq_getElem lt
    obtain ⟨mid, r', situation, step, at_i'⟩ := run.situation_at line
    obtain rfl := Option.some.inj (at_i'.symm.trans at_i)
    obtain ⟨content, t, rfl, counts⟩ := counts_of_readLine step (Option.mem_toList.1 ho)
    have remains := (situation.absorb_eq_none_iff (getElem?_map_clean line)).1 content
    exact ⟨t, (situation.counts_iff_names (getElem?_map_clean line) remains).1 counts, rfl⟩
  · rintro ⟨t, names, o_eq⟩
    have lt : o.line < lines.length := by simpa using names.remains.lt
    have line := List.getElem?_eq_getElem lt
    obtain ⟨mid, r, situation, step, at_i⟩ := run.situation_at line
    have content := (situation.absorb_eq_none_iff (getElem?_map_clean line)).2 names.remains
    have counts := (situation.counts_iff_names (getElem?_map_clean line) names.remains).2 names
    obtain ⟨block, read⟩ := counts.readContent_eq o.line
    rw [readLine, content] at step
    obtain rfl := Except.ok.inj (read.symm.trans step)
    exact ((mem_occurrencesOf run at_i).2 (congrArg some o_eq.symm)).1

/-- If no literal that is read has too many digits, a mod can be read, and its occurrences are, in the order of the lines
and at most one for each, the ids that the lines name. -/
theorem read_declarative (m : ModFile)
    (short : ∀ i literal e, ReadsLiteral (m.lines.map clean) i literal → ¬ Overlong literal e) :
    ∃ d, Definition.read m Signal.never = .ok d ∧ d.occurrences.Pairwise (fun o o' => o.line < o'.line) ∧
      ∀ o, o ∈ d.occurrences ↔ ∃ t, Names (m.lines.map clean) o.line t ∧ o = occurrence o.line t := by
  cases read : Definition.read m Signal.never with
  | ok d =>
    obtain ⟨rs, last, run, occurrences_eq⟩ := run_of_read read
    refine ⟨d, rfl, ?_, fun o => ?_⟩
    · rw [occurrences_eq]
      exact run.pairwise_line.1
    · rw [occurrences_eq, mem_occurrencesOf_iff_names run]
  | error err =>
    obtain ⟨i, l, e, -, stops⟩ := read_eq_error_iff.1 read
    rw [← Nat.zero_add i] at stops
    obtain ⟨line, rs, mid, front, content, literal, takes, overlong⟩ := stops_iff.1 stops
    rw [Nat.zero_add] at content
    have situation := Situation.of_run line front
    have remains := (situation.absorb_eq_none_iff (getElem?_map_clean line)).1 content
    exact absurd overlong (short i literal e (situation.readsLiteral_of_takes (getElem?_map_clean line) remains takes))

/-! ### Short lines -/

theorem length_le_of_afterKeyword? {r : Line} (h : afterKeyword? "effect" l = some r) : r.length ≤ l.length := by
  unfold afterKeyword? at h
  split at h
  · rename_i rest trimmed
    obtain ⟨x, rfl, -⟩ := (dropWord?_eq_some_iff (show IsKeyword "effect" by decide)).1 h
    have trim_le : (trimLeft l).length ≤ l.length := (List.dropWhile_sublist _).length_le
    rw [trimmed, List.length_cons, List.length_append] at trim_le
    omega
  · cases h

theorem ReadsLiteral.exists_length_le {literal : Line} (h : ReadsLiteral ls i literal) :
    ∃ l ∈ ls, literal.length ≤ l.length := by
  cases h with
  | @id l p c inBlock line remains place read command =>
    refine ⟨l, List.mem_of_getElem? line, ?_⟩
    have length_eq := congrArg List.length (IdCommand.line_eq_of_read? read)
    simp only [List.length_append, List.length_cons] at length_eq
    omega
  | @effect l r a s line remains inside keyword read =>
    refine ⟨l, List.mem_of_getElem? line, ?_⟩
    have rest_le := length_le_of_afterKeyword? keyword
    have length_eq := congrArg List.length (Argument.line_eq_of_read? read)
    simp only [List.length_append] at length_eq
    omega

/-- On lines of no more characters than a literal may have digits no literal has too many. -/
theorem not_overlong_of_length_le (short : ∀ l ∈ ls, l.length ≤ Decimal.maxDigits) (i : Nat) (literal : Line)
    (e : Decimal.TooLong) (reads : ReadsLiteral ls i literal) : ¬ Overlong literal e := by
  rintro ⟨digits, -, shape, long, -⟩
  obtain ⟨l, hl, le⟩ := reads.exists_length_le
  have := short l hl
  rcases shape with rfl | rfl
  · omega
  · rw [List.length_cons] at le
    omega

/-- A mod with a description inside a block, a block inside a block, and an effect behind a damage. -/
def tangledMod : ModFile := ModFile.named "tangled" <|
  ["", "#newspell", "#description \"odd", "#damage 3500", "end\"", "#damage 3501", "#effect 2", "#damage 3502",
    "#newspell", "#damage 3503", "#end", "#newmonster 3504"].flatMap fun l => l.toList ++ ['\n']

theorem occurrences_tangledMod :
    (Definition.read tangledMod Signal.never).toOption.map (fun d => d.occurrences.map fun o => (o.line, o.id)) =
      some [(5, ⟨.monster, 3501⟩), (9, ⟨.monster, 3503⟩), (11, ⟨.monster, 3504⟩)] := by decide +kernel

/-- In the tangled mod a damage counts in front of the effect, and in the block that begins behind it, but neither in
the description nor between the effect and the next block. -/
theorem read_declarative_tangledMod :
    (∀ i literal e, ReadsLiteral (tangledMod.lines.map clean) i literal → ¬ Overlong literal e) ∧
      ∃ d, Definition.read tangledMod Signal.never = .ok d ∧
        d.occurrences.map (fun o => (o.line, o.id)) =
          [(5, ⟨.monster, 3501⟩), (9, ⟨.monster, 3503⟩), (11, ⟨.monster, 3504⟩)] ∧
        (∃ t, Names (tangledMod.lines.map clean) 9 t) ∧ ∀ i ∈ [3, 7], ∀ t, ¬ Names (tangledMod.lines.map clean) i t := by
  have short : ∀ i literal e, ReadsLiteral (tangledMod.lines.map clean) i literal → ¬ Overlong literal e :=
    not_overlong_of_length_le (by decide +kernel)
  obtain ⟨d, read, -, names_iff⟩ := read_declarative tangledMod short
  have listed := occurrences_tangledMod
  rw [read] at listed
  have found := Option.some.inj listed
  refine ⟨short, d, read, found, ?_, fun i hi t names => ?_⟩
  · have here : (9, ⟨.monster, 3503⟩) ∈ d.occurrences.map (fun o => (o.line, o.id)) := by simp [found]
    obtain ⟨o, ho, eq⟩ := List.mem_map.1 here
    obtain ⟨t, names, -⟩ := (names_iff o).1 ho
    exact ⟨t, (Prod.mk.inj eq).1 ▸ names⟩
  · have here : (i, t.id) ∈ d.occurrences.map (fun o => (o.line, o.id)) :=
      List.mem_map.2 ⟨_, (names_iff (occurrence i t)).2 ⟨t, names, rfl⟩, rfl⟩
    simp only [found, List.mem_cons, List.not_mem_nil, or_false, Prod.mk.injEq] at here hi
    omega

end ModWeave.Definition
