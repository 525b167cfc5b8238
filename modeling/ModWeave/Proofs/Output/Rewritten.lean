import Mathlib.Data.List.Basic
import ModWeave.Proofs.Line.Exchange
import ModWeave.Proofs.Output.Lockstep

/-!
# What becomes of each line

Whatever can be read can be written, and the writer changes exactly the ids that the reader records
(`chunks_of_read`).  Line by line the body holds nothing for a line that the reader passes over; for a line with an
id that gets a new number a comment and the line with that literal exchanged; and every other line as it is.
-/

namespace ModWeave.Output

open Text Line Definition

/-- On its way through the lines of a mod the reader passes over line number `i`. -/
def IsSkipped (lines : List Line) (i : Nat) : Prop :=
  ∃ l rs st, lines[i]? = some l ∧ Run ScanState.initial 0 (lines.take i) rs st ∧
    (st.absorb i (clean l)).isSome = true

/-- The chunk of a line on which an occurrence gets a new number: the comment about the change, and the line with the
literal of the id, which is read on the cleaned line, exchanged. -/
def Rewritten (l : Line) (o : Occurrence) (n : Int) (chunk : List Line) : Prop :=
  ∃ p command out, IdCommand.read? (clean l) = some p ∧ command? true p.word = some command ∧
    command.kind = o.id.kind ∧ command.role = o.role ∧ command.word = o.word ∧
    Decimal.read p.argument.literal = .ok (if command.negated then -o.id.number else o.id.number) ∧
    Exchanged p l (Decimal.write (if command.negated then n.natAbs else n)) out ∧ chunk = [comment o.id n, out]

private theorem isSkipped_iff {lines : List Line} {i : Nat} {l : Line} {rs : List LineResult} {st : ScanState}
    (hl : lines[i]? = some l) (front : Run ScanState.initial 0 (lines.take i) rs st) :
    IsSkipped lines i ↔ (st.absorb i (clean l)).isSome = true := by
  constructor
  · rintro ⟨l', rs', st', hl', front', skipped⟩
    obtain rfl : l = l' := Option.some.inj (hl.symm.trans hl')
    obtain ⟨-, rfl⟩ := front.unique front'
    exact skipped
  · intro skipped
    exact ⟨l, rs, st, hl, front, skipped⟩

/-- An entry that keeps the number of an id is no change. -/
private theorem change?_eq_some_iff {table : RemapTable} {id : EntityId} {n : Int} :
    table.change? id = some n ↔ OrderedMap.get? table id = some n ∧ n ≠ id.number := by
  simp [RemapTable.change?, Option.filter_eq_some_iff]

/-- A token that gets a new number is written as a comment and the line with its literal exchanged. -/
private theorem rewritten_renumber {table : RemapTable} {l : Line} {t : IdToken} {index : Nat} {n : Int}
    (token : idToken? true (clean l) = .ok (some t)) (change : table.change? t.id = some n) :
    Rewritten l (occurrence index t) n (renumber table l (some t)).lines := by
  obtain ⟨p, old, read, command, value, eq⟩ := idToken?_eq_some_iff.1 token
  have number_eq : t.number = if t.command.negated then -old else old := by rw [eq]
  have exchanged := exchanged_replaceId (t := t) read (by rw [eq]) (by rw [eq]) n
  refine ⟨p, t.command, _, read, command, rfl, rfl, rfl, ?_, exchanged, ?_⟩
  · rw [value]
    show _ = Except.ok (if t.command.negated then -t.number else t.number)
    cases negated : t.command.negated <;> simp [number_eq, negated]
  · simp only [renumber, change]
    rfl

section Follow

variable {mod : String} {table : RemapTable} {st : ScanState} {index : Nat} {l : Line} {r : LineResult}

/-- Where the reader records an id with a new number, the line is rewritten. -/
private theorem rewritten_follow {o : Occurrence} {n : Int} (step : readLine st index l = .ok r)
    (here : r.occurrence = some o) (change : table.change? o.id = some n) :
    Rewritten l o n (follow mod table index l (st.absorb index (clean l)).isSome r).lines := by
  obtain ⟨content, t, rfl, counts⟩ := counts_of_readLine step here
  rw [lines_follow_of_counts content here counts]
  exact rewritten_renumber counts.idToken?_eq change

/-- Where the reader records no id with a new number, a line that is content stays. -/
private theorem lines_follow_of_unchanged (step : readLine st index l = .ok r) (content : st.absorb index (clean l) = none)
    (unchanged : ∀ o, r.occurrence = some o → table.change? o.id = none) :
    (follow mod table index l (st.absorb index (clean l)).isSome r).lines = [l] := by
  cases here : r.occurrence with
  | none => exact lines_follow_of_none content here
  | some o =>
    have no_change := unchanged o here
    obtain ⟨-, t, rfl, counts⟩ := counts_of_readLine step here
    have kept : renumber table l (some t) = ⟨l, none⟩ := by
      simp only [renumber]
      rw [show table.change? t.id = none from no_change]
    rw [lines_follow_of_counts content here counts, kept]
    rfl

end Follow

/-- Any mod that can be read can be written with any table of numbers that have few enough digits, and its body, before
repeated block ends are dropped, has for each line the empty chunk if the reader passes over the line, the rewritten line
if the reader records an occurrence there whose number changes, and the line itself otherwise.  Of other tables nothing is
said, since `renumber` does not refuse their numbers as the program does. -/
theorem chunks_of_read {m : ModFile} {stop : Signal} {d : Definition} (read : Definition.read m stop = .ok d)
    (table : RemapTable) :
    (body m.name table m.lines).fault = none ∧
    (mod m.name table m.lines).lines = .ok (collapseEnds (body m.name table m.lines).chunks.flatten) ∧
    (body m.name table m.lines).chunks.length = m.lines.length ∧
    ∀ i l, m.lines[i]? = some l → ∃ chunk, (body m.name table m.lines).chunks[i]? = some chunk ∧
      (IsSkipped m.lines i → chunk = []) ∧
      (∀ o ∈ d.occurrences, o.line = i → ∀ n, OrderedMap.get? table o.id = some n → n ≠ o.id.number →
        Rewritten l o n chunk) ∧
      (¬ IsSkipped m.lines i →
        (∀ o ∈ d.occurrences, o.line = i → ∀ n, OrderedMap.get? table o.id = some n → n = o.id.number) →
        chunk = [l]) := by
  obtain ⟨rs, last, run, occurrences_eq⟩ := run_of_read read
  have no_fault : (body m.name table m.lines).fault = none := fault_bodyFrom_of_run run
  refine ⟨no_fault, by rw [mod, no_fault]; rfl, length_chunks_of_run run, fun i l hl => ?_⟩
  obtain ⟨st, r, front, step, at_i⟩ := run.at hl
  refine ⟨_, getElem?_chunks_bodyFrom hl front step, ?_, ?_, ?_⟩
  all_goals rw [Nat.zero_add] at step ⊢
  · rw [isSkipped_iff hl front]
    intro skipped
    exact lines_follow_of_absorb skipped
  · intro o ho line_eq n entry ne
    have here : r.occurrence = some o := (mem_occurrencesOf run at_i).1 ⟨occurrences_eq ▸ ho, by omega⟩
    exact rewritten_follow step here (change?_eq_some_iff.2 ⟨entry, ne⟩)
  · rw [isSkipped_iff hl front, Bool.not_eq_true, Option.isSome_eq_false_iff, Option.isNone_iff_eq_none]
    intro content unchanged
    refine lines_follow_of_unchanged step content fun o here => Option.eq_none_iff_forall_ne_some.2 fun n change => ?_
    obtain ⟨ho, line_eq⟩ := (mem_occurrencesOf run at_i).2 here
    obtain ⟨entry, ne⟩ := change?_eq_some_iff.1 change
    exact ne (unchanged o (occurrences_eq ▸ ho) (by omega) n entry)

/-- A mod whose spell block holds a description. -/
def summoner : ModFile :=
  ModFile.named "summoner" (joinLines (["#newmonster 7000", "#newspell", "#effect 1", "#description \"calls the",
    "#damage 7000\"", "\t#damage 7000 -- me", "#newspell", "#end"].map String.toList))

/-- What the mod declares and refers to. -/
def summonerDefinition : Definition where
  mod := summoner
  occurrences := [⟨⟨.monster, 7000⟩, .declaration, 0, "newmonster".toList⟩,
    ⟨⟨.monster, 7000⟩, .reference, 5, "damage".toList⟩]
  blocks := [⟨1, none⟩, ⟨6, some 7⟩]

theorem read_summoner : Definition.read summoner Signal.never = .ok summonerDefinition := by decide +kernel

/-- The damage behind the description is rewritten. -/
theorem chunks_summoner :
    Definition.read summoner Signal.never = .ok summonerDefinition ∧
      ∃ chunk, (body "summoner" [(⟨.monster, 7000⟩, 7001)] summoner.lines).chunks[5]? = some chunk ∧
        Rewritten "\t#damage 7000 -- me".toList ⟨⟨.monster, 7000⟩, .reference, 5, "damage".toList⟩ 7001 chunk := by
  obtain ⟨-, -, -, written⟩ := chunks_of_read read_summoner [(⟨.monster, 7000⟩, 7001)]
  obtain ⟨chunk, at_line, -, rewritten, -⟩ := written 5 "\t#damage 7000 -- me".toList (by decide +kernel)
  exact ⟨read_summoner, chunk, at_line, rewritten _ (by decide) rfl 7001 (by decide) (by decide)⟩

end ModWeave.Output
