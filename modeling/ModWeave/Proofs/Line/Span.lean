import Mathlib.Data.List.Basic
import ModWeave.Proofs.Line.Exchange

/-!
# The span of a literal

A token gives its span in characters of the cleaned line.  On the line as it is written the span is the text from the
first to the last character of the literal, with the unreadable characters between them.  Replacing an id puts the new
literal in the place of this text and leaves everything in front of it and behind it (`replaceId_exchanges_span`), so
that on the cleaned line the span alone is exchanged, and the same command is read there with the span of the new
literal.
-/

namespace ModWeave.Line

open Text

/-- The parts of a line around an exchanged literal are, cleaned, what stands in front of the span of the literal on the
cleaned line, in it, and behind it. -/
theorem Exchanged.span {p : IdCommand} {l literal out : Line} (h : Exchanged p l literal out)
    (ne : p.argument.literal ≠ []) :
    ∃ before old after, l = before ++ old ++ after ∧ out = before ++ literal ++ after ∧
      clean before = (clean l).take p.start ∧ clean old = ((clean l).take p.stop).drop p.start ∧
      clean after = (clean l).drop p.stop ∧
      (∃ c ∈ old.head?, isUnreadable c = false) ∧ ∃ c ∈ old.getLast?, isUnreadable c = false := by
  obtain ⟨before, old, after, rfl, rfl, before_eq, old_eq, after_eq, head, last⟩ := h
  have front_length : (clean before).length = p.start := by rw [before_eq, p.length_front]
  have whole_length : (clean before ++ clean old).length = p.stop := by
    rw [before_eq, old_eq, p.length_front_literal]
  have old_ne : old ≠ [] := by
    rintro rfl
    exact ne old_eq.symm
  refine ⟨before, old, after, rfl, rfl, ?_, ?_, ?_, ?_, ?_⟩
  · rw [clean_append, clean_append, List.append_assoc, List.take_left' front_length]
  · rw [clean_append, clean_append, List.take_left' whole_length, List.drop_left' front_length]
  · rw [clean_append, clean_append, List.drop_left' whole_length]
  · have some_head := List.head?_eq_some_head old_ne
    exact ⟨_, some_head, head _ some_head⟩
  · have some_last := List.getLast?_eq_some_getLast old_ne
    exact ⟨_, some_last, last _ some_last⟩

/-- Where an id is replaced, the text from the first to the last character of its literal is exchanged for the new
literal and nothing else changes.  The cleaned line changes in the span of the token only, and on it the same command is
read, with a span that starts at the same place and is as long as the new literal. -/
theorem replaceId_exchanges_span {inBlock : Bool} {l : Line} {t : IdToken} {n : Int}
    (h : idToken? inBlock (clean l) = .ok (some t)) (writable : Decimal.isWritable n = true) :
    t.start < t.stop ∧ t.stop ≤ (clean l).length ∧
      (∃ before old after, l = before ++ old ++ after ∧ replaceId l t n = before ++ t.literal n ++ after ∧
        clean before = (clean l).take t.start ∧ clean old = ((clean l).take t.stop).drop t.start ∧
        clean after = (clean l).drop t.stop ∧
        (∃ c ∈ old.head?, isUnreadable c = false) ∧ ∃ c ∈ old.getLast?, isUnreadable c = false) ∧
      clean (replaceId l t n) = (clean l).take t.start ++ t.literal n ++ (clean l).drop t.stop ∧
      ∃ u, idToken? inBlock (clean (replaceId l t n)) = .ok (some u) ∧ u.command = t.command ∧ u.start = t.start ∧
        u.stop = t.start + (t.literal n).length := by
  obtain ⟨p, number, read, -, -, token_eq⟩ := idToken?_eq_some_iff.1 h
  have start_eq : t.start = p.start := by rw [token_eq]
  have stop_eq : t.stop = p.stop := by rw [token_eq]
  have literal_ne := (IdCommand.read?_eq_some_iff.1 read).1.argument.literal.ne_nil
  have literal_pos := List.length_pos_iff.2 literal_ne
  have line_length := congrArg List.length (IdCommand.line_eq_of_read? read)
  rw [List.length_append, p.length_front_literal] at line_length
  have exchanged := (exchanged_replaceId read start_eq stop_eq n).span literal_ne
  rw [← start_eq, ← stop_eq] at exchanged
  refine ⟨?_, ?_, exchanged, ?_, _, idToken?_replaceId h writable, rfl, rfl, rfl⟩
  · rw [start_eq, stop_eq, IdCommand.stop]
    omega
  · omega
  · obtain ⟨before, old, after, -, out_eq, before_eq, -, after_eq, -, -⟩ := exchanged
    have literal_clean : clean (t.literal n) = t.literal n := clean_write _
    rw [out_eq, clean_append, clean_append, before_eq, after_eq, literal_clean]

/-- A weapon whose command and literal are both torn by zero-width spaces, with one more on either side of each. -/
def tornWeapon : Line := "\u200b#wea\u200bpon\u200b \u200b-1\u200b23\u200b--old".toList

theorem idToken?_tornWeapon :
    idToken? false (clean tornWeapon) = .ok (some ⟨⟨"weapon".toList, .weapon, .reference, false, false⟩, -123, 8, 12⟩) := by
  decide +kernel

/-- The zero-width space in the literal goes with it; those beside it stay, and the new literal is found in its place. -/
theorem replaceId_tornWeapon :
    idToken? false (clean tornWeapon) =
        .ok (some ⟨⟨"weapon".toList, .weapon, .reference, false, false⟩, -123, 8, 12⟩) ∧
      Decimal.isWritable 45678 = true ∧
      replaceId tornWeapon ⟨⟨"weapon".toList, .weapon, .reference, false, false⟩, -123, 8, 12⟩ 45678 =
        "\u200b#wea\u200bpon\u200b \u200b45678\u200b--old".toList ∧
      ∃ u, idToken? false (clean "\u200b#wea\u200bpon\u200b \u200b45678\u200b--old".toList) = .ok (some u) ∧
        u.start = 8 ∧ u.stop = 13 := by
  have writable : Decimal.isWritable 45678 = true := by decide +kernel
  have replaced : replaceId tornWeapon ⟨⟨"weapon".toList, .weapon, .reference, false, false⟩, -123, 8, 12⟩ 45678 =
      "\u200b#wea\u200bpon\u200b \u200b45678\u200b--old".toList := by decide +kernel
  obtain ⟨-, -, -, -, u, again, -, start_eq, stop_eq⟩ := replaceId_exchanges_span idToken?_tornWeapon writable
  rw [replaced] at again
  refine ⟨idToken?_tornWeapon, writable, replaced, u, again, start_eq, stop_eq.trans ?_⟩
  decide +kernel

end ModWeave.Line
