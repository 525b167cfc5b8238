import Mathlib.Data.List.Basic
import ModWeave.Proofs.Line.Exchange

/-!
# Numbers that read back

Where the id on a line was replaced, reading finds the command that stood there and a number of the same magnitude as
the new one.  It is the new number itself unless the command names the negative of its literal and the new number is
positive (`number_replaceId_eq_iff`): the literal that is written for a montag has no sign, so that a montag whose
literal stood behind a minus sign changes its sign (`number_replaceId_ne`).
-/

namespace ModWeave.Line

open Text

/-- A replaced id is read with the same command at the same place.  Its number has the magnitude of the new number, and
it is the new number exactly if that is not a positive one behind a command that names the negative of its literal. -/
theorem number_replaceId_eq_iff {inBlock : Bool} {l : Line} {t : IdToken} {n : Int}
    (h : idToken? inBlock (clean l) = .ok (some t)) (writable : Decimal.isWritable n = true) :
    ∃ u, idToken? inBlock (clean (replaceId l t n)) = .ok (some u) ∧ u.command = t.command ∧ u.start = t.start ∧
      u.number.natAbs = n.natAbs ∧ (u.number = n ↔ (t.command.negated = true → n ≤ 0)) := by
  refine ⟨_, idToken?_replaceId h writable, rfl, rfl, ?_, IdToken.readBack_eq_iff⟩
  show (t.readBack n).natAbs = n.natAbs
  unfold IdToken.readBack
  split
  · rw [Int.natAbs_neg, Int.natAbs_natCast]
  · rfl

/-- The command that declares a montag by its magnitude. -/
def montag : Command := ⟨"montag".toList, .monster, .declaration, true, false⟩

/-- A montag in full-width digits, with a zero-width space between them. -/
def splitMontag : Line := "#montag １0\u200b00".toList

/-- The new number of a montag is read back, although the old literal was neither in one piece nor in ASCII digits. -/
theorem number_replaceId_splitMontag :
    idToken? false (clean splitMontag) = .ok (some ⟨montag, -1000, 8, 12⟩) ∧ Decimal.isWritable (-1001) = true ∧
      ∃ u, idToken? false (clean (replaceId splitMontag ⟨montag, -1000, 8, 12⟩ (-1001))) = .ok (some u) ∧
        u.number = -1001 := by
  have token : idToken? false (clean splitMontag) = .ok (some ⟨montag, -1000, 8, 12⟩) := by decide +kernel
  have writable : Decimal.isWritable (-1001) = true := by decide +kernel
  obtain ⟨u, again, -, -, -, same_iff⟩ := number_replaceId_eq_iff token writable
  exact ⟨token, writable, u, again, same_iff.2 (by decide)⟩

/-- Not every new number with the sign of the old one is read back: a positive montag becomes a negative one. -/
theorem number_replaceId_ne :
    ¬ ∀ (inBlock : Bool) (l : Line) (t : IdToken) (n : Int), idToken? inBlock (clean l) = .ok (some t) → n ≠ 0 →
      n.sign = t.number.sign → Decimal.isWritable n = true →
        ∃ u, idToken? inBlock (clean (replaceId l t n)) = .ok (some u) ∧ u.number = n := by
  intro reads_back
  have token : idToken? false (clean "#montag -4000".toList) = .ok (some ⟨montag, 4000, 8, 13⟩) := by decide +kernel
  have replaced : idToken? false (clean (replaceId "#montag -4000".toList ⟨montag, 4000, 8, 13⟩ 4001)) =
      .ok (some ⟨montag, -4001, 8, 12⟩) := by decide +kernel
  obtain ⟨u, again, same⟩ := reads_back _ _ _ 4001 token (by decide) (by decide) (by decide +kernel)
  obtain rfl : (⟨montag, -4001, 8, 12⟩ : IdToken) = u := Option.some.inj (Except.ok.inj (replaced.symm.trans again))
  exact absurd same (by decide)

end ModWeave.Line
