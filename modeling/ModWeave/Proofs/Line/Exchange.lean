import ModWeave.Proofs.Line.Kinds

/-!
# Exchanged literals

`replaceId` finds a literal that was read on the cleaned line again on the line as it is written.  `Exchanged` says
what it is to change: everything in front of the first and behind the last character of the literal stays,
unreadable characters included (`exchanged_replaceId`).  On a line without unreadable characters the new line is a
line with the same command and the new number, so that it reads back (`idToken?_replaceId`).
-/

namespace ModWeave.Line

open Text

/-! ### The literal on the line as it is written -/

/-- What stands in front of `afterReadable` ends with a readable character. -/
private theorem exists_append_afterReadable {e : Nat} {l : Line} (pos : 0 < e) (le : e ≤ (clean l).length) :
    ∃ m c, l = m ++ c :: afterReadable e l ∧ isUnreadable c = false := by
  induction l generalizing e with
  | nil =>
    simp only [clean, List.filter_nil, List.length_nil] at le
    omega
  | cons c l ih =>
    obtain ⟨e, rfl⟩ := Nat.exists_eq_add_of_lt pos
    cases unreadable : isUnreadable c with
    | true =>
      obtain ⟨m, d, eq, readable⟩ := ih (e := 0 + e + 1) (by omega) (by simpa [clean, unreadable] using le)
      refine ⟨c :: m, d, ?_, readable⟩
      simpa [afterReadable, unreadable] using eq
    | false =>
      by_cases last : e = 0
      · subst last
        exact ⟨[], c, by simp [afterReadable, unreadable], unreadable⟩
      · obtain ⟨m, d, eq, readable⟩ := ih (e := 0 + e) (by omega) (by
          simp only [clean, unreadable, List.filter_cons, Bool.not_false, if_true, List.length_cons] at le
          exact Nat.le_of_succ_le_succ le)
        refine ⟨c :: m, d, ?_, readable⟩
        simpa [afterReadable, unreadable] using eq

/-- Between `beforeReadable` and `afterReadable` stands a text with readable characters at both ends. -/
private theorem exists_span {s e : Nat} {l : Line} (lt : s < e) (le : e ≤ (clean l).length) :
    ∃ mid, l = beforeReadable s l ++ mid ++ afterReadable e l ∧ (∀ c ∈ mid.head?, isUnreadable c = false) ∧
      ∀ c ∈ mid.getLast?, isUnreadable c = false := by
  induction l generalizing s e with
  | nil =>
    simp only [clean, List.filter_nil, List.length_nil] at le
    omega
  | cons c l ih =>
    obtain ⟨e, rfl⟩ : ∃ e', e = e' + 1 := ⟨e - 1, by omega⟩
    cases unreadable : isUnreadable c with
    | true =>
      obtain ⟨mid, eq, head, last⟩ := ih lt (by simpa [clean, unreadable] using le)
      refine ⟨mid, ?_, head, last⟩
      have before : beforeReadable s (c :: l) = c :: beforeReadable s l := by cases s <;> simp [beforeReadable, unreadable]
      rw [before, afterReadable, if_pos unreadable, List.cons_append, List.cons_append, ← eq]
    | false =>
      cases s with
      | zero =>
        obtain ⟨m, d, eq, readable⟩ := exists_append_afterReadable (Nat.succ_pos e) le
        refine ⟨m ++ [d], ?_, ?_, by simpa using readable⟩
        · simpa [beforeReadable, unreadable] using eq
        · -- the first character of the text is the one under the hand
          have first : (m ++ [d]).head? = some c := by
            have := congrArg List.head? eq
            cases m <;> simpa using this.symm
          rintro d hd
          obtain rfl : c = d := Option.some.inj (first.symm.trans hd)
          exact unreadable
      | succ s =>
        obtain ⟨mid, eq, head, last⟩ := ih (s := s) (e := e) (by omega) (by
          simp only [clean, unreadable, List.filter_cons, Bool.not_false, if_true, List.length_cons] at le
          exact Nat.le_of_succ_le_succ le)
        refine ⟨mid, ?_, head, last⟩
        simpa [beforeReadable, afterReadable, unreadable] using eq

/-- `out` is the line `l`, on which the command `p` is read, with another text in the place of the literal: what stands
in front of the first and behind the last character of the literal stays as it is. -/
def Exchanged (p : IdCommand) (l literal out : Line) : Prop :=
  ∃ before old after, l = before ++ old ++ after ∧ out = before ++ literal ++ after ∧
    clean before = p.lead ++ '#' :: p.word ++ p.argument.gap ∧ clean old = p.argument.literal ∧
    clean after = p.argument.rest ∧ (∀ c ∈ old.head?, isUnreadable c = false) ∧ ∀ c ∈ old.getLast?, isUnreadable c = false

theorem IsLiteral.ne_nil {s : Line} (h : IsLiteral s) : s ≠ [] := by
  obtain ⟨digits, ne, -, rfl | rfl⟩ := h
  · exact ne
  · exact List.cons_ne_nil _ _

theorem IdCommand.length_front (p : IdCommand) : (p.lead ++ '#' :: p.word ++ p.argument.gap).length = p.start := by
  simp only [IdCommand.start, List.length_append, List.length_cons]
  omega

theorem IdCommand.length_front_literal (p : IdCommand) :
    (p.lead ++ '#' :: p.word ++ p.argument.gap ++ p.argument.literal).length = p.stop := by
  rw [List.length_append, p.length_front, IdCommand.stop]

/-- Replacing an id exchanges its literal and nothing else. -/
theorem exchanged_replaceId {l : Line} {p : IdCommand} {t : IdToken} (read : IdCommand.read? (clean l) = some p)
    (start_eq : t.start = p.start) (stop_eq : t.stop = p.stop) (n : Int) :
    Exchanged p l (t.literal n) (replaceId l t n) := by
  obtain ⟨wf, -⟩ := IdCommand.read?_eq_some_iff.1 read
  have line_eq := IdCommand.line_eq_of_read? read
  have literal_pos : 0 < p.argument.literal.length := List.length_pos_iff.2 wf.argument.literal.ne_nil
  have length_eq : (clean l).length = p.stop + p.argument.rest.length := by
    rw [line_eq, List.length_append, p.length_front_literal]
  obtain ⟨mid, eq, head, last⟩ := exists_span (s := p.start) (e := p.stop) (l := l)
    (by rw [IdCommand.stop]; omega) (by omega)
  have before_eq : clean (beforeReadable p.start l) = p.lead ++ '#' :: p.word ++ p.argument.gap := by
    rw [clean_beforeReadable, line_eq, List.append_assoc, List.take_left' p.length_front]
  have after_eq : clean (afterReadable p.stop l) = p.argument.rest := by
    rw [clean_afterReadable, line_eq, List.drop_left' p.length_front_literal]
  refine ⟨_, mid, _, eq, by rw [replaceId, start_eq, stop_eq], before_eq, ?_, after_eq, head, last⟩
  have parts := congrArg clean eq
  rw [clean_append, clean_append, before_eq, after_eq] at parts
  rw [line_eq] at parts
  exact (List.append_cancel_left (List.append_cancel_right parts)).symm

/-! ### Reading the new line -/

theorem isUnreadable_of_isDigit {c : Char} (h : c.isDigit = true) : isUnreadable c = false := by
  simp only [Char.isDigit, Bool.and_eq_true, decide_eq_true_eq, UInt32.le_iff_toNat_le] at h
  have low : 48 ≤ c.toNat := h.1
  have high : c.toNat ≤ 57 := h.2
  have other : ∀ u : Char, 57 < u.toNat ∨ u.toNat < 48 → c ≠ u := by
    rintro u hu rfl
    omega
  have ranges : ¬ c.toNat ≤ 0x08 ∧ ¬ c.toNat ≤ 0x1F := by omega
  simp [isUnreadable, ranges, other '\uFEFF' (by decide), other '\u200B' (by decide), other '\u200C' (by decide),
    other '\u200D' (by decide), other '\u2060' (by decide), other '\x0B' (by decide), other '\x0C' (by decide),
    other '\x7F' (by decide)]

theorem isDigit_of_mem_write {n : Nat} {c : Char} (hc : c ∈ Nat.toDigits 10 n) : c.isDigit = true :=
  Nat.isDigit_of_mem_toDigits (by decide) (by decide) hc

theorem isLiteral_write (n : Int) : IsLiteral (Decimal.write n) := by
  refine ⟨Nat.toDigits 10 n.natAbs, Nat.toDigits_ne_nil, fun c hc => ?_, ?_⟩
  · rw [isDigit, digitValue?_of_isDigit (isDigit_of_mem_write hc), Option.isSome_some]
  · unfold Decimal.write
    split
    · exact Or.inr rfl
    · exact Or.inl rfl

theorem clean_write (n : Int) : clean (Decimal.write n) = Decimal.write n := by
  have digits : clean (Nat.toDigits 10 n.natAbs) = Nat.toDigits 10 n.natAbs :=
    List.filter_eq_self.2 fun c hc => by rw [isUnreadable_of_isDigit (isDigit_of_mem_write hc), Bool.not_false]
  unfold Decimal.write
  split
  · rw [clean, List.filter_cons, if_pos (by decide), ← clean, digits]
  · exact digits

theorem read_write_of_isWritable {n : Int} (h : Decimal.isWritable n = true) :
    Decimal.read (Decimal.write n) = .ok n := by
  unfold Decimal.isWritable at h
  generalize limit : Decimal.maxDigits = k at h
  have few := (Nat.length_toDigits_le_iff (by decide) (by rw [← limit]; decide)).2 (of_decide_eq_true h)
  exact Decimal.read_write (limit ▸ few)

/-- With its literal exchanged a command is the same command with another literal. -/
theorem Exchanged.read? {p : IdCommand} {l literal out : Line} (h : Exchanged p l literal out) (wf : p.WellFormed)
    (number : IsLiteral literal) (readable : clean literal = literal) :
    IdCommand.read? (clean out) = some { p with argument := { p.argument with literal } } := by
  obtain ⟨before, old, after, -, rfl, before_eq, -, after_eq, -, -⟩ := h
  refine IdCommand.read?_eq_some_iff.2 ⟨⟨wf.lead, wf.word, ?_⟩, ?_⟩
  · exact ⟨wf.argument.gap_ne_nil, wf.argument.gap, number, wf.argument.rest⟩
  · rw [clean_append, clean_append, before_eq, after_eq, readable]
    simp [IdCommand.body]

/-- The number that is read where the literal of a token was exchanged for the literal of another number. -/
def IdToken.readBack (t : IdToken) (n : Int) : Int := if t.command.negated then -(n.natAbs : Int) else n

/-- A number is read back as itself, unless a command that names the negative of its literal is to name a positive
one. -/
theorem IdToken.readBack_eq_iff {t : IdToken} {n : Int} : t.readBack n = n ↔ (t.command.negated = true → n ≤ 0) := by
  unfold readBack
  cases t.command.negated with
  | false => simp
  | true =>
    simp only [if_true, true_imp_iff]
    omega

/-- Where an id was replaced, the same command stands with the new literal. -/
theorem read?_replaceId {inBlock : Bool} {l : Line} {t : IdToken} (h : idToken? inBlock (clean l) = .ok (some t))
    (n : Int) : ∃ p : IdCommand, command? inBlock p.word = some t.command ∧ t.start = p.start ∧
      IdCommand.read? (clean (replaceId l t n)) = some { p with argument := { p.argument with literal := t.literal n } } := by
  obtain ⟨p, old, read, command, -, eq⟩ := idToken?_eq_some_iff.1 h
  have start_eq : t.start = p.start := by rw [eq]
  have stop_eq : t.stop = p.stop := by rw [eq]
  have wf := (IdCommand.read?_eq_some_iff.1 read).1
  have exchanged := exchanged_replaceId read start_eq stop_eq n
  exact ⟨p, command, start_eq, exchanged.read? wf (isLiteral_write _) (clean_write _)⟩

/-- Where an id was replaced, the same command is read with the new number. -/
theorem idToken?_replaceId {inBlock : Bool} {l : Line} {t : IdToken} {n : Int}
    (h : idToken? inBlock (clean l) = .ok (some t)) (writable : Decimal.isWritable n = true) :
    idToken? inBlock (clean (replaceId l t n)) =
      .ok (some { t with number := t.readBack n, stop := t.start + (t.literal n).length }) := by
  obtain ⟨p, command, start_eq, again⟩ := read?_replaceId h n
  -- a negated command is given the magnitude, which can be written where the number can
  have writable_literal : Decimal.isWritable (if t.command.negated then (n.natAbs : Int) else n) = true := by
    split
    · rw [Decimal.isWritable, Int.natAbs_natCast]
      exact writable
    · exact writable
  refine idToken?_eq_some_iff.2 ⟨_, _, again, command, read_write_of_isWritable writable_literal, ?_⟩
  simp only [IdToken.mk.injEq, true_and]
  refine ⟨?_, start_eq, by rw [start_eq]; rfl⟩
  unfold IdToken.readBack
  split <;> rfl

end ModWeave.Line
