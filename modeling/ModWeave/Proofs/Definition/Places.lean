import ModWeave.Line.Kind

/-!
# Where a line of a mod stands

What surrounds a line is told here by looking at the cleaned lines of a mod as a whole, without reading them one after
the other.

* A line begins a description if it is one by its looks and is not in the reach of an earlier one; the description
  reaches as far as the first later line with a quotation mark, or to the end (`InDescription`).
* What is left when descriptions, statements about the mod and a blank first line are taken away is content
  (`Remains`).
* A line is in a block if the last line of content in front of it that opens one is not followed by one that closes it
  (`InBlock`).  The effect of the block there is the last one that content has given since (`LastEffect`).

The lemmas on `i + 1` say how each of these goes on over line number `i`.
-/

namespace ModWeave.Definition

open Text Line

/-- Line number `i` is there and passes a test. -/
def Shows (ls : List Line) (i : Nat) (test : Line → Bool) : Prop := ∃ l, ls[i]? = some l ∧ test l = true

variable {ls : List Line} {i s : Nat} {l : Line} {test : Line → Bool} {e : Int}

private theorem forall_between_succ {P : Nat → Prop} (lt : s < i) :
    (∀ j, s < j → j < i + 1 → P j) ↔ (∀ j, s < j → j < i → P j) ∧ P i := by
  constructor
  · exact fun all => ⟨fun j hj hji => all j hj (Nat.lt_succ_of_lt hji), all i lt (Nat.lt_succ_self i)⟩
  · rintro ⟨all, here⟩ j hj hji
    rcases Nat.lt_or_eq_of_le (Nat.le_of_lt_succ hji) with before | rfl
    · exact all j hj before
    · exact here

theorem shows_iff (line : ls[i]? = some l) : Shows ls i test ↔ test l = true := by simp [Shows, line]

/-! ### Descriptions -/

/-- Whether a line holds a quotation mark. -/
def hasQuote (l : Line) : Bool := '"' ∈ l

/-- A description from line number `s` on reaches line number `i`: none of the lines between holds a quotation mark. -/
def Reaches (ls : List Line) (s i : Nat) : Prop := s ≤ i ∧ ∀ j, s < j → j < i → ¬ Shows ls j hasQuote

/-- Line number `i` begins a description: it looks like it, and no earlier one reaches it. -/
def BeginsDescription (ls : List Line) (i : Nat) : Prop :=
  Shows ls i isDescriptionStart ∧ ∀ s, s < i → BeginsDescription ls s → ¬ Reaches ls s i
termination_by i

/-- Line number `i` belongs to a description. -/
def InDescription (ls : List Line) (i : Nat) : Prop := ∃ s, BeginsDescription ls s ∧ Reaches ls s i

/-- A description that begins at line number `s` is open in front of line number `i`. -/
def OpenDescription (ls : List Line) (i s : Nat) : Prop := s < i ∧ BeginsDescription ls s ∧ Reaches ls s i

theorem not_openDescription_zero : ¬ OpenDescription ls 0 s := fun h => Nat.not_lt_zero s h.1

theorem beginsDescription_iff :
    BeginsDescription ls i ↔ Shows ls i isDescriptionStart ∧ ∀ s, ¬ OpenDescription ls i s := by
  rw [BeginsDescription]
  simp only [OpenDescription, not_and]

theorem inDescription_iff : InDescription ls i ↔ (∃ s, OpenDescription ls i s) ∨ BeginsDescription ls i := by
  constructor
  · rintro ⟨s, begins, reaches⟩
    rcases Nat.lt_or_eq_of_le reaches.1 with lt | rfl
    · exact Or.inl ⟨s, lt, begins, reaches⟩
    · exact Or.inr begins
  · rintro (⟨s, -, begins, reaches⟩ | begins)
    · exact ⟨s, begins, reaches⟩
    · exact ⟨i, begins, Nat.le_refl i, fun j _ _ => by omega⟩

theorem openDescription_succ_iff : OpenDescription ls (i + 1) s ↔
    (OpenDescription ls i s ∧ ¬ Shows ls i hasQuote) ∨ (s = i ∧ BeginsDescription ls i) := by
  constructor
  · rintro ⟨lt, begins, -, unquoted⟩
    rcases Nat.lt_or_eq_of_le (Nat.le_of_lt_succ lt) with before | rfl
    · rw [forall_between_succ before] at unquoted
      exact Or.inl ⟨⟨before, begins, Nat.le_of_lt before, unquoted.1⟩, unquoted.2⟩
    · exact Or.inr ⟨rfl, begins⟩
  · rintro (⟨⟨lt, begins, -, unquoted⟩, here⟩ | ⟨rfl, begins⟩)
    · exact ⟨by omega, begins, by omega, (forall_between_succ lt).2 ⟨unquoted, here⟩⟩
    · exact ⟨Nat.lt_succ_self s, begins, Nat.le_succ s, fun j _ _ => by omega⟩

/-! ### Content -/

/-- Line number `i` is content. -/
structure Remains (ls : List Line) (i : Nat) : Prop where
  lt : i < ls.length
  not_description : ¬ InDescription ls i
  not_metadata : ¬ Shows ls i isMetadata
  /-- It is no blank first line. -/
  not_blank : ¬ (i = 0 ∧ Shows ls i fun l => trim l = [])

/-! ### Blocks -/

/-- Line number `i` is content and opens a block. -/
def OpensBlock (ls : List Line) (i : Nat) : Prop := Remains ls i ∧ Shows ls i isBlockStart

/-- Line number `i` is content and closes blocks. -/
def ClosesBlock (ls : List Line) (i : Nat) : Prop := Remains ls i ∧ Shows ls i isBlockEnd

/-- Line number `i` is in the block that line number `s` opens: that is the last one in front of it that opens a block,
and no line between closes it. -/
def InBlock (ls : List Line) (s i : Nat) : Prop :=
  s < i ∧ OpensBlock ls s ∧ ∀ j, s < j → j < i → ¬ OpensBlock ls j ∧ ¬ ClosesBlock ls j

theorem not_inBlock_zero : ¬ InBlock ls s 0 := fun h => Nat.not_lt_zero s h.1

theorem inBlock_succ_iff : InBlock ls s (i + 1) ↔
    (s = i ∧ OpensBlock ls i) ∨ (InBlock ls s i ∧ ¬ OpensBlock ls i ∧ ¬ ClosesBlock ls i) := by
  constructor
  · rintro ⟨lt, opens, between⟩
    rcases Nat.lt_or_eq_of_le (Nat.le_of_lt_succ lt) with before | rfl
    · rw [forall_between_succ before] at between
      exact Or.inr ⟨⟨before, opens, between.1⟩, between.2⟩
    · exact Or.inl ⟨rfl, opens⟩
  · rintro (⟨rfl, opens⟩ | ⟨⟨lt, opens, between⟩, here⟩)
    · exact ⟨Nat.lt_succ_self s, opens, fun j _ _ => by omega⟩
    · exact ⟨by omega, opens, (forall_between_succ lt).2 ⟨between, here⟩⟩

/-! ### Effects -/

/-- Line number `i` is content and gives an effect. -/
def GivesEffect (ls : List Line) (i : Nat) (e : Int) : Prop :=
  Remains ls i ∧ ∃ l, ls[i]? = some l ∧ effect? l = .ok (some e)

/-- The last effect that a line behind number `s` and in front of number `i` gives. -/
def LastEffect (ls : List Line) (s i : Nat) (e : Int) : Prop :=
  ∃ j, s < j ∧ j < i ∧ GivesEffect ls j e ∧ ∀ k, j < k → k < i → ∀ e', ¬ GivesEffect ls k e'

theorem not_lastEffect_succ : ¬ LastEffect ls i (i + 1) e := by
  rintro ⟨j, lt, before, -⟩
  omega

theorem lastEffect_succ_iff (lt : s < i) : LastEffect ls s (i + 1) e ↔
    GivesEffect ls i e ∨ (LastEffect ls s i e ∧ ∀ e', ¬ GivesEffect ls i e') := by
  constructor
  · rintro ⟨j, behind, before, gives, last⟩
    rcases Nat.lt_or_eq_of_le (Nat.le_of_lt_succ before) with before | rfl
    · rw [forall_between_succ before] at last
      exact Or.inr ⟨⟨j, behind, before, gives, last.1⟩, last.2⟩
    · exact Or.inl gives
  · rintro (gives | ⟨⟨j, behind, before, gives, last⟩, none_here⟩)
    · exact ⟨i, lt, Nat.lt_succ_self i, gives, fun k _ _ => by omega⟩
    · exact ⟨j, behind, by omega, gives, (forall_between_succ before).2 ⟨last, none_here⟩⟩

end ModWeave.Definition
