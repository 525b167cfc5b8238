import ModWeave.Files.Publishing
import ModWeave.Proofs.Line.Plain

/-!
# Line ends

A text may end its lines with carriage returns, line feeds or pairs of both.  Which of them it uses does not matter to
its lines (`splitLines_unifyBreaks`): writing every pair of both as a line feed (`joinPairs`) and then every carriage
return that is left (`feedReturns`) gives a text with the same lines.  Together with the fact that the lines of a text
end nowhere in their middle, and that lines which were joined are found again, this is all that is needed of line ends
(`lines_whatever_breaks`).
-/

namespace ModWeave

namespace Text

/-- A text with a line feed for every pair of a carriage return and a line feed. -/
def joinPairs : List Char → List Char
  | '\r' :: '\n' :: s => '\n' :: joinPairs s
  | c :: s => c :: joinPairs s
  | [] => []

/-- A text with a line feed for every carriage return. -/
def feedReturns (s : List Char) : List Char := s.map fun c => if c = '\r' then '\n' else c

/-! ### One character in front -/

theorem atFeed_cutLines (s : List Char) : (cutLines s).atFeed = decide (s.head? = some '\n') := by
  cases s with
  | nil => rfl
  | cons c s =>
    rw [cutLines_cons, Cut.push]
    by_cases feed : c = '\n'
    · simp [feed]
    · by_cases isReturn : c = '\r'
      · cases (cutLines s).atFeed <;> simp [isReturn]
      · simp [feed, isReturn]

theorem atFeed_unify (s : List Char) :
    (s.foldr Unified.push ⟨false, []⟩).atFeed = decide (s.head? = some '\n') := by
  cases s with
  | nil => rfl
  | cons c s =>
    rw [List.foldr_cons, Unified.push]
    by_cases isReturn : c = '\r'
    · simp [isReturn]
    · simp [isReturn]

/-- A carriage return in front of a line feed is left out, and every other one becomes a line feed. -/
theorem unifyBreaks_cons (c : Char) (s : List Char) :
    unifyBreaks (c :: s) =
      if c = '\r' then if s.head? = some '\n' then unifyBreaks s else '\n' :: unifyBreaks s
      else c :: unifyBreaks s := by
  rw [unifyBreaks, List.foldr_cons, Unified.push, atFeed_unify]
  by_cases isReturn : c = '\r'
  · simp [isReturn, unifyBreaks]
  · simp [isReturn, unifyBreaks]

theorem unifyBreaks_eq (s : List Char) : unifyBreaks s = feedReturns (joinPairs s) := by
  induction s using joinPairs.induct with
  | case1 s ih => simp [unifyBreaks_cons, joinPairs, feedReturns, ih]
  | case2 c s not_pair ih =>
    rw [unifyBreaks_cons, joinPairs, ih]
    · by_cases isReturn : c = '\r'
      · have not_feed : s.head? ≠ some '\n' := fun feed => by
          obtain ⟨t, rfl⟩ := List.head?_eq_some_iff.1 feed
          exact not_pair t isReturn rfl
        simp [isReturn, not_feed, feedReturns]
      · simp [isReturn, feedReturns]
    · exact not_pair
  | case3 => rfl

/-! ### The whole text -/

theorem pieces_cutLines_unifyBreaks (s : List Char) : (cutLines (unifyBreaks s)).pieces = (cutLines s).pieces := by
  induction s with
  | nil => rfl
  | cons c s ih =>
    have opened : ∀ cut : Cut, (cut.push '\n').pieces = [] :: cut.pieces := fun _ => rfl
    rw [unifyBreaks_cons, cutLines_cons]
    by_cases isReturn : c = '\r'
    · rw [if_pos isReturn, isReturn]
      by_cases feed : s.head? = some '\n'
      · rw [if_pos feed, ih]
        simp [Cut.push, atFeed_cutLines, feed, Cut.pieces]
      · rw [if_neg feed, cutLines_cons, opened, ih]
        simp [Cut.push, atFeed_cutLines, feed, Cut.pieces]
    · rw [if_neg isReturn, cutLines_cons]
      obtain ⟨current, later⟩ := List.cons.inj ih
      by_cases feed : c = '\n'
      · rw [feed, opened, opened, ih]
      · simp [Cut.push, isReturn, feed, Cut.pieces, current, later]

/-- It does not matter to the lines of a text how they end. -/
theorem splitLines_unifyBreaks (s : List Char) : splitLines (unifyBreaks s) = splitLines s := by
  rw [splitLines, pieces_cutLines_unifyBreaks, splitLines]

end Text

open Text Output

/-- Lines that were joined are found again; no line of a mod holds a line end; and the lines of a mod stay when every
pair of a carriage return and a line feed and then every carriage return that is left is written as a line feed, as it
is done when a mod is loaded. -/
theorem ModFile.lines_whatever_breaks (m : ModFile) :
    (∀ lines : List Line, (∀ l ∈ lines, IsUnbroken l) → { m with content := joinLines lines }.lines = lines) ∧
    (∀ l ∈ m.lines, IsUnbroken l) ∧
    { m with content := feedReturns (joinPairs m.content) }.lines = m.lines ∧
    ∀ (s : Session) (p : Path), (s.load p).lines = splitLines (Utf8.decodeLossy (s.bytes p)) := by
  refine ⟨fun lines unbroken => splitLines_joinLines unbroken, fun l hl => isUnbroken_of_mem_splitLines hl, ?_,
    fun s p => splitLines_unifyBreaks _⟩
  show splitLines (feedReturns (joinPairs m.content)) = splitLines m.content
  rw [← unifyBreaks_eq, splitLines_unifyBreaks]

/-- Lines with empty ones at both ends, one of which holds characters that only look like line ends. -/
def paddedPage : List Line := ["".toList, "#end\x0C\u0085\u2028--".toList, "".toList]

theorem ModFile.lines_whatever_breaks_paddedPage :
    (∀ l ∈ paddedPage, IsUnbroken l) ∧ (ModFile.named "page" (joinLines paddedPage)).lines = paddedPage ∧
    (ModFile.named "page" "\r\r\n#end\r".toList).lines = [[], [], "#end".toList] :=
  ⟨by decide +kernel, (ModFile.named "page" []).lines_whatever_breaks.1 paddedPage (by decide +kernel),
    by decide +kernel⟩

end ModWeave
