/-!
# Lines of a text

A line ends at a carriage return, at a line feed or at the pair of both; form feeds and the like stay inside
their line.  `splitLines` drops one empty last piece, so that it undoes `joinLines`, which ends every line with
a line feed (`splitLines_joinLines`); a text is split in front of a line feed and behind it on its own
(`splitLines_append_feed`).  `unifyBreaks` writes every line end as a line feed, as reading a file in
text mode does.
-/

namespace ModWeave

/-- One line of a text, without its line end. -/
abbrev Line := List Char

namespace Text

/-- A text cut at its line ends while it is read from its last character back. -/
structure Cut where
  /-- Whether the character read last is a line feed. -/
  atFeed : Bool
  /-- The piece that is still growing at its front. -/
  current : Line
  /-- The pieces after it. -/
  later : List Line

namespace Cut

/-- The cut of the empty text. -/
def empty : Cut := ⟨false, [], []⟩

/-- Puts a character in front: a line end opens a new piece, and a carriage return joins the line feed after it. -/
def push (c : Char) (cut : Cut) : Cut :=
  if c = '\n' then ⟨true, [], cut.current :: cut.later⟩
  else if c = '\r' then
    if cut.atFeed then { cut with atFeed := false } else ⟨false, [], cut.current :: cut.later⟩
  else ⟨false, c :: cut.current, cut.later⟩

/-- All pieces in order. -/
def pieces (cut : Cut) : List Line := cut.current :: cut.later

end Cut

/-- The cut of a text at its line ends. -/
def cutLines (s : List Char) : Cut := s.foldr Cut.push Cut.empty

/-- A list without its last element, if that is empty. -/
def dropEmptyLast (pieces : List Line) : List Line :=
  if pieces.getLast? = some [] then pieces.dropLast else pieces

/-- The lines of a text. -/
def splitLines (s : List Char) : List Line := dropEmptyLast (cutLines s).pieces

/-- The text that holds the given lines, each with a line feed after it. -/
def joinLines (lines : List Line) : List Char := (lines.map (· ++ ['\n'])).flatten

/-- A text read from its last character back, with the line ends read so far written as line feeds. -/
structure Unified where
  /-- Whether the character read last is a line feed. -/
  atFeed : Bool
  text : List Char

/-- Puts a character in front: a carriage return gives a line feed unless one follows it. -/
def Unified.push (c : Char) (u : Unified) : Unified :=
  if c = '\r' then ⟨false, if u.atFeed then u.text else '\n' :: u.text⟩ else ⟨c = '\n', c :: u.text⟩

/-- A text with every line end written as a line feed. -/
def unifyBreaks (s : List Char) : List Char := (s.foldr Unified.push ⟨false, []⟩).text

theorem cutLines_cons (c : Char) (s : List Char) : cutLines (c :: s) = (cutLines s).push c := rfl

/-- A line with a line feed after it becomes the first piece of the text it is put in front of. -/
theorem pieces_cutLines_append {l : Line} (h : ∀ c ∈ l, c ≠ '\n' ∧ c ≠ '\r') (s : List Char) :
    (cutLines (l ++ '\n' :: s)).pieces = l :: (cutLines s).pieces := by
  suffices cutLines (l ++ '\n' :: s) = ⟨l.isEmpty, l, (cutLines s).pieces⟩ by rw [this]; rfl
  induction l with
  | nil => rfl
  | cons c l ih =>
    have hc := h c (by simp)
    rw [List.cons_append, cutLines_cons, ih fun d hd => h d (by simp [hd])]
    simp [Cut.push, hc.1, hc.2]

/-- A text is cut behind a line feed as if it began there. -/
private theorem cutLines_append_feed (s : List Char) :
    ∃ atFeed current later, ∀ t, cutLines (s ++ '\n' :: t) = ⟨atFeed, current, later ++ (cutLines t).pieces⟩ := by
  induction s with
  | nil => exact ⟨true, [], [], fun _ => rfl⟩
  | cons c s ih =>
    obtain ⟨atFeed, current, later, cut⟩ := ih
    simp only [List.cons_append, cutLines_cons, cut, Cut.push]
    by_cases feed : c = '\n'
    · exact ⟨true, [], current :: later, fun t => by rw [if_pos feed, List.cons_append]⟩
    · simp only [if_neg feed]
      by_cases isReturn : c = '\r'
      · simp only [if_pos isReturn]
        cases atFeed with
        | true => exact ⟨false, current, later, fun t => rfl⟩
        | false => exact ⟨false, [], current :: later, fun t => rfl⟩
      · exact ⟨false, c :: current, later, fun t => by rw [if_neg isReturn]⟩

private theorem dropEmptyLast_append_nil (pieces : List Line) : dropEmptyLast (pieces ++ [[]]) = pieces := by
  simp [dropEmptyLast]

/-- The lines of a text that ends with a line feed are its pieces there. -/
private theorem exists_lines_feed (s : List Char) : ∃ first rest, splitLines (s ++ ['\n']) = first :: rest ∧
    ∀ t, (cutLines (s ++ '\n' :: t)).pieces = first :: (rest ++ (cutLines t).pieces) := by
  obtain ⟨atFeed, first, rest, cut⟩ := cutLines_append_feed s
  refine ⟨first, rest, ?_, fun t => by rw [cut, Cut.pieces]⟩
  have pieces : (cutLines (s ++ ['\n'])).pieces = first :: rest ++ [[]] := by
    rw [cut]
    rfl
  rw [splitLines, pieces, dropEmptyLast_append_nil]

theorem splitLines_feed_ne_nil (s : List Char) : splitLines (s ++ ['\n']) ≠ [] := by
  obtain ⟨first, rest, lines, -⟩ := exists_lines_feed s
  rw [lines]
  exact List.cons_ne_nil _ _

/-- The lines in front of a line feed and those behind it are the lines of the text. -/
theorem splitLines_append_feed (s t : List Char) :
    splitLines (s ++ '\n' :: t) = splitLines (s ++ ['\n']) ++ splitLines t := by
  obtain ⟨first, rest, lines, pieces⟩ := exists_lines_feed s
  rw [lines, splitLines, pieces, splitLines, Cut.pieces, ← List.cons_append]
  -- the last piece of the whole is the last one of the text behind the line feed
  unfold dropEmptyLast
  rw [List.dropLast_append_of_ne_nil (List.cons_ne_nil _ _), List.getLast?_append, List.getLast?_cons, Option.some_or]
  split <;> rfl

/-- Characters that end no line, in front of a text, stand at the beginning of its first line. -/
theorem splitLines_append_of_unbroken {l : Line} (h : ∀ c ∈ l, c ≠ '\n' ∧ c ≠ '\r') {s : List Char} {first : Line}
    {rest : List Line} (lines : splitLines (s ++ ['\n']) = first :: rest) :
    splitLines (l ++ s ++ ['\n']) = (l ++ first) :: rest := by
  obtain ⟨first', rest', lines', pieces⟩ := exists_lines_feed s
  obtain ⟨rfl, rfl⟩ := List.cons.inj (lines'.symm.trans lines)
  have pieces : (cutLines (l ++ s ++ ['\n'])).pieces = (l ++ first') :: rest' ++ [[]] := by
    rw [List.append_assoc]
    induction l with
    | nil => exact pieces []
    | cons c l ih =>
      obtain ⟨not_feed, not_return⟩ := h c (by simp)
      obtain ⟨current_eq, later_eq⟩ := List.cons.inj (ih fun d hd => h d (by simp [hd]))
      rw [List.cons_append, cutLines_cons, Cut.push, if_neg not_feed, if_neg not_return, Cut.pieces, current_eq, later_eq]
      rfl
  rw [splitLines, pieces, dropEmptyLast_append_nil]

private theorem Cut.pieces_push (c : Char) (cut : Cut) : (cut.push c).pieces = [] :: cut.pieces ∨
    (cut.push c).pieces = cut.pieces ∨ (cut.push c).pieces = (c :: cut.current) :: cut.later := by
  unfold Cut.push
  split
  · exact Or.inl rfl
  · split
    · split
      · exact Or.inr (Or.inl rfl)
      · exact Or.inl rfl
    · exact Or.inr (Or.inr rfl)

private theorem exists_pieces_append_char (s : List Char) {c : Char} (not_feed : c ≠ '\n') (not_return : c ≠ '\r') :
    ∃ front last, (cutLines (s ++ [c] ++ ['\n'])).pieces = front ++ [last ++ [c], []] ∧ last ⊆ s ∧ ∀ l ∈ front, l ⊆ s := by
  induction s with
  | nil => exact ⟨[], [], by simp [cutLines, Cut.push, Cut.empty, Cut.pieces, not_feed, not_return], by simp, by simp⟩
  | cons b s ih =>
    obtain ⟨front, last, eq, last_sub, front_sub⟩ := ih
    have last_sub' : last ⊆ b :: s := List.subset_cons_of_subset b last_sub
    have front_sub' : ∀ l ∈ front, l ⊆ b :: s := fun l hl => List.subset_cons_of_subset b (front_sub l hl)
    rw [List.cons_append, List.cons_append, cutLines_cons]
    rcases Cut.pieces_push b (cutLines (s ++ [c] ++ ['\n'])) with opened | same | longer
    · exact ⟨[] :: front, last, by rw [opened, eq]; rfl, last_sub', by simpa using front_sub'⟩
    · exact ⟨front, last, same.trans eq, last_sub', front_sub'⟩
    · cases front with
      | nil =>
        obtain ⟨current_eq, later_eq⟩ := List.cons.inj eq
        exact ⟨[], b :: last, by rw [longer, current_eq, later_eq]; rfl, List.cons_subset_cons b last_sub, by simp⟩
      | cons first front =>
        obtain ⟨current_eq, later_eq⟩ := List.cons.inj eq
        obtain ⟨first_sub, -⟩ := List.forall_mem_cons.1 front_sub
        exact ⟨(b :: first) :: front, last, by rw [longer, current_eq, later_eq]; rfl, last_sub',
          List.forall_mem_cons.2 ⟨List.cons_subset_cons b first_sub, (List.forall_mem_cons.1 front_sub').2⟩⟩

/-- A character that ends no line, behind a text, stands at the end of its last line. -/
theorem exists_splitLines_append_char (s : List Char) {c : Char} (not_feed : c ≠ '\n') (not_return : c ≠ '\r') :
    ∃ front last, splitLines (s ++ [c] ++ ['\n']) = front ++ [last ++ [c]] ∧ last ⊆ s ∧ ∀ l ∈ front, l ⊆ s := by
  obtain ⟨front, last, eq, sub⟩ := exists_pieces_append_char s not_feed not_return
  have whole : front ++ [last ++ [c], []] = (front ++ [last ++ [c]]) ++ [[]] := by simp
  exact ⟨front, last, by rw [splitLines, eq, whole, dropEmptyLast_append_nil], sub⟩

theorem joinLines_cons (l : Line) (lines : List Line) : joinLines (l :: lines) = l ++ '\n' :: joinLines lines := by
  simp [joinLines]

/-- Each joined line is split on its own. -/
theorem splitLines_joinLines_cons (l : Line) (lines : List Line) :
    splitLines (joinLines (l :: lines)) = splitLines (l ++ ['\n']) ++ splitLines (joinLines lines) := by
  rw [joinLines_cons, splitLines_append_feed]

theorem splitLines_joinLines_append (lines lines' : List Line) :
    splitLines (joinLines (lines ++ lines')) = splitLines (joinLines lines) ++ splitLines (joinLines lines') := by
  induction lines with
  | nil => rfl
  | cons l lines ih =>
    rw [List.cons_append, splitLines_joinLines_cons, splitLines_joinLines_cons, ih, List.append_assoc]

/-- Splitting gives back the lines that were joined. -/
theorem splitLines_joinLines {lines : List Line} (h : ∀ l ∈ lines, ∀ c ∈ l, c ≠ '\n' ∧ c ≠ '\r') :
    splitLines (joinLines lines) = lines := by
  have pieces : (cutLines (joinLines lines)).pieces = lines ++ [[]] := by
    induction lines with
    | nil => rfl
    | cons l lines ih =>
      rw [joinLines_cons, pieces_cutLines_append (h l (by simp)), ih fun m hm => h m (by simp [hm])]
      rfl
  rw [splitLines, pieces, dropEmptyLast_append_nil]

end Text

end ModWeave
