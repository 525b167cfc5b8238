import ModWeave.Line.Shape

/-!
# Repeated block ends

Where two blocks were stitched together a second `#end` can follow the first.  `collapseEnds` drops every `#end`
that only comments separate from the one before it.
-/

namespace ModWeave.Output

open Text Line

/-- Whether a line is a comment once the blanks in front are taken off. -/
def isCommentLine (l : Line) : Bool := ['-', '-'].isPrefixOf (trim l)

theorem isCommentLine_eq (l : Line) : isCommentLine l = isComment (trim l) := by
  rw [isCommentLine, isComment, trimLeft_trim]

/-- Drops repeated ends; `afterEnd` tells whether only comments stand between here and an end. -/
def collapseFrom (afterEnd : Bool) : List Line → List Line
  | [] => []
  | l :: lines =>
    if isBlockEnd (trim l) then
      if afterEnd then collapseFrom true lines else l :: collapseFrom true lines
    else l :: collapseFrom (afterEnd && isCommentLine l) lines

/-- The lines without repeated ends. -/
def collapseEnds (lines : List Line) : List Line := collapseFrom false lines

/-- Nothing but lines is dropped, and the others keep their order. -/
theorem collapseFrom_sublist (afterEnd : Bool) (lines : List Line) :
    (collapseFrom afterEnd lines).Sublist lines := by
  induction lines generalizing afterEnd with
  | nil => exact List.Sublist.refl _
  | cons l lines ih =>
    unfold collapseFrom
    split
    · split
      · exact (ih true).cons l
      · exact (ih true).cons_cons l
    · exact (ih _).cons_cons l

end ModWeave.Output
