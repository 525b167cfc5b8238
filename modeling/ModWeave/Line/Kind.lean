import ModWeave.Line.Token

/-!
# Kinds of lines

`classify` sorts a line, without the blanks at its ends, into one of eight kinds.  The first test that applies
decides.
-/

namespace ModWeave.Line

open Text

/-- The kinds of lines. -/
inductive Kind
  | blank
  | comment
  | metadata
  | descriptionStart
  | blockStart
  | blockEnd
  | entity
  | other
deriving DecidableEq, Repr

/-- The name of a kind. -/
def Kind.name : Kind → String
  | blank => "blank"
  | comment => "comment"
  | metadata => "metadata"
  | descriptionStart => "description_start"
  | blockStart => "block_start"
  | blockEnd => "block_end"
  | entity => "entity"
  | other => "other"

/-- The kind of a line that starts and ends with no blank. -/
def classifyTrimmed (l : Line) : Except Decimal.TooLong Kind :=
  if l = [] then .ok .blank
  else if isComment l then .ok .comment
  else if isDescriptionStart l then .ok .descriptionStart
  else if isMetadata l then .ok .metadata
  else if isBlockStart l then .ok .blockStart
  else if isBlockEnd l then .ok .blockEnd
  else (idToken? false l).map fun t => if t.isSome then .entity else .other

/-- The kind of a line. -/
def classify (l : Line) : Except Decimal.TooLong Kind := classifyTrimmed (trim l)

end ModWeave.Line
