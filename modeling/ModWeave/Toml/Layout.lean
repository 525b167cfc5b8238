import ModWeave.Text.Blank
import ModWeave.Text.Word
import ModWeave.Toml.Quoted

/-!
# The layout of a settings file

Before its lines are read one by one, a settings file is laid out: comments become blanks, and a list that goes
over several lines is drawn into one.  The same pass follows the quotes and brackets and looks at the keys, so that
it refuses a key that is cut off or holds a character it must not hold, and a quote that stays open.
-/

namespace ModWeave.Toml

open Text (isBlank)

/-- Where a place stands with respect to the key at the beginning of a line. -/
inductive KeyPhase
  | outside
  | name
  | behindName
deriving DecidableEq, Repr

/-- A settings file laid out up to some character. -/
structure Layout where
  /-- The characters so far, last one first. -/
  before : List Char
  /-- Whether a quote stands open. -/
  quoteOpen : Bool
  /-- The quote that was opened last, until it is closed. -/
  quote : Option Char
  /-- Whether a text of several lines stands open. -/
  linesOpen : Bool
  /-- How many brackets of lists stand open. -/
  openBrackets : Int
  /-- Whether the header of a table stands open. -/
  inHeader : Bool
  /-- Whether the header of a list of tables stands open. -/
  inListHeader : Bool
  /-- Whether only spaces stand between the place and the beginning of its line. -/
  atLineStart : Bool
  inComment : Bool
  key : KeyPhase
  /-- Whether a point stands in the key. -/
  dotted : Bool
deriving Repr

namespace Layout

/-- The layout at the beginning of a file. -/
def empty : Layout where
  before := []
  quoteOpen := false
  quote := none
  linesOpen := false
  openBrackets := 0
  inHeader := false
  inListHeader := false
  atLineStart := true
  inComment := false
  key := .outside
  dotted := false

/-- The number of characters of a sort in front of a place, up to two. -/
def runUpToTwo (c : Char) : List Char → Nat
  | a :: b :: _ => if a = c then if b = c then 2 else 1 else 0
  | [a] => if a = c then 1 else 0
  | [] => 0

/-- Whether an odd number of backslashes ends a text that is given last character first. -/
def isEscaped (before : List Char) : Bool := (before.takeWhile (· = '\\')).length % 2 = 1

/-! ### Keys -/

/-- Whether the key goes on behind a blank or a point: something else follows. -/
def keyGoesOn : List Char → Except Fault Bool
  | [] => .error .pastList
  | c :: _ => .ok (!isBlank c && c ≠ '.')

/-- Looks at a character of a key, given the characters that follow; `none` tells that the key is over. -/
def keyChar? (l : Layout) (c : Char) (next : List Char) : Except Fault (Option Layout) := do
  if c = '\n' then throw .malformed
  if l.quoteOpen then
    return some (if l.quote = some c && !isEscaped l.before then
      { l with key := .behindName, quoteOpen := false, quote := none } else l)
  if l.key = .name then
    if isBlank c then return some { l with key := .behindName }
    if c = '.' then return some { l with dotted := true }
    if Text.isWord c || c = '-' then return some l
    if l.dotted && l.before.head? = some '.' && isQuote c then
      return some { l with quoteOpen := true, quote := some c }
  else
    if isBlank c && !l.dotted then return some l
    if isBlank c || c = '.' then
      return some { l with dotted := true, key := if ← keyGoesOn next then .name else .behindName }
  if c = '=' then return none else throw .malformed

/-! ### Quotes and brackets -/

/-- Follows the quotes; `before` holds the characters in front of the place, last one first. -/
def followQuote (l : Layout) (before : List Char) (c : Char) : Layout :=
  if !isQuote c || l.quote.any (· ≠ c) then l
  else
    let run := runUpToTwo c before
    -- a backslash in front of one double quote or three of them takes their meaning
    let escaped : Bool := c = '"' && run ≠ 1 && isEscaped (before.drop run)
    let l :=
      if escaped then l
      else if run = 2 then { l with linesOpen := !l.linesOpen, quoteOpen := !l.linesOpen }
      else { l with quoteOpen := !l.quoteOpen }
    { l with quote := if l.quoteOpen then some c else none }

/-- Whether a place lies outside of quotes and headers. -/
def isFree (l : Layout) : Bool := !l.quoteOpen && !l.inHeader && !l.inListHeader

/-- Follows the brackets. -/
def followBracket (l : Layout) (c : Char) (next : List Char) : Layout :=
  if c = '[' && l.isFree then
    if !l.atLineStart then { l with openBrackets := l.openBrackets + 1 }
    else if next.head? = some '[' then { l with inListHeader := true }
    else { l with inHeader := true }
  else if c = ']' && !l.quoteOpen then
    if l.inHeader then { l with inHeader := false }
    else if l.inListHeader then { l with inListHeader := l.before.head? ≠ some ']' }
    else { l with openBrackets := l.openBrackets - 1 }
  else l

/-! ### Line ends and other characters -/

/-- A line end inside a text of several lines: behind two equal quotes it becomes a third one. -/
def lineEndInText (l : Layout) : Layout :=
  match l.before with
  | a :: b :: rest =>
    if isQuote a && b = a then
      let rest := match rest with
        | c :: rest => (if c = a then ' ' else c) :: rest
        | [] => []
      { l with before := a :: a :: b :: rest }
    else { l with before := '\n' :: l.before }
  | _ => { l with before := '\n' :: l.before }

/-- Puts a line end behind a layout. -/
def lineEnd (l : Layout) : Except Fault Layout :=
  if l.linesOpen then .ok l.lineEndInText
  else if l.quoteOpen then .error .malformed
  else if l.openBrackets ≠ 0 then .ok { l with before := ' ' :: l.before }
  else .ok { l with before := '\n' :: l.before, atLineStart := true }

/-- Puts another character behind a layout; the first one of a line begins a key or a header. -/
def other (l : Layout) (c : Char) : Except Fault Layout :=
  let after := { l with before := c :: l.before }
  if l.atLineStart && c ≠ ' ' && c ≠ '\t' then
    if l.inHeader || l.inListHeader then .ok { after with atLineStart := false }
    else if c = '=' then .error .malformed
    else .ok { after with atLineStart := false, key := .name }
  else .ok after

/-- Looks at a character outside of keys and comments.  Quotes are looked for in `before`. -/
def valueChar (l : Layout) (before : List Char) (c : Char) (next : List Char) : Except Fault Layout :=
  let l := l.followQuote before c
  if c = '#' && l.isFree then .ok { l with inComment := true, before := ' ' :: l.before }
  else if c = '\n' then l.lineEnd
  else (l.followBracket c next).other c

/-- Looks at a character, given the characters that follow and those in front of the place. -/
def step (l : Layout) (before : List Char) (c : Char) (next : List Char) : Except Fault Layout := do
  if l.inComment then
    if c ≠ '\n' then return { l with before := ' ' :: l.before }
    return ← { l with inComment := false }.lineEnd
  if l.key = .outside then return ← l.valueChar before c next
  match ← l.keyChar? c next with
  | some l => return { l with before := c :: l.before }
  | none => return { l with before := c :: l.before, key := .outside, dotted := false }

/-- Looks at the characters of a text one after the other. -/
def run (l : Layout) : List Char → Except Fault Layout
  | [] => .ok l
  | c :: next => do run (← l.step l.before c next) next

/-- Lays out a file with unified line ends.  In front of the first character stands the last one. -/
def ofText (s : List Char) : Except Fault (List Char) := do
  let l ← match s with
    | [] => pure empty
    | c :: next => do run (← empty.step s.reverse c next) next
  if l.key ≠ .outside || l.quoteOpen then throw .malformed
  return l.before.reverse

end Layout

end ModWeave.Toml
