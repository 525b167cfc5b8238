import ModWeave.Text.Blank
import ModWeave.Toml.Quoted

/-!
# Parts of lists and tables

The items of a list and the entries of a table in braces are cut apart at commas before any of them is read.  A
list whose first item is a list is cut at the commas outside of brackets, one whose first item is a table is cut
behind the closing braces, and a list of texts is cut at every comma; there, pieces are put together again until
each of them ends with the quote that it begins with.
-/

namespace ModWeave.Toml

open Text (pieces trim)

/-- Whether a list begins with a quoted text. -/
def isTextList (s : List Char) : Bool := (trim (inside s)).head?.any isQuote

/-- Whether a piece is a text up to its closing quote. -/
def isWholeText : List Char → Bool
  | [] => true
  | mark :: s => s = [] || (s.getLast? = some mark && !endsOpen s.dropLast)

/-- Whether a piece begins with three quotes and does not end with as many. -/
def isPartOfTriple : List Char → Bool
  | a :: b :: c :: s =>
    let text := a :: b :: c :: s
    b = a && c = a && text.reverse[1]? ≠ some a && text.reverse[2]? ≠ some a
  | _ => false

/-- Whether a piece stands for an item of its own. -/
def isWhole (piece : List Char) : Bool := isWholeText (trim piece) && !isPartOfTriple (trim piece)

/-- Puts pieces together until each is whole; the last one need not be, unless something was put in front of it. -/
def joinTexts (current : List Char) (grown : Bool) : List (List Char) → Except Fault (List (List Char))
  | [] => if grown && !isWhole current then .error .pastList else .ok [current]
  | p :: ps =>
    if isWhole current then (joinTexts p false ps).map (current :: ·) else joinTexts (current ++ ',' :: p) true ps

/-- The pieces of a list of texts. -/
def textItems (s : List Char) : Except Fault (List (List Char)) :=
  match pieces ',' s with
  | [] => .ok []
  | p :: ps => joinTexts p false ps

/-- A list of tables read up to some character. -/
inductive TableScan
  /-- Inside a table: its characters so far, last one first, its depth, and whether a quote stands open. -/
  | within (table : List Char) (depth : Nat) (quoted : Bool)
  /-- Behind the closing brace of a table, whose next character is not looked at. -/
  | behind
  /-- In front of the next opening brace. -/
  | between

/-- Whether a character leaves a quote open: one that stands open is not closed behind a backslash. -/
def staysQuoted (c : Char) (before : List Char) (quoted : Bool) : Bool :=
  if isQuote c then !quoted || (before.takeWhile (· = '\\')).length % 2 = 1 else quoted

/-- Cuts a list of tables behind the closing brace of each; what follows the last one is left out. -/
def cutTables : TableScan → List Char → List (List Char)
  | _, [] => []
  | .behind, _ :: s => cutTables .between s
  | .between, c :: s => if c = '{' then cutTables (.within [c] 1 false) s else cutTables .between s
  | .within table depth quoted, c :: s =>
    let quoted := staysQuoted c table quoted
    if quoted then cutTables (.within (c :: table) depth true) s
    else if c = '{' then cutTables (.within (c :: table) (depth + 1) false) s
    else if c = '}' then
      if depth ≤ 1 then (c :: table).reverse :: cutTables .behind s
      else cutTables (.within (c :: table) (depth - 1) false) s
    else cutTables (.within (c :: table) depth false) s

/-- The tables of a list of tables, given the text inside its brackets. -/
def tableItems : List Char → List (List Char)
  | [] => []
  | c :: s => cutTables (.within [c] (if c = '{' then 1 else 0) false) s

/-- Cuts a text at the commas outside of brackets; `depth` counts the brackets that stand open. -/
def cutOutside (depth : Int) (s : List Char) : List (List Char) :=
  match s with
  | [] => [[]]
  | c :: s =>
    if c = ',' ∧ depth = 0 then [] :: cutOutside depth s
    else
      let depth := if c = '[' then depth + 1 else if c = ']' then depth - 1 else depth
      Text.pushFirst c (cutOutside depth s)

/-- The items of a list in brackets. -/
def listItems (s : List Char) : Except Fault (List (List Char)) :=
  let s := trim s
  let body := inside s
  let beginsWithList : Bool := '[' ∈ body && (body.takeWhile (· ≠ '[')).all Text.isBlank
  if beginsWithList then .ok (cutOutside 0 body)
  else if (trim body).head? = some '{' then .ok (tableItems body)
  else if isTextList s then textItems body
  else .ok (pieces ',' body)

/-- Whether a value ends where its entry is cut. -/
def isWholeValue (value : List Char) : Except Fault Bool :=
  match value, value.getLast? with
  | c :: _, some z =>
    .ok (isQuote c && z = c || c = '-' || c.isDigit || value = "true".toList || value = "false".toList ||
      c = '[' && z = ']' || c = '{' && z = '}')
  | _, _ => .error .pastText

/-- Whether a piece is an entry: a key, an equality sign and a value that ends there. -/
def isWholeEntry (piece : List Char) : Except Fault Bool :=
  if '=' ∈ piece then isWholeValue (trim ((piece.dropWhile (· ≠ '=')).drop 1)) else .error .malformed

/-- Puts pieces together until each is an entry. -/
def joinEntries (current : List Char) : List (List Char) → Except Fault (List (List Char))
  | [] => do if ← isWholeEntry current then return [current] else throw .malformed
  | p :: ps => do
    if ← isWholeEntry current then return current :: (← joinEntries p ps) else joinEntries (current ++ ',' :: p) ps

/-- The entries of a table in braces. -/
def tableEntries (s : List Char) : Except Fault (List (List Char)) :=
  match pieces ',' (inside s) with
  | [] => .ok []
  | [p] => if trim p = [] then .ok [] else joinEntries p []
  | p :: ps => joinEntries p ps

end ModWeave.Toml
