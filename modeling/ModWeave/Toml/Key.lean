import ModWeave.Text.Blank
import ModWeave.Toml.Quoted

/-!
# Keys

A key names a value, and the key of an entry may lead to it through the tables that stand in front of its points.
Points inside quotes separate nothing.  Without quotes the parts of such a key keep the blanks around them, the
last one apart.  The header of a table names it in the same way, with other rules for the single names.
-/

namespace ModWeave.Toml

open Text (pieces trim)

/-- The way to a value: the tables on it, and the key in the last of them. -/
structure KeyPath where
  tables : List String
  name : String
deriving DecidableEq, Repr

/-- The parts of a key with quotes in it; `quoted` tells whether the first run stands between quotes. -/
def quotedParts (quoted : Bool) : List (List Char) → List (List Char)
  | [] => []
  | run :: runs => (if quoted then [run] else (pieces '.' run).map trim) ++ quotedParts (!quoted) runs

/-- The parts of a key with points in it. -/
def dottedParts (key : List Char) : List (List Char) :=
  if key.any isQuote then quotedParts false (quoteRuns key) else pieces '.' key

/-- The way that a trimmed key names; parts without characters are left out. -/
def KeyPath.read (key : List Char) : Except Fault KeyPath :=
  if '.' ∈ key then
    -- empty parts at the end do not count, and one other part has to be left
    match (dottedParts key).reverse.dropWhile (· = []) with
    | [] => .error .pastList
    | last :: before => .ok ⟨((before.reverse.filter (· ≠ [])).map String.ofList), String.ofList (trim last)⟩
  else
    match key with
    | [] => .error .pastText
    | c :: _ =>
      if isQuote c && key.getLast? = some c then (unescape (inside key)).map fun name => ⟨[], String.ofList name⟩
      else .ok ⟨[], String.ofList key⟩

/-- Whether a character may stand in a name of a header without quotes. -/
def isBare (c : Char) : Bool := c.isAlphanum || c = '_' || c = '-'

/-- Whether a text begins with a quote and ends with the same one. -/
def isEnclosed (s : List Char) : Bool := s.length ≠ 1 && s.head? = s.getLast?

/-- The names of a header from the pieces between its points; `opened` holds what belongs to a quote that stands
open. -/
def headerNames? (opened : Option (List Char)) : List (List Char) → Option (List (List Char))
  | [] => if opened.isNone then some [] else none
  | p :: ps =>
    let text := match opened with
      | none => trim p
      | some s => s ++ '.' :: p
    if text.head?.any isQuote then
      if isEnclosed (trim text) then (headerNames? none ps).map (inside (trim text) :: ·)
      else headerNames? (some text) ps
    else if text ≠ [] ∧ text.all isBare then (headerNames? none ps).map (text :: ·)
    else none

end ModWeave.Toml
