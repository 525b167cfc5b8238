import ModWeave.Text.Pieces
import ModWeave.Toml.Fault

/-!
# Quoted texts of a settings file

A text stands between double quotes, where a backslash begins an escape, or between single quotes, where it
stands for itself.  Three quotes in a row enclose a text of several lines.  `unquote` gives the text between the
quotes: it checks that nothing follows the closing quotes, replaces the escapes, and takes off two more characters
at each end if the text, with its escapes replaced, begins with more than one quote.
-/

namespace ModWeave.Toml

open Text (pieces piecesAtPair)

/-- Whether a character is a quote of either kind. -/
def isQuote (c : Char) : Bool := c = '"' || c = '\''

/-- A text without its first and its last character. -/
def inside (s : List Char) : List Char := (s.drop 1).dropLast

/-- Whether an odd number of backslashes stands at the end of a text. -/
def endsOpen (s : List Char) : Bool := (s.reverse.takeWhile (· = '\\')).length % 2 = 1

/-! ### Runs between quotes -/

/-- Runs between single quotes, continued over double quotes as long as a single quote stands open. -/
def continueRuns (runs : List (List Char)) : List (List Char) → List (List Char) × List (List Char)
  | [] => (runs, [])
  | p :: ps =>
    if runs.length % 2 = 0 then
      continueRuns (runs.dropLast ++ pieces '\'' (runs.getLastD [] ++ '"' :: p)) ps
    else (runs, p :: ps)

/-- The runs of a line between its quotes.  They stand outside and inside quotes by turns, up to the first one
that is enclosed in double quotes. -/
def quoteRuns (line : List Char) : List (List Char) :=
  match pieces '"' line with
  | first :: second :: rest =>
    if '\'' ∈ first then
      let (runs, rest) := continueRuns (pieces '\'' first) (second :: rest)
      runs ++ spread rest
    else spread (first :: second :: rest)
  | runs => spread runs
where
  /-- Cuts the first run at its single quotes. -/
  spread : List (List Char) → List (List Char)
    | [] => []
    | p :: ps => pieces '\'' p ++ ps

/-- How many marks stand in the runs in front of the first one outside quotes; `count` counts them in a run. -/
def marksInQuotes (count : List Char → Nat) (quoted : Bool) : List (List Char) → Nat
  | [] => 0
  | run :: runs => if !quoted && count run ≠ 0 then 0 else count run + marksInQuotes count (!quoted) runs

/-! ### The end of a text -/

/-- What has been seen of a text up to one of its quotes. -/
structure Closing where
  closed : Bool
  /-- The quotes that follow directly on another one since the last other character. -/
  adjacent : Nat

/-- Looks at the characters up to the next quote; other characters behind the closing quote are refused. -/
def Closing.next? (triple : Bool) (st : Closing) (piece : List Char) : Option Closing :=
  if piece = [] then some (if triple then { st with adjacent := st.adjacent + 1 } else { st with closed := true })
  else if endsOpen piece then some st
  else if st.closed then none
  else if !triple || 1 < st.adjacent then some { st with closed := true }
  else some { st with adjacent := 0 }

/-- Whether nothing follows the closing quotes of a text, given what follows its first quote. -/
def closesAtEnd (mark : Char) (s : List Char) : Bool :=
  match pieces mark s with
  | [] :: [] :: ps => (ps.foldlM (Closing.next? true) ⟨false, 0⟩).isSome
  | ps => (ps.foldlM (Closing.next? false) ⟨false, 0⟩).isSome

/-! ### Escapes -/

/-- The character that a letter behind a backslash stands for. -/
def escape? : Char → Option Char
  | '0' => some '\x00'
  | 'b' => some '\x08'
  | 'f' => some '\x0C'
  | 'n' => some '\n'
  | 'r' => some '\r'
  | 't' => some '\t'
  | '"' => some '"'
  | _ => none

/-- Whether a letter begins the number of a code point. -/
def beginsCodePoint (c : Char) : Bool := c = 'u' || c = 'U'

/-- Whether every backslash begins an escape, given the pieces behind the backslashes; `paired` tells that the
backslash in front is the second one of a pair. -/
def escapesKnown (paired : Bool) : List (List Char) → Bool
  | [] => true
  | [] :: ps => escapesKnown (!paired) ps
  | (c :: _) :: ps => (paired || (escape? c).isSome || beginsCodePoint c) && escapesKnown false ps

/-- The value of a hexadecimal digit. -/
def hexDigit? (c : Char) : Option Nat :=
  if c.isDigit then some (c.toNat - 0x30)
  else if 'a' ≤ c ∧ c ≤ 'f' then some (c.toNat - 0x57)
  else if 'A' ≤ c ∧ c ≤ 'F' then some (c.toNat - 0x37)
  else none

/-- The character of a code point in hexadecimal digits.  Digits that begin as those of a surrogate are refused. -/
def codePoint (digits : List Char) : Except Fault Char :=
  match digits.mapM hexDigit? with
  | none => .error .malformed
  | some [] => .error .pastText
  | some [0xD] => .error .pastText
  | some (first :: second :: rest) =>
    let n := (first :: second :: rest).foldl (fun n d => 16 * n + d) 0
    if first = 0xD ∧ 8 ≤ second then .error .malformed
    else if Nat.pow 2 31 ≤ n then .error .noCodePoint
    else if n.isValidChar then .ok (Char.ofNat n)
    else .error .malformed
  | some [n] => .ok (Char.ofNat n)

/-- Replaces the numbers of code points, given the pieces behind the marks in front of them; `kept` tells that the
backslash in front is the second one of a pair, so that the mark is none. -/
def spellOut (mark : List Char) (width : Nat) (kept : Bool) : List (List Char) → Except Fault (List Char)
  | [] => .ok []
  | p :: ps => do
    if kept then return mark ++ p ++ (← spellOut mark width (endsOpen p) ps)
    let c ← codePoint (p.take width)
    return c :: p.drop width ++ (← spellOut mark width false ps)

/-- Replaces the numbers of code points behind one kind of mark. -/
def spellOutAll (letter : Char) (width : Nat) (s : List Char) : Except Fault (List Char) :=
  match piecesAtPair '\\' letter s with
  | [] => .ok []
  | p :: ps => (spellOut ['\\', letter] width (endsOpen p) ps).map (p ++ ·)

/-- Replaces the escapes of one letter. -/
def unescape : List Char → Except Fault (List Char)
  | [] => .ok []
  | ['\\'] => .ok ['\\']
  | '\\' :: c :: s =>
    match escape? c with
    | some x => (unescape s).map (x :: ·)
    | none =>
      if c = '\\' then (unescape s).map (c :: ·)
      else if beginsCodePoint c then (unescape s).map ('\\' :: c :: ·)
      else .error .malformed
  | c :: s => (unescape s).map (c :: ·)

/-- A text in double quotes with its escapes replaced. -/
def replaceEscapes (s : List Char) : Except Fault (List Char) := do
  if !escapesKnown false ((pieces '\\' s).drop 1) then throw .malformed
  unescape (← spellOutAll 'U' 8 (← spellOutAll 'u' 4 s))

/-- A text without the outer two of three quotes. -/
def dropTriple (mark : Char) : List Char → List Char
  | [c, d] => if d = mark then [] else [c, d]
  | c :: d :: e :: s => if d = mark ∧ e = mark then (e :: s).dropLast.dropLast else c :: d :: e :: s
  | s => s

/-- The text between the quotes of a text that begins with a quote. -/
def unquote (mark : Char) (s : List Char) : Except Fault (List Char) := do
  if !closesAtEnd mark (s.drop 1) then throw .malformed
  let s ← if mark = '"' then replaceEscapes s else pure s
  return inside (dropTriple mark s)

end ModWeave.Toml
