import ModWeave.Toml.Key
import ModWeave.Toml.Number
import ModWeave.Toml.Parts

/-!
# Entries of a table

An entry is a key, an equality sign and a value.  The sign is the first one outside of quotes; if what follows it
directly is no value of any kind, the next sign takes its place.  `Entry.assign` puts the value of an entry into a
table and makes the tables that its key leads through; a key that has a value already is refused.  If the value
begins a text of several lines, the entry waits for the lines that follow.
-/

namespace ModWeave.Toml

open Text (pieces joined trim)

/-- How a value is read from its text; the first argument tells whether a number is well formed. -/
abbrev Reader := Bool → List Char → Except Fault Value

/-! ### The equality sign -/

/-- An entry cut at its equality sign. -/
structure Entry where
  key : List Char
  value : List Char
  /-- Whether the value and all texts tried before it are well-formed numbers. -/
  wellFormed : Bool

/-- Whether the text behind an equality sign is left alone: it begins with a blank, a quote or a bracket, or is a
truth value. -/
def isSettled : List Char → Bool
  | [] => true
  | c :: s =>
    c = ' ' || c = '\t' || isQuote c || c = '[' || c = '{' || trim (c :: s) = "true".toList ||
      trim (c :: s) = "false".toList

/-- Whether the text behind an equality sign is a value. -/
def isValue (s : List Char) : Except Fault Bool := do
  if isSettled s || (Decimal.readFreeFloat? s).isSome then return true
  if (← Moment.readDate? s).isSome then return true
  return TimeOfDay.begins s

namespace Entry

/-- Looks for the equality sign that a value follows, given the pieces of the line behind the key so far. -/
def settle (e : Entry) : List (List Char) → Except Fault Entry
  | [] => .error .malformed
  | [p] => do
    if ← isValue e.value then return e
    -- the underscores may have been taken out
    if e.value = p then throw .malformed
    if ← isValue p then return { e with value := p, wellFormed := e.wellFormed && isWellFormed p }
    throw .malformed
  | p :: q :: ps => do
    if ← isValue e.value then return e
    let rest := joined ['='] (q :: ps)
    settle ⟨e.key ++ '=' :: p, rest, e.wellFormed && isWellFormed rest⟩ (q :: ps)

/-- Cuts a line at its equality sign. -/
def cut (line : List Char) : Except Fault Entry :=
  let runs := quoteRuns line
  let signs := pieces '=' line
  let before := marksInQuotes (List.count '=') false runs + 1
  let keyPieces := signs.take (min before (signs.length - 1))
  let rest := signs.drop keyPieces.length
  let value := joined ['='] rest
  -- underscores are taken out of a value that begins with a digit
  let plain := if value.head?.any Char.isDigit then value.filter (· ≠ '_') else value
  settle ⟨joined ['='] keyPieces, plain, isWellFormed value⟩ rest

end Entry

/-! ### Texts of several lines -/

/-- An entry that waits for further lines of its text. -/
structure Pending where
  key : String
  text : List Char
  /-- Whether the next line continues the last one. -/
  continued : Bool

/-- The last text of a list of texts, from its pieces, last one first: pieces are put together until one begins
with a quote. -/
def lastText (last : List Char) : List (List Char) → Except Fault (List Char)
  | [] => .ok last
  | p :: ps =>
    match last with
    | [] => .error .pastText
    | c :: _ => if isQuote c then .ok last else lastText (p ++ ',' :: last) ps

/-- Whether a text begins with three quotes and does not end with them. -/
def opensLines : List Char → Except Fault Bool
  | [] => .error .pastText
  | a :: s =>
    if !isQuote a then .ok false
    else
      match s with
      | [] => .error .pastText
      | [b] => if b = a then .error .pastText else .ok false
      | b :: c :: s =>
        .ok (b = a && c = a && !(3 ≤ s.length && ((b :: c :: s).reverse.take 3).all (· = a)))

/-- The beginning of a text of several lines: the value itself, or the last text of a list that stays open. -/
def openLines? (value : List Char) : Except Fault (Option (List Char)) := do
  if value.length < 3 then return none
  let staysOpen := value.head? = some '[' && (trim value).getLast? ≠ some ']' && isTextList value
  let text ←
    if staysOpen then
      match (pieces ',' (trim (value.drop 1))).reverse with
      | [] => pure []
      | p :: ps => lastText p ps
    else pure value
  return if ← opensLines text then some text else none

/-- An entry with a value that stays open. -/
def Pending.start (key : String) (value text : List Char) : Pending :=
  if endsOpen text then ⟨key, value.dropLast, true⟩ else ⟨key, value ++ ['\n'], false⟩

/-! ### Putting values into tables -/

/-- Changes the table at the end of some keys.  Tables on the way are made where they are missing; `none` stands
for a value that is no table. -/
def within {α : Type} (change : Option Table → Except Fault (Table × α)) :
    List String → Option Table → Except Fault (Table × α)
  | [], t => change t
  | _ :: _, none => .error .unsuitable
  | k :: ks, some t => do
    let inner := match t.get? k with
      | none => some []
      | some (.table u) => some u
      | some _ => none
    let (u, a) ← within change ks inner
    return (t.put k (.table u), a)

/-- The table, if a key has no value in it. -/
def vacant (key : String) : Option Table → Except Fault Table
  | none => .error .malformed
  | some t => if (t.get? key).isSome then .error .malformed else .ok t

/-- Puts the entry of a line into a table. -/
def Entry.assign (read : Reader) (line : List Char) (t : Option Table) : Except Fault (Table × Option Pending) := do
  let e ← Entry.cut line
  let path ← KeyPath.read (trim e.key)
  let value := trim e.value
  within (fun t => do
    match ← openLines? value with
    | some text =>
      let t ← vacant path.name t
      if path.name = "" then throw .unnamed
      return (t, some (Pending.start path.name value text))
    | none =>
      let v ← read e.wellFormed value
      return ((← vacant path.name t).put path.name v, none)) path.tables t

/-- Puts the entries of a table in braces into a table, up to one that stays open. -/
def assignAll (read : Reader) : List (List Char) → Option Table → Except Fault (Option Table)
  | [], t => .ok t
  | line :: lines, t => do
    match ← Entry.assign read line t with
    | (t, none) => assignAll read lines (some t)
    | (t, some _) => return some t

/-! ### Values -/

/-- Reads the items of a list one after the other; they are of one sort. -/
def readItems (read : List Char → Except Fault Value) (sort : Option Nat) :
    List (List Char) → Except Fault (List Value)
  | [] => .ok []
  | p :: ps => do
    if trim p = [] then return ← readItems read sort ps
    let v ← read (trim p)
    if sort.any (· ≠ v.sort) then throw .malformed
    return v :: (← readItems read (some v.sort) ps)

/-- Reads a value without quotes and brackets. -/
def readPlain (wellFormed : Bool) (s : List Char) : Except Fault Value := do
  if TimeOfDay.begins s then
    let some t := TimeOfDay.read? s | throw .malformed
    return .moment (.time t)
  if let some m ← Moment.readDate? s then return .moment m
  if !wellFormed then throw .malformed
  let some v := number? s | throw .malformed
  return v

/-- Reads a value; `fuel` bounds the values inside each other. -/
def readWith : Nat → Reader
  | 0, _, _ => .error .malformed
  | fuel + 1, wellFormed, s =>
    match s with
    | [] => .error .malformed
    | '[' :: _ => do return .list (← readItems (readWith fuel true) none (← listItems s))
    | '{' :: _ => do return .table ((← assignAll (readWith fuel) (← tableEntries s) (some [])).getD [])
    | c :: _ =>
      if isQuote c then (unquote c s).map fun text => .text (String.ofList text)
      else if s = "true".toList then .ok (.boolean true)
      else if s = "false".toList then .ok (.boolean false)
      else readPlain wellFormed s

/-- Reads a value. -/
def Value.read : Reader := fun wellFormed s => readWith (s.length + 1) wellFormed s

end ModWeave.Toml
