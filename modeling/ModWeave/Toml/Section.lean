import ModWeave.Toml.Key
import ModWeave.Toml.Value

/-!
# Headers of tables

A header names the table that the entries below it go to.  `Section.ofLine` reads its names, and `openTable` finds
the table from the root on, where a list of tables stands for its last one.  Tables on the way are made where they
are missing; such a table is implied, and only a name that is implied may be given to a table again.
-/

namespace ModWeave.Toml

open Text (pieces piecesAtPair joined trim)

/-- The header of a table, or of one more table in a list of tables. -/
structure Section where
  names : List String
  ofList : Bool
deriving DecidableEq, Repr

/-- Reads a trimmed line that begins with a bracket. -/
def Section.ofLine (line : List Char) : Except Fault Section := do
  let ofList : Bool := (line.drop 1).head? = some '['
  let separator := if ofList then [']', ']'] else [']']
  let cut := if ofList then piecesAtPair ']' ']' else pieces ']'
  let text := line.drop separator.length
  -- the header ends at the first closing bracket outside of quotes
  let ending := marksInQuotes (fun run => (cut run).length - 1) false (quoteRuns text) + 1
  let parts := cut text
  if line.length = 1 ∨ parts.length ≤ ending then throw .malformed
  if trim (joined separator (parts.drop ending)) ≠ [] then throw .malformed
  let some names := headerNames? none (pieces '.' (joined separator (parts.take ending))) | throw .malformed
  return ⟨names.map String.ofList, ofList⟩

/-- One step from a value to a part of it. -/
inductive Step
  /-- To the value of a key of a table. -/
  | key (name : String)
  /-- To the last item of a list. -/
  | last
deriving DecidableEq, Repr

/-- The way from the root to a table; `none` stands for a value that is no table. -/
abbrev Place := Option (List Step)

/-- What a header leads to. -/
structure Opened where
  /-- The value that the way begins at, with the new tables in it. -/
  value : Value
  place : Place
  /-- The names that are implied. -/
  implied : List String

/-- What a header leads to, seen from a value further out. -/
def Opened.wrap (o : Opened) (step : Step) (outer : Value → Value) : Opened :=
  { o with value := outer o.value, place := o.place.map (step :: ·) }

/-- Goes on at the last item of a list, for the header of a list of tables. -/
def atLast (next : Value → Except Fault Opened) (v : Value) : Except Fault Opened :=
  match v with
  | .table _ => next v
  | .list items =>
    match items.getLast? with
    | none => .error .pastList
    | some item => do return (← next item).wrap .last fun item => .list (items.dropLast ++ [item])
  | .text s => if s = "" then .error .pastText else next v
  | _ => .error .unsuitable

/-- The value that the last name of a header gets where it has none. -/
def freshTable (ofList isLast : Bool) : Value := if ofList && isLast then .list [.table []] else .table []

/-- The value that the last name of a header has, and the names that are implied after that. -/
def reopen (ofList : Bool) (implied : List String) (name : String) (t : Table) (v : Value) :
    Except Fault (Value × List String) :=
  if name ∈ implied then
    if ofList then .error .malformed else .ok (v, implied.erase name)
  else if ofList then
    match v with
    | .list items => .ok (.list (items ++ [.table []]), implied)
    | _ => .error .noList
  else if (Value.table t).isWritable then .error .malformed
  else .error .tooManyDigits

/-- Follows the names of a header from a value on. -/
def follow (ofList : Bool) (implied : List String) : List String → Value → Except Fault Opened
  | [], v => .ok ⟨v, match v with | .table _ => some [] | _ => none, implied⟩
  | name :: names, v =>
    if name = "" then .error .malformed
    else
      let isLast := names = []
      let goOn (implied : List String) (child : Value) : Except Fault Opened :=
        if ofList then atLast (follow ofList implied names) child else follow ofList implied names child
      match v with
      | .table t =>
        match Table.get? t name with
        | none => do
          let implied := if isLast then implied else implied ++ [name]
          return (← goOn implied (freshTable ofList isLast)).wrap (.key name) fun u => .table (Table.put t name u)
        | some child => do
          let (child, implied) ← if isLast then reopen ofList implied name t child else pure (child, implied)
          return (← goOn implied child).wrap (.key name) fun u => .table (Table.put t name u)
      | .list items =>
        match items.getLast? with
        | none => .error .pastList
        | some (.table t) => do
          -- in the last table of a list, a name may be given again
          let child := (Table.get? t name).getD (freshTable ofList isLast)
          return ((← goOn implied child).wrap (.key name) fun u => .table (Table.put t name u)).wrap .last
            fun u => .list (items.dropLast ++ [u])
        | some _ => .error .unsuitable
      | .text s => if s = "" then .error .pastText else .error .unsuitable
      | _ => .error .unsuitable

/-- Opens the table that a header names, below the root. -/
def openTable (root : Table) (implied : List String) (s : Section) : Except Fault Opened :=
  follow s.ofList implied s.names (.table root)

end ModWeave.Toml
