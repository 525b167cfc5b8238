import ModWeave.Toml.Entry
import ModWeave.Toml.Layout
import ModWeave.Toml.Section

/-!
# Settings files

A settings file is a sequence of lines that each open a table or give a value to a key of the table that is open.
A text of several lines goes on up to the line that ends with its closing quotes.  Lines of another kind say
nothing.  `Document.read` lays a file out and reads its lines one after the other into one table, with the keys in
the order of the file.
-/

namespace ModWeave.Toml

open Text (pieces trim)

/-- A file that has been read up to some line. -/
structure Document where
  root : Table
  /-- The table that is open. -/
  place : Place
  /-- Names of tables that exist only because of the tables inside them. -/
  implied : List String
  /-- The entry that waits for further lines. -/
  pending : Option Pending

namespace Document

/-- The document before the first line. -/
def empty : Document := ⟨[], some [], [], none⟩

/-- Changes the table at the end of a way. -/
def changeAt {α : Type} (change : Table → Except Fault (Table × α)) : List Step → Value → Except Fault (Value × α)
  | [], .table t => do
    let (t, a) ← change t
    return (.table t, a)
  | .key k :: way, .table t => do
    let some v := Table.get? t k | throw .malformed
    let (v, a) ← changeAt change way v
    return (.table (Table.put t k v), a)
  | .last :: way, .list items => do
    let some v := items.getLast? | throw .malformed
    let (v, a) ← changeAt change way v
    return (.list (items.dropLast ++ [v]), a)
  | _, _ => throw .malformed

/-- Changes the table that is open; a value that is no table may be looked at, but stays as it is. -/
def changeOpen {α : Type} (d : Document) (change : Option Table → Except Fault (Table × α)) :
    Except Fault (Document × α) := do
  match d.place with
  | none =>
    let (_, a) ← change none
    return (d, a)
  | some way =>
    match ← changeAt (fun t => change (some t)) way (.table d.root) with
    | (.table root, a) => return ({ d with root }, a)
    | (_, a) => return (d, a)

/-- Opens the table that a header names. -/
def openSection (d : Document) (line : List Char) : Except Fault Document := do
  let o ← openTable d.root d.implied (← Section.ofLine line)
  match o.value with
  | .table root => return { d with root, place := o.place, implied := o.implied }
  | _ => throw .malformed

/-- Puts the entries of a line in braces into the table that is open. -/
def mergeTable (d : Document) (line : List Char) : Except Fault Document := do
  if line.getLast? ≠ some '}' then throw .malformed
  let entries ← tableEntries line
  if entries = [] then return d
  return (← d.changeOpen fun t => do return ((← assignAll Value.read entries t).getD [], ())).1

/-- Puts the entry of a line into the table that is open. -/
def addEntry (d : Document) (line : List Char) : Except Fault Document := do
  let (d, pending) ← d.changeOpen (Entry.assign Value.read line)
  return { d with pending }

/-- Whether a line closes the value that an entry waits for. -/
def closes (text line : List Char) : Except Fault Bool :=
  if text.head? = some '[' then
    match line.getLast? with
    | none => .error .pastText
    | some c => .ok (c = ']')
  else .ok (3 ≤ line.length && (line.reverse.take 3).all fun c => text.head? = some c)

/-- Puts a line behind the text of an entry that waits for it. -/
def extend (d : Document) (p : Pending) (line : List Char) : Except Fault Document := do
  let text := p.text ++ line
  if ← closes text line then
    let v ← Value.read true text
    return (← { d with pending := none }.changeOpen fun t => return ((t.getD []).put p.key v, ())).1
  if endsOpen text then return { d with pending := some { p with text := text.dropLast, continued := true } }
  return { d with pending := some { p with text := text ++ ['\n'], continued := false } }

/-- Reads one line. -/
def addLine (d : Document) (line : List Char) : Except Fault Document :=
  match d.pending with
  | some p =>
    -- the blanks around a line count behind the first line end of a text
    let line := if p.continued || '\n' ∉ p.text then trim line else line
    if line = [] ∧ p.continued then .ok d else d.extend p line
  | none =>
    match trim line with
    | [] => .ok d
    | c :: line =>
      if c = '[' then d.openSection (c :: line)
      else if c = '{' then d.mergeTable (c :: line)
      else if '=' ∈ c :: line then d.addEntry (c :: line)
      else .ok d

/-- The table that a file with unified line ends holds. -/
def read (s : List Char) : Except Fault Table := do
  return (← (pieces '\n' (← Layout.ofText s)).foldlM addLine empty).root

end Document

end ModWeave.Toml
